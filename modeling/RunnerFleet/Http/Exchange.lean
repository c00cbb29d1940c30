import RunnerFleet.Json.Basic
import RunnerFleet.Json.Parser
import RunnerFleet.Text.Utf8

/-!
# HTTP answers and routing

A server is a list of routes; the first whose pattern fits the path answers. A path that fits none
is not found; a method that the route does not offer is refused with the methods it does offer.
-/

namespace RunnerFleet.Http

/-- What an answer carries. -/
inductive Body where
  | json (value : Json)
  | text (s : String)
  deriving Repr

/-- An answer to a request. -/
structure Answer where
  status : Nat
  contentType : Option String
  allow : Option String
  body : Body
  deriving Repr

namespace Answer

def ofJson (status : Nat) (value : Json) : Answer :=
  ⟨status, some "application/json", none, .json value⟩

def ofText (status : Nat) (s : String) : Answer :=
  ⟨status, some "text/plain; charset=utf-8", none, .text s⟩

/-- No route fits the path. -/
def notFound : Answer := ⟨404, none, none, .text ""⟩

/-- The route does not offer the method. -/
def methodNotAllowed (allow : String) : Answer := ⟨405, none, some allow, .text ""⟩

/-- The answer without what it carries. -/
def withoutBody (a : Answer) : Answer := { a with body := .text "" }

end Answer

/-! ## Paths -/

/-- A part of a route's pattern: a fixed word, or anything, which is handed to the route. -/
inductive Segment where
  | word (s : String)
  | hole
  deriving DecidableEq, Repr

/-- The path of a request's target, without its query, split at slashes. -/
def segmentsOf (target : String) : List String :=
  ((target.toList.takeWhile (· != '?')).splitOn '/').map String.ofList

/-- What fills the holes of a pattern. The last part of a path is not empty. -/
def fill? : List Segment → List String → Option (List String)
  | [], [] => some []
  | .word w :: pattern, s :: path => if s = w then fill? pattern path else none
  | [.hole], [s] => if s = "" then none else some [s]
  | .hole :: pattern, s :: path => (fill? pattern path).map (s :: ·)
  | _, _ => none

/-- The bytes that a part of a path stands for: `%` and two hexadecimal digits are one byte. -/
def percentDecode : List UInt8 → List UInt8
  | 0x25 :: a :: b :: rest =>
    match Json.hexValue? a, Json.hexValue? b with
    | some high, some low => UInt8.ofNat (high * 16 + low) :: percentDecode rest
    | _, _ => 0x25 :: percentDecode (a :: b :: rest)
  | c :: rest => c :: percentDecode rest
  | [] => []

/-- The text that a part of a path stands for. -/
def decodeSegment? (s : String) : Option String :=
  Utf8.decode? (percentDecode (Utf8.encode s))

/-- The answer when a part of the path named `id` stands for no text. -/
def invalidSegment : Answer := Answer.ofText 400 "Invalid URL: Invalid UTF-8 in `id`"

end RunnerFleet.Http
