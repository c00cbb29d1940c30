/-!
# Socket addresses

The form of an address that a server listens on: four decimal numbers or an IPv6 address in
brackets, a colon, and a port. Each reader takes the front of a text and gives the rest.
-/

namespace RunnerFleet.Address

/-- The value of a digit to a base of at most 16. -/
def digitValue? (base : Nat) (c : Char) : Option Nat :=
  let value :=
    if c.isDigit then some (c.toNat - '0'.toNat)
    else if 'a' ≤ c ∧ c ≤ 'f' then some (c.toNat - 'a'.toNat + 10)
    else if 'A' ≤ c ∧ c ≤ 'F' then some (c.toNat - 'A'.toNat + 10)
    else none
  value.filter (· < base)

/-- The digits at the front of a text, as values, and the rest. -/
def digits (base : Nat) : List Char → List Nat × List Char
  | [] => ([], [])
  | c :: rest =>
    match digitValue? base c with
    | some d => let (ds, rest) := digits base rest; (d :: ds, rest)
    | none => ([], c :: rest)

/-- A number of `width` digits at most that is at most `high`. -/
def number? (base : Nat) (width : Option Nat) (leadingZeros : Bool) (high : Nat) (s : List Char) :
    Option (List Char) :=
  let (ds, rest) := digits base s
  if ds.isEmpty then none
  else if width.any (· < ds.length) then none
  else if !leadingZeros && ds.head? == some 0 && ds.length > 1 then none
  else if ds.foldl (fun n d => n * base + d) 0 ≤ high then some rest
  else none

/-- One given character. -/
def char? (c : Char) : List Char → Option (List Char)
  | d :: rest => if c = d then some rest else none
  | [] => none

/-- One number of an IPv4 address. -/
def octet? (s : List Char) : Option (List Char) := number? 10 (some 3) false 255 s

/-- An IPv4 address. -/
def v4? (s : List Char) : Option (List Char) := do
  let s ← octet? s
  let s ← octet? (← char? '.' s)
  let s ← octet? (← char? '.' s)
  octet? (← char? '.' s)

/-- Reads behind a colon, except at the first place of a list. -/
def separated? (first : Bool) (read : List Char → Option (List Char)) (s : List Char) :
    Option (List Char) :=
  if first then read s else (char? ':' s).bind read

/-- Up to `limit` groups of an IPv6 address, of which the last two may be written as an IPv4
address: how many there are, whether they end so, and the rest. -/
def groups (first : Bool) : Nat → List Char → Nat × Bool × List Char
  | 0, s => (0, false, s)
  | limit + 1, s =>
    match (if limit = 0 then none else separated? first v4? s) with
    | some rest => (2, true, rest)
    | none =>
      match separated? first (number? 16 (some 4) true 0xffff) s with
      | some rest =>
        let (n, endsInV4, rest) := groups false limit rest
        (n + 1, endsInV4, rest)
      | none => (0, false, s)

/-- An IPv6 address; two colons stand for one group of zeros or more. -/
def v6? (s : List Char) : Option (List Char) :=
  match groups true 8 s with
  | (8, _, rest) => some rest
  | (_, true, _) => none
  | (n, false, rest) => do
    let rest ← char? ':' (← char? ':' rest)
    return (groups true (7 - n) rest).2.2

/-- A port behind its colon. -/
def port? (s : List Char) : Option (List Char) := do number? 10 none true 65535 (← char? ':' s)

/-- The scope of an IPv6 address, if one is given. -/
def scope (s : List Char) : List Char :=
  (do number? 10 none true 4294967295 (← char? '%' s)).getD s

/-- An IPv6 address in brackets with a port. -/
def v6Socket? (s : List Char) : Option (List Char) := do
  let s ← v6? (← char? '[' s)
  port? (← char? ']' (scope s))

/-- An IPv4 address with a port. -/
def v4Socket? (s : List Char) : Option (List Char) := do port? (← v4? s)

/-- Whether a text is the address of a socket. -/
def isSocket (s : String) : Bool :=
  v4Socket? s.toList == some [] || v6Socket? s.toList == some []

end RunnerFleet.Address
