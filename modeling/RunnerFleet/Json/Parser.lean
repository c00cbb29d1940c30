import RunnerFleet.Json.Basic
import RunnerFleet.Text.Utf8

/-!
# Reading JSON

The reader works on bytes and is strict: no comments, no trailing commas, no leading zeros, and
nothing but blanks after the value. A string literal is split into its bytes and escapes first; what
text it denotes, if any, is decided afterwards.
-/

namespace RunnerFleet.Json

/-- The bytes between the parts of a document. -/
def isSpace (b : UInt8) : Bool := b == 0x20 || b == 0x0A || b == 0x0D || b == 0x09

def skipSpace (bs : List UInt8) : List UInt8 := bs.dropWhile isSpace

/-! ## String literals -/

/-- A piece of a string literal: a byte as it stands, or the unit of a `\u` escape. -/
inductive Piece where
  | byte (b : UInt8)
  | unit (n : Nat)
  deriving DecidableEq, Repr

def hexValue? (b : UInt8) : Option Nat :=
  if 0x30 ≤ b && b ≤ 0x39 then some (b.toNat - 0x30)
  else if 0x41 ≤ b && b ≤ 0x46 then some (b.toNat - 0x41 + 10)
  else if 0x61 ≤ b && b ≤ 0x66 then some (b.toNat - 0x61 + 10)
  else none

/-- The byte that a one-letter escape stands for. -/
def simpleEscape? (b : UInt8) : Option UInt8 :=
  if b == 0x22 || b == 0x5C || b == 0x2F then some b
  else if b == 0x62 then some 0x08
  else if b == 0x66 then some 0x0C
  else if b == 0x6E then some 0x0A
  else if b == 0x72 then some 0x0D
  else if b == 0x74 then some 0x09
  else none

/-- The pieces of a string literal whose opening quote has been read. -/
def getPieces? : List UInt8 → Option (List Piece × List UInt8)
  | [] => none
  | 0x22 :: rest => some ([], rest)
  | 0x5C :: 0x75 :: a :: b :: c :: d :: rest => do
    let n := (← hexValue? a) * 4096 + (← hexValue? b) * 256 + (← hexValue? c) * 16 + (← hexValue? d)
    let (pieces, rest) ← getPieces? rest
    some (.unit n :: pieces, rest)
  | 0x5C :: e :: rest => do
    let b ← simpleEscape? e
    let (pieces, rest) ← getPieces? rest
    some (.byte b :: pieces, rest)
  | b :: rest =>
    if b < 0x20 then none
    else do
      let (pieces, rest) ← getPieces? rest
      some (.byte b :: pieces, rest)

/-- The bytes that the pieces denote. Units of the surrogate range count in pairs only. -/
def bytesOfPieces? : List Piece → Option (List UInt8)
  | [] => some []
  | .byte b :: rest => (bytesOfPieces? rest).map (b :: ·)
  | .unit n :: rest =>
    if 0xD800 ≤ n ∧ n < 0xDC00 then
      match rest with
      | .unit low :: rest =>
        if 0xDC00 ≤ low ∧ low < 0xE000 then
          let code := 0x10000 + (n - 0xD800) * 1024 + (low - 0xDC00)
          (bytesOfPieces? rest).map (Utf8.encodeChar (Char.ofNat code) ++ ·)
        else none
      | _ => none
    else if 0xDC00 ≤ n ∧ n < 0xE000 then none
    else (bytesOfPieces? rest).map (Utf8.encodeChar (Char.ofNat n) ++ ·)

/-- The text that the pieces denote, if they denote one. -/
def textOfPieces? (pieces : List Piece) : Option String := (bytesOfPieces? pieces).bind Utf8.decode?

/-! ## Numbers -/

def isDigit (b : UInt8) : Bool := 0x30 ≤ b && b ≤ 0x39

/-- At least one digit. -/
def getDigits? (bs : List UInt8) : Option (Nat × List UInt8) :=
  let digits := bs.takeWhile isDigit
  if digits.isEmpty then none
  else some (digits.foldl (fun n b => n * 10 + (b.toNat - 0x30)) 0, bs.drop digits.length)

/-- A whole part: zero, or digits that do not begin with zero. -/
def getWhole? : List UInt8 → Option (Nat × List UInt8)
  | 0x30 :: b :: rest => if isDigit b then none else some (0, b :: rest)
  | bs => getDigits? bs

/-- The digits of a whole part with those of a fraction behind it, and the number of the latter. -/
def getFraction? (n : Nat) : List UInt8 → Option (Nat × Nat × List UInt8)
  | 0x2E :: bs => do
    let (fraction, rest) ← getDigits? bs
    let places := (bs.takeWhile isDigit).length
    some (n * Nat.pow 10 places + fraction, places, rest)
  | bs => some (n, 0, bs)

/-- An exponent behind its sign. -/
def getSignedDigits? : List UInt8 → Option (Int × List UInt8)
  | 0x2D :: bs => (getDigits? bs).map fun (n, rest) => (-n, rest)
  | 0x2B :: bs => (getDigits? bs).map fun (n, rest) => (n, rest)
  | bs => (getDigits? bs).map fun (n, rest) => (n, rest)

/-- An exponent, if there is one. -/
def getExponent? : List UInt8 → Option (Option Int × List UInt8)
  | b :: bs =>
    if b == 0x65 || b == 0x45 then (getSignedDigits? bs).map fun (e, rest) => (some e, rest)
    else some (none, b :: bs)
  | [] => some (none, [])

/-- A number without fraction and exponent as a value. Minus zero is not a whole number. -/
def ofWholeLiteral (negative : Bool) (n : Nat) : Json :=
  if negative then (if 0 < n ∧ n ≤ 1 <<< 63 then whole (-(n : Int)) else decimal true n 0)
  else if n < UInt64.size then whole n
  else decimal false n 0

def getNumber? (bs : List UInt8) : Option (Json × List UInt8) := do
  let (negative, bs) := match bs with
    | 0x2D :: rest => (true, rest)
    | bs => (false, bs)
  let (n, rest) ← getWhole? bs
  let (digits, places, rest) ← getFraction? n rest
  let (exponent, rest) ← getExponent? rest
  match places, exponent with
  | 0, none => some (ofWholeLiteral negative n, rest)
  | _, _ => some (decimal negative digits (exponent.getD 0 - places), rest)

/-! ## Values -/

/-- The rest after a word. -/
def afterWord? : List UInt8 → List UInt8 → Option (List UInt8)
  | [], bs => some bs
  | w :: word, b :: bs => if w = b then afterWord? word bs else none
  | _, [] => none

mutual

/-- Reads a value; every step of the recursion takes one unit of fuel. -/
def getValue? : Nat → List UInt8 → Option (Json × List UInt8)
  | 0, _ => none
  | fuel + 1, bs =>
    match skipSpace bs with
    | 0x22 :: rest => do
      let (pieces, rest) ← getPieces? rest
      some (((textOfPieces? pieces).map text).getD badText, rest)
    | 0x5B :: rest => do
      match skipSpace rest with
      | 0x5D :: rest => some (list [], rest)
      | rest =>
        let (items, rest) ← getItems? fuel rest
        some (list items, rest)
    | 0x7B :: rest => do
      match skipSpace rest with
      | 0x7D :: rest => some (record [], rest)
      | rest =>
        let (fields, rest) ← getFields? fuel rest
        some (record fields, rest)
    | 0x6E :: rest => (afterWord? [0x75, 0x6C, 0x6C] rest).map ((null, ·))
    | 0x74 :: rest => (afterWord? [0x72, 0x75, 0x65] rest).map ((bool true, ·))
    | 0x66 :: rest => (afterWord? [0x61, 0x6C, 0x73, 0x65] rest).map ((bool false, ·))
    | bs => getNumber? bs

/-- Reads the items of a list up to its end. -/
def getItems? : Nat → List UInt8 → Option (List Json × List UInt8)
  | 0, _ => none
  | fuel + 1, bs => do
    let (item, rest) ← getValue? fuel bs
    match skipSpace rest with
    | 0x5D :: rest => some ([item], rest)
    | 0x2C :: rest =>
      let (items, rest) ← getItems? fuel rest
      some (item :: items, rest)
    | _ => none

/-- Reads the fields of a record up to its end. -/
def getFields? : Nat → List UInt8 → Option (List (Option String × Json) × List UInt8)
  | 0, _ => none
  | fuel + 1, bs =>
    match skipSpace bs with
    | 0x22 :: rest => do
      let (pieces, rest) ← getPieces? rest
      match skipSpace rest with
      | 0x3A :: rest =>
        let (value, rest) ← getValue? fuel rest
        let field := (textOfPieces? pieces, value)
        match skipSpace rest with
        | 0x7D :: rest => some ([field], rest)
        | 0x2C :: rest =>
          let (fields, rest) ← getFields? fuel rest
          some (field :: fields, rest)
        | _ => none
      | _ => none
    | _ => none

end

/-- Reads a whole document. -/
def parse? (bs : List UInt8) : Option Json :=
  match getValue? (2 * bs.length + 2) bs with
  | some (value, rest) => if (skipSpace rest).isEmpty then some value else none
  | none => none

end RunnerFleet.Json
