/-!
# Reading UTF-8

Bytes are read one character at a time. Where no character can be read, the longest beginning of one
is passed over: strict reading (`decode?`) then fails, lossy reading (`decodeLossy`) puts one
replacement character in its place.
-/

namespace RunnerFleet.Utf8

/-- A byte that continues a character. -/
def isContinuation (b : UInt8) : Bool := 0x80 ≤ b && b ≤ 0xBF

/-- For a byte that begins a longer character: how many bytes follow, and the range of the first of
them, which rules out overlong forms, surrogates and values past the last code point. -/
def lead? (b : UInt8) : Option (Nat × UInt8 × UInt8) :=
  if 0xC2 ≤ b && b ≤ 0xDF then some (1, 0x80, 0xBF)
  else if b == 0xE0 then some (2, 0xA0, 0xBF)
  else if b == 0xED then some (2, 0x80, 0x9F)
  else if 0xE1 ≤ b && b ≤ 0xEF then some (2, 0x80, 0xBF)
  else if b == 0xF0 then some (3, 0x90, 0xBF)
  else if b == 0xF4 then some (3, 0x80, 0x8F)
  else if 0xF1 ≤ b && b ≤ 0xF3 then some (3, 0x80, 0xBF)
  else none

/-- The payload bits of the first byte of a character of `following + 1` bytes. -/
def leadBits (b : UInt8) (following : Nat) : Nat := b.toNat % (1 <<< (6 - following))

/-- The character at the front, if one can be read, and how many further bytes it takes; otherwise
how many further bytes the beginning of one takes. -/
def readChar (b : UInt8) (rest : List UInt8) : Option Char × Nat :=
  if b < 0x80 then (some (Char.ofNat b.toNat), 0)
  else
    match lead? b with
    | none => (none, 0)
    | some (following, low, high) =>
      match rest with
      | [] => (none, 0)
      | second :: others =>
        if low ≤ second && second ≤ high then
          let tail := (others.take (following - 1)).takeWhile isContinuation
          if tail.length = following - 1 then
            let code :=
              (second :: tail).foldl (fun n c => n * 64 + c.toNat % 64) (leadBits b following)
            (some (Char.ofNat code), following)
          else (none, 1 + tail.length)
        else (none, 0)

/-- The characters of the bytes, `none` where no character could be read. -/
def chars : List UInt8 → List (Option Char)
  | [] => []
  | b :: rest => (readChar b rest).1 :: chars (rest.drop (readChar b rest).2)
termination_by bytes => bytes.length
decreasing_by simp only [List.length_drop, List.length_cons]; omega

/-- The text of the bytes, if they are UTF-8 throughout. -/
def decode? (bytes : List UInt8) : Option String := ((chars bytes).mapM id).map String.ofList

/-- The text of the bytes, with U+FFFD for what cannot be read. -/
def decodeLossy (bytes : List UInt8) : String :=
  String.ofList ((chars bytes).map (·.getD (Char.ofNat 0xFFFD)))

/-- The bytes of one character. -/
def encodeChar (c : Char) : List UInt8 :=
  let n := c.toNat
  if n < 0x80 then [UInt8.ofNat n]
  else if n < 0x800 then [UInt8.ofNat (0xC0 + n / 64), UInt8.ofNat (0x80 + n % 64)]
  else if n < 0x10000 then
    [UInt8.ofNat (0xE0 + n / 4096), UInt8.ofNat (0x80 + n / 64 % 64), UInt8.ofNat (0x80 + n % 64)]
  else
    [UInt8.ofNat (0xF0 + n / 262144), UInt8.ofNat (0x80 + n / 4096 % 64),
      UInt8.ofNat (0x80 + n / 64 % 64), UInt8.ofNat (0x80 + n % 64)]

/-- The bytes of a text. -/
def encode (s : String) : List UInt8 := s.toList.flatMap encodeChar

end RunnerFleet.Utf8
