/-!
# Blank characters and trimming

A character is blank if it has the Unicode property White_Space. Trimming takes blanks off both
ends.
-/

namespace RunnerFleet.Text

/-- The property White_Space. -/
def isBlank (c : Char) : Bool :=
  let n := c.toNat
  (9 ≤ n && n ≤ 13) || n == 32 || n == 0x85 || n == 0xA0 || n == 0x1680 ||
    (0x2000 ≤ n && n ≤ 0x200A) || n == 0x2028 || n == 0x2029 || n == 0x202F || n == 0x205F ||
    n == 0x3000

/-- The characters between the first and the last that is not blank. -/
def trimChars (cs : List Char) : List Char :=
  ((cs.dropWhile isBlank).reverse.dropWhile isBlank).reverse

/-- The text without blanks at its ends. -/
def trim (s : String) : String := String.ofList (trimChars s.toList)

/-- Whether the text holds blanks only. -/
def allBlank (s : String) : Bool := s.toList.all isBlank

/-- The text with the letters `A` to `Z` in lower case; other letters stay. -/
def lowerAscii (s : String) : String := s.map Char.toLower

end RunnerFleet.Text
