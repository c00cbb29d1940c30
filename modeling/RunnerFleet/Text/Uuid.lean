import RunnerFleet.Text.Quoted

/-!
# The text of minted identities

An identity is a number of 128 bits, written as 32 hexadecimal digits in five groups.
-/

namespace RunnerFleet.Text

/-- The low `width` hexadecimal digits of a number. -/
def hexField (width n : Nat) : String :=
  let digits := Nat.toDigits 16 (n % (1 <<< (4 * width)))
  String.ofList (List.replicate (width - digits.length) '0' ++ digits)

/-- The text of an identity. -/
def uuid (n : Nat) : String :=
  hexField 8 (n >>> 96) ++ "-" ++ hexField 4 (n >>> 80) ++ "-" ++ hexField 4 (n >>> 64) ++
    "-" ++ hexField 4 (n >>> 48) ++ "-" ++ hexField 12 n

end RunnerFleet.Text
