import RunnerFleet.Clock.Civil
import RunnerFleet.Text.Blank

/-!
# Moments in UTC

A moment is a count of seconds from 1970 and of nanoseconds; nanoseconds of a second or more stand
for a leap second. `Timestamp.text` writes a moment with no, three, six or nine places after the
point; `Timestamp.parse?` reads that form loosely: blanks between the parts, short numbers, any
offset from UTC.
-/

namespace RunnerFleet

/-- A moment in UTC. -/
structure Timestamp where
  seconds : Int
  nanos : Nat
  deriving DecidableEq, Repr, Inhabited

namespace Timestamp

/-- The moment so many milliseconds after the start of 1970. -/
def ofMillis (ms : Nat) : Timestamp := ⟨ms / 1000, ms % 1000 * 1000000⟩

/-- Whether `t` comes after `s`. -/
def isBefore (s t : Timestamp) : Bool :=
  s.seconds < t.seconds || (s.seconds == t.seconds && s.nanos < t.nanos)

/-! ## Writing -/

/-- A number with zeros in front, to `width` digits. -/
def padded (width n : Nat) : String :=
  let digits := Nat.toDigits 10 n
  String.ofList (List.replicate (width - digits.length) '0' ++ digits)

/-- Four digits for the years 0 to 9999, a sign and at least four digits for others. -/
def yearText (y : Int) : String :=
  if 0 ≤ y ∧ y ≤ 9999 then padded 4 y.toNat
  else (if y < 0 then "-" else "+") ++ padded 4 y.natAbs

/-- The date of the moment. -/
def date (t : Timestamp) : Date := Date.ofDays (t.seconds / 86400)

/-- The seconds since midnight, without a leap second. -/
def secondOfDay (t : Timestamp) : Nat := (t.seconds % 86400).toNat

def dateText (t : Timestamp) : String :=
  let d := t.date
  yearText d.year ++ "-" ++ padded 2 d.month ++ "-" ++ padded 2 d.day

def timeText (t : Timestamp) : String :=
  let s := t.secondOfDay
  padded 2 (s / 3600) ++ ":" ++ padded 2 (s / 60 % 60) ++ ":" ++
    padded 2 (s % 60 + t.nanos / 1000000000)

/-- The fraction of the second, with the fewest of three, six or nine places, or nothing. -/
def fractionText (t : Timestamp) : String :=
  let n := t.nanos % 1000000000
  if n = 0 then ""
  else if n % 1000000 = 0 then "." ++ padded 3 (n / 1000000)
  else if n % 1000 = 0 then "." ++ padded 6 (n / 1000)
  else "." ++ padded 9 n

/-- The moment as text, such as `2024-01-02T03:04:05.120Z`. -/
def text (t : Timestamp) : String := t.dateText ++ "T" ++ t.timeText ++ t.fractionText ++ "Z"

/-- The moment to the second, as tables show it. -/
def tableText (t : Timestamp) : String := t.dateText ++ " " ++ t.timeText ++ " UTC"

/-! ## Reading -/

/-- A number of one to `width` digits. -/
def getDigits? (width : Nat) (cs : List Char) : Option (Nat × List Char) :=
  let digits := (cs.take width).takeWhile Char.isDigit
  if digits.isEmpty then none
  else some (digits.foldl (fun n c => n * 10 + (c.toNat - '0'.toNat)) 0, cs.drop digits.length)

def skipBlanks (cs : List Char) : List Char := cs.dropWhile Text.isBlank

/-- A number of one or two digits after blanks, and the blanks after it. -/
def getPart? (cs : List Char) : Option (Nat × List Char) := do
  let (n, rest) ← getDigits? 2 (skipBlanks cs)
  return (n, skipBlanks rest)

/-- A year: four digits at most, or a sign and any number of digits. -/
def getYear? (cs : List Char) : Option (Int × List Char) :=
  match skipBlanks cs with
  | '-' :: rest => (getDigits? rest.length rest).map fun (n, rest) => (-(n : Int), skipBlanks rest)
  | '+' :: rest => (getDigits? rest.length rest).map fun (n, rest) => ((n : Int), skipBlanks rest)
  | rest => (getDigits? 4 rest).map fun (n, rest) => ((n : Int), skipBlanks rest)

def expect? (c : Char) : List Char → Option (List Char)
  | d :: rest => if d = c then some rest else none
  | [] => none

/-- A fraction of a second after a point, if there is a point; digits past the ninth are dropped. -/
def getFraction? : List Char → Option (Nat × List Char)
  | '.' :: rest => do
    let (n, after) ← getDigits? 9 rest
    let used := rest.length - after.length
    return (n * Nat.pow 10 (9 - used), after.dropWhile Char.isDigit)
  | rest => some (0, rest)

/-- Two digits. -/
def getTwo? : List Char → Option (Nat × List Char)
  | a :: b :: rest =>
    if a.isDigit && b.isDigit then
      some ((a.toNat - '0'.toNat) * 10 + (b.toNat - '0'.toNat), rest)
    else none
  | _ => none

/-- The seconds that local time is ahead of UTC. -/
def getOffset? (cs : List Char) : Option (Int × List Char) :=
  let hoursAndMinutes (rest : List Char) : Option (Int × List Char) := do
    let (hours, rest) ← getTwo? rest
    let (minutes, rest) ← getTwo? (rest.dropWhile fun c => c == ':' || Text.isBlank c)
    if minutes < 60 then some (hours * 3600 + minutes * 60, rest) else none
  match cs with
  | 'Z' :: rest | 'z' :: rest => some (0, rest)
  | '+' :: rest => hoursAndMinutes rest
  | '-' :: rest | '−' :: rest => (hoursAndMinutes rest).map fun (s, rest) => (-s, rest)
  | u :: t :: c :: rest =>
    if Text.lowerAscii (String.ofList [u, t, c]) = "utc" then some (0, rest) else none
  | _ => none

/-- The years a moment may lie in. -/
def yearInRange (y : Int) : Bool := -262143 ≤ y && y ≤ 262142

/-- Reads a moment; its offset from UTC is taken off. -/
def parse? (s : String) : Option Timestamp := do
  let (year, rest) ← getYear? s.toList
  let (month, rest) ← getPart? (← expect? '-' rest)
  let (day, rest) ← getDigits? 2 (skipBlanks (← expect? '-' rest))
  let rest ← match rest with
    | 'T' :: rest | 't' :: rest | ' ' :: rest => some rest
    | _ => none
  let (hour, rest) ← getPart? rest
  let (minute, rest) ← getPart? (← expect? ':' rest)
  let (second, rest) ← getDigits? 2 (skipBlanks (← expect? ':' rest))
  let (nanos, rest) ← getFraction? rest
  let (offset, rest) ← getOffset? (skipBlanks rest)
  let date : Date := ⟨year, month, day⟩
  if (skipBlanks rest).isEmpty ∧ yearInRange year ∧ date.isValid ∧ hour < 24 ∧ minute < 60 ∧
      second ≤ 60 ∧ offset.natAbs < 86400 then
    let leap := if second = 60 then 1 else 0
    let clock : Nat := hour * 3600 + minute * 60 + (second - leap)
    let moment : Timestamp :=
      ⟨date.toDays * 86400 + clock - offset, nanos + leap * 1000000000⟩
    if yearInRange moment.date.year then some moment else none
  else none

end Timestamp

end RunnerFleet
