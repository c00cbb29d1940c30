import RunnerFleet.Toml.Basic

/-!
# Reading TOML's scalars

Each reader takes a scalar off the front of the text and gives the rest, or fails. Where several
kinds of scalar begin alike, moments are tried before numbers with a fraction, and those before
integers.
-/

namespace RunnerFleet.Toml

/-- The rest after a fixed beginning. -/
def after? : List Char → List Char → Option (List Char)
  | [], cs => some cs
  | w :: word, c :: cs => if w = c then after? word cs else none
  | _, [] => none

def isBlank (c : Char) : Bool := c == ' ' || c == '\t'

def skipBlanks (cs : List Char) : List Char := cs.dropWhile isBlank

/-- A character that texts and comments may hold as it is: no control character but the tab. -/
def isPlain (c : Char) : Bool := c == '\t' || (' ' ≤ c && c != '\x7f')

/-- The rest after a line's end. -/
def lineEnd? : List Char → Option (List Char)
  | '\n' :: rest => some rest
  | '\r' :: '\n' :: rest => some rest
  | _ => none

/-! ## Texts -/

def hexValue? (c : Char) : Option Nat :=
  if c.isDigit then some (c.toNat - '0'.toNat)
  else if 'a' ≤ c && c ≤ 'f' then some (c.toNat - 'a'.toNat + 10)
  else if 'A' ≤ c && c ≤ 'F' then some (c.toNat - 'A'.toNat + 10)
  else none

/-- The character with this hexadecimal number, if there is one. -/
def charOfHex? (digits : List Char) : Option Char := do
  let values ← digits.mapM hexValue?
  let code := values.foldl (fun n d => n * 16 + d) 0
  if code < 0xD800 ∨ (0xDFFF < code ∧ code < 0x110000) then some (Char.ofNat code) else none

/-- An escape, after its backslash. -/
def getEscape? : List Char → Option (Char × List Char)
  | 'b' :: rest => some ('\x08', rest)
  | 't' :: rest => some ('\t', rest)
  | 'n' :: rest => some ('\n', rest)
  | 'f' :: rest => some ('\x0c', rest)
  | 'r' :: rest => some ('\r', rest)
  | '"' :: rest => some ('"', rest)
  | '\\' :: rest => some ('\\', rest)
  | 'u' :: rest =>
    if rest.length < 4 then none else (charOfHex? (rest.take 4)).map (·, rest.drop 4)
  | 'U' :: rest =>
    if rest.length < 8 then none else (charOfHex? (rest.take 8)).map (·, rest.drop 8)
  | _ => none

/-- A text of one line in double quotes, after the opening quote. -/
def getBasic? : Nat → List Char → Option (List Char × List Char)
  | 0, _ => none
  | _ + 1, [] => none
  | fuel + 1, c :: rest =>
    if c = '"' then some ([], rest)
    else if c = '\\' then do
      let (e, rest) ← getEscape? rest
      let (cs, rest) ← getBasic? fuel rest
      return (e :: cs, rest)
    else if isPlain c then (getBasic? fuel rest).map fun (cs, rest) => (c :: cs, rest)
    else none

/-- A text of one line in single quotes, after the opening quote. -/
def getLiteral? : List Char → Option (List Char × List Char)
  | [] => none
  | c :: rest =>
    if c = '\'' then some ([], rest)
    else if isPlain c then (getLiteral? rest).map fun (cs, rest) => (c :: cs, rest)
    else none

/-- The quotes at the front: fewer than three belong to the text, three to five end it and all but
the last three belong to it. -/
def closing? (quote : Char) (cs : List Char) : Option (List Char × List Char) :=
  let run := min 5 (cs.takeWhile (· == quote)).length
  if run < 3 then none else some (List.replicate (run - 3) quote, cs.drop run)

/-- Blanks and line ends. -/
def skipSpace : List Char → List Char
  | '\r' :: '\n' :: rest => skipSpace rest
  | c :: rest => if isBlank c || c == '\n' then skipSpace rest else c :: rest
  | [] => []

/-- A text of several lines, after its opening quotes; `escapes` if backslashes are escapes. -/
def getLong? (quote : Char) (escapes : Bool) : Nat → List Char → Option (List Char × List Char)
  | 0, _ => none
  | fuel + 1, cs =>
    match closing? quote cs, cs with
    | some (last, rest), _ => some (last, rest)
    | none, [] => none
    | none, c :: rest =>
      match lineEnd? cs with
      | some rest => (getLong? quote escapes fuel rest).map fun (cs, rest) => ('\n' :: cs, rest)
      | none =>
        if escapes && c == '\\' then
          if (lineEnd? (skipBlanks rest)).isSome then
            getLong? quote escapes fuel (skipSpace (skipBlanks rest))
          else do
            let (e, rest) ← getEscape? rest
            let (cs, rest) ← getLong? quote escapes fuel rest
            return (e :: cs, rest)
        else if isPlain c then
          (getLong? quote escapes fuel rest).map fun (cs, rest) => (c :: cs, rest)
        else none

/-- The text without a line end at its front. -/
def dropLineEnd (cs : List Char) : List Char := (lineEnd? cs).getD cs

/-- A text, at its opening quote. -/
def getText? (cs : List Char) : Option (String × List Char) :=
  let found : Option (List Char × List Char) := match cs with
    | '"' :: '"' :: '"' :: rest => getLong? '"' true (rest.length + 1) (dropLineEnd rest)
    | '\'' :: '\'' :: '\'' :: rest => getLong? '\'' false (rest.length + 1) (dropLineEnd rest)
    | '"' :: rest => getBasic? (rest.length + 1) rest
    | '\'' :: rest => getLiteral? rest
    | _ => none
  found.map fun (cs, rest) => (String.ofList cs, rest)

/-! ## Keys -/

def isBareKeyChar (c : Char) : Bool := c.isAlphanum || c == '-' || c == '_'

/-- One part of a key, with the blanks around it. -/
def getKeyPart? (cs : List Char) : Option (String × List Char) :=
  let cs := skipBlanks cs
  let part : Option (String × List Char) := match cs with
    | '"' :: rest =>
      (getBasic? (rest.length + 1) rest).map fun (cs, rest) => (String.ofList cs, rest)
    | '\'' :: rest => (getLiteral? rest).map fun (cs, rest) => (String.ofList cs, rest)
    | cs =>
      let bare := cs.takeWhile isBareKeyChar
      if bare.isEmpty then none else some (String.ofList bare, cs.dropWhile isBareKeyChar)
  part.map fun (key, rest) => (key, skipBlanks rest)

/-- The parts of a key, joined by points. -/
def getKeyParts? : Nat → List Char → Option (List String × List Char)
  | 0, _ => none
  | fuel + 1, cs => do
    let (key, rest) ← getKeyPart? cs
    match rest with
    | '.' :: rest =>
      let (keys, rest) ← getKeyParts? fuel rest
      return (key :: keys, rest)
    | rest => return ([key], rest)

/-- Neither keys nor values go deeper than this. -/
def maxDepth : Nat := 80

/-- A key as its path and its last part. -/
def getKey? (cs : List Char) : Option (List String × String × List Char) := do
  let (keys, rest) ← getKeyParts? (cs.length + 1) cs
  if keys.length < maxDepth then
    let last ← keys.getLast?
    return (keys.dropLast, last, rest)
  else none

/-! ## Moments -/

/-- A number of exactly `width` digits. -/
def getFixed? (width : Nat) (cs : List Char) : Option (Nat × List Char) :=
  let digits := cs.take width
  if digits.length = width ∧ digits.all Char.isDigit then
    some (digits.foldl (fun n c => n * 10 + (c.toNat - '0'.toNat)) 0, cs.drop width)
  else none

def lastDayOf (year month : Nat) : Nat :=
  if month = 2 then
    if year % 4 = 0 ∧ (year % 100 ≠ 0 ∨ year % 400 = 0) then 29 else 28
  else if month = 4 ∨ month = 6 ∨ month = 9 ∨ month = 11 then 30
  else 31

/-- A date; the answer is the rest. -/
def skipDate? (cs : List Char) : Option (List Char) := do
  let (year, rest) ← getFixed? 4 cs
  let (month, rest) ← getFixed? 2 (← after? ['-'] rest)
  let (day, rest) ← getFixed? 2 (← after? ['-'] rest)
  if 1 ≤ month ∧ month ≤ 12 ∧ 1 ≤ day ∧ day ≤ lastDayOf year month then some rest else none

/-- A time of day. -/
def skipTime? (cs : List Char) : Option (List Char) := do
  let (hour, rest) ← getFixed? 2 cs
  let (minute, rest) ← getFixed? 2 (← after? [':'] rest)
  let (second, rest) ← getFixed? 2 (← after? [':'] rest)
  if hour ≤ 23 ∧ minute ≤ 59 ∧ second ≤ 60 then
    match rest with
    | '.' :: d :: rest => if d.isDigit then some (rest.dropWhile Char.isDigit) else none
    | rest => some rest
  else none

/-- An offset from UTC, if there is one. -/
def skipOffset? : List Char → Option (List Char)
  | 'Z' :: rest => some rest
  | 'z' :: rest => some rest
  | cs@(sign :: rest) =>
    if sign = '+' ∨ sign = '-' then do
      let (hour, rest) ← getFixed? 2 rest
      let (minute, rest) ← getFixed? 2 (← after? [':'] rest)
      if hour ≤ 23 ∧ minute ≤ 59 then some rest else none
    else some cs
  | [] => some []

/-- A moment: a date, a time of day, or both with or without an offset. -/
def skipMoment? (cs : List Char) : Option (List Char) :=
  match skipDate? cs with
  | some rest =>
    match rest with
    | sep :: afterSep =>
      if sep = 'T' ∨ sep = 't' ∨ sep = ' ' then
        match skipTime? afterSep with
        | some rest => skipOffset? rest
        | none => some rest
      else some rest
    | [] => some []
  | none => skipTime? cs

/-! ## Numbers -/

/-- Digits of a base, with single underscores between them; the answer holds their values. -/
def getDigits? (base : Nat) : List Char → Option (List Nat × List Char)
  | c :: '_' :: rest => do
    let d ← (hexValue? c).filter (· < base)
    let (ds, rest) ← getDigits? base rest
    return (d :: ds, rest)
  | c :: rest =>
    match (hexValue? c).filter (· < base) with
    | none => none
    | some d =>
      match getDigits? base rest with
      | some (ds, rest) => some (d :: ds, rest)
      | none => some ([d], rest)
  | [] => none

def valueOf (base : Nat) (digits : List Nat) : Nat := digits.foldl (fun n d => n * base + d) 0

/-- A sign, if there is one; `true` for minus. -/
def getSign : List Char → Bool × List Char
  | '-' :: rest => (true, rest)
  | '+' :: rest => (false, rest)
  | rest => (false, rest)

/-- The whole part of a decimal number: a zero stands alone. -/
def getWhole? (cs : List Char) : Option (List Nat × List Char) :=
  match cs with
  | '0' :: rest => some ([0], rest)
  | cs => getDigits? 10 cs

/-- An exponent, if there is one. -/
def getExponent? : List Char → Option (Int × List Char)
  | e :: rest =>
    if e = 'e' ∨ e = 'E' then do
      let (negative, rest) := getSign rest
      let (ds, rest) ← getDigits? 10 rest
      let n : Int := valueOf 10 ds
      return (if negative then -n else n, rest)
    else none
  | [] => none

/-- Whether `digits · 10 ^ e` rounds to a finite double. -/
def isFinite (digits : List Nat) (e : Int) : Bool :=
  let digits := digits.dropWhile (· == 0)
  let size : Int := digits.length + e
  if digits.isEmpty ∨ size < 300 then true
  else if size > 310 then false
  else
    valueOf 10 digits * Nat.pow 10 e.toNat <
      (1 <<< 1024 - 1 <<< 970) * Nat.pow 10 (-e).toNat

/-- A number with a fraction or an exponent, or a word for one that is not finite. -/
def skipDecimal? (cs : List Char) : Option (List Char) :=
  let (_, unsigned) := getSign cs
  match after? ['i', 'n', 'f'] unsigned, after? ['n', 'a', 'n'] unsigned with
  | some rest, _ => some rest
  | _, some rest => some rest
  | none, none => do
    let (whole, rest) ← getWhole? unsigned
    match rest with
    | '.' :: rest =>
      let (fraction, rest) ← getDigits? 10 rest
      let (e, rest) ← match getExponent? rest with
        | some found => some found
        | none => some (0, rest)
      if isFinite (whole ++ fraction) (e - fraction.length) then some rest else none
    | rest =>
      let (e, rest) ← getExponent? rest
      if isFinite whole e then some rest else none

/-- The largest integer. -/
def maxInteger : Nat := 1 <<< 63 - 1

/-- An integer of 64 bits, signed and decimal, or unsigned in one of three other bases. -/
def getInteger? (cs : List Char) : Option (Int × List Char) :=
  let based (base : Nat) (rest : List Char) : Option (Int × List Char) := do
    let (ds, rest) ← getDigits? base rest
    if valueOf base ds ≤ maxInteger then some ((valueOf base ds : Int), rest) else none
  match cs with
  | '0' :: 'x' :: rest => based 16 rest
  | '0' :: 'o' :: rest => based 8 rest
  | '0' :: 'b' :: rest => based 2 rest
  | cs => do
    let (negative, rest) := getSign cs
    let (ds, rest) ← getWhole? rest
    let n := valueOf 10 ds
    if negative then if n ≤ maxInteger + 1 then some (-(n : Int), rest) else none
    else if n ≤ maxInteger then some ((n : Int), rest)
    else none

/-- A scalar. -/
def getScalar? (cs : List Char) : Option (Toml × List Char) :=
  match cs with
  | '"' :: _ => (getText? cs).map fun (s, rest) => (text s, rest)
  | '\'' :: _ => (getText? cs).map fun (s, rest) => (text s, rest)
  | 't' :: rest => (after? ['r', 'u', 'e'] rest).map (boolean true, ·)
  | 'f' :: rest => (after? ['a', 'l', 's', 'e'] rest).map (boolean false, ·)
  | cs =>
    match skipMoment? cs, skipDecimal? cs with
    | some rest, _ => some (moment, rest)
    | none, some rest => some (decimal, rest)
    | none, none => (getInteger? cs).map fun (n, rest) => (integer n, rest)

end RunnerFleet.Toml
