import RunnerFleet.Toml.Scalar

/-!
# Reading TOML documents

A document is a sequence of lines: blank lines and comments, headers that say which table the next
lines fill, and keys with their values. A value may span lines only inside a list or a long text.
-/

namespace RunnerFleet.Toml

/-- The rest after a comment, if the text begins with one. -/
def skipComment? : List Char → Option (List Char)
  | '#' :: rest => some (rest.dropWhile isPlain)
  | _ => none

/-- The rest after a line's last blanks, its comment and its end; the text's end ends a line too. -/
def endLine? (cs : List Char) : Option (List Char) :=
  let cs := skipBlanks cs
  match (skipComment? cs).getD cs with
  | [] => some []
  | cs => lineEnd? cs

/-- Blanks, line ends and comments with their line ends. -/
def skipLines : Nat → List Char → List Char
  | 0, cs => cs
  | fuel + 1, cs =>
    let cs := skipBlanks cs
    match lineEnd? ((skipComment? cs).getD cs) with
    | some rest => skipLines fuel rest
    | none => cs

def skipBetween (cs : List Char) : List Char := skipLines (cs.length + 1) cs

mutual

/-- Reads a value that stands `depth` levels deep; each step of the recursion takes one unit of
fuel. -/
def getValue? : Nat → Nat → List Char → Option (Toml × List Char)
  | 0, _, _ => none
  | fuel + 1, depth, cs =>
    match cs with
    | '[' :: rest =>
      if depth + 1 < maxDepth then
        match skipBetween rest with
        | ']' :: rest => some (list [], rest)
        | rest => (getItems? fuel (depth + 1) rest).map fun (items, rest) => (list items, rest)
      else none
    | '\x7b' :: rest =>
      if depth + 1 < maxDepth then
        match skipBlanks rest with
        | '\x7d' :: rest => some (table .inline_ [], rest)
        | rest =>
          (getFields? fuel (depth + 1) [] rest).map fun (entries, rest) =>
            (table .inline_ entries, rest)
      else none
    | cs => getScalar? cs

/-- Reads the items of a list up to its end. -/
def getItems? : Nat → Nat → List Char → Option (List Toml × List Char)
  | 0, _, _ => none
  | fuel + 1, depth, cs => do
    let (item, rest) ← getValue? fuel depth cs
    match skipBetween rest with
    | ']' :: rest => some ([item], rest)
    | ',' :: rest =>
      match skipBetween rest with
      | ']' :: rest => some ([item], rest)
      | rest =>
        let (items, rest) ← getItems? fuel depth rest
        some (item :: items, rest)
    | _ => none

/-- Reads the fields of an inline table up to its end, onto those read before. -/
def getFields? : Nat → Nat → Entries → List Char → Option (Entries × List Char)
  | 0, _, _, _ => none
  | fuel + 1, depth, entries, cs => do
    let (path, key, rest) ← getKey? cs
    let (value, rest) ← getValue? fuel depth (skipBlanks (← after? ['='] rest))
    let entries ← insert? .inline_ path key value entries
    match skipBlanks rest with
    | '\x7d' :: rest => some (entries, rest)
    | ',' :: rest => getFields? fuel depth entries rest
    | _ => none

end

/-- What has been read of a document: its tables, and the path of the one that is being filled. -/
structure Draft where
  root : Entries
  current : List String

/-- A line with a key and its value. -/
def fieldLine? (d : Draft) (cs : List Char) : Option (Draft × List Char) := do
  let (path, key, rest) ← getKey? cs
  let rest ← after? ['='] rest
  let (value, rest) ← getValue? (2 * rest.length + 2) 0 (skipBlanks rest)
  let rest ← endLine? rest
  let root ← atHeader? d.current (insert? .header path key value) d.root
  return (⟨root, d.current⟩, rest)

/-- A line with the header of a table or of the next table of an array. -/
def headerLine? (d : Draft) (cs : List Char) : Option (Draft × List Char) :=
  match cs with
  | '[' :: '[' :: rest => do
    let (path, key, rest) ← getKey? rest
    let rest ← endLine? (← after? [']', ']'] rest)
    let root ← openNextTable? path key d.root
    return (⟨root, path ++ [key]⟩, rest)
  | '[' :: rest => do
    let (path, key, rest) ← getKey? rest
    let rest ← endLine? (← after? [']'] rest)
    let root ← openTable? path key d.root
    return (⟨root, path ++ [key]⟩, rest)
  | _ => none

/-- Reads the lines of a document; every line takes one unit of fuel. -/
def getLines? : Nat → Draft → List Char → Option Draft
  | 0, _, _ => none
  | fuel + 1, d, cs =>
    match skipBlanks cs with
    | [] => some d
    | '#' :: rest => (endLine? ('#' :: rest)).bind (getLines? fuel d)
    | '\n' :: rest => getLines? fuel d rest
    | '\r' :: rest => (lineEnd? ('\r' :: rest)).bind (getLines? fuel d)
    | '[' :: rest => (headerLine? d ('[' :: rest)).bind fun (d, rest) => getLines? fuel d rest
    | cs => (fieldLine? d cs).bind fun (d, rest) => getLines? fuel d rest

/-- Reads a document; a byte order mark may stand in front of it. -/
def parse? (s : String) : Option Toml :=
  let cs := match s.toList with
    | '\uFEFF' :: rest => rest
    | cs => cs
  (getLines? (cs.length + 1) ⟨[], []⟩ cs).map fun d => table .header d.root

end RunnerFleet.Toml
