/-!
# TOML values and how a document builds its tables

A table remembers how it came to be (`TableKind`), since that decides what may still be added to it:
a header may complete a table that so far was only implied, a dotted key may go on in tables made by
dotted keys, and an inline table is closed.
-/

namespace RunnerFleet

/-- How a table came to be. -/
inductive TableKind where
  /-- Named by a header of its own. -/
  | header
  /-- On the way to a table that a header named. -/
  | implied
  /-- Made by a dotted key. -/
  | dotted
  /-- Written between braces. -/
  | inline_
  deriving DecidableEq, Repr

/-- A TOML value. Moments and numbers with a fraction are told apart but not kept. -/
inductive Toml where
  | text (s : String)
  | integer (n : Int)
  | boolean (b : Bool)
  | decimal
  | moment
  | list (items : List Toml)
  | table (kind : TableKind) (entries : List (String × Toml))
  /-- Tables of one array, each begun by a header; the last one is open. -/
  | tables (items : List (List (String × Toml)))
  deriving Repr, Inhabited

namespace Toml

/-- The keys of a table with their values. -/
abbrev Entries := List (String × Toml)

/-- The value of a key. -/
def find? (entries : Entries) (key : String) : Option Toml :=
  (entries.find? (·.1 == key)).map Prod.snd

/-- Gives a key a value, in place of the one it had. -/
def put (entries : Entries) (key : String) (value : Toml) : Entries :=
  if (find? entries key).isSome then entries.map fun e => if e.1 == key then (key, value) else e
  else entries ++ [(key, value)]

/-- Goes down a path and changes the table at its end. Missing tables are made as `missing`; `opens`
says which tables may be entered. The change is told how its table came to be. -/
def within? (missing : TableKind) (opens : TableKind → Bool)
    (change : TableKind → Entries → Option Entries) :
    TableKind → List String → Entries → Option Entries
  | kind, [], entries => change kind entries
  | _, key :: path, entries =>
    match find? entries key with
    | none => (within? missing opens change missing path []).map fun inner =>
      put entries key (table missing inner)
    | some (table kind inner) =>
      if opens kind then
        (within? missing opens change kind path inner).map fun inner =>
          put entries key (table kind inner)
      else none
    | some (tables items) =>
      match items.getLast? with
      | some inner =>
        (within? missing opens change .header path inner).map fun inner =>
          put entries key (tables (items.dropLast ++ [inner]))
      | none => none
    | some _ => none

/-- Gives a dotted key its value. Every table on the way has to be one that dotted keys made, and
the key itself has to be new. -/
def insert? (kind : TableKind) (path : List String) (key : String) (value : Toml)
    (entries : Entries) : Option Entries :=
  within? .dotted (fun k => k == .dotted || k == .implied)
    (fun k inner =>
      if !path.isEmpty && k != .dotted then none
      else if (find? inner key).isSome then none
      else some (put inner key value))
    kind path entries

/-- Changes the table at the end of a header's path. -/
def atHeader? (path : List String) (change : Entries → Option Entries) (entries : Entries) :
    Option Entries :=
  within? .implied (· != .inline_) (fun _ => change) .header path entries

/-- Opens the table that a header names; it may so far have been implied, but not named. -/
def openTable? (path : List String) (key : String) (entries : Entries) : Option Entries :=
  atHeader? path
    (fun inner =>
      match find? inner key with
      | none => some (put inner key (table .header []))
      | some (table .implied old) => some (put inner key (table .header old))
      | some _ => none)
    entries

/-- Opens one more table of the array that a header names. -/
def openNextTable? (path : List String) (key : String) (entries : Entries) : Option Entries :=
  atHeader? path
    (fun inner =>
      match find? inner key with
      | none => some (put inner key (tables [[]]))
      | some (tables items) => some (put inner key (tables (items ++ [[]])))
      | some _ => none)
    entries

end Toml

end RunnerFleet
