import RunnerFleet.Json.Printer
import RunnerFleet.Vm.Bundles

/-!
# Files

The files that a command works on, by their paths. A path is taken apart at slashes; empty parts and
single dots say nothing. A directory exists if it is named or if something lies below it.
-/

namespace RunnerFleet

/-- Files and named directories by the parts of their paths; a path from the root of the file system
begins with an empty part. -/
structure Files where
  entries : List (List String × Option (List UInt8))
  deriving Repr

namespace Files

/-- The parts of a path. -/
def parts (path : String) : List String :=
  let named := (path.splitOn "/").filter fun s => s != "" && s != "."
  if path.toList.head? = some '/' then "" :: named else named

/-- Nothing but the directory that one stands in. -/
def empty : Files := ⟨[]⟩

/-- Writes a file; `none` names a directory. -/
def put (f : Files) (path : List String) (content : Option (List UInt8)) : Files :=
  ⟨f.entries.filter (·.1 != path) ++ [(path, content)]⟩

/-- What stands under a path. -/
inductive Kind where
  | missing
  | file (bytes : List UInt8)
  | directory
  /-- A part before the last one is a plain file. -/
  | unreachable
  deriving DecidableEq, Repr

/-- Whether the path is that of a plain file. -/
def isFile (f : Files) (path : List String) : Bool :=
  f.entries.any fun e => e.1 == path && e.2.isSome

/-- The paths above a path. -/
def above (path : List String) : List (List String) :=
  (List.range path.length).map fun n => path.take n

/-- Looks at a path. -/
def kindOf (f : Files) (path : List String) : Kind :=
  if (above path).any f.isFile then .unreachable
  else
    match f.entries.find? (·.1 == path) with
    | some (_, some bytes) => .file bytes
    | some (_, none) => .directory
    | none =>
      if path.isEmpty || path == [""] || f.entries.any (path.isPrefixOf ·.1) then .directory
      else .missing

/-- Reads a file. -/
def read (f : Files) (path : String) : Except IoError (List UInt8) :=
  match f.kindOf (parts path) with
  | .file bytes => .ok bytes
  | .missing => .error .noSuchFile
  | .directory => .error (.other "Is a directory (os error 21)")
  | .unreachable => .error .notADirectory

/-- Makes a directory and those above it. -/
def makeDirectories (f : Files) (path : String) : Except IoError Files :=
  match f.kindOf (parts path) with
  | .directory => .ok f
  | .missing => .ok (f.put (parts path) none)
  | .file _ => .error .fileExists
  | .unreachable => .error .notADirectory

/-- What lies below a directory, with the paths from there. -/
def below (f : Files) (path : List String) : List (List String × Option (List UInt8)) :=
  f.entries.filterMap fun e =>
    if path.isPrefixOf e.1 && e.1 != path then some (e.1.drop path.length, e.2) else none

/-- The names in a directory, in order. -/
def namesIn (f : Files) (path : String) : List String :=
  ((f.below (parts path)).foldl (fun t e => t.insert (e.1.headD "") ()) Table.empty).keys

/-! ## Bundles -/

/-- Adds what lies below the root of bundles to its entries. -/
def addEntry (t : Table BundleEntry) : List String × Option (List UInt8) → Table BundleEntry
  | ([], _) => t
  | ([name], some _) => t.insert name .plainFile
  | (name :: rest, content) =>
    let files := match t.get? name with
      | some (.directory files) => files
      | _ => .empty
    t.insert name (.directory (match rest, content with
      | _ :: _, some bytes => files.insert (String.intercalate "/" rest) (.bytes bytes)
      | _, _ => files))

/-- The root of bundles at a path. -/
def bundleRoot (f : Files) (path : String) : BundleRoot :=
  match f.kindOf (parts path) with
  | .missing => .missing
  | .file _ => .plainFile
  | .unreachable => .unreachable
  | .directory => .directory ((f.below (parts path)).foldl addEntry .empty)

/-- The bytes of a file in a bundle. -/
def bytesOf : FileContent → List UInt8
  | .metadata m => Utf8.encode m.toJson.render
  | .bytes bs => bs

/-- A bundle's entry as files. -/
def entriesOf (name : String) : BundleEntry → List (List String × Option (List UInt8))
  | .plainFile => [([name], some [])]
  | .directory files => ([name], none) :: files.entries.map fun e =>
      (name :: parts e.1, some (bytesOf e.2))

/-- The files after the root of bundles at a path has changed. -/
def withBundleRoot (f : Files) (path : String) : BundleRoot → Files
  | .directory entries =>
    let root := parts path
    let others := f.entries.filter fun e => !root.isPrefixOf e.1
    ⟨others ++ (root, none) :: (entries.entries.flatMap fun e => entriesOf e.1 e.2).map
      fun e => (root ++ e.1, e.2)⟩
  | _ => f

end Files

end RunnerFleet
