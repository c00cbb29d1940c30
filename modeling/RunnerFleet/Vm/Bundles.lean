import RunnerFleet.Table
import RunnerFleet.Vm.Metadata

/-!
# The directory of bundles

Each VM lives in a directory of its own, `<runner id>.bundle`, under one root. The root may be
absent or a plain file, and so may a bundle; each operation says what it meets (`IoError`).
-/

namespace RunnerFleet

/-- The content of a file in a bundle: a metadata document that the agent wrote, or bytes. -/
inductive FileContent where
  | metadata (m : Metadata)
  | bytes (bs : List UInt8)
  deriving DecidableEq, Repr

/-- What stands under a name in the root: a plain file, or a directory with its files. -/
inductive BundleEntry where
  | plainFile
  | directory (files : Table FileContent)
  deriving DecidableEq, Repr

/-- The root of all bundles. -/
inductive BundleRoot where
  | missing
  | plainFile
  /-- A path of which a parent is a plain file. -/
  | unreachable
  | directory (entries : Table BundleEntry)
  deriving DecidableEq, Repr

/-- A bundle that a listing shows. -/
structure ListedBundle where
  name : String
  metadata : Metadata
  deriving DecidableEq, Repr

namespace BundleRoot

/-- What names of bundles end in. -/
def suffix : String := ".bundle"

/-- The name of the metadata document. -/
def metadataFile : String := "RuntimeMetadata.json"

/-- The name of a runner's bundle. -/
def bundleName (runner : RunnerId) : String := runner ++ suffix

/-- The path of a name in the directory at `root`. -/
def pathIn (root name : String) : String :=
  if root = "" then name
  else if root.toList.getLast? = some '/' then root ++ name
  else root ++ "/" ++ name

/-- The files of a bundle, or what stands in the way. -/
def filesOf (root : BundleRoot) (name : String) : Except IoError (Table FileContent) :=
  match root with
  | missing => .error .noSuchFile
  | plainFile => .error .notADirectory
  | unreachable => .error .notADirectory
  | directory entries =>
    match entries.get? name with
    | none => .error .noSuchFile
    | some .plainFile => .error .notADirectory
    | some (.directory files) => .ok files

/-- Whether the name is a directory under the root. -/
def hasDirectory (root : BundleRoot) (name : String) : Bool :=
  match root.filesOf name with
  | .ok _ => true
  | .error _ => false

/-- Whether the runner has a bundle. -/
def hasBundle (root : BundleRoot) (runner : RunnerId) : Bool :=
  root.hasDirectory (bundleName runner)

/-- Reads the metadata document of a bundle directory. -/
def metadataIn (files : Table FileContent) : Except VmError Metadata :=
  match files.get? metadataFile with
  | none => .error (.io .noSuchFile)
  | some (.metadata m) => .ok m
  | some (.bytes bs) =>
    match (Json.parse? bs).bind Metadata.ofJson? with
    | some m => .ok m
    | none => .error .badMetadata

/-- The metadata under a bundle's name. -/
def metadataAt (root : BundleRoot) (name : String) : Except VmError Metadata :=
  match root.filesOf name with
  | .ok files => metadataIn files
  | .error e => .error (.io e)

/-- The metadata of a runner's bundle. -/
def metadataOf (root : BundleRoot) (runner : RunnerId) : Except VmError Metadata :=
  root.metadataAt (bundleName runner)

/-- Puts files into a bundle, beside those it has. -/
def putFiles (root : BundleRoot) (name : String) (new : List (String × FileContent)) :
    Except IoError BundleRoot :=
  match root, root.filesOf name with
  | directory entries, .ok files =>
    .ok (directory (entries.insert name
      (.directory (new.foldl (fun t f => t.insert f.1 f.2) files))))
  | _, .ok _ => .error .noSuchFile
  | _, .error e => .error e

/-- Writes the metadata of a runner's bundle. -/
def saveMetadata (root : BundleRoot) (runner : RunnerId) (m : Metadata) :
    Except VmError BundleRoot :=
  match root.putFiles (bundleName runner) [(metadataFile, .metadata m)] with
  | .ok root => .ok root
  | .error e => .error (.io e)

/-- Changes the metadata of a runner's bundle and stamps the moment of the change. -/
def updateMetadata (root : BundleRoot) (runner : RunnerId) (now : Timestamp)
    (change : Metadata → Metadata) : Except VmError (BundleRoot × Metadata) := do
  let m ← root.metadataOf runner
  let changed := { change m with updatedAt := now }
  let root ← root.saveMetadata runner changed
  return (root, changed)

/-- The recorded address of a runner's guest; an error while there is none. -/
def addressOf (root : BundleRoot) (runner : RunnerId) : Except VmError String := do
  let m ← root.metadataOf runner
  if m.ipAddress = "" then throw (.noAddress runner) else return m.ipAddress

/-- Makes the root a directory unless it is one. -/
def makeRoot : BundleRoot → Except IoError BundleRoot
  | missing => .ok (directory .empty)
  | plainFile => .error .fileExists
  | unreachable => .error .notADirectory
  | directory entries => .ok (directory entries)

/-- Makes a bundle directory, and the root, unless they exist. -/
def makeBundle (root : BundleRoot) (name : String) : Except IoError BundleRoot :=
  match root with
  | missing => .ok (directory (Table.empty.insert name (.directory .empty)))
  | plainFile => .error .notADirectory
  | unreachable => .error .notADirectory
  | directory entries =>
    match entries.get? name with
    | none => .ok (directory (entries.insert name (.directory .empty)))
    | some .plainFile => .error .fileExists
    | some (.directory _) => .ok (directory entries)

/-- Removes a whole bundle; one that is gone already counts as removed. -/
def removeBundle (root : BundleRoot) (name : String) : Except IoError BundleRoot :=
  match root with
  | missing => .ok missing
  | plainFile => .error .notADirectory
  | unreachable => .error .notADirectory
  | directory entries =>
    match entries.get? name with
    | some .plainFile => .error .notADirectory
    | _ => .ok (directory (entries.erase name))

/-- A bundle directory with readable metadata, under a name that ends as bundles do. A name with a
slash lies deeper than the listing looks. -/
def listed? (e : String × BundleEntry) : Option ListedBundle :=
  match e.2 with
  | .plainFile => none
  | .directory files =>
    if suffix.toList.isSuffixOf e.1.toList && !e.1.toList.contains '/' then
      match metadataIn files with
      | .ok m => some ⟨e.1, m⟩
      | .error _ => none
    else none

/-- Every bundle with readable metadata, in the order of their runners' ids. A root that is missing
holds no bundle. -/
def list : BundleRoot → Except IoError (List ListedBundle)
  | missing => .ok []
  | plainFile => .error .notADirectory
  | unreachable => .error .notADirectory
  | directory entries =>
    .ok ((entries.entries.filterMap listed?).mergeSort fun a b =>
      a.metadata.runnerId ≤ b.metadata.runnerId)

end BundleRoot

end RunnerFleet
