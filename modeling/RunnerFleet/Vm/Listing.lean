import RunnerFleet.Vm.Bundles

/-!
# The table of bundles

A heading and one line per bundle, in columns of fixed width; a cell that is too long pushes the
rest of its line to the right.
-/

namespace RunnerFleet.Listing

/-- A cell with blanks behind it, `width` characters at least. -/
def cell (width : Nat) (s : String) : String :=
  s ++ String.ofList (List.replicate (width - s.length) ' ')

/-- One line of the table. -/
def line (runner state address created path : String) : String :=
  cell 38 runner ++ " " ++ cell 9 state ++ " " ++ cell 16 address ++ " " ++
    cell 26 created ++ " " ++
    path ++ "\n"

/-- The line of a bundle that stands at `path`; a dash stands for an address that is not known. -/
def row (path : String) (m : Metadata) : String :=
  line m.runnerId m.state.name (if m.ipAddress = "" then "-" else m.ipAddress) m.createdAt.tableText
    path

/-- The table of the bundles in the directory `root`. -/
def table (root : String) (bundles : List ListedBundle) : String :=
  line "RUNNER ID" "STATE" "IP ADDRESS" "CREATED" "PATH" ++
    String.join (bundles.map fun b => row (BundleRoot.pathIn root b.name) b.metadata)

end RunnerFleet.Listing
