import RunnerFleet.CommandLine.Run
import RunnerFleet.Http.Announcements
import RunnerFleet.Http.Api
import RunnerFleet.Json.Printer

/-!
# The program

Reads the files that a command line works on, carries it out, and puts back what has changed. Helper
programs are not run from here, so every request to a hypervisor fails. A daemon serves its HTTP
interface on the standard streams: one request per line, as method, target and body.
-/

namespace RunnerFleet.Program

/-- Files with their paths from the directory that is looked at. -/
abbrev Found := List (List String × Option (List UInt8))

/-- What stands at an entry of a directory, and below. -/
partial def scan (above : List String) (e : IO.FS.DirEntry) : IO Found := do
  let path := above ++ [e.fileName]
  if ← e.path.isDir then
    let below ← (← e.path.readDir).toList.mapM (scan path)
    return (path, none) :: below.flatten
  else return [(path, some (← IO.FS.readBinFile e.path).toList)]

/-- What stands at a path, and below. -/
def look (path : String) : IO Found := do
  let place := (← IO.currentDir) / path
  if !(← place.pathExists) then return []
  if ← place.isDir then
    let below ← (← place.readDir).toList.mapM (scan (Files.parts path))
    return (Files.parts path, none) :: below.flatten
  else return [(Files.parts path, some (← IO.FS.readBinFile place).toList)]

/-- The path of some parts. -/
def pathOf (parts : List String) : String := "/".intercalate parts

/-- Brings the files from one stand to another. -/
def store (before after : Files) : IO Unit := do
  let kept (path : List String) : Bool := after.entries.any (·.1 == path)
  for (path, content) in before.entries do
    if !kept path && content.isSome then IO.FS.removeFile (pathOf path)
  for (path, content) in before.entries.reverse do
    if !kept path && content.isNone then IO.FS.removeDir (pathOf path)
  for (path, content) in after.entries do
    match content with
    | none => IO.FS.createDirAll (pathOf path)
    | some bytes =>
      if !before.entries.contains (path, content) then
        IO.FS.writeBinFile (pathOf path) ⟨bytes.toArray⟩

/-- The paths that a command line looks at. -/
def pathsOf (arguments : List String) (read : String → IO Found) : IO Found := do
  match CommandLine.Invocation.parse arguments with
  | .error _ => return []
  | .ok i =>
    let config ← match i.config with
      | some path => read path
      | none => pure []
    let agent := ((i.settings ⟨config⟩).toOption.getD .initial).agent
    let runners := match i.mode with
      | .coordinator _ _ => none
      | .agent change => some (change agent).runnersPath
      | .vm path _ => some (path.getD agent.runnersPath)
    match runners with
    | some path => return config ++ (← read path)
    | none => return config

/-- No program is run from here. -/
def noPrograms (_ : String) (_ : List String) : Except IoError ProgramRun :=
  .error (.other "programs are not run from here")

/-- The calendar does not show in what a command line does; this is its origin. -/
def origin : Timestamp := ⟨0, 0⟩

/-- The method, the target and the body of a request on one line. -/
def requestOf (line : String) : String × String × String :=
  match (line.trimAsciiEnd.toString).splitOn " " with
  | method :: target :: body => (method, target, " ".intercalate body)
  | _ => ("GET", "/", "")

/-- An answer as text: its status, and what it carries. -/
def answerText (a : Http.Answer) : String :=
  toString a.status ++ "\n" ++ (match a.body with
    | .json v => v.render
    | .text s => s) ++ "\n"

/-- Serves requests until the input ends. -/
partial def serve {σ : Type} (answer : σ → String → String → String → σ × Http.Answer) (s : σ) :
    IO Unit := do
  let line ← (← IO.getStdin).getLine
  if line.isEmpty then return ()
  let (method, target, body) := requestOf line
  let (s, a) := answer s method target body
  IO.print (answerText a)
  serve answer s

/-- Carries out a command line; the answer is its exit code. -/
def run (arguments : List String) : IO UInt32 := do
  let before : Files := ⟨← pathsOf arguments look⟩
  let out := CommandLine.run 1000000 ⟨before, noPrograms, origin⟩ arguments
  store before out.files
  match out.ending with
  | .exits code stdout stderr =>
    IO.print stdout
    IO.eprint stderr
    return UInt32.ofNat code
  | .coordinates _ =>
    serve (fun c method target _ => (c, Http.serveApi c method target)) Coordinator.initial
    return 0
  | .hosts _ =>
    serve (fun a method target body =>
      let (a, _, answer) := Http.serveAnnouncement a method target (Utf8.encode body)
      (a, answer)) Arbiter.empty
    return 0

end RunnerFleet.Program

/-- The program's entry. -/
def main (arguments : List String) : IO UInt32 := RunnerFleet.Program.run arguments
