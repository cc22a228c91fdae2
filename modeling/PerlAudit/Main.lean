import PerlAudit.Cli

/-!
The program. It takes a picture of the files it may need, runs on it, and shows what happened in
order. It starts no other program: a command is answered as one this system cannot carry out.
-/

namespace PerlAudit

open Files

/-- A text as the system takes it. -/
def plain (t : Text) : String := String.ofList t.chars

/-- What is wrong with a file or a directory. -/
inductive Trouble where
  | denied
  | failing

/-- Marks a path. -/
def Trouble.mark (d : Disk) : Text × Trouble → Disk
  | (path, denied) => d.deny path
  | (path, failing) => d.fail path .inputOutput

/-- The node at a path, and the paths below it that cannot be opened or read. A link leads to its
end. -/
partial def readNode (path : String) : IO (Node × List (Text × Trouble)) := do
  let file := (← IO.currentDir) / path
  match (← file.symlinkMetadata).type with
  | .symlink =>
    try return (.link (toString (← IO.FS.realPath file)), [])
    catch _ => return (.link path, [])
  | .dir =>
    try
      let entries ← file.readDir
      let parts ← entries.toList.mapM fun entry => do
        let part ← readNode (path ++ "/" ++ entry.fileName)
        return (Text.ofString entry.fileName, part)
      return (.directory (parts.map fun (name, part) => (name, part.1)), parts.flatMap (·.2.2))
    catch _ => return (.empty, [(Text.ofString path, .denied)])
  | _ =>
    match ← (IO.FS.Handle.mk file .read).toBaseIO with
    | .error _ => return (.file [] true, [(Text.ofString path, .denied)])
    | .ok handle =>
      match ← handle.readBinToEnd.toBaseIO with
      | .error _ => return (.file [] true, [(Text.ofString path, .failing)])
      | .ok content => return (.file content.toList true, [])

/-- Adds the files at a path, if there are any, where they are and under the path itself. -/
def addFiles (d : Disk) (path : Text) : IO Disk := do
  try
    let real := toString (← IO.FS.realPath ((← IO.currentDir) / plain path))
    let (node, troubles) ← readNode real
    let placed := troubles.foldl Trouble.mark (d.alter (d.place real) fun _ => some node)
    if (placed.find path).isOk then return placed
    else return placed.alter (placed.place path) fun _ => some node
  catch _ => return d

def variableNames : List Text :=
  ["HOME", "PATH", "COLUMNS", "PERL5LIB", Settings.perlVariable, Settings.coverVariable]

/-- The paths that an argument may name: itself, or what follows its equals sign. -/
def pathsOf (argument : Text) : List Text :=
  [argument, (argument.dropWhile (!·.is '=')).drop 1]

/-- The machine as far as a command line can reach it. -/
def readHost (argv : List Text) : IO Host := do
  let cwd : Text := toString (← IO.currentDir)
  let environment : Environment ← variableNames.filterMapM fun name => do
    return (← IO.getEnv (plain name)).map fun value => (name, Text.ofString value)
  let listed (name : Text) : List Text :=
    Text.splitAt (.char ':') ((environment.get? name).getD [])
  let programs := (listed "PATH").map (Path.join · Tools.coverName)
  let paths := argv.flatMap pathsOf ++ listed "PERL5LIB" ++ programs
  let start := (Disk.mk .empty cwd [] []).makeDirectory cwd
  let disk ← (cwd :: paths.filter (!·.isEmpty)).foldlM addFiles start
  return {
    disk
    environment
    homes := []
    script := "perlstrict"
    respond := fun _ _ => .refused ⟨38⟩
    stamp := ""
    readDocument := Settings.readDocument
    showDepth := 1000 }

/-- Shows an event on the stream it belongs to. -/
def showEvent (event : Event) : IO Unit := do
  (← IO.getStdout).putStr (plain event.outputText)
  (← IO.getStderr).putStr (plain event.errorText)

/-- Leaves the log files behind. -/
def saveLogs (s : Session) : IO Unit :=
  s.sinks.opened.forM fun place => do
    match s.host.disk.read (Disk.absolute place) with
    | .error _ => return
    | .ok content => IO.FS.writeBinFile (plain (Disk.absolute place)) ⟨content.toArray⟩

end PerlAudit

open PerlAudit

def main (argv : List String) : IO UInt32 := do
  let argv := argv.map Text.ofString
  let host ← readHost argv
  let (status, message, s) : Nat × Text × Session :=
    match Cli.run argv (Session.start host) with
    | .ok status s => (status, [], s)
    | .error fault s => (1, fault.message ++ "\n", s)
  s.journal.forM showEvent
  (← IO.getStderr).putStr (plain message)
  saveLogs s
  return UInt32.ofNat status
