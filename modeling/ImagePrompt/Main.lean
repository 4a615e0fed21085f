import ImagePrompt.Command.Basic
/-!
# The program

The command on a real machine: what it will look at is copied from the disk,
the command is carried out on the copy, and the picture that it writes there
is written to the disk. There is no transport, so the service is never
reached. Times are those of Greenwich.
-/

namespace ImagePrompt.Program

def environment : IO Environment := do
  let bytes ← IO.FS.readBinFile "/proc/self/environ"
  let entries := Text.split '\x00' (Text.Utf8.decodeLossy bytes.toList)
  return entries.filterMap fun entry =>
    match Text.cut '=' entry.toList with
    | (name, some value) => some (String.ofList name, String.ofList value)
    | _ => none

/-- The time at which the process was first looked at. -/
def now : IO Timestamp := do
  let metadata ← (← IO.FS.realPath "/proc/self").metadata
  return .ofSeconds metadata.modified.sec.toNat

def withDirectories (fs : FileSystem) (l : Location) : FileSystem :=
  (List.range (l.length + 1)).foldl (fun fs n => fs.put (l.take n) .directory) fs

def bare : IO FileSystem := do
  let here := Path.names (← IO.currentDir).toString
  return withDirectories ⟨{}, here⟩ here

/-- Copies what a path of the disk leads to, and a link to it where the path itself stands. -/
def copyPlace (fs : FileSystem) (path : String) : IO FileSystem := do
  let real ← IO.FS.realPath path
  let place := Path.names real.toString
  let lexical := fs.start path ++ Path.names path
  let fs :=
    if lexical == place || lexical.any (fun name => name == "." || name == "..") then fs
    else fs.put lexical (.link real.toString)
  if ← real.isDir then return withDirectories fs place
  let node ← try pure (Node.file (← IO.FS.readBinFile real).toList) catch _ => pure .closedFile
  return (withDirectories fs place.dropLast).put place node

/-- Copies a path of the disk and those above it, as far as they are there. -/
def copyPath (fs : FileSystem) (path : String) : IO FileSystem :=
  (Path.ancestors path).reverse.foldlM
    (fun fs above => try copyPlace fs above catch _ => pure fs) fs

def copyNames (fs : FileSystem) (directory : String) : IO FileSystem :=
  try
    let real ← IO.FS.realPath directory
    let place := Path.names real.toString
    let entries ← real.readDir
    return entries.foldl (fun fs entry =>
      if (fs.node? (place ++ [entry.fileName])).isSome then fs
      else fs.put (place ++ [entry.fileName]) (.file [])) fs
  catch _ => pure fs

def declaredPaths (c : Command) (fs : FileSystem) : List String :=
  match c.prompt fs with
  | .error _ => []
  | .ok prompt =>
    match normalize prompt with
    | .error _ => []
    | .ok n => n.images.map fun d => Text.trim d.image.path

/-- Copies everything that a command will look at. -/
def copyFor (c : Command) : IO FileSystem := do
  let named := c.promptFile.toList ++ [c.envFile.getD Settings.defaultFile] ++ c.inputImages ++
    [c.outputDirectory]
  let fs ← named.foldlM copyPath (← bare)
  let fs ← (declaredPaths c fs).foldlM copyPath fs
  copyNames fs c.outputDirectory

/-- Writes a file of the copy to the disk, where nothing stands. -/
def deliver (fs : FileSystem) (path : String) : IO Unit := do
  match fs.read path with
  | .error e => throw (IO.userError e.message)
  | .ok bytes =>
    IO.FS.createDirAll ((Path.parent? path).getD ".")
    let handle ← IO.FS.Handle.mk path .writeNew
    handle.write ⟨bytes.toArray⟩
    handle.flush

def perform (c : Command) : IO CommandReport := do
  let environment ← environment
  let time ← now
  let fs ← copyFor c
  let (w, report) := c.run environment ⟨time, none⟩ ⟨{}, fs⟩
  match report.output with
  | path :: _ =>
    try
      deliver w.files path
      return report
    catch e => return (c.run environment ⟨time, some ⟨0, toString e⟩⟩ ⟨{}, fs⟩).2
  | [] => return report

end ImagePrompt.Program

open ImagePrompt in
def main (arguments : List String) : IO UInt32 := do
  let report ← match Command.ofArguments arguments with
    | .ok c => Program.perform c
    | .error halt => pure (Command.haltReport halt)
  for line in report.notes do IO.eprintln line
  for line in report.output do IO.println line
  return UInt32.ofNat report.exitCode
