import ParamExpansion.CommandLine.Run

/-!
# The command

Hands the world over to a run, and carries out what the run leaves behind. Of the files only those
that the command line names are looked at.
-/

namespace ParamExpansion.Main

open CommandLine

/-- All that can be read from a stream. -/
partial def readAll (stream : IO.FS.Stream) (before : ByteArray) : IO ByteArray := do
  let bytes ← stream.read 65536
  if bytes.isEmpty then return before else readAll stream (before ++ bytes)

/-- The variables of the environment. -/
def environment : IO (List (String × String)) := do
  let bytes ← IO.FS.readBinFile "/proc/self/environ"
  let entries := ((String.fromUTF8? bytes).getD "").splitOn "\x00"
  return entries.filterMap fun entry =>
    match entry.toList.span (· ≠ '=') with
    | (_, []) => none
    | (name, _ :: value) => some (String.ofList name, String.ofList value)

/-- The files that the command line names. -/
def namedFiles (words : List String) : List String :=
  match Options.ofWords words with
  | .ok o =>
    o.variableFiles.filterMap id ++
      [o.input, o.output, o.debugFile, o.stored].filterMap Options.given?
  | .error _ => []

/-- Looks at what a path names, and at the directories on the way to it. -/
def look (fs : FileSystem) (path : String) : IO FileSystem := do
  let here := if FileSystem.isAbsolute path then [] else fs.workingDirectory
  let names := here ++ FileSystem.steps path
  (List.range names.length).foldlM (fun fs n => do
    let reached := names.take (n + 1)
    let place := (← IO.currentDir) / ("/" ++ "/".intercalate reached)
    if ← place.isDir then return { fs with entries := (reached, .directory) :: fs.entries }
    else if ← place.pathExists then return fs.put reached (← IO.FS.readBinFile place).toList
    else return fs) fs

/-- Writes the files that have changed. -/
def writeBack (before after : FileSystem) : IO Unit :=
  after.entries.forM fun (names, entry) => do
    if before.entry? names ≠ some entry then
      if let .file content := entry then
        IO.FS.writeBinFile ("/" ++ "/".intercalate names) ⟨content.toArray⟩

end ParamExpansion.Main

open ParamExpansion ParamExpansion.Main in
def main (words : List String) : IO UInt32 := do
  let workingDirectory := FileSystem.steps (← IO.currentDir).toString
  let files ← (namedFiles words).foldlM look { workingDirectory }
  let input ← readAll (← IO.getStdin) .empty
  let outcome := CommandLine.run words
    { environment := ← environment, input := input.toList, files }
  writeBack files outcome.files
  (← IO.getStdout).putStr outcome.output
  (← IO.getStderr).putStr outcome.messages
  return outcome.status.exitCode.toUInt32
