import RecordPrint.Command.Program

/-!
# The command line

Reads what a run looks at, runs the program and writes what it left behind.
-/

namespace RecordPrint.CommandLine

/-- A text as a string; half surrogate pairs have no place in it. -/
def stringOf (t : Text) : String :=
  String.ofList (t.filterMap fun
    | .char c => some c
    | .surrogate _ => none)

/-- What is left of a stream. -/
partial def readRest (stream : IO.FS.Stream) (front : ByteArray) : IO ByteArray := do
  let chunk ← stream.read 65536
  if chunk.isEmpty then return front else readRest stream (front ++ chunk)

/-- What is at a place of the file system, if anything is. -/
def entryAt (place : Place) : IO (Option DirectoryEntry) := do
  try
    let content ← IO.FS.readBinFile (stringOf (Directory.pathTo place))
    return some (.file content.toList Directory.createdMode)
  catch
    | .noFileOrDirectory _ _ _ => return none
    | .inappropriateType _ _ _ | .otherError _ _ => return some .directory
    | e => throw e

/-- The entries at places of the file system. What is below a file is not there. -/
def entriesAt (places : List Place) : IO Directory := do
  let mut directory : Directory := []
  for place in places do
    let known := (directory.entry? place).isSome || (directory.entry? place.dropLast) != some .directory
    if !known then
      if let some entry ← entryAt place then directory := directory ++ [(place, entry)]
  return directory

/-- Writes the files that a run has changed. -/
def writeChanges (before after : Directory) : IO Unit := do
  for (place, entry) in after do
    if let .file content _ := entry then
      if before.entry? place != some entry then
        let path := stringOf (Directory.pathTo place)
        let isNew := (before.entry? place).isNone
        IO.FS.writeBinFile path ⟨content.toArray⟩
        if isNew then IO.setAccessRights path { user := { read := true, write := true } }

/-- Runs the program with arguments; the result is its exit code. -/
def run (arguments : List Text) : IO UInt32 := do
  let rendering := Program.rendering? arguments
  let input ← match rendering with
    | some r =>
      if r.source = Rendering.standardInput then readRest (← IO.getStdin) .empty else pure .empty
    | none => pure .empty
  let paths := match rendering with
    | some r => [(Path.ofSlashes r.source).text, r.destination]
    | none => []
  let directory ← entriesAt (paths.flatMap Directory.placesOn)
  let setting ← IO.getEnv "RECORDOUT_LOG_LEVEL"
  let session : Session :=
    ⟨directory, input.toList, setting.map Text.ofString, "[recordout]", Level.critical, .ofBytes, []⟩
  let (after, ending) := Program.run "recordout" arguments session
  writeChanges directory after.directory
  let stdout ← IO.getStdout
  stdout.write ⟨(Utf8.encodeChars after.output.text).toArray⟩
  let stderr ← IO.getStderr
  stderr.write ⟨(Utf8.encodeChars after.errors).toArray⟩
  if let some crash := ending.crash? then stderr.putStrLn (stringOf crash.message)
  return .ofNat ending.exitCode

end RecordPrint.CommandLine

/-- The command line of the program. -/
def main (arguments : List String) : IO UInt32 :=
  RecordPrint.CommandLine.run (arguments.map RecordPrint.Text.ofString)
