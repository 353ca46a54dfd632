import Dialogue.CommandLine.Program

/-! The command line on the files of the working directory. -/

namespace Dialogue.CommandLine

def nodeAt (path : String) : IO (Option Node) := do
  try
    return some (.file (← IO.FS.readFile path))
  catch
    | .noFileOrDirectory .. => return none
    | _ => return some .folder

def explore (disk : Disk) (path : String) : IO Disk := do
  let names := (path.toList.splitOn '/').map String.ofList
  let mut disk := disk
  for n in List.range names.length do
    let path := "/".intercalate (names.take (n + 1))
    if let some place := disk.place? path then
      if (disk.node? place).isNone then
        if let some node ← nodeAt path then disk := disk.put place node
  return disk

def environment : IO Environment := do
  let bytes ← try IO.FS.readBinFile "/proc/self/environ" catch _ => pure .empty
  let entries := (bytes.toList.splitOn 0).filterMap fun entry => String.fromUTF8? entry.toByteArray
  return entries.filterMap fun entry =>
    match entry.splitOn "=" with
    | name :: text :: rest => some (name, "=".intercalate (text :: rest))
    | _ => none

def store (old new : Disk) : IO (Option Failure) := do
  for (path, text) in Disk.written old new do
    try IO.FS.writeFile path text catch _ => return some (.writeState path)
  for path in Disk.removed old new do
    try IO.FS.removeFile path catch _ => return some (.remove path)
  return none

def usage : String := "Usage: parley [--config CONFIG] [--max-steps MAX_STEPS] <run|inspect|config>"

end Dialogue.CommandLine

open Dialogue CommandLine

def main (args : List String) : IO UInt32 := do
  let paths := ((Arguments.parse? args).map Arguments.paths).getD []
  let disk ← paths.foldlM explore {}
  let (result, changed) := run (← environment) args disk
  let result := match ← store disk changed with
    | some failure => Result.failed failure
    | none => result
  (← IO.getStdout).putStr result.output
  match result with
  | .done _ => pure ()
  | .usage => IO.eprintln usage
  | .failed failure =>
    let message := failure.message
    IO.eprintln s!"Error: {message}"
  return result.exitCode.toUInt32
