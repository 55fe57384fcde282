import Roster.CommandLine.Host
import Roster.Uuid
import Std.Time.DateTime.Timestamp

/-!
# The program

The program reads the environment and the files a command line may need, runs the command line,
writes the files that have changed and says what is to be said.
-/

namespace Roster.Main

open CommandLine

/-- The variables that matter. -/
def variableNames : List String :=
  ["HOME", "TENANTRY_CONFIG_PATH", "TENANTRY_DATA_PATH", "TENANTRY_DEFAULT_POLICY",
   "TENANTRY_API_BIND", "TENANTRY_JWT_SECRET"]

/-- The variables that are set. -/
def environment : IO Environment := do
  let mut found := []
  for name in variableNames do
    if let some value ← IO.getEnv name then found := found ++ [(name, value)]
  return found

/-- Add the file at a path, if there is one. -/
def addFile (path : String) (files : Files) : IO Files := do
  try
    return files.write path (← IO.FS.readFile path)
  catch
    | .noFileOrDirectory .. => return files
    | _ => return { files with unreadable := path :: files.unreadable }

/-- The environment, and the files that a command line may need. -/
def host : IO Host := do
  let environment ← environment
  let files ← addFile (Config.path environment) {}
  match loadConfig { environment, files } with
  | .ok config => return { environment, files := ← addFile config.dataPath files }
  | .error _ => return { environment, files }

/-- The time and a source of ids. -/
def moment : IO Moment := do
  let now ← Std.Time.Timestamp.now
  let seed ← IO.getRandomBytes 32
  return {
    now := Time.Instant.epoch.addSeconds now.toSecondsSinceUnixEpoch.val.toNat
    ids := Uuid.ofSeed seed.data.toList
    writeFault := none }

/-- The folder of a path. -/
def parent (path : String) : String :=
  String.ofList ((path.toList.reverse.dropWhile (· ≠ '/')).drop 1).reverse

/-- Replace a file as a whole, or leave it as it is. -/
def replaceFile (path contents : String) : IO Unit := do
  if !(parent path).isEmpty then IO.FS.createDirAll (parent path)
  let draft := path ++ ".tmp"
  IO.FS.writeFile draft contents
  IO.FS.rename draft path

/-- Write the files that differ from what they were. -/
def writeChanges (old new : Host) : IO Unit := do
  for (path, contents) in new.files.texts do
    if old.files.look path ≠ .text contents then replaceFile path contents

end Roster.Main

/-- Run the command line. -/
def main (words : List String) : IO UInt32 := do
  let before ← Roster.Main.host
  let (outcome, after) := Roster.CommandLine.run before (← Roster.Main.moment) words
  Roster.Main.writeChanges before after
  IO.print outcome.output
  if let some failure := outcome.failure then IO.eprintln ("Error: " ++ failure.message)
  return outcome.exitCode.toUInt32
