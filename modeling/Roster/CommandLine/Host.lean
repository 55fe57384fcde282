import Roster.CommandLine.Files
import Roster.CommandLine.Instructions
import Roster.Config

/-!
# Running a command line

A command line runs on a host, which has an environment and files. The store is opened from the
file that the configuration names, and a dry run never writes it.
-/

namespace Roster.CommandLine

/-- What surrounds a run. -/
structure Host where
  environment : Environment
  files : Files

namespace Host

/-- The host after a file has been replaced. -/
def write (host : Host) (path contents : String) : Host :=
  { host with files := host.files.write path contents }

end Host

/-- What a run ends with. -/
structure Outcome where
  exitCode : Nat
  /-- The lines said, in their order. -/
  lines : List String := []
  failure : Option Failure := none
  deriving DecidableEq, Repr

namespace Outcome

/-- A run that ends well. -/
def success (lines : List String) : Outcome :=
  { exitCode := 0, lines }

/-- A run that fails. -/
def ofFailure (failure : Failure) (lines : List String) : Outcome :=
  { exitCode := 1, lines, failure := some failure }

/-- What has been said, each line with its end. -/
def output (outcome : Outcome) : String :=
  String.join (outcome.lines.map (· ++ "\n"))

end Outcome

/-- The line that announces a dry run. -/
def dryRunNotice : String :=
  "🔍 DRY RUN: No changes will be saved"

/-- The name of the program. -/
def program : String :=
  "tenantry"

/-- The name and version of the program. -/
def version : String :=
  program ++ " 0.1.0"

/-- Load the configuration of a host. -/
def loadConfig (host : Host) : Except Config.Fault Config :=
  match host.files.look (Config.path host.environment) with
  | .nothing => Config.load host.environment none
  | .text contents => Config.load host.environment (some contents)
  | .unreadable => .error .unreadable

/-- Say what is configured. -/
def showConfig (host : Host) : Outcome :=
  match loadConfig host with
  | .ok config => .success [config.masked.toText]
  | .error fault => .ofFailure (.failed fault.message) []

/-- Write a configuration in which nothing is set, unless there is one. -/
def initConfig (host : Host) : Outcome × Host :=
  let path := Config.path host.environment
  match host.files.look path, host.files.writeFault? path with
  | .nothing, none =>
    (.success ["Initialized config at: " ++ path],
      host.write path (Config.default host.environment).toText)
  | .nothing, some reason => (.ofFailure (.failed reason) [], host)
  | _, _ => (.ofFailure (.failed ("Config file already exists at: " ++ path)) [], host)

/-- The store after an instruction, and how the instruction ended. -/
def operate (terms : Terms) (instruction : Instruction) (moment : Moment) (store : Store)
    (lines : List String) : Outcome × Store :=
  match carryOut terms instruction moment { directory := { store }, lines } with
  | .ok _ desk => (.success desk.lines, desk.directory.store)
  | .error failure desk => (.ofFailure failure desk.lines, desk.directory.store)

/-- Carry out an instruction on the store that is kept in a file of a host. -/
def operateOn (host : Host) (moment : Moment) (config : Config) (invocation : Invocation)
    (file : Option String) : Outcome × Host :=
  let path := config.dataPath
  let lines := if invocation.dryRun then [dryRunNotice] else []
  match Store.open? file (!invocation.dryRun) with
  | none => (.ofFailure (.failed (Store.openFailure path)) lines, host)
  | some store =>
    let terms : Terms :=
      { defaultPolicy := config.defaultPolicy, policy := config.policy,
        dryRun := invocation.dryRun, acting := invocation.acting }
    let fault := moment.writeFault.or (host.files.storeFault? path)
    let (outcome, store) :=
      operate terms invocation.instruction { moment with writeFault := fault } store lines
    match store.file with
    | some contents => (outcome, host.write path contents)
    | none => (outcome, host)

/-- Carry out an instruction on the store of a host. -/
def operateOnHost (host : Host) (moment : Moment) (config : Config) (invocation : Invocation) :
    Outcome × Host :=
  match host.files.look config.dataPath with
  | .nothing => operateOn host moment config invocation none
  | .text contents => operateOn host moment config invocation (some contents)
  | .unreadable =>
    let lines := if invocation.dryRun then [dryRunNotice] else []
    (.ofFailure (.failed (Store.readFailure config.dataPath)) lines, host)

/-- Carry out an invocation. -/
def perform (host : Host) (moment : Moment) (invocation : Invocation) : Outcome × Host :=
  match invocation.instruction with
  | .showConfig => (showConfig host, host)
  | .initConfig => initConfig host
  | _ =>
    match loadConfig host with
    | .ok config => operateOnHost host moment config invocation
    | .error fault => (.ofFailure (.failed fault.message) [], host)

/-- Run a command line. -/
def run (host : Host) (moment : Moment) (words : List String) : Outcome × Host :=
  match read words with
  | .run invocation => perform host moment invocation
  | .version => (.success [version], host)
  | .help path =>
    (.success (((levelAt? path).map (Level.help · program path)).getD []), host)
  | .refused => ({ exitCode := 2 }, host)

end Roster.CommandLine
