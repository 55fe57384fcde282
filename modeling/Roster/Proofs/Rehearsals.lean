import Roster.Proofs.CommandLines
import Roster.Proofs.DryRunFlag
import Roster.Proofs.Snapshots
import Roster.Proofs.Texts

/-!
# Dry runs

A dry run works on a store that is not kept in its file, and is otherwise what the run itself would
be. Step by step both come to the same tables, draw the same ids and say the same, as long as the
snapshots can be written; in the end they differ in that the dry run is announced, in the words in
which something is said to be done, and in the file, which a dry run leaves alone.
-/

namespace Roster

/-- A directory is a rehearsal of another one: it has the same tables and has drawn as many ids, but
its store is not kept in its file, in which some text stands. -/
structure Directory.Rehearses (file : Option String) (dry real : Directory) : Prop where
  tables : dry.store.tables = real.store.tables
  drawn : dry.drawn = real.drawn
  detached : dry.store.attached = false
  kept : dry.store.file = file

namespace Action

variable {α β : Type}

/-- What comes of an action in rehearsal and in earnest: the same, unless a snapshot cannot be
written. -/
inductive Foretold (moment : Moment) (file : Option String) :
    Except Error α × Directory → Except Error α × Directory → Prop
  | same (outcome : Except Error α) {dry real : Directory} (h : dry.Rehearses file real) :
    Foretold moment file (outcome, dry) (outcome, real)
  | unwritten {reason : String} (hfault : moment.writeFault = some reason)
    (dry : Except Error α × Directory) (real : Directory) :
    Foretold moment file dry (.error (.storage reason), real)

/-- An action comes to the same in rehearsal, where it is all the same what the state of the disk
is. -/
def Rehearsable (action : Action α) : Prop :=
  ∀ moment fault file {dry real : Directory}, dry.Rehearses file real →
    Foretold moment file (action.perform { moment with writeFault := fault } dry)
      (action.perform moment real)

/-- Actions that can be rehearsed can be rehearsed one after the other. -/
theorem Rehearsable.bind {action : Action α} {f : α → Action β} (h : Rehearsable action)
    (hf : ∀ a, Rehearsable (f a)) : Rehearsable (action >>= f) := by
  intro moment fault file dry real hrehearses
  have hfirst := h moment fault file hrehearses
  rw [perform_bind, perform_bind]
  generalize action.perform { moment with writeFault := fault } dry = rehearsed,
    action.perform moment real = done at hfirst ⊢
  cases hfirst with
  | same outcome hnext =>
    cases outcome with
    | ok a => exact hf a moment fault file hnext
    | error error => exact .same _ hnext
  | unwritten hfault => exact .unwritten hfault _ _

end Action

namespace CommandLine

/-! ## What is said -/

/-- What has been said so far: in rehearsal it is announced first that it is one. -/
def Alike (dry real : List String) : Prop :=
  dry = dryRunNotice :: real

/-- What has been said in the end: in rehearsal it is announced first that it is one and, where
something is said to be done, added that nothing is saved. -/
inductive Announced : List String → List String → Prop
  | alike (records : List String) : Announced (dryRunNotice :: records) records
  | done (records : List String) (message : String) :
    Announced (dryRunNotice :: (records ++ ["✅ " ++ message ++ " (dry run, nothing saved)"]))
      (records ++ ["✅ " ++ message])

/-- A desk is a rehearsal of another one. -/
structure Desk.Rehearses (file : Option String) (Said : List String → List String → Prop)
    (dry real : Desk) : Prop where
  directory : dry.directory.Rehearses file real.directory
  lines : Said dry.lines real.lines

namespace Console

variable {α β : Type} {Said : List String → List String → Prop}

/-- What comes of something in rehearsal and in earnest: the same, unless a snapshot cannot be
written. -/
inductive Foretold (moment : Moment) (file : Option String)
    (Said : List String → List String → Prop) :
    EStateM.Result Failure Desk α → EStateM.Result Failure Desk α → Prop
  | ok (value : α) {dry real : Desk} (h : dry.Rehearses file Said real) :
    Foretold moment file Said (.ok value dry) (.ok value real)
  | error (failure : Failure) {dry real : Desk} (h : dry.Rehearses file Alike real) :
    Foretold moment file Said (.error failure dry) (.error failure real)
  | unwritten {reason : String} (hfault : moment.writeFault = some reason)
    (dry : EStateM.Result Failure Desk α) (real : Desk) :
    Foretold moment file Said dry (.error (.refused (.storage reason)) real)

/-- Something done at a terminal foretells something else, where it is all the same what the state of
the disk is in rehearsal. -/
def Foretells (Said : List String → List String → Prop) (dry real : Console α) : Prop :=
  ∀ moment fault file {desk desk' : Desk}, desk.Rehearses file Alike desk' →
    Foretold moment file Said (dry { moment with writeFault := fault } desk) (real moment desk')

/-- What foretells something may be followed by what foretells what follows. -/
theorem Foretells.bind {dry real : Console α} {f g : α → Console β} (h : Foretells Alike dry real)
    (hf : ∀ value, Foretells Said (f value) (g value)) :
    Foretells Said (dry >>= f) (real >>= g) := by
  intro moment fault file desk desk' hdesk
  have hfirst := h moment fault file hdesk
  simp only [Course.bind_apply]
  generalize dry { moment with writeFault := fault } desk = rehearsed,
    real moment desk' = done at hfirst ⊢
  cases hfirst with
  | ok value hnext => exact hf value moment fault file hnext
  | error failure hnext => exact .error failure hnext
  | unwritten hfault => exact .unwritten hfault _ _

variable {terms : Terms} {dry real : Console Unit}

end Console

open Console

section Runs

/-- How a dry run ends is how the run itself ends, with what is said being announced. -/
structure Outcome.Foretells (dry real : Outcome) : Prop where
  exitCode : dry.exitCode = real.exitCode
  failure : dry.failure = real.failure
  lines : Announced dry.lines real.lines

variable {host : Host} {moment : Moment} {words : List String} {instruction : Instruction}
  {config : Config} {invocation : Invocation} {file : Option String} {tables : Tables}

end Runs

/-! ### One path for the configuration and the store -/

namespace OnePath

/-- A host without files, on which the configuration and the store are to be kept at one path. -/
def host : Host where
  environment := [("TENANTRY_CONFIG_PATH", "tenants"), ("TENANTRY_DATA_PATH", "tenants")]
  files := {}

/-- The command line that asks for a first configuration, in rehearsal. -/
def words : List String :=
  ["--dry-run", "config", "init"]

/-- What counts without a configuration. -/
def config : Config :=
  .overridden host.environment (.default host.environment)

end OnePath

/-! ### An auditor is to be added -/

namespace Auditor

/-- A directory with one access role. -/
def tables : Tables where
  roles := Table.empty.insert ⟨"clerk"⟩ ⟨⟨"clerk"⟩, "clerk"⟩

/-- A host that keeps the directory in a file and has no configuration. -/
def host : Host where
  environment := [("TENANTRY_CONFIG_PATH", "config"), ("TENANTRY_DATA_PATH", "data")]
  files := { texts := [("data", tables.toSnapshot)] }

/-- A moment at which the next id is that of the role. -/
def moment : Moment :=
  { Moment.epoch with ids := fun _ => "auditor" }

/-- What is asked for. -/
def invocation : Invocation :=
  { instruction := .createRole "auditor", dryRun := false, acting := none }

/-- The command line that asks for it. -/
def words : List String :=
  ["role", "create", "auditor"]

/-- What counts without a configuration. -/
def config : Config :=
  .overridden host.environment (.default host.environment)

end Auditor

end CommandLine

end Roster
