import Roster.Proofs.Actions
import Roster.Service.AccessRoles
import Roster.Service.Accounts
import Roster.Service.Grants
import Roster.Service.Permissions
import Roster.Service.Workspaces

/-!
# Programs and actions that only read

A program that gives no commands and draws no ids leaves the store as it was, whether it is answered
or refused. Actions that are put together from such programs, from the clock and from ids only look
around. What callers may read of the directory, and what is looked up before they change it, is of
this kind.
-/

namespace Roster

/-- A program that only asks queries. -/
inductive Program.Reads {α : Type} : Program α → Prop
  | finish (outcome : Except Error α) : Reads (.finish outcome)
  | ask {β : Type} (query : Query β) {next : Except Error β → Program α}
    (h : ∀ reply, Reads (next reply)) : Reads (.ask query next)

namespace Program

variable {α β : Type}

/-- One query only reads. -/
theorem reads_query (query : Query α) : Reads (.query query) :=
  .ask query .finish

/-- A query to which there may be no answer only reads. -/
theorem reads_queryOptional (query : Query α) : Reads (queryOptional query) :=
  .ask query fun _ => .finish _

/-- A value only reads. -/
theorem reads_pure (value : α) : Reads (pure value) :=
  .finish _

/-- Reading may go on after reading. -/
theorem Reads.bind {program : Program α} (h : program.Reads) {f : α → Program β}
    (hf : ∀ value, (f value).Reads) : (program >>= f).Reads := by
  induction h with
  | finish outcome =>
    cases outcome with
    | ok value => exact hf value
    | error error => exact .finish (.error error)
  | ask query _ ih => exact .ask query ih

/-- What only reads leaves the store as it was. -/
theorem Reads.onStore {program : Program α} (h : program.Reads) (moment : Moment) (store : Store)
    (drawn : Nat) : (program.onStore moment store drawn).2 = (store, drawn) := by
  induction h with
  | finish outcome => rfl
  | ask query _ ih => exact ih _

end Program

open Program

/-- An action that only looks around: it takes what is known, looks at the clock, draws ids and reads
the committed tables, as often and in whatever order. -/
inductive Action.Looks : {α : Type} → Action α → Prop
  | known {α : Type} (outcome : Except Error α) : Looks (ofExcept outcome)
  | now : Looks now
  | draw (kind : Entity) : Looks (drawId : Action (Ident kind))
  | read {α : Type} {body : Program α} (h : body.Reads) : Looks (Usecase.runPlain body)
  | bind {α β : Type} {action : Action α} {f : α → Action β} (h : Looks action)
    (hf : ∀ a, Looks (f a)) : Looks (action >>= f)

namespace Action

variable {α : Type} {action : Action α}

/-- A value is known. -/
theorem looks_pure (a : α) : Looks (pure a : Action α) :=
  .known (.ok a)

/-- A refusal is known. -/
theorem looks_throw (error : Error) : Looks (throw error : Action α) :=
  .known (.error error)

/-- Reading with permission is looking around. -/
theorem looks_run {usecase : Usecase} (hplain : usecase.transactional = false)
    (operator : Option Operator) {body : Program α} (h : body.Reads) :
    Looks (usecase.run operator body) := by
  unfold Usecase.run
  rw [hplain]
  exact (Looks.known _).bind fun _ => .read h

/-- Looking around leaves the store as it was, whatever comes out. -/
theorem Looks.store (h : action.Looks) (moment : Moment) (directory : Directory) :
    (action.perform moment directory).2.store = directory.store := by
  induction h generalizing directory with
  | known outcome => rw [perform_ofExcept]
  | now => rfl
  | draw kind => rfl
  | read hreads =>
    rw [Usecase.perform_runPlain]
    exact congrArg Prod.fst (hreads.onStore moment directory.store directory.drawn)
  | @bind _ _ action f _ _ ihfirst ihsecond =>
    have hfirst := ihfirst directory
    rw [perform_bind]
    match hperform : action.perform moment directory with
    | (.ok a, d₁) =>
      rw [hperform] at hfirst
      exact (ihsecond a d₁).trans hfirst
    | (.error error, d₁) =>
      rw [hperform] at hfirst
      exact hfirst

end Action

/-! ## What callers may read -/

/-- Checking a permission is looking around. -/
theorem Permissions.looks_check (policy : Policy) (user : UserId) (resource : Resource)
    (action : String) : (check policy user resource action).Looks := by
  refine (Action.Looks.read ((reads_queryOptional _).bind fun found => ?_)).bind fun _ =>
    Action.looks_pure _
  cases found with
  | none => exact reads_pure _
  | some p => exact (reads_query _).bind fun _ => reads_pure _

/-- Listing who holds access roles is looking around. -/
theorem Grants.looks_holders : holders.Looks :=
  .read ((reads_query _).bind fun _ => (reads_query _).bind fun _ => (reads_query _).bind fun _ =>
    reads_pure _)

/-- Listing the access roles is looking around. -/
theorem AccessRoles.looks_all : all.Looks :=
  .read (reads_query _)

namespace Workspaces

/-- Fetching workspaces is looking around. -/
theorem looks_fetch (ids : List WorkspaceId) (operator : Operator) : (fetch ids operator).Looks :=
  .bind (.known _) fun _ => Action.looks_run rfl _ (reads_query _)

/-- Listing the workspaces of a user is looking around. -/
theorem looks_findByUser (user : UserId) (operator : Operator) :
    (findByUser user operator).Looks :=
  .bind (.known _) fun _ => Action.looks_run rfl _ (reads_query _)

end Workspaces

namespace Accounts

/-- Fetching users is looking around. -/
theorem looks_fetch (ids : List UserId) (operator : Operator) : (fetch ids operator).Looks :=
  .bind (.known _) fun _ => .read (reads_query _)

/-- Searching for a user is looking around. -/
theorem looks_search (nameOrEmail : String) (operator : Operator) :
    (search nameOrEmail operator).Looks :=
  .bind (.known _) fun _ => .read (reads_queryOptional _)

/-- Looking an operator up is looking around. -/
theorem looks_operatorFor (defaultPolicy : Option PolicyId) (user : UserId) :
    (operatorFor defaultPolicy user).Looks :=
  .bind (.read (reads_query _)) fun _ => Action.looks_pure _

end Accounts

end Roster
