import Roster.Proofs.Operations
import Roster.Proofs.Reading
import Roster.Proofs.Transactions

/-!
# Operations happen completely or not at all

Every operation looks around first and then runs a single usecase in a transaction, after which
nothing can fail. So an operation that fails leaves the store as it was, with its snapshot, and it
can be run through sessions whenever no transaction is open.
-/

namespace Roster

/-- An action that acts once: it looks around and then runs at most one usecase in a transaction, and
is at an end, but for what it returns. -/
inductive Action.ActsOnce : {α : Type} → Action α → Prop
  | looks {α : Type} {action : Action α} (h : Looks action) : ActsOnce action
  | run {α : Type} {usecase : Usecase} (htransactional : usecase.transactional = true)
    (operator : Option Operator) (body : Program α) : ActsOnce (usecase.run operator body)
  | after {α β : Type} {action : Action α} {f : α → Action β} (h : Looks action)
    (hf : ∀ a, ActsOnce (f a)) : ActsOnce (action >>= f)
  | returning {α β : Type} {action : Action α} (h : ActsOnce action) (f : α → β) :
    ActsOnce (action >>= fun a => pure (f a))

namespace Action

variable {α β : Type} {action : Action α}

/-- An action that acts once may come after a refusal under a condition. -/
theorem ActsOnce.guard {refused : Prop} [Decidable refused] {error : Error} {f : Unit → Action β}
    (h : ∀ u, ActsOnce (f u)) : ActsOnce (if refused then throw error >>= f else f ()) := by
  split
  · exact .after (looks_throw error) h
  · exact h ()

/-- An action that acts once leaves the store as it was when it fails. -/
theorem ActsOnce.store_of_error (h : action.ActsOnce) {moment : Moment}
    {directory directory' : Directory} {error : Error}
    (hfails : action.perform moment directory = (.error error, directory')) :
    directory'.store = directory.store := by
  induction h generalizing directory directory' with
  | looks hlooks => rw [← hlooks.store moment directory, hfails]
  | run htransactional operator body => exact Usecase.store_of_run_eq_error htransactional hfails
  | after hlooks _ ih =>
    have hfirst := hlooks.store moment directory
    obtain hrefused | ⟨a, d₁, hgone, hrest⟩ := perform_bind_eq_error.1 hfails
    · rw [hrefused] at hfirst
      exact hfirst
    · rw [hgone] at hfirst
      exact (ih a hrest).trans hfirst
  | returning _ f ih =>
    obtain hrefused | ⟨a, d₁, -, hrest⟩ := perform_bind_eq_error.1 hfails
    · exact ih hrefused
    · exact nomatch hrest

/-! ## Through sessions -/

/-- An action that can be run through sessions whenever no transaction is open. -/
def Runnable (action : Action α) : Prop :=
  ∀ moment (s : Hub × Nat), s.1.gateFree = true → ∃ run, Hub.Unfolds moment action s run

/-- One runnable action can follow another. -/
theorem Runnable.bind {f : α → Action β} (h : Runnable action) (hf : ∀ a, Runnable (f a)) :
    Runnable (action >>= f) := by
  intro moment s hfree
  obtain ⟨⟨outcome, s₁⟩, hfirst⟩ := h moment s hfree
  cases outcome with
  | error error => exact ⟨_, .bindError hfirst⟩
  | ok a =>
    obtain ⟨run, hsecond⟩ := hf a moment s₁ (hfirst.agrees hfree).gateFree
    exact ⟨run, .bindOk hfirst hsecond⟩

/-- Looking around can be run through sessions. -/
theorem Looks.runnable (h : action.Looks) : action.Runnable := by
  induction h with
  | known outcome => exact fun _ s _ => ⟨_, .known outcome s⟩
  | now => exact fun _ s _ => ⟨_, .now s⟩
  | draw kind => exact fun _ s _ => ⟨_, .draw kind s⟩
  | read hreads => exact fun _ s _ => ⟨_, .plain _ s⟩
  | bind _ _ ihfirst ihsecond => exact ihfirst.bind ihsecond

/-- An action that acts once can be run through sessions. -/
theorem ActsOnce.runnable (h : action.ActsOnce) : action.Runnable := by
  induction h with
  | looks hlooks => exact hlooks.runnable
  | run htransactional operator body =>
    intro moment s hfree
    obtain ⟨run, hrun, -⟩ := Hub.transact?_agrees moment hfree htransactional operator body s.2
    exact ⟨run, .transaction htransactional hrun⟩
  | after hlooks _ ih => exact hlooks.runnable.bind ih
  | returning _ f ih => exact ih.bind fun a => (looks_pure (f a)).runnable

end Action

/-! ## The operations -/

namespace Workspaces

/-- Creating a workspace acts once. -/
theorem actsOnce_create (name aliasName : String) (firstUser : UserId) (operator : Operator) :
    (create name aliasName firstUser operator).ActsOnce :=
  .after (.known _) fun _ => .after .now fun _ => .returning (.run rfl _ _) _

/-- Changing one workspace in a transaction acts once. -/
theorem actsOnce_edit {usecase : Usecase} (htransactional : usecase.transactional = true)
    (id : WorkspaceId) (operator : Operator) (before : UserId → Except Error Unit)
    (change : UserId → Time.Instant → Workspace → Program Workspace) :
    (edit usecase id operator before change).ActsOnce :=
  .after (.known _) fun _ => .after .now fun _ => .run htransactional _ _

/-- Adding users acts once. -/
theorem actsOnce_addUserMember (id : WorkspaceId) (users : List (UserId × Role))
    (operator : Operator) : (addUserMember id users operator).ActsOnce :=
  .after (.known _) fun _ => .guard fun _ => actsOnce_edit rfl _ _ _ _

/-- Taking members out acts once. -/
theorem actsOnce_removeMultipleUserMembers (id : WorkspaceId) (members : List UserId)
    (operator : Operator) : (removeMultipleUserMembers id members operator).ActsOnce :=
  .after (.known _) fun _ => .guard fun _ => actsOnce_edit rfl _ _ _ _

/-- Removing a workspace acts once. -/
theorem actsOnce_remove (id : WorkspaceId) (operator : Operator) : (remove id operator).ActsOnce :=
  .after (.known _) fun _ => .run rfl _ _

end Workspaces

namespace Accounts

/-- Signing up acts once. -/
theorem actsOnce_signup (defaultPolicy : Option PolicyId) (request : Signup) :
    (signup defaultPolicy request).ActsOnce :=
  .after (.known _) fun _ => .after .now fun _ => .run rfl _ _

/-- Logging in as a subject acts once, whether or not the user has to be signed up. -/
theorem actsOnce_signupSubject (defaultPolicy : Option PolicyId) (subject email name : String) :
    (signupSubject defaultPolicy subject email name).ActsOnce := by
  refine .guard fun _ => .after (.read (Program.reads_queryOptional _)) fun known => ?_
  cases known with
  | none => exact actsOnce_signup defaultPolicy _
  | some user => exact .returning (.looks (.read (Program.reads_query _))) _

end Accounts

/-- Creating an access role acts once. -/
theorem AccessRoles.actsOnce_create (name : String) : (create name).ActsOnce :=
  .after (.draw _) fun _ => .after (.known _) fun _ => .run rfl _ _

/-- Every operation acts once, whoever asks for it. -/
theorem Operation.actsOnce_act (defaultPolicy : Option PolicyId) (operator : Operator)
    (operation : Operation) : (operation.act defaultPolicy operator).ActsOnce := by
  cases operation with
  | createWorkspace name aliasName firstUser =>
    exact .returning (Workspaces.actsOnce_create name aliasName firstUser operator) Prod.snd
  | addUserMember id users => exact .returning (Workspaces.actsOnce_addUserMember id users operator) _
  | removeUserMember id member =>
    exact .returning (Workspaces.actsOnce_removeMultipleUserMembers id [member] operator) _
  | removeMultipleUserMembers id members =>
    exact .returning (Workspaces.actsOnce_removeMultipleUserMembers id members operator) _
  | updateWorkspace | addIntegrationMember | updateUserMember | updateIntegrationMember
  | removeIntegration | removeIntegrations | transferOwnership =>
    exact .returning (Workspaces.actsOnce_edit rfl _ _ _ _) _
  | removeWorkspace id => exact .returning (Workspaces.actsOnce_remove id operator) _
  | signup request => exact .returning (Accounts.actsOnce_signup defaultPolicy request) _
  | signupSubject subject email name =>
    exact .returning (Accounts.actsOnce_signupSubject defaultPolicy subject email name) _
  | updateMe | removeMe =>
    exact .returning (.after (.known _) fun _ => .after .now fun _ => .run rfl _ _) _
  | createRole name => exact .returning (AccessRoles.actsOnce_create name) _
  | updateRole | removeRole | updatePermittable | addWorkspaceRole =>
    exact .returning (.run rfl _ _) _

/-- An action that carries an operation out leaves the store as it was when it fails. -/
theorem Operation.CarriedOutBy.store_of_error {α : Type} {operation : Operation}
    {defaultPolicy : Option PolicyId} {operator : Operator} {action : Action α} {moment : Moment}
    {directory directory' : Directory} {error : Error}
    (h : operation.CarriedOutBy defaultPolicy operator action)
    (hfails : action.perform moment directory = (.error error, directory')) :
    directory'.store = directory.store := by
  obtain ⟨held, hact⟩ := h
  have hperform : (operation.act defaultPolicy operator).perform moment directory =
      (.error error, directory') := by
    rw [hact, Action.perform_bind, hfails]
  exact (operation.actsOnce_act defaultPolicy operator).store_of_error hperform

end Roster
