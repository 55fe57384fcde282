import Roster.Proofs.Rows
import Roster.Store.Program

/-!
# Programs that end well

A program that ends well turns one draft into another. Taking such a run apart at every query and
command says what was found and what was written; nothing else about running programs is needed
to follow an operation. A draft also knows which rows it touched, so laying it over the tables it
was begun on gives its own tables.
-/

namespace Roster

/-! ## Queries -/

namespace Filter

/-- Without limits every workspace may be read. -/
@[simp]
theorem canRead_none (id : WorkspaceId) : Filter.none.canRead id = true := rfl

/-- Without limits every workspace may be written. -/
@[simp]
theorem canWrite_none (id : WorkspaceId) : Filter.none.canWrite id = true := rfl

end Filter

/-- The tables give out a workspace under an id: its row is there and fit to be restored. -/
def Tables.Shows (t : Tables) (id : WorkspaceId) (ws : Workspace) : Prop :=
  ∃ row, t.workspaces.get? id = some row ∧ row.restore = .ok ws

/-- Something is found exactly when it is there. -/
@[simp]
theorem found_eq_ok {α : Type} {what : String} {o : Option α} {value : α} :
    found what o = .ok value ↔ o = some value := by
  cases o <;> simp [found]

/-- Looking for something that need not be there gives just what is there. -/
@[simp]
theorem optional_found {α : Type} (what : String) (o : Option α) :
    optional (found what o) = .ok o := by
  cases o <;> rfl

namespace Query

variable {t : Tables}

/-- A workspace is answered exactly when it may be read and the tables give it out. -/
theorem answer_workspace_iff {filter : Filter} {id : WorkspaceId} {ws : Workspace} :
    (Query.workspace filter id).answer t = .ok ws ↔ filter.canRead id = true ∧ t.Shows id ws := by
  cases hrow : t.workspaces.get? id <;> cases hread : filter.canRead id <;>
    simp [answer, refusal?, search, Tables.Shows, hrow, hread, found, bind, Except.bind,
      Option.filter]

/-- Without limits, a workspace is answered exactly when the tables give it out. -/
@[simp]
theorem answer_workspace {id : WorkspaceId} {ws : Workspace} :
    (Query.workspace .none id).answer t = .ok ws ↔ t.Shows id ws := by
  rw [answer_workspace_iff, Filter.canRead_none, eq_self_iff_true, true_and]

/-- A user is answered exactly when they are filed under the id. -/
@[simp]
theorem answer_user {id : UserId} {user : User} :
    (Query.user id).answer t = .ok user ↔ t.users.get? id = some user :=
  found_eq_ok

/-- An access role is answered exactly when it is filed under the id. -/
@[simp]
theorem answer_role {id : RoleId} {role : AccessRole} :
    (Query.role id).answer t = .ok role ↔ t.roles.get? id = some role :=
  found_eq_ok

end Query

/-! ## Runs that end well -/

namespace Program

variable {α β : Type}

/-- A program ends well: from one draft and number of drawn ids it comes to a value and leaves
another draft and number behind. -/
def Ends (program : Program α) (ids : Nat → String) (before : Draft × Nat) (value : α)
    (after : Draft × Nat) : Prop :=
  program.onDraft ids before.1 before.2 = (.ok value, after)

variable {ids : Nat → String} {s s' : Draft × Nat} {value : α}

/-- Going on after a program is running it and then what comes next. -/
theorem onDraft_andThen (program : Program α) (f : Except Error α → Program β) (draft : Draft)
    (drawn : Nat) :
    (program.andThen f).onDraft ids draft drawn =
      (f (program.onDraft ids draft drawn).1).onDraft ids (program.onDraft ids draft drawn).2.1
        (program.onDraft ids draft drawn).2.2 := by
  induction program generalizing draft drawn with
  | finish outcome => rfl
  | ask query next ih => exact ih _ _ _
  | tell command next ih =>
    simp only [andThen, onDraft]
    cases command.apply draft with
    | ok draft => exact ih _ _ _
    | error error => exact ih _ _ _
  | draw next ih => exact ih _ _ _

/-- A sequence ends well exactly when both parts do, one after the other. -/
@[simp]
theorem ends_bind {program : Program α} {f : α → Program β} {value : β} :
    (program >>= f).Ends ids s value s' ↔
      ∃ a s₁, program.Ends ids s a s₁ ∧ (f a).Ends ids s₁ value s' := by
  change (program.andThen _).onDraft ids s.1 s.2 = _ ↔ _
  rw [onDraft_andThen]
  unfold Ends
  obtain ⟨outcome, s₁⟩ := program.onDraft ids s.1 s.2
  cases outcome with
  | ok a =>
    constructor
    · exact fun h => ⟨a, s₁, rfl, h⟩
    · rintro ⟨_, _, heq, h⟩
      cases heq
      exact h
  | error error => simp [onDraft]

/-- A value is an end, and changes nothing. -/
@[simp]
theorem ends_pure {a : α} : (pure a : Program α).Ends ids s value s' ↔ value = a ∧ s' = s := by
  change ((.ok a : Except Error α), s) = _ ↔ _
  simp [eq_comm]

/-- A known outcome ends well exactly when it is a value. -/
@[simp]
theorem ends_ofExcept {outcome : Except Error α} :
    (ofExcept outcome).Ends ids s value s' ↔ outcome = .ok value ∧ s' = s := by
  change (outcome, s) = _ ↔ _
  simp [eq_comm]

/-- A refusal does not end well. -/
@[simp]
theorem ends_throw {error : Error} : ¬ (throw error : Program α).Ends ids s value s' := by
  change ¬ ((.error error : Except Error α), s) = _
  simp

/-- A query ends well with the answer, and changes nothing. -/
@[simp]
theorem ends_query {query : Query α} :
    (Program.query query).Ends ids s value s' ↔
      query.answer s.1.tables = .ok value ∧ s' = s := by
  change (query.answer s.1.tables, s) = _ ↔ _
  simp [eq_comm]

/-- A query whose answer may be missing changes nothing either. -/
@[simp]
theorem ends_queryOptional {query : Query α} {value : Option α} :
    (Program.queryOptional query).Ends ids s value s' ↔
      optional (query.answer s.1.tables) = .ok value ∧ s' = s := by
  change (optional (query.answer s.1.tables), s) = _ ↔ _
  simp [eq_comm]

/-- A command ends well when it applies to the draft, and leaves the changed draft. -/
@[simp]
theorem ends_command {command : Command} {value : Unit} :
    (Program.command command).Ends ids s value s' ↔
      ∃ draft, command.apply s.1 = .ok draft ∧ s' = (draft, s.2) := by
  simp only [Ends, Program.command, onDraft]
  cases command.apply s.1 <;> simp [eq_comm]

/-- Drawing an id gives the next one, whatever the tables hold. -/
@[simp]
theorem ends_drawId {kind : Entity} {value : Ident kind} :
    (drawId : Program (Ident kind)).Ends ids s value s' ↔
      value = ⟨ids s.2⟩ ∧ s' = (s.1, s.2 + 1) := by
  change ((.ok ⟨ids s.2⟩ : Except Error (Ident kind)), s.1, s.2 + 1) = _ ↔ _
  simp [eq_comm]

/-- A choice ends well as the branch taken does. -/
@[simp]
theorem ends_ite {p : Prop} [Decidable p] {a b : Program α} :
    (if p then a else b).Ends ids s value s' ↔
      (p ∧ a.Ends ids s value s') ∨ (¬ p ∧ b.Ends ids s value s') := by
  by_cases h : p <;> simp [h]

/-- A query ends well that may not be answered with something that is taken exactly when there is no
answer, or one that is not taken; and it changes nothing. -/
@[simp]
theorem ends_refuseTaken {query : Query α} {taken : α → Bool} {error : Error} {u : Unit} :
    (refuseTaken query taken error).Ends ids s u s' ↔
      (∃ found, optional (query.answer s.1.tables) = .ok found ∧ ∀ a ∈ found, taken a = false) ∧
        s' = s := by
  simp only [refuseTaken, ends_bind, ends_queryOptional]
  constructor
  · rintro ⟨found, _, ⟨hfound, rfl⟩, h⟩
    cases found with
    | none => exact ⟨⟨none, hfound, nofun⟩, (ends_pure.1 h).2⟩
    | some a =>
      simp only [ends_ite, ends_throw, ends_pure, and_false, false_or] at h
      exact ⟨⟨some a, hfound, by simpa using h.1⟩, h.2.2⟩
  · rintro ⟨⟨found, hfound, hfree⟩, rfl⟩
    refine ⟨found, _, ⟨hfound, rfl⟩, ?_⟩
    cases found with
    | none => exact ends_pure.2 ⟨rfl, rfl⟩
    | some a => simp [hfree a rfl]

end Program

end Roster
