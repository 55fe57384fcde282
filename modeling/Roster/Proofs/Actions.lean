import Roster.Proofs.Drafts
import Roster.Store.Usecase

/-!
# Actions on the directory

What an action returns and leaves behind is put together from its parts. A usecase that runs in a
transaction either commits exactly the tables of its draft or leaves the store as it was.
-/

namespace Roster

namespace Action

variable {α β : Type} {moment : Moment} {directory directory' : Directory}

/-- A sequence of actions is the first part and, if that succeeds, the second. -/
theorem perform_bind (action : Action α) (f : α → Action β) :
    (action >>= f).perform moment directory =
      match action.perform moment directory with
      | (.ok a, d₁) => (f a).perform moment d₁
      | (.error error, d₁) => (.error error, d₁) := by
  simp only [perform, bind, ReaderT.bind, EStateM.bind]
  cases action moment directory <;> rfl

/-- A sequence of actions succeeds exactly when both parts do, one after the other. -/
@[simp]
theorem perform_bind_eq_ok {action : Action α} {f : α → Action β} {value : β} :
    (action >>= f).perform moment directory = (.ok value, directory') ↔
      ∃ a d₁, action.perform moment directory = (.ok a, d₁) ∧
        (f a).perform moment d₁ = (.ok value, directory') := by
  rw [perform_bind]
  obtain ⟨_ | a, d₁⟩ := action.perform moment directory <;> simp [and_assoc]

/-- A sequence of actions fails where its first or its second part does. -/
theorem perform_bind_eq_error {action : Action α} {f : α → Action β} {error : Error} :
    (action >>= f).perform moment directory = (.error error, directory') ↔
      action.perform moment directory = (.error error, directory') ∨
        ∃ a d₁, action.perform moment directory = (.ok a, d₁) ∧
          (f a).perform moment d₁ = (.error error, directory') := by
  rw [perform_bind]
  obtain ⟨_ | a, d₁⟩ := action.perform moment directory <;> simp [and_assoc]

/-- An action that is refused is refused whatever would come after it. -/
theorem perform_bind_of_error {action : Action α} {f : α → Action β} {error : Error}
    (h : action.perform moment directory = (.error error, directory)) :
    (action >>= f).perform moment directory = (.error error, directory) := by
  rw [perform_bind, h]

/-- A value is returned as it is. -/
@[simp]
theorem perform_pure (a : α) : (pure a : Action α).perform moment directory = (.ok a, directory) :=
  rfl

/-- A refusal fails on the spot. -/
@[simp]
theorem perform_throw (error : Error) :
    (throw error : Action α).perform moment directory = (.error error, directory) :=
  rfl

/-- A known outcome is returned as it is. -/
@[simp]
theorem perform_ofExcept (outcome : Except Error α) :
    (ofExcept outcome).perform moment directory = (outcome, directory) := by
  cases outcome <;> rfl

/-- The clock shows the time of the moment. -/
@[simp]
theorem perform_now : now.perform moment directory = (.ok moment.now, directory) :=
  rfl

/-- Drawing an id changes nothing but the number of ids drawn. -/
@[simp]
theorem perform_drawId {kind : Entity} :
    (drawId : Action (Ident kind)).perform moment directory =
      (.ok ⟨moment.ids directory.drawn⟩, { directory with drawn := directory.drawn + 1 }) :=
  rfl

/-- An action followed by a value succeeds exactly when the action does. -/
theorem perform_bind_pure_eq_ok {action : Action α} {f : α → β} {b : β} :
    (action >>= fun a => pure (f a)).perform moment directory = (.ok b, directory') ↔
      ∃ a, action.perform moment directory = (.ok a, directory') ∧ b = f a := by
  simp only [perform_bind_eq_ok, perform_pure, Prod.mk.injEq]
  constructor
  · rintro ⟨a, _, haction, hvalue, rfl⟩
    exact ⟨a, haction, (Except.ok.inj hvalue).symm⟩
  · rintro ⟨a, haction, rfl⟩
    exact ⟨a, directory', haction, rfl, rfl⟩

end Action

namespace Operator

/-- The actor of an operator is its user. -/
@[simp]
theorem actor_eq_ok {operator : Operator} {user : UserId} :
    operator.actor = .ok user ↔ operator.user = some user := by
  cases h : operator.user <;> simp [actor, h]

end Operator

namespace Store

variable {store store' : Store} {moment : Moment} {tables : Tables}

/-- Committed tables are the tables of the store. -/
theorem tables_of_commit (h : store.commit moment tables = .ok store') : store'.tables = tables := by
  unfold commit at h
  split at h
  · split at h
    · exact nomatch h
    · rw [← Except.ok.inj h]
  · rw [← Except.ok.inj h]

/-- Installing a draft begun on the store's tables commits the draft's tables. -/
theorem install_eq_commit {draft : Draft} (h : draft.Tracks store.tables) :
    store.install moment draft = store.commit moment draft.tables := by
  rw [install, h.layOver_eq]

end Store

namespace Usecase

variable {α : Type} {moment : Moment} {directory directory' : Directory} {value : α}

/-- The draft and the number of drawn ids that a program in a transaction starts from. -/
def opening (directory : Directory) : Draft × Nat :=
  ({ tables := directory.store.tables }, directory.drawn)

/-- What a transaction returns and leaves behind, the draft being the only thing it commits. -/
theorem perform_runTransaction (body : Program α) :
    (runTransaction body).perform moment directory =
      match body.onDraft moment.ids (opening directory).1 (opening directory).2 with
      | (.error error, _, drawn) => (.error error, { directory with drawn })
      | (.ok value, draft, drawn) =>
        match directory.store.commit moment draft.tables with
        | .error error => (.error error, { directory with drawn })
        | .ok store => (.ok value, { store, drawn }) := by
  have htracks := (Draft.Tracks.begun directory.store.tables).onDraft body moment.ids directory.drawn
  unfold Action.perform runTransaction opening
  revert htracks
  obtain ⟨outcome, draft, drawn⟩ :=
    body.onDraft moment.ids { tables := directory.store.tables } directory.drawn
  intro htracks
  cases outcome with
  | error error => rfl
  | ok value =>
    simp only [Store.install_eq_commit htracks]
    cases directory.store.commit moment draft.tables <;> rfl

/-- A transaction succeeds exactly when its program ends well and the draft can be committed. -/
theorem perform_runTransaction_eq_ok {body : Program α} :
    (runTransaction body).perform moment directory = (.ok value, directory') ↔
      ∃ draft drawn store, body.Ends moment.ids (opening directory) value (draft, drawn) ∧
        directory.store.commit moment draft.tables = .ok store ∧ directory' = { store, drawn } := by
  rw [perform_runTransaction]
  unfold Program.Ends
  obtain ⟨_ | a, draft, drawn⟩ :=
    body.onDraft moment.ids (opening directory).1 (opening directory).2
  · simp
  · cases hcommit : directory.store.commit moment draft.tables <;>
      simp [hcommit, and_assoc, eq_comm]

/-- A usecase in a transaction is the check and, if the caller passes, the transaction. -/
theorem perform_run {usecase : Usecase} (h : usecase.transactional = true)
    (operator : Option Operator) (body : Program α) :
    (usecase.run operator body).perform moment directory =
      match usecase.requirements.check operator with
      | .ok () => (runTransaction body).perform moment directory
      | .error error => (.error error, directory) := by
  rw [run, Action.perform_bind, Action.perform_ofExcept, if_pos h]
  cases usecase.requirements.check operator <;> rfl

/-- A usecase in a transaction succeeds exactly when the caller passes the check, the program ends
well and the draft can be committed. -/
theorem perform_run_eq_ok {usecase : Usecase} (h : usecase.transactional = true)
    {operator : Option Operator} {body : Program α} :
    (usecase.run operator body).perform moment directory = (.ok value, directory') ↔
      usecase.requirements.check operator = .ok () ∧
        ∃ draft drawn store, body.Ends moment.ids (opening directory) value (draft, drawn) ∧
          directory.store.commit moment draft.tables = .ok store ∧ directory' = { store, drawn } := by
  rw [perform_run h, ← perform_runTransaction_eq_ok]
  cases usecase.requirements.check operator <;> simp

/-- A program outside a transaction works on the committed tables. -/
theorem perform_runPlain (body : Program α) :
    (runPlain body).perform moment directory =
      ((body.onStore moment directory.store directory.drawn).1,
        { store := (body.onStore moment directory.store directory.drawn).2.1
          drawn := (body.onStore moment directory.store directory.drawn).2.2 }) := by
  unfold Action.perform runPlain
  obtain ⟨outcome, store, drawn⟩ := body.onStore moment directory.store directory.drawn
  cases outcome <;> rfl

/-- A query outside a transaction reads the committed tables and changes nothing. -/
@[simp]
theorem perform_runPlain_query (query : Query α) :
    (runPlain (.query query)).perform moment directory =
      (query.answer directory.store.tables, directory) := by
  rw [perform_runPlain]
  rfl

/-- A query that need not be answered reads the committed tables and changes nothing either. -/
@[simp]
theorem perform_runPlain_queryOptional (query : Query α) :
    (runPlain (Program.queryOptional query)).perform moment directory =
      (optional (query.answer directory.store.tables), directory) := by
  rw [perform_runPlain]
  rfl

/-- A transaction that fails leaves the store as it was. -/
theorem store_of_runTransaction_eq_error {body : Program α} {error : Error}
    (h : (runTransaction body).perform moment directory = (.error error, directory')) :
    directory'.store = directory.store := by
  rw [perform_runTransaction] at h
  revert h
  split
  · rintro ⟨⟩
    rfl
  · split
    · rintro ⟨⟩
      rfl
    · exact fun h => nomatch h

/-- A usecase in a transaction that fails leaves the store as it was. -/
theorem store_of_run_eq_error {usecase : Usecase} (h : usecase.transactional = true)
    {operator : Option Operator} {body : Program α} {error : Error}
    (hrun : (usecase.run operator body).perform moment directory = (.error error, directory')) :
    directory'.store = directory.store := by
  rw [perform_run h] at hrun
  split at hrun
  · exact store_of_runTransaction_eq_error hrun
  · cases hrun
    rfl

end Usecase

end Roster
