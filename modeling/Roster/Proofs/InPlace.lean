import Roster.Proofs.SessionScopes

/-!
# Changes made in place

A change says what it makes of a value, or why it is refused. It is another matter to make it on the
value itself, as tables are changed that others look at, too: there whatever has been done before a
failure remains. This is safe if nothing is done before the last check has been passed. Commands are
of this kind, on the draft of a transaction as well as on the committed tables, so that a call that
fails leaves everything as it was.
-/

namespace Roster

/-- Work that changes a value step by step. When it fails, what it did before remains. -/
abbrev InPlace (σ : Type) :=
  EStateM Error σ

namespace InPlace

variable {σ τ α : Type}

/-- A failure does not undo anything. -/
example : (do set 1; throw .invalidId : InPlace Nat Unit).run 0 = .error .invalidId 1 := rfl

/-- How work on a value ends that comes to an outcome: with the value that the outcome is, or else with
the value as it was. -/
def ending (s : σ) : Except Error σ → EStateM.Result Error σ Unit
  | .ok s' => .ok () s'
  | .error error => .error error s

/-- Work realizes a change if it makes of each value what the change makes of it and, where the change
is refused, fails for the same reason and leaves the value as it was. -/
def Realizes (work : InPlace σ Unit) (change : σ → Except Error σ) : Prop :=
  ∀ s, work.run s = ending s (change s)

/-- What work leaves behind, be it done or cut short by a failure. -/
def left (work : InPlace σ Unit) (s : σ) : σ :=
  match work.run s with
  | .ok _ s' => s'
  | .error _ s' => s'

/-- Work on a part of a value, which is changed where it is. -/
def within (part : σ → τ) (put : σ → τ → σ) (work : InPlace τ Unit) : InPlace σ Unit := fun s =>
  match work.run (part s) with
  | .ok _ t => .ok () (put s t)
  | .error error t => .error error (put s t)

/-- Work on a copy of a value, which is given out when the work is done. -/
def onCopy (work : InPlace τ Unit) (t : τ) : InPlace σ τ := fun s =>
  match work.run t with
  | .ok _ t' => .ok t' s
  | .error error _ => .error error s

/-- Steps that never fail are done one after another. -/
theorem run_forM {step : α → InPlace σ Unit} (next : σ → α → σ)
    (hstep : ∀ a s, (step a).run s = .ok () (next s a)) (items : List α) (s : σ) :
    (items.forM step).run s = .ok () (items.foldl next s) := by
  induction items generalizing s with
  | nil => rfl
  | cons a rest ih =>
    change ((step a) >>= fun _ => rest.forM step).run s = _
    rw [EStateM.run_bind, hstep a s, List.foldl_cons, ← ih]

namespace Realizes

variable {work : InPlace σ Unit} {change : σ → Except Error σ} {s s' : σ} {error : Error}

/-- Work that realizes a change is done exactly when the change is made. -/
theorem run_eq_ok (h : work.Realizes change) : work.run s = .ok () s' ↔ change s = .ok s' := by
  rw [h s]
  cases change s <;> simp [ending]

/-- Work that realizes a change fails exactly when the change is refused, and then it leaves the value
as it was. -/
theorem run_eq_error (h : work.Realizes change) :
    work.run s = .error error s' ↔ s' = s ∧ change s = .error error := by
  rw [h s]
  cases change s <;> simp [ending, and_comm, eq_comm]

/-- Work that realizes a change leaves behind what the change makes of the value, if it makes
anything of it. -/
theorem left_eq (h : work.Realizes change) (s : σ) : work.left s = (change s).toOption.getD s := by
  rw [left, h s]
  cases change s <;> rfl

/-- The change may be told in another way. -/
theorem congr {change' : σ → Except Error σ} (h : work.Realizes change)
    (hsame : ∀ s, change s = change' s) : work.Realizes change' := fun s => by
  rw [← hsame, h s]

/-- To refuse work beforehand is to refuse the change. -/
theorem refusing (h : work.Realizes change) (refused : σ → Bool) (reason : σ → Error) :
    (do let s ← get
        if refused s then throw (reason s)
        work : InPlace σ Unit).Realizes
      fun s => (do
        if refused s then throw (reason s)
        change s) := by
  intro s
  simp only [EStateM.run_bind, EStateM.run_get]
  cases refused s with
  | true => rfl
  | false => exact h s

/-- Work on a part realizes the change of the part, if nothing changes when the part is put back where
it was. -/
theorem run_within {work : InPlace τ Unit} {change : τ → Except Error τ} (h : work.Realizes change)
    {part : σ → τ} {put : σ → τ → σ} (hput : put s (part s) = s) :
    (work.within part put).run s = ending s ((change (part s)).map (put s)) := by
  change (match work.run (part s) with | .ok _ t => _ | .error error t => _) = _
  rw [h (part s)]
  cases change (part s) with
  | ok t => rfl
  | error error => exact congrArg _ hput

/-- Work that realizes a change gives the changed copy out, and touches nothing else. -/
theorem run_onCopy {work : InPlace τ Unit} {change : τ → Except Error τ} (h : work.Realizes change)
    (t : τ) (s : σ) :
    (work.onCopy t).run s = match change t with
      | .ok t' => .ok t' s
      | .error error => .error error s := by
  change (match work.run t with | .ok _ t' => _ | .error error _ => _) = _
  rw [h t]
  cases change t <;> rfl

end Realizes

end InPlace

/-! ## Drafts -/

/-- One of the tables: its place among the others, and where its keys are noted when they are
touched. -/
structure Shelf (kind : Entity) (ρ : Type) where
  rows : Tables → Table kind ρ
  restock : Tables → Table kind ρ → Tables
  note : Touched → Ident kind → Touched
  /-- Nothing changes when the rows are those that are there. -/
  restock_rows : ∀ t, restock t (rows t) = t

namespace Shelf

/-- The shelf of the workspaces. -/
def workspaces : Shelf .workspace Workspace where
  rows := Tables.workspaces
  restock t workspaces := { t with workspaces }
  note touched id := { touched with workspaces := id :: touched.workspaces }
  restock_rows _ := rfl

/-- The shelf of the users. -/
def users : Shelf .user User where
  rows := Tables.users
  restock t users := { t with users }
  note touched id := { touched with users := id :: touched.users }
  restock_rows _ := rfl

/-- The shelf of the access roles. -/
def roles : Shelf .role AccessRole where
  rows := Tables.roles
  restock t roles := { t with roles }
  note touched id := { touched with roles := id :: touched.roles }
  restock_rows _ := rfl

/-- The shelf of the permittables. -/
def permittables : Shelf .permittable Permittable where
  rows := Tables.permittables
  restock t permittables := { t with permittables }
  note touched id := { touched with permittables := id :: touched.permittables }
  restock_rows _ := rfl

variable {kind : Entity} {ρ : Type} (shelf : Shelf kind ρ) (id : Ident kind) (row : ρ)

/-- The draft with a row filed under a key. -/
def put (draft : Draft) : Draft where
  tables := shelf.restock draft.tables ((shelf.rows draft.tables).insert id row)
  touched := shelf.note draft.touched id

/-- The draft without the row under a key. -/
def drop (draft : Draft) : Draft where
  tables := shelf.restock draft.tables ((shelf.rows draft.tables).erase id)
  touched := shelf.note draft.touched id

/-- Note that a key is touched. -/
def touch : InPlace Draft Unit :=
  modify fun draft => { draft with touched := shelf.note draft.touched id }

/-- File a row under a key. -/
def file : InPlace Draft Unit := do
  shelf.touch id
  modify fun draft => { draft with
    tables := shelf.restock draft.tables ((shelf.rows draft.tables).insert id row) }

/-- Take the row under a key away; tells whether there was one. -/
def takeAway : InPlace Draft Bool := do
  let there := (shelf.rows (← get).tables).contains id
  modify fun draft => { draft with
    tables := shelf.restock draft.tables ((shelf.rows draft.tables).erase id) }
  return there

/-- File a row under a key that has to be free. -/
def create (what : String) : InPlace Draft Unit := do
  if (shelf.rows (← get).tables).contains id then throw (.alreadyExists what)
  shelf.file id row

/-- File a row under a key unless some row clashes with it. -/
def save (clashes : ρ → Bool) (what : String) : InPlace Draft Unit := do
  if (shelf.rows (← get).tables).values.any clashes then throw (.alreadyExists what)
  shelf.file id row

/-- Take the row under a key away, and fail if there was none. -/
def remove (what : String) : InPlace Draft Unit := do
  if !(← shelf.takeAway id) then throw (.notFound what)
  shelf.touch id

/-- Take the row under a key away if there is one. -/
def discard : InPlace Draft Unit := do
  if ← shelf.takeAway id then shelf.touch id

/-- To file a row always succeeds. -/
theorem file_realizes : (shelf.file id row).Realizes fun draft => .ok (shelf.put id row draft) :=
  fun _ => rfl

/-- To create a row is to file it, if its key is free. -/
theorem create_realizes (what : String) :
    (shelf.create id row what).Realizes fun draft => do
      if (shelf.rows draft.tables).contains id then throw (.alreadyExists what)
      return shelf.put id row draft :=
  (shelf.file_realizes id row).refusing (fun draft => (shelf.rows draft.tables).contains id)
    fun _ => .alreadyExists what

/-- To save a row is to file it, if no row clashes with it. -/
theorem save_realizes (clashes : ρ → Bool) (what : String) :
    (shelf.save id row clashes what).Realizes fun draft => do
      if (shelf.rows draft.tables).values.any clashes then throw (.alreadyExists what)
      return shelf.put id row draft :=
  (shelf.file_realizes id row).refusing (fun draft => (shelf.rows draft.tables).values.any clashes)
    fun _ => .alreadyExists what

/-- To take a row away where there is none changes nothing. -/
theorem run_takeAway (draft : Draft) :
    (shelf.takeAway id).run draft =
      if (shelf.rows draft.tables).contains id then
        .ok true { shelf.drop id draft with touched := draft.touched }
      else .ok false draft := by
  change EStateM.Result.ok ((shelf.rows draft.tables).contains id)
    { draft with tables := shelf.restock draft.tables ((shelf.rows draft.tables).erase id) } = _
  cases hthere : (shelf.rows draft.tables).contains id with
  | true => rfl
  | false => rw [Table.erase_of_free hthere, shelf.restock_rows, if_neg Bool.false_ne_true]

/-- Though a row is taken away before it is known to have been there, to remove it is to drop it, if
it is there. -/
theorem remove_realizes (what : String) :
    (shelf.remove id what).Realizes fun draft => do
      if !(shelf.rows draft.tables).contains id then throw (.notFound what)
      return shelf.drop id draft := by
  intro draft
  simp only [remove, EStateM.run_bind, run_takeAway]
  cases (shelf.rows draft.tables).contains id <;> rfl

/-- To discard a row is to drop it if it is there. -/
theorem run_discard (draft : Draft) :
    (shelf.discard id).run draft =
      .ok () (if (shelf.rows draft.tables).contains id then shelf.drop id draft else draft) := by
  simp only [discard, EStateM.run_bind, run_takeAway]
  cases (shelf.rows draft.tables).contains id <;> rfl

end Shelf

namespace Command

/-- Make the change in place. -/
def inPlace : Command → InPlace Draft Unit
  | createWorkspace _ ws => Shelf.workspaces.create ws.id ws ("workspace " ++ ws.id.text)
  | saveWorkspaces _ workspaces => workspaces.forM fun ws => Shelf.workspaces.file ws.id ws
  | removeWorkspace _ id => Shelf.workspaces.remove id ("workspace " ++ id.text)
  | removeWorkspaces _ ids => ids.forM Shelf.workspaces.discard
  | saveUser user =>
    Shelf.users.save user.id user (fun u => u.id ≠ user.id && u.email = user.email)
      ("email " ++ user.email)
  | removeUser id => Shelf.users.remove id ("user " ++ id.text)
  | saveRole role =>
    Shelf.roles.save role.id role (fun r => r.id ≠ role.id && r.name = role.name)
      ("role " ++ role.name)
  | removeRole id => Shelf.roles.remove id ("role " ++ id.text)
  | savePermittable p =>
    Shelf.permittables.save p.id p (fun q => q.id ≠ p.id && q.user = p.user)
      ("permittable for user " ++ p.user.text)
  | removePermittable id => Shelf.permittables.remove id ("permittable " ++ id.text)

/-- What is done in place is the change of the command, and nothing if the change is refused. -/
theorem inPlace_realizes (command : Command) : command.inPlace.Realizes command.change := by
  cases command with
  | createWorkspace filter ws => exact Shelf.workspaces.create_realizes ws.id ws _
  | saveWorkspaces filter workspaces =>
    exact InPlace.run_forM Draft.putWorkspace (fun _ _ => rfl) workspaces
  | removeWorkspace filter id => exact Shelf.workspaces.remove_realizes id _
  | removeWorkspaces filter ids => exact InPlace.run_forM _ Shelf.workspaces.run_discard ids
  | saveUser user => exact Shelf.users.save_realizes user.id user _ _
  | removeUser id => exact Shelf.users.remove_realizes id _
  | saveRole role => exact Shelf.roles.save_realizes role.id role _ _
  | removeRole id => exact Shelf.roles.remove_realizes id _
  | savePermittable p => exact Shelf.permittables.save_realizes p.id p _ _
  | removePermittable id => exact Shelf.permittables.remove_realizes id _

end Command

/-! ## Calls -/

/-- Commit other tables in place: once the snapshot has been written, the tables are replaced. -/
def Store.commitInPlace (moment : Moment) (tables : Tables) : InPlace Store Unit := do
  if (← get).attached then
    if let some reason := moment.writeFault then throw (.storage reason)
    modify ({ · with file := some tables.toSnapshot })
  modify ({ · with tables })

/-- Nothing is committed unless the snapshot can be written. -/
theorem Store.commitInPlace_realizes (moment : Moment) (tables : Tables) :
    (commitInPlace moment tables).Realizes (·.commit moment tables) := by
  rintro ⟨label, committed, file, attached⟩
  cases attached with
  | false => rfl
  | true =>
    unfold commitInPlace commit
    cases moment.writeFault <;> rfl

namespace Hub

/-- Carry out a command through a session in place. The draft of a transaction is changed where it is;
the committed tables are copied, and the changed copy is committed. -/
def tellInPlace (moment : Moment) (session : Session) (command : Command) : InPlace Hub Unit := do
  if let some error := command.refusal? then throw error
  match (← get).transactionOf session with
  | .error error => throw error
  | .ok (some (number, transaction)) =>
    command.inPlace.within (fun _ => transaction.draft) fun hub draft =>
      { hub with transactions := hub.transactions.set number { transaction with draft } }
  | .ok none =>
    let draft ← command.inPlace.onCopy { tables := (← get).store.tables }
    (Store.commitInPlace moment draft.tables).within Hub.store fun hub store => { hub with store }

/-- What is done in place is what the command says, and nothing if it fails. -/
theorem tellInPlace_realizes (moment : Moment) (session : Session) (command : Command) :
    (tellInPlace moment session command).Realizes (·.tell moment session command) := by
  intro hub
  cases hrefusal : command.refusal? with
  | some error =>
    simp only [tellInPlace, tell, hrefusal]
    rfl
  | none =>
    obtain hplain | ⟨number, tx, htx, hsession⟩ | ⟨error, hrefused⟩ :=
      hub.transactionOf_cases session
    · simp only [tellInPlace, hrefusal, EStateM.run_bind, EStateM.run_get, hplain,
        command.inPlace_realizes.run_onCopy]
      rw [tell_of_plain moment hplain, Store.execute, Command.apply_of_refusal?_eq_none hrefusal]
      cases command.change { tables := hub.store.tables } with
      | error error => rfl
      | ok draft =>
        have hcommit := Store.commitInPlace_realizes moment draft.tables
        exact hcommit.run_within (s := hub) rfl
    · simp only [tellInPlace, hrefusal, EStateM.run_bind, EStateM.run_get, hsession]
      rw [tell_of_transaction moment hsession, Command.apply_of_refusal?_eq_none hrefusal]
      have hback := (redraft_eq htx tx.draft).symm.trans (redraft_self htx)
      refine (command.inPlace_realizes.run_within hback).trans ?_
      cases command.change tx.draft <;> rfl
    · simp only [tellInPlace, tell, hrefusal, EStateM.run_bind, EStateM.run_get, hrefused]
      rfl

/-- Through whatever session a command is given, and whether or not the snapshot can be written: in
place it fails exactly when it is refused, and then the hub is what it was, with the drafts of all
transactions and the rows that they will commit, the committed tables and the snapshot; and it is done
exactly when it is carried out, with the hub that it leaves behind. -/
theorem unchanged_unless_told (hub hub' : Hub) (moment : Moment) (session : Session)
    (command : Command) :
    (∀ error, (tellInPlace moment session command).run hub = .error error hub' ↔
      hub' = hub ∧ hub.tell moment session command = .error error) ∧
    ((tellInPlace moment session command).run hub = .ok () hub' ↔
      hub.tell moment session command = .ok hub') :=
  ⟨fun _ => (tellInPlace_realizes moment session command).run_eq_error,
    (tellInPlace_realizes moment session command).run_eq_ok⟩

end Hub

end Roster
