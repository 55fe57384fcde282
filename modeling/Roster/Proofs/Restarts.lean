import Roster.Proofs.Transparency

/-!
# What is found after a restart

A store that keeps a snapshot of its tables can be opened again from the file at any time, and then
holds what it held before. Memory and file cannot drift apart: the file is replaced first, and where
that fails the caller is told so, and nothing has changed.
-/

namespace Roster

/-! ## Snapshots -/

namespace Store

/-- Whatever tables are written are read back from their snapshot; and what a file holds, be there a
snapshot, a blank text, no file at all or something that cannot be loaded, is the same once it has
been loaded and written. -/
theorem snapshots_lossless :
    (∀ t : Tables, load? (some t.toSnapshot) = some t) ∧
      ∀ file, ((load? file).bind fun t => load? (some t.toSnapshot)) = load? file := by
  refine ⟨Tables.ofSnapshot?_toSnapshot, fun file => ?_⟩
  have hload : (fun t : Tables => load? (some t.toSnapshot)) = some :=
    funext Tables.ofSnapshot?_toSnapshot
  rw [hload]
  exact Option.bind_fun_some (load? file)

variable {store : Store} {moment : Moment} {reason : String}

/-- The tables of a store are kept in its file, from which they can be loaded. -/
structure Kept (store : Store) : Prop where
  attached : store.attached = true
  faithful : store.Faithful

/-- A store that has been opened is kept in the file it was opened from. -/
theorem kept_of_open? {file : Option String} {label : Nat}
    (h : open? file true label = some store) : store.Kept := by
  obtain ⟨t, hload, hstore⟩ := Option.bind_eq_some_iff.1 h
  obtain rfl := Option.some.inj hstore
  exact ⟨rfl, fun _ => hload⟩

/-- A store that is kept in its file is opened again from there as it is. -/
theorem Kept.open?_eq (h : store.Kept) (label : Nat) :
    open? store.file true label = some { store with label } := by
  obtain ⟨before, t, file, attached⟩ := store
  obtain rfl : attached = true := h.attached
  exact Option.bind_eq_some_iff.2 ⟨t, h.faithful rfl, rfl⟩

/-- Committing other tables keeps them as well. -/
theorem Kept.holding (h : store.Kept) (t : Tables) : (store.holding t).Kept where
  attached := h.attached
  faithful := store.faithful_holding t

end Store

/-! ## Turns that write the snapshot -/

namespace Hub

/-- What a turn returns to whoever takes it. -/
def reply (hub : Hub) (turn : Turn) : Except Error Unit :=
  match turn.event with
  | .tell session command => (hub.tell turn.moment session command).map fun _ => ()
  | .finish number => if hub.isOpen number then (hub.finish turn.moment number).1 else .ok ()
  | _ => .ok ()

variable {hub : Hub} {turn : Turn} {draft : Draft} {number : Nat}

/-- Giving a transaction up changes nothing that can be read through any session. -/
theorem ask_drop {α : Type} (hub : Hub) (number : Nat) (session : Session) (query : Query α) :
    (hub.drop number).ask session query = hub.ask session query := by
  have hseen : (hub.drop number).seen session = hub.seen session := by
    cases session with
    | plain | other content => rfl
    | transaction label number' =>
      simp only [seen, transactionOf, drop, List.getElem?_modify]
      by_cases hlabel : label = hub.store.label
      · cases hub.transactions[number']? with
        | none => rfl
        | some tx => by_cases hnumber : number = number' <;> simp [hlabel, hnumber, Except.map]
      · rw [if_neg hlabel, if_neg hlabel]
  rw [ask_eq, ask_eq, hseen]

/-- A turn that has something to commit returns what the commit returns. -/
theorem reply_of_staged (hstaged : hub.staged? turn.event = some draft) :
    hub.reply turn = (hub.store.install turn.moment draft).map fun _ => () := by
  obtain ⟨moment, event⟩ := turn
  obtain ⟨session, command, rfl, hsession, happly⟩ | ⟨number, tx, rfl, htx, hopen, hmarked, rfl⟩ :=
    staged_cases hstaged
  · simp only [reply, tell_of_plain moment hsession, execute_eq_install, happly]
    change ((hub.store.install moment draft).map _).map _ = _
    cases hub.store.install moment draft <;> rfl
  · have hisOpen : hub.isOpen number = true := by rw [isOpen_eq htx, hopen]; rfl
    simp only [reply, hisOpen, if_true, finish_of_marked htx hmarked]
    cases hub.store.install moment tx.draft <;> rfl

/-- When something cannot be committed, everything is read as before. -/
theorem ask_take_of_unwritten {α : Type} {error : Error}
    (hstaged : hub.staged? turn.event = some draft)
    (hinstall : hub.store.install turn.moment draft = .error error) (session : Session)
    (query : Query α) : (hub.take turn).ask session query = hub.ask session query := by
  obtain ⟨moment, event⟩ := turn
  obtain ⟨session', command, rfl, hsession, happly⟩ | ⟨number, tx, rfl, htx, hopen, hmarked, rfl⟩ :=
    staged_cases hstaged
  · have htell : hub.tell moment session' command = .error error := by
      rw [tell_of_plain moment hsession, execute_eq_install, happly]
      change (hub.store.install moment draft).map _ = _
      rw [hinstall]
      rfl
    simp only [take, htell]
  · have hisOpen : hub.isOpen number = true := by rw [isOpen_eq htx, hopen]; rfl
    simp only [take, hisOpen, if_true, finish_of_marked htx hmarked, hinstall]
    exact hub.ask_drop number session query

/-- As long as it is in use, a store keeps its tables in its file. -/
theorem kept_after (hkept : hub.store.Kept) (schedule : List Turn) :
    (hub.after schedule).store.Kept := by
  induction schedule generalizing hub with
  | nil => exact hkept
  | cons turn rest ih =>
    refine ih ?_
    obtain hsame | ⟨t, hcommit⟩ := hub.store_take_cases turn
    · rwa [hsame]
    · rw [hcommit]
      exact hkept.holding t

/-- The store of a hub outlives the hub. -/
structure Durable (hub : Hub) : Prop where
  /-- It is opened again from its file as it is. -/
  reopens : ∀ label, Store.open? hub.store.file true label = some { hub.store with label }
  /-- What a turn has to commit is in the file once the turn has returned well, which it does if the
  snapshot can be written. -/
  written : ∀ turn draft, hub.staged? turn.event = some draft → turn.moment.writeFault = none →
    hub.reply turn = .ok () ∧
      Store.load? (hub.take turn).store.file = some (draft.layOver hub.store.tables)
  /-- If the snapshot cannot be written, the turn returns the reason as an error of the store, the
  committed tables and the file are left as they were, and everything is read as before. -/
  unwritten : ∀ turn draft reason, hub.staged? turn.event = some draft →
    turn.moment.writeFault = some reason →
      hub.reply turn = .error (.storage reason) ∧ (hub.take turn).store = hub.store ∧
        ∀ {α : Type} session (query : Query α),
          (hub.take turn).ask session query = hub.ask session query

/-- A store that is kept in its file outlives its hub. -/
theorem durable_of_kept (hkept : hub.store.Kept) : hub.Durable where
  reopens := hkept.open?_eq
  written turn draft hstaged hfault := by
    have hinstall : hub.store.install turn.moment draft =
        .ok (hub.store.holding (draft.layOver hub.store.tables)) :=
      Store.commit_of_writable (fun _ => hfault) _
    have hstore : (hub.take turn).store = hub.store.holding (draft.layOver hub.store.tables) := by
      rw [store_take, hstaged, Option.bind_some, hinstall]
      rfl
    constructor
    · rw [reply_of_staged hstaged, hinstall]
      rfl
    · rw [hstore]
      exact hub.store.faithful_holding _ hkept.attached
  unwritten turn draft reason hstaged hfault := by
    have hinstall : hub.store.install turn.moment draft = .error (.storage reason) := by
      unfold Store.install Store.commit
      rw [if_pos hkept.attached, hfault]
    refine ⟨?_, ?_, ask_take_of_unwritten hstaged hinstall⟩
    · rw [reply_of_staged hstaged, hinstall]
      rfl
    · rw [store_take, hstaged, Option.bind_some, hinstall]
      rfl

/-- Whatever is done to a store that has been opened from a file, in whatever order and with
whatever luck in writing the snapshot, the store outlives the hub at every point. -/
theorem durable_after {file : Option String} {label : Nat} {store : Store}
    (hopen : Store.open? file true label = some store) (schedule : List Turn) :
    (Hub.after { store } schedule).Durable :=
  durable_of_kept (kept_after (Store.kept_of_open? hopen) schedule)

/-! ### The disk runs full -/

namespace FullDisk

/-- The reason that is given when the disk is full. -/
def reason : String :=
  "Failed to write store file"

/-- A moment at which the disk has room or is full. -/
def moment (full : Bool) : Moment :=
  { Moment.epoch with writeFault := if full then some reason else none }

/-- A role that is filed in time. -/
def clerk : AccessRole := { id := ⟨"r1"⟩, name := "clerk" }

/-- A role that comes late. -/
def warden : AccessRole := { id := ⟨"r2"⟩, name := "warden" }

/-- The clerk is filed while there is room, and a transaction takes the role away again and is
marked to be committed. -/
def schedule : List Turn :=
  [⟨moment false, .tell .plain (.saveRole clerk)⟩, ⟨moment false, .begin⟩,
    ⟨moment false, .tell (.transaction 0 0) (.removeRole clerk.id)⟩,
    ⟨moment false, .mark 0 true⟩]

/-- The hub of a store that was opened from a blank file, after the schedule. -/
def office : Hub :=
  Hub.after { store := .blank 0 (some "\n") true } schedule

/-- When the disk is full, neither can the warden be filed nor can the transaction end well: the
clerk is still read, and still found when the store is opened again. With room on the disk, the
warden would be found as well. -/
theorem durable_office :
    office.reply ⟨moment true, .tell .plain (.saveRole warden)⟩ = .error (.storage reason) ∧
    office.reply ⟨moment true, .finish 0⟩ = .error (.storage reason) ∧
    (office.take ⟨moment true, .finish 0⟩).ask .plain (.role clerk.id) = .ok clerk ∧
    (Store.open? office.store.file true).map Store.tables =
      some { roles := Table.insert ∅ clerk.id clerk } ∧
    Store.load? (office.take ⟨moment false, .tell .plain (.saveRole warden)⟩).store.file =
      some { roles := (Table.insert ∅ clerk.id clerk).insert warden.id warden } := by
  have hblank : (Text.trim "\n").isEmpty = true := by decide +kernel
  have hopen : Store.open? (some "\n") true = some (.blank 0 (some "\n") true) := by
    simp only [Store.open?, Store.load?, Tables.ofSnapshot?, hblank]
    rfl
  have hdurable : office.Durable := durable_after hopen schedule
  obtain ⟨hwarden, -, -⟩ := hdurable.unwritten ⟨moment true, .tell .plain (.saveRole warden)⟩ _ _
    rfl rfl
  obtain ⟨hfinish, -, hread⟩ := hdurable.unwritten ⟨moment true, .finish 0⟩ _ _ rfl rfl
  obtain ⟨-, hwritten⟩ := hdurable.written ⟨moment false, .tell .plain (.saveRole warden)⟩ _ rfl rfl
  refine ⟨hwarden, hfinish, (hread .plain _).trans rfl, ?_, hwritten⟩
  rw [hdurable.reopens]
  rfl

end FullDisk

end Hub

end Roster
