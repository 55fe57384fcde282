import Mathlib.Data.List.Induction
import Roster.Proofs.UniqueKeys
import Roster.Proofs.Writes

/-!
# What a transaction sees and commits

From its begin on, a transaction works on a copy of the tables that were committed then. Whatever
else happens on the hub, the copy differs from them by what was told through the transaction's own
session. When the transaction ends marked to be committed, just the rows that it has written or
removed are moved to the committed tables of that moment.
-/

namespace Roster

/-! ## Commits -/

namespace Store

variable {store store' : Store} {moment : Moment} {tables : Tables}

/-- The snapshot can be written, if there is one to be kept. -/
def Writable (store : Store) (moment : Moment) : Prop :=
  store.attached = true → moment.writeFault = none

/-- The store once it has committed some tables. -/
def holding (store : Store) (tables : Tables) : Store :=
  { store with tables, file := if store.attached then some tables.toSnapshot else store.file }

/-- A commit succeeds exactly when the snapshot can be written. -/
theorem commit_eq_ok_iff : store.commit moment tables = .ok store' ↔
    store.Writable moment ∧ store' = store.holding tables := by
  unfold commit Writable holding
  cases store.attached <;> cases moment.writeFault <;> simp [eq_comm]

/-- When the snapshot can be written, everything can be committed. -/
theorem commit_of_writable (h : store.Writable moment) (tables : Tables) :
    store.commit moment tables = .ok (store.holding tables) :=
  commit_eq_ok_iff.2 ⟨h, rfl⟩

end Store

/-! ## Drafts and the commands they have been through -/

/-- A draft has come from some tables by commands: it is what they make of the tables, and has
touched the keys that they wrote. -/
structure Draft.Reflects (draft : Draft) (base : Tables) (commands : List Command) : Prop where
  tables : draft.tables = base.after commands
  touches : ∀ key, draft.Touches key ↔ base.Written commands key
  tracks : draft.Tracks base

namespace Draft.Reflects

variable {draft draft' : Draft} {base : Tables} {commands : List Command} {command : Command}
  {error : Error}

/-- A draft that has just begun has been through no command. -/
theorem begun (base : Tables) : Draft.Reflects { tables := base } base [] where
  tables := rfl
  touches key := by
    refine iff_of_false (not_touches_begun base key) ?_
    rintro ⟨earlier, command, later, t', hsplit, -⟩
    simp at hsplit
  tracks := .begun base

/-- One more command may succeed. -/
theorem apply (h : draft.Reflects base commands) (happly : command.apply draft = .ok draft') :
    draft'.Reflects base (commands ++ [command]) := by
  have hon : command.on (base.after commands) = .ok draft'.tables := by
    rw [← h.tables, ← map_tables_apply, happly]
    rfl
  have htracks := h.tracks.change (Command.change_of_apply happly)
  refine ⟨(Tables.after_concat_of_ok hon).symm, fun key => ?_, htracks⟩
  rw [touches_of_apply happly, h.touches, Tables.written_concat, h.tables]
  refine or_congr_right ⟨fun haffects => ⟨_, hon, haffects⟩, ?_⟩
  rintro ⟨t', -, haffects⟩
  exact haffects

/-- One more command may be refused. -/
theorem refuse (h : draft.Reflects base commands) (happly : command.apply draft = .error error) :
    draft.Reflects base (commands ++ [command]) := by
  have hon : command.on (base.after commands) = .error error := by
    rw [← h.tables, ← map_tables_apply, happly]
    rfl
  refine ⟨h.tables.trans (Tables.after_concat_of_error hon).symm, fun key => ?_, h.tracks⟩
  rw [h.touches, Tables.written_concat, or_iff_left]
  rintro ⟨t', hon', -⟩
  exact nomatch hon.symm.trans hon'

/-- One more command may be told, whether it succeeds or not. -/
theorem tell (h : draft.Reflects base commands) (command : Command) :
    ((command.apply draft).toOption.getD draft).Reflects base (commands ++ [command]) := by
  cases happly : command.apply draft with
  | error error => exact h.refuse happly
  | ok draft' => exact h.apply happly

/-- Of a key that the commands wrote the draft has the row that they leave there; under any other
key, the tables that it is laid over keep theirs. -/
theorem row?_layOver (h : draft.Reflects base commands) (t : Tables) (key : Key) :
    (base.Written commands key → (draft.layOver t).row? key = (base.after commands).row? key) ∧
      (¬ base.Written commands key → (draft.layOver t).row? key = t.row? key) := by
  rw [← h.touches, ← h.tables]
  exact ⟨row?_layOver_of_touches t, row?_layOver_of_not_touches t⟩

end Draft.Reflects

/-! ## What a turn does to a transaction -/

namespace Hub

/-- The command that an event tells through a session. -/
def Event.told? (session : Session) : Event → Option Command
  | .tell session' command => if session' = session then some command else none
  | _ => none

/-- The mark that an event puts on a transaction. -/
def Event.mark? (number : Nat) : Event → Option Bool
  | .mark number' marked => if number' = number then some marked else none
  | _ => none

/-- Whether an event ends a transaction. -/
def Event.ends (number : Nat) : Event → Bool
  | .drop number' | .finish number' => number' = number
  | _ => false

/-- What becomes of a transaction in an event. -/
def Event.on (event : Event) (session : Session) (number : Nat) (tx : Transaction) :
    Transaction where
  draft := (event.told? session).elim tx.draft fun command =>
    (command.apply tx.draft).toOption.getD tx.draft
  marked := if tx.ended then tx.marked else (event.mark? number).getD tx.marked
  ended := tx.ended || event.ends number

/-- In an event, a draft goes through the command that its transaction is told, if any. -/
theorem Event.reflects_on {tx : Transaction} {base : Tables} {commands : List Command}
    (h : tx.draft.Reflects base commands) (event : Event) (session : Session) (number : Nat) :
    (event.on session number tx).draft.Reflects base
      (commands ++ (event.told? session).toList) := by
  cases htold : event.told? session with
  | none => simpa [on, htold] using h
  | some command => simpa [on, htold] using h.tell command

/-- A mark is put on an open transaction. -/
theorem Event.on_mark (session : Session) (number number' : Nat) (marked : Bool)
    (tx : Transaction) :
    (Event.mark number' marked).on session number tx =
      if number' = number ∧ tx.ended = false then { tx with marked } else tx := by
  obtain ⟨draft, before, ended⟩ := tx
  by_cases hnumber : number' = number <;> cases ended <;>
    simp [Event.on, told?, mark?, ends, hnumber]

/-- Giving a transaction up ends it if it is open. -/
theorem Event.on_drop (session : Session) (number number' : Nat) (tx : Transaction) :
    (Event.drop number').on session number tx =
      if number' = number ∧ tx.ended = false then { tx with ended := true } else tx := by
  obtain ⟨draft, marked, ended⟩ := tx
  by_cases hnumber : number' = number <;> cases ended <;>
    simp [Event.on, told?, mark?, ends, hnumber]

variable {hub : Hub} {number : Nat} {tx : Transaction}

/-- A transaction is open if it has begun and not ended. -/
theorem isOpen_eq (htx : hub.transactions[number]? = some tx) : hub.isOpen number = !tx.ended := by
  rw [isOpen, htx, Option.any_some]

/-- A transaction is marked to be committed or not. -/
theorem isMarked_eq (htx : hub.transactions[number]? = some tx) :
    hub.isMarked number = tx.marked := by
  rw [isMarked, htx, Option.any_some]

/-- A session belongs to a transaction only if it is the session of that transaction. -/
theorem session_of_transactionOf {session : Session}
    (h : hub.transactionOf session = .ok (some (number, tx))) : session = hub.session number := by
  unfold transactionOf at h
  split at h
  · split at h
    · rename_i label number' hlabel
      split at h
      · simp only [Except.ok.injEq, Option.some.injEq, Prod.mk.injEq] at h
        rw [hlabel, h.1]
        rfl
      · exact nomatch h
    · exact nomatch h
  · simp at h

/-- The end of a transaction is all that its neighbours see of its outcome. -/
theorem transactions_finish (hub : Hub) (moment : Moment) (number : Nat) :
    (hub.finish moment number).2.transactions = (hub.drop number).transactions := by
  unfold finish
  split
  · split <;> rfl
  · rfl

/-- What is done to a transaction if it is open leaves every other one alone. -/
theorem getElem?_modify_open (htx : hub.transactions[number]? = some tx) (number' : Nat)
    (f : Transaction → Transaction) :
    (if hub.isOpen number' then hub.transactions.modify number' f else hub.transactions)[number]? =
      some (if number' = number ∧ tx.ended = false then f tx else tx) := by
  by_cases hnumber : number' = number
  · subst hnumber
    cases hended : tx.ended <;> simp [isOpen_eq htx, hended, htx]
  · have hother : (hub.transactions.modify number' f)[number]? = some tx := by
      simp [hnumber, htx]
    rw [if_neg (not_and_of_not_left _ hnumber)]
    split
    · exact hother
    · exact htx

/-- A command makes of a transaction what the event of telling it does. -/
theorem transaction_tell (htx : hub.transactions[number]? = some tx) (moment : Moment)
    (session : Session) (command : Command) :
    (hub.take ⟨moment, .tell session command⟩).transactions[number]? =
      some ((Event.tell session command).on (hub.session number) number tx) := by
  have hsession := transactionOf_session htx
  simp only [take, Event.on, Event.told?, Event.mark?, Event.ends, Option.getD_none, ite_self,
    Bool.or_false]
  obtain hplain | ⟨number', tx', htx', hof⟩ | ⟨error, hrefused⟩ := hub.transactionOf_cases session
  · have hne : session ≠ hub.session number := by
      rintro rfl
      cases hplain.symm.trans hsession
    rw [tell_of_plain moment hplain, if_neg hne]
    cases hub.store.execute moment command <;> exact htx
  · obtain rfl := session_of_transactionOf hof
    have hlt := (List.getElem?_eq_some_iff.1 htx').1
    rw [tell_of_transaction moment hof]
    by_cases hnumber : number' = number
    · subst hnumber
      obtain rfl := Option.some.inj (htx'.symm.trans htx)
      rw [if_pos rfl, Option.elim_some]
      cases command.apply tx'.draft with
      | error error => exact htx
      | ok draft => exact List.getElem?_set_self hlt
    · have hne : hub.session number' ≠ hub.session number := fun h =>
        hnumber (Session.transaction.inj h).2
      rw [if_neg hne]
      cases command.apply tx'.draft with
      | error error => exact htx
      | ok draft => exact (List.getElem?_set_ne hnumber).trans htx
  · have hne : session ≠ hub.session number := by
      rintro rfl
      cases hrefused.symm.trans hsession
    obtain ⟨error, htell⟩ := tell_of_refused moment hrefused command
    rw [htell, if_neg hne]
    exact htx

/-- What a turn makes of a transaction that has begun. -/
theorem transaction_take (htx : hub.transactions[number]? = some tx) (turn : Turn) :
    (hub.take turn).transactions[number]? =
      some (turn.event.on (hub.session number) number tx) := by
  obtain ⟨moment, event⟩ := turn
  cases event with
  | begin =>
    have hsame : Event.begin.on (hub.session number) number tx = tx := by
      simp [Event.on, Event.told?, Event.mark?, Event.ends]
    rw [hsame]
    simp only [take, begin?]
    split
    · exact (List.getElem?_append_left (List.getElem?_eq_some_iff.1 htx).1).trans htx
    · exact htx
  | tell session command => exact transaction_tell htx moment session command
  | mark number' marked =>
    have hmark := getElem?_modify_open htx number' ({ · with marked })
    simp only [take, apply_ite Hub.transactions]
    refine hmark.trans (congrArg some ?_)
    exact (Event.on_mark (hub.session number) number number' marked tx).symm
  | drop number' =>
    have hdrop := getElem?_modify_open htx number' ({ · with ended := true })
    simp only [take, apply_ite Hub.transactions]
    refine hdrop.trans (congrArg some ?_)
    exact (Event.on_drop (hub.session number) number number' tx).symm
  | finish number' =>
    have hdrop := getElem?_modify_open htx number' ({ · with ended := true })
    simp only [take, apply_ite Hub.transactions, transactions_finish]
    refine hdrop.trans (congrArg some ?_)
    exact (Event.on_drop (hub.session number) number number' tx).symm

/-- A turn leaves the store as it was or commits some tables. -/
theorem store_take_cases (hub : Hub) (turn : Turn) :
    (hub.take turn).store = hub.store ∨ ∃ t, (hub.take turn).store = hub.store.holding t := by
  rw [store_take]
  cases hub.staged? turn.event with
  | none => exact .inl rfl
  | some draft =>
    rw [Option.bind_some]
    cases hinstall : hub.store.install turn.moment draft with
    | error error => exact .inl rfl
    | ok store => exact .inr ⟨_, (Store.commit_eq_ok_iff.1 hinstall).2⟩

/-- A hub keeps the label of its store. -/
theorem label_take (hub : Hub) (turn : Turn) : (hub.take turn).store.label = hub.store.label := by
  obtain hstore | ⟨t, hstore⟩ := hub.store_take_cases turn <;> rw [hstore]
  rfl

/-- Along a schedule, a hub keeps the label of its store. -/
theorem label_after (hub : Hub) (schedule : List Turn) :
    (hub.after schedule).store.label = hub.store.label := by
  induction schedule generalizing hub with
  | nil => rfl
  | cons turn rest ih => exact (ih (hub.take turn)).trans (hub.label_take turn)

/-! ## From the begin of a transaction on -/

/-- The commands that a schedule tells through a session. -/
def told (session : Session) (schedule : List Turn) : List Command :=
  schedule.filterMap fun turn => turn.event.told? session

/-- Whether the last mark that a schedule puts on a transaction is to commit it; without a mark, it
is not. -/
def lastMark (number : Nat) (schedule : List Turn) : Bool :=
  (schedule.filterMap fun turn => turn.event.mark? number).getLastD false

/-- The first turn of a schedule comes first. -/
theorem after_cons (hub : Hub) (turn : Turn) (schedule : List Turn) :
    hub.after (turn :: schedule) = (hub.take turn).after schedule :=
  rfl

/-- Two schedules may be run one after the other. -/
theorem after_append (hub : Hub) (schedule schedule' : List Turn) :
    hub.after (schedule ++ schedule') = (hub.after schedule).after schedule' :=
  List.foldl_append

/-- One more turn tells at most one more command. -/
theorem told_concat (session : Session) (schedule : List Turn) (turn : Turn) :
    told session (schedule ++ [turn]) =
      told session schedule ++ (turn.event.told? session).toList := by
  rw [told, List.filterMap_append, told]
  cases htold : turn.event.told? session <;> simp [htold]

/-- Since its begin, a transaction has been through the commands that were told through its session,
and as long as it is open it has the mark that was put on it last. -/
theorem transaction_after {base : Tables}
    (htx : hub.transactions[number]? = some { draft := { tables := base } })
    (during : List Turn) :
    ∃ tx, (hub.after during).transactions[number]? = some tx ∧
      tx.draft.Reflects base (told (hub.session number) during) ∧
      (tx.ended = false → tx.marked = lastMark number during) := by
  induction during using List.reverseRecOn with
  | nil => exact ⟨_, htx, .begun base, fun _ => rfl⟩
  | append_singleton during turn ih =>
    obtain ⟨tx, htx, hreflects, hmark⟩ := ih
    have hsession : (hub.after during).session number = hub.session number :=
      congrArg (Session.transaction · number) (hub.label_after during)
    refine ⟨_, (congrArg (·.transactions[number]?) (hub.after_append during [turn])).trans
      (transaction_take htx turn), ?_, ?_⟩
    · rw [hsession, told_concat]
      exact Event.reflects_on hreflects turn.event _ number
    · intro hopen
      obtain ⟨hopen, -⟩ := Bool.or_eq_false_iff.1 hopen
      have hlast : (turn.event.on ((hub.after during).session number) number tx).marked =
          (turn.event.mark? number).getD tx.marked := if_neg (ne_true_of_eq_false hopen)
      rw [hlast, hmark hopen, lastMark, lastMark, List.filterMap_append]
      cases hmarked : turn.event.mark? number <;> simp [hmarked]

/-! ## The end of a transaction -/

/-- A transaction that is not marked ends without an error and leaves the store alone. -/
theorem finish_of_unmarked (htx : hub.transactions[number]? = some tx) (hmarked : tx.marked = false)
    (moment : Moment) : hub.finish moment number = (.ok (), hub.drop number) := by
  obtain ⟨draft, marked, ended⟩ := tx
  obtain rfl := hmarked
  simp only [finish, htx]

/-- A transaction that is marked ends by committing its draft. -/
theorem finish_of_marked (htx : hub.transactions[number]? = some tx) (hmarked : tx.marked = true)
    (moment : Moment) :
    hub.finish moment number =
      match hub.store.install moment tx.draft with
      | .ok store => (.ok (), { hub.drop number with store })
      | .error error => (.error error, hub.drop number) := by
  obtain ⟨draft, marked, ended⟩ := tx
  obtain rfl := hmarked
  cases hinstall : hub.store.install moment draft <;> simp only [finish, htx, hinstall]

/-- A transaction that is marked ends well exactly when the snapshot can be written. -/
theorem finish_ok_iff (htx : hub.transactions[number]? = some tx) (hmarked : tx.marked = true)
    (moment : Moment) : (hub.finish moment number).1 = .ok () ↔ hub.store.Writable moment := by
  rw [finish_of_marked htx hmarked]
  cases hinstall : hub.store.install moment tx.draft with
  | error error =>
    refine iff_of_false (fun h => nomatch h) fun hwritable => ?_
    exact nomatch (Store.commit_of_writable hwritable _).symm.trans hinstall
  | ok store => exact iff_of_true rfl (Store.commit_eq_ok_iff.1 hinstall).1

/-- When a transaction that is marked ends well, its draft is laid over the committed tables. -/
theorem store_finish_of_ok (htx : hub.transactions[number]? = some tx) (hmarked : tx.marked = true)
    {moment : Moment} (hok : (hub.finish moment number).1 = .ok ()) :
    (hub.finish moment number).2.store =
      hub.store.holding (tx.draft.layOver hub.store.tables) := by
  have hwritable := (finish_ok_iff htx hmarked moment).1 hok
  rw [finish_of_marked htx hmarked, Store.install, Store.commit_of_writable hwritable]

/-- A transaction is isolated from what else happens on a hub. It was begun on some tables, some
commands have been told through its session since, and it is now marked to be committed or not. -/
structure Isolates (hub : Hub) (number : Nat) (base : Tables) (commands : List Command)
    (marked : Bool) : Prop where
  /-- Its queries see the tables of its begin with its own writes. -/
  ask : ∀ {α : Type} (query : Query α),
    hub.ask (hub.session number) query = query.answer (base.after commands)
  /-- Its commands succeed and are refused as on these tables, and nothing is committed by them. -/
  tell : ∀ moment command, (hub.tell moment (hub.session number) command).map Hub.store =
    (command.on (base.after commands)).map fun _ => hub.store
  /-- If it is marked, it ends well exactly when the snapshot can be written. -/
  ends : hub.isOpen number = true → marked = true → ∀ moment,
    (hub.finish moment number).1 = .ok () ↔ hub.store.Writable moment
  /-- If it is marked and ends well, the row under each key that it has written becomes its own,
  and the row under each other key stays what it was just before. -/
  commit : hub.isOpen number = true → marked = true → ∀ moment,
    (hub.finish moment number).1 = .ok () → ∀ key,
      (base.Written commands key →
        (hub.finish moment number).2.store.tables.row? key = (base.after commands).row? key) ∧
      (¬ base.Written commands key →
        (hub.finish moment number).2.store.tables.row? key = hub.store.tables.row? key)
  /-- If it is not marked, it ends well and nothing is committed. -/
  forget : hub.isOpen number = true → marked = false → ∀ moment,
    (hub.finish moment number).1 = .ok () ∧ (hub.finish moment number).2.store = hub.store
  /-- If it is given up, nothing is committed. -/
  drop : (hub.drop number).store = hub.store

/-- From its begin on, a transaction is isolated from whatever else happens on the hub. -/
theorem isolates_after {base : Tables}
    (htx : hub.transactions[number]? = some { draft := { tables := base } })
    (during : List Turn) :
    (hub.after during).Isolates number base (told (hub.session number) during)
      (lastMark number during) := by
  obtain ⟨tx, htx, hreflects, hmark⟩ := transaction_after htx during
  have hmarked (hopen : (hub.after during).isOpen number = true) :
      tx.marked = lastMark number during := by
    rw [isOpen_eq htx] at hopen
    exact hmark (by simpa using hopen)
  exact {
    ask := by
      intro α query
      rw [ask_session htx, hreflects.tables]
    tell := by
      intro moment command
      rw [tell_of_transaction moment (transactionOf_session htx), ← hreflects.tables,
        ← Draft.map_tables_apply]
      cases command.apply tx.draft <;> rfl
    ends := fun hopen hlast moment => finish_ok_iff htx ((hmarked hopen).trans hlast) moment
    commit := by
      intro hopen hlast moment hok key
      rw [store_finish_of_ok htx ((hmarked hopen).trans hlast) hok]
      exact hreflects.row?_layOver _ key
    forget := by
      intro hopen hlast moment
      rw [finish_of_unmarked htx ((hmarked hopen).trans hlast)]
      exact ⟨rfl, rfl⟩
    drop := rfl }

/-- A transaction that begins takes the next number and a copy of the committed tables. -/
theorem begun_of_gateFree (hfree : hub.gateFree = true) (moment : Moment) :
    hub.take ⟨moment, .begin⟩ =
      { hub with
        transactions := hub.transactions ++ [{ draft := { tables := hub.store.tables } }] } := by
  simp only [take, begin?, hfree, if_true]
  rfl

/-- A transaction that begins takes the next number, and is isolated from then on. -/
theorem isolates_of_begin (hfree : hub.gateFree = true) (moment : Moment) (during : List Turn) :
    (hub.after (⟨moment, .begin⟩ :: during)).Isolates hub.transactions.length hub.store.tables
      (told (hub.session hub.transactions.length) during)
      (lastMark hub.transactions.length during) := by
  rw [after_cons, begun_of_gateFree hfree]
  exact isolates_after List.getElem?_concat_length during

/-! ## Plain sessions -/

/-- Through a session that belongs to no transaction, commands are carried out on the committed
tables. -/
theorem tell_of_plain_eq (moment : Moment) {session : Session}
    (hsession : hub.transactionOf session = .ok none) (command : Command) :
    hub.tell moment session command =
      (command.on hub.store.tables >>= hub.store.commit moment).map fun store =>
        { hub with store } := by
  rw [tell_of_plain moment hsession, Store.execute, Command.on]
  cases command.apply { tables := hub.store.tables } <;> rfl

/-- Through a session that belongs to no transaction, queries see the committed tables. -/
theorem ask_of_plain {α : Type} {session : Session}
    (hsession : hub.transactionOf session = .ok none) (query : Query α) :
    hub.ask session query = query.answer hub.store.tables := by
  unfold ask Query.answer
  rw [hsession]
  cases query.refusal? <;> rfl

end Hub

end Roster
