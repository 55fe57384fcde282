import Roster.Proofs.Isolation

/-!
# Transactions one after the other

As at most one transaction is open at a time, transactions can meet only commands of plain sessions.
Where there are none, an open transaction works on the committed tables themselves. What any
schedule leaves behind is then left behind as well when the transactions that it commits run one
after the other, in the order of their begins, and nothing else happens.
-/

namespace Roster

/-- The store after some commands have been carried out and committed together. -/
def Store.extend (store : Store) (commands : List Command) : Store :=
  store.holding (store.tables.after commands)

namespace Hub

/-- Whether an event tells a command through a session that belongs to no transaction. -/
def Event.tellsPlainly : Event → Bool
  | .tell (.transaction _ _) _ => false
  | .tell _ _ => true
  | _ => false

/-- The transaction that a turn commits, if it does: it is open and marked, and ends well. -/
def commits? (hub : Hub) (turn : Turn) : Option Nat :=
  match turn.event with
  | .finish number =>
    if hub.isOpen number && hub.isMarked number && (hub.finish turn.moment number).1.isOk
    then some number
    else none
  | _ => none

/-- The transactions that a schedule commits, in the order of their ends. -/
def committed (hub : Hub) : List Turn → List Nat
  | [] => []
  | turn :: rest => (hub.commits? turn).toList ++ (hub.take turn).committed rest

/-- The command that a turn tells a transaction, if it is open. -/
def toldOpen? (hub : Hub) (number : Nat) (turn : Turn) : Option Command :=
  if hub.isOpen number then turn.event.told? (hub.session number) else none

/-- The commands that a schedule tells a transaction while it is open. -/
def work (hub : Hub) (number : Nat) : List Turn → List Command
  | [] => []
  | turn :: rest => (hub.toldOpen? number turn).toList ++ (hub.take turn).work number rest

/-- A transaction begins, is told some commands, and ends marked to be committed. -/
def alone (label : Nat) (moment : Moment) (number : Nat) (commands : List Command) : List Turn :=
  ⟨moment, .begin⟩ ::
    commands.map (fun command => ⟨moment, .tell (.transaction label number) command⟩) ++
    [⟨moment, .mark number true⟩, ⟨moment, .finish number⟩]

/-- Transactions run one after the other, the first one with a given number. -/
def oneByOne (label : Nat) (moment : Moment) : (number : Nat) → List (List Command) → List Turn
  | _, [] => []
  | number, commands :: rest =>
    alone label moment number commands ++ oneByOne label moment (number + 1) rest

variable {hub : Hub} {number : Nat} {tx : Transaction} {store : Store} {schedule : List Turn}
  {turn : Turn}

/-! ## Which turns commit something -/

/-- Whether a session belongs to no transaction does not depend on the hub. -/
theorem transactionOf_eq_plain_iff {session : Session} {command : Command} :
    hub.transactionOf session = .ok none ↔ (Event.tell session command).tellsPlainly = true := by
  cases session with
  | transaction label number =>
    refine iff_of_false (fun h => ?_) Bool.false_ne_true
    simp only [transactionOf] at h
    split at h
    · split at h <;> simp at h
    · simp at h
  | plain | other content => exact iff_of_true rfl rfl

/-- A turn commits a transaction exactly when it ends it, and the transaction is open and marked and
the snapshot can be written. -/
theorem commits?_eq_some : hub.commits? turn = some number ↔
    turn.event = .finish number ∧ ∃ tx, hub.transactions[number]? = some tx ∧ tx.ended = false ∧
      tx.marked = true ∧ hub.store.Writable turn.moment := by
  obtain ⟨moment, event⟩ := turn
  cases event with
  | finish number' =>
    cases htx : hub.transactions[number']? with
    | none =>
      have hopen : hub.isOpen number' = false := by rw [isOpen, htx, Option.any_none]
      refine iff_of_false (by simp [commits?, hopen]) ?_
      rintro ⟨hevent, tx, htx', -⟩
      obtain rfl := Event.finish.inj hevent
      cases htx.symm.trans htx'
    | some tx =>
      have hok : (hub.finish moment number').1.isOk = true ↔
          (hub.finish moment number').1 = .ok () := by
        cases (hub.finish moment number').1 <;> simp [Except.isOk, Except.toBool]
      simp only [commits?, isOpen_eq htx, isMarked_eq htx, Option.ite_none_right_eq_some,
        Option.some.injEq, Bool.and_eq_true, Bool.not_eq_true', hok, Event.finish.injEq]
      constructor
      · rintro ⟨⟨⟨hopen, hmarked⟩, hok⟩, rfl⟩
        exact ⟨rfl, tx, htx, hopen, hmarked, (finish_ok_iff htx hmarked moment).1 hok⟩
      · rintro ⟨rfl, tx', htx', hopen, hmarked, hwritable⟩
        obtain rfl := Option.some.inj (htx.symm.trans htx')
        exact ⟨⟨⟨hopen, hmarked⟩, (finish_ok_iff htx hmarked moment).2 hwritable⟩, rfl⟩
  | begin | tell session command | mark number' marked | drop number' =>
    refine iff_of_false (by simp [commits?]) ?_
    rintro ⟨hevent, -⟩
    cases hevent

/-- Only commands of plain sessions and the ends of transactions that are committed change the
store. -/
theorem store_take_of_commits?_eq_none (hplain : turn.event.tellsPlainly = false)
    (hcommits : hub.commits? turn = none) : (hub.take turn).store = hub.store := by
  rw [store_take]
  cases hstaged : hub.staged? turn.event with
  | none => rfl
  | some draft =>
    obtain ⟨session, command, hevent, hsession, -⟩ | ⟨number, tx, hevent, htx, hopen, hmarked, rfl⟩ :=
      staged_cases hstaged
    · have hplain' : (Event.tell session command).tellsPlainly = true :=
        transactionOf_eq_plain_iff.1 hsession
      rw [hevent] at hplain
      cases hplain'.symm.trans hplain
    · rw [Option.bind_some]
      cases hinstall : hub.store.install turn.moment tx.draft with
      | error error => rfl
      | ok store =>
        have hwritable := (Store.commit_eq_ok_iff.1 hinstall).1
        have hcommit := commits?_eq_some.2 ⟨hevent, tx, htx, hopen, hmarked, hwritable⟩
        cases hcommits.symm.trans hcommit

/-- A transaction that has begun and not ended is open. -/
theorem isOpen_eq_true_iff :
    hub.isOpen number = true ↔ ∃ tx, hub.transactions[number]? = some tx ∧ tx.ended = false := by
  rw [isOpen, Option.any_eq_true]
  simp

/-- No transaction is open before it has begun. -/
theorem not_isOpen_of_le (h : hub.transactions.length ≤ number) : hub.isOpen number = false := by
  rw [isOpen, List.getElem?_eq_none h, Option.any_none]

/-- While no transaction is open, none is. -/
theorem not_isOpen_of_gateFree (h : hub.gateFree = true) (number : Nat) :
    hub.isOpen number = false := by
  rw [Bool.eq_false_iff]
  intro hopen
  obtain ⟨tx, htx, hended⟩ := isOpen_eq_true_iff.1 hopen
  have := List.all_eq_true.1 h tx (List.mem_of_getElem? htx)
  exact Bool.false_ne_true (hended.symm.trans this)

/-- A turn that begins no transaction leaves their number as it was. -/
theorem length_take (hwaits : turn.event = .begin → hub.gateFree = false) :
    (hub.take turn).transactions.length = hub.transactions.length := by
  obtain ⟨moment, event⟩ := turn
  cases event with
  | begin => simp [take, begin?, hwaits rfl]
  | mark number marked | drop number =>
    simp only [take]
    split <;> simp [mark, drop]
  | finish number =>
    simp only [take, apply_ite Hub.transactions, transactions_finish]
    split <;> simp [drop]
  | tell session command =>
    simp only [take]
    obtain hplain | ⟨number, tx, htx, hof⟩ | ⟨error, hrefused⟩ := hub.transactionOf_cases session
    · rw [tell_of_plain moment hplain]
      cases hub.store.execute moment command <;> rfl
    · rw [tell_of_transaction moment hof]
      cases command.apply tx.draft <;> simp [Except.map]
    · obtain ⟨error, htell⟩ := tell_of_refused moment hrefused command
      rw [htell]

/-- A turn opens no transaction but one that begins in it. -/
theorem isOpen_of_take (hwaits : turn.event = .begin → hub.gateFree = false)
    (h : (hub.take turn).isOpen number = true) : hub.isOpen number = true := by
  obtain ⟨tx', htx', hopen⟩ := isOpen_eq_true_iff.1 h
  have hlt := (List.getElem?_eq_some_iff.1 htx').1
  rw [length_take hwaits] at hlt
  obtain ⟨tx, htx⟩ : ∃ tx, hub.transactions[number]? = some tx := ⟨_, List.getElem?_eq_getElem hlt⟩
  obtain rfl := Option.some.inj ((transaction_take htx turn).symm.trans htx')
  exact isOpen_eq_true_iff.2 ⟨tx, htx, (Bool.or_eq_false_iff.1 hopen).1⟩

/-! ## Schedules without plain writes -/

/-- What a hub has come to from a store without the help of plain sessions: some transactions have
been committed, each of which has been told some commands, and the store is what they make of it one
after the other, in the order of their begins. The transaction that is open is the last one, and it
works on the committed tables. -/
structure InOrder (start : Store) (numbers : List Nat) (work : Nat → List Command) (hub : Hub) :
    Prop where
  serial : hub.store = (numbers.map work).foldl Store.extend start
  ascending : numbers.Pairwise (· < ·)
  past : ∀ number ∈ numbers,
    number < hub.transactions.length ∧ hub.isOpen number = false
  future : ∀ number, hub.transactions.length ≤ number → work number = []
  last : ∀ number, hub.isOpen number = true → number + 1 = hub.transactions.length
  draft : ∀ number (tx : Transaction), hub.transactions[number]? = some tx → tx.ended = false →
    tx.draft.Reflects hub.store.tables (work number)

namespace InOrder

variable {start : Store} {numbers : List Nat} {work : Nat → List Command}

/-- Before anything has happened, no transaction has begun. -/
theorem fresh (start : Store) : InOrder start [] (fun _ => []) { store := start } where
  serial := rfl
  ascending := .nil
  past := nofun
  future := fun _ _ => rfl
  last := fun _ h => nomatch h
  draft := fun _ _ h => nomatch h

/-- A transaction may begin. -/
theorem begin (h : InOrder start numbers work hub) (hfree : hub.gateFree = true) (moment : Moment) :
    InOrder start numbers work (hub.take ⟨moment, .begin⟩) := by
  rw [begun_of_gateFree hfree]
  -- An open transaction is the one that has just begun.
  have hnew {number : Nat} {tx : Transaction}
      (htx : (hub.transactions ++ [{ draft := { tables := hub.store.tables } }])[number]? = some tx)
      (hopen : tx.ended = false) :
      number = hub.transactions.length ∧ tx = { draft := { tables := hub.store.tables } } := by
    obtain hlt | hle := Nat.lt_or_ge number hub.transactions.length
    · rw [List.getElem?_append_left hlt] at htx
      have hclosed := not_isOpen_of_gateFree hfree number
      exact absurd (isOpen_eq_true_iff.2 ⟨tx, htx, hopen⟩) (ne_true_of_eq_false hclosed)
    · rw [List.getElem?_append_right hle, List.getElem?_singleton] at htx
      obtain ⟨hindex, htx⟩ := Option.ite_none_right_eq_some.1 htx
      exact ⟨by omega, (Option.some.inj htx).symm⟩
  exact {
    serial := h.serial
    ascending := h.ascending
    past := by
      intro number hnumber
      obtain ⟨hlt, -⟩ := h.past number hnumber
      refine ⟨by simp only [List.length_append]; omega, ?_⟩
      rw [Bool.eq_false_iff]
      intro hopen
      obtain ⟨tx, htx, hended⟩ := isOpen_eq_true_iff.1 hopen
      have := (hnew htx hended).1
      omega
    future := by
      intro number hle
      simp only [List.length_append, List.length_singleton] at hle
      exact h.future number (by omega)
    last := by
      intro number hopen
      obtain ⟨tx, htx, hended⟩ := isOpen_eq_true_iff.1 hopen
      rw [(hnew htx hended).1, List.length_append, List.length_singleton]
    draft := by
      intro number tx htx hopen
      obtain ⟨rfl, rfl⟩ := hnew htx hopen
      rw [h.future _ (Nat.le_refl _)]
      exact .begun _ }

/-- A transaction may be committed. -/
theorem commit (h : InOrder start numbers work hub) (hcommits : hub.commits? turn = some number) :
    InOrder start (numbers ++ [number]) work (hub.take turn) := by
  obtain ⟨hevent, tx, htx, hopen, hmarked, hwritable⟩ := commits?_eq_some.1 hcommits
  have hwaits : turn.event = .begin → hub.gateFree = false := fun hbegin =>
    nomatch hbegin.symm.trans hevent
  have hisOpen : hub.isOpen number = true := isOpen_eq_true_iff.2 ⟨tx, htx, hopen⟩
  have hreflects := h.draft number tx htx hopen
  have hstore : (hub.take turn).store = hub.store.extend (work number) := by
    have hok := (finish_ok_iff htx hmarked turn.moment).2 hwritable
    simp only [take, hevent, hisOpen, if_true]
    rw [store_finish_of_ok htx hmarked hok, hreflects.tracks.layOver_eq, hreflects.tables]
    rfl
  -- The transaction that was open is the last one, and has ended.
  have hclosed (number' : Nat) : (hub.take turn).isOpen number' = false := by
    rw [Bool.eq_false_iff]
    intro hopen'
    have hlast := h.last number hisOpen
    have hlast' := h.last number' (isOpen_of_take hwaits hopen')
    obtain rfl : number' = number := by omega
    have hended : (turn.event.on (hub.session number') number' tx).ended = true := by
      simp [hevent, Event.on, Event.ends]
    rw [isOpen_eq (transaction_take htx turn), hended] at hopen'
    exact Bool.false_ne_true hopen'
  exact {
    serial := by
      rw [hstore, h.serial, List.map_append, List.foldl_append]
      rfl
    ascending := by
      refine List.pairwise_append.2 ⟨h.ascending, List.pairwise_singleton _ _, ?_⟩
      intro earlier hearlier later hlater
      obtain rfl := List.mem_singleton.1 hlater
      obtain ⟨hlt, hended⟩ := h.past earlier hearlier
      have hlast := h.last later hisOpen
      have hne : earlier ≠ later := by
        rintro rfl
        exact Bool.false_ne_true (hended.symm.trans hisOpen)
      omega
    past := by
      intro number' hnumber'
      refine ⟨?_, hclosed number'⟩
      rw [length_take hwaits]
      obtain hearlier | hthis := List.mem_append.1 hnumber'
      · exact (h.past number' hearlier).1
      · rw [List.mem_singleton.1 hthis]
        exact (List.getElem?_eq_some_iff.1 htx).1
    future := by
      intro number' hle
      rw [length_take hwaits] at hle
      exact h.future number' hle
    last := fun number' hopen' => absurd hopen' (ne_true_of_eq_false (hclosed number'))
    draft := by
      intro number' tx' htx' hopen'
      have := isOpen_eq_true_iff.2 ⟨tx', htx', hopen'⟩
      exact absurd this (ne_true_of_eq_false (hclosed number')) }

/-- Anything else may happen that plain sessions have no part in. -/
theorem other (h : InOrder start numbers work hub) (hplain : turn.event.tellsPlainly = false)
    (hwaits : turn.event = .begin → hub.gateFree = false) (hcommits : hub.commits? turn = none) :
    InOrder start numbers (fun number => work number ++ (hub.toldOpen? number turn).toList)
      (hub.take turn) := by
  have hstore := store_take_of_commits?_eq_none hplain hcommits
  have hclosed {number : Nat} (h : hub.isOpen number = false) :
      (hub.take turn).isOpen number = false := by
    rw [Bool.eq_false_iff]
    intro hopen
    exact Bool.false_ne_true (h.symm.trans (isOpen_of_take hwaits hopen))
  -- Only an open transaction is told something.
  have hwork {number : Nat} (h : hub.isOpen number = false) :
      work number ++ (hub.toldOpen? number turn).toList = work number := by
    rw [toldOpen?, h]
    exact List.append_nil _
  exact {
    serial := by
      rw [hstore, h.serial]
      congr 1
      exact List.map_congr_left fun number hnumber => (hwork (h.past number hnumber).2).symm
    ascending := h.ascending
    past := by
      intro number hnumber
      rw [length_take hwaits]
      exact ⟨(h.past number hnumber).1, hclosed (h.past number hnumber).2⟩
    future := by
      intro number hle
      rw [length_take hwaits] at hle
      exact (hwork (not_isOpen_of_le hle)).trans (h.future number hle)
    last := by
      intro number hopen
      rw [length_take hwaits]
      exact h.last number (isOpen_of_take hwaits hopen)
    draft := by
      intro number tx htx hopen
      have hisOpen := isOpen_of_take hwaits (isOpen_eq_true_iff.2 ⟨tx, htx, hopen⟩)
      obtain ⟨tx₀, htx₀, hopen₀⟩ := isOpen_eq_true_iff.1 hisOpen
      obtain rfl := Option.some.inj ((transaction_take htx₀ turn).symm.trans htx)
      rw [hstore, toldOpen?, hisOpen]
      exact Event.reflects_on (h.draft number tx₀ htx₀ hopen₀) turn.event _ number }

/-- A turn that plain sessions have no part in goes into the record. -/
theorem take (h : InOrder start numbers work hub) (hplain : turn.event.tellsPlainly = false) :
    InOrder start (numbers ++ (hub.commits? turn).toList)
      (fun number => work number ++ (hub.toldOpen? number turn).toList) (hub.take turn) := by
  have hnothing (htold : ∀ session, turn.event.told? session = none) :
      (fun number => work number ++ (hub.toldOpen? number turn).toList) = work := by
    funext number
    rw [toldOpen?, htold, ite_self]
    exact List.append_nil _
  cases hcommits : hub.commits? turn with
  | some number =>
    have hevent := (commits?_eq_some.1 hcommits).1
    rw [hnothing fun session => by rw [hevent]; rfl]
    exact h.commit hcommits
  | none =>
    rw [Option.toList_none, List.append_nil]
    by_cases hbegins : turn.event = .begin ∧ hub.gateFree = true
    · obtain ⟨moment, event⟩ := turn
      obtain ⟨rfl, hfree⟩ := hbegins
      rw [hnothing fun session => rfl]
      exact h.begin hfree moment
    · exact h.other hplain (fun hbegin => Bool.eq_false_iff.2 fun hfree => hbegins ⟨hbegin, hfree⟩)
        hcommits

/-- A schedule that plain sessions have no part in goes into the record turn by turn. -/
theorem after (h : InOrder start numbers work hub)
    (hplain : ∀ turn ∈ schedule, turn.event.tellsPlainly = false) :
    InOrder start (numbers ++ hub.committed schedule)
      (fun number => work number ++ hub.work number schedule) (hub.after schedule) := by
  induction schedule generalizing hub numbers work with
  | nil =>
    simp only [committed, Hub.work, List.append_nil]
    exact h
  | cons turn rest ih =>
    have hrest := ih (h.take (hplain turn List.mem_cons_self)) fun turn hturn =>
      hplain turn (List.mem_cons_of_mem _ hturn)
    simp only [List.append_assoc] at hrest
    exact hrest

end InOrder

/-! ## Running transactions one by one -/

/-- Commands that are told through the session of the last transaction go into its draft. -/
theorem after_tells {base : Tables} {earlier : List Command} {tx : Transaction}
    (h : tx.draft.Reflects base earlier) (store : Store) (transactions : List Transaction)
    (moment : Moment) (commands : List Command) :
    ∃ draft : Draft, draft.Reflects base (earlier ++ commands) ∧
      Hub.after { store, transactions := transactions ++ [tx] }
          (commands.map fun command =>
            ⟨moment, .tell (.transaction store.label transactions.length) command⟩) =
        { store, transactions := transactions ++ [{ tx with draft }] } := by
  induction commands generalizing tx earlier with
  | nil => exact ⟨tx.draft, by rwa [List.append_nil], rfl⟩
  | cons command rest ih =>
    have hsession : Hub.transactionOf { store, transactions := transactions ++ [tx] }
        (.transaction store.label transactions.length) = .ok (some (transactions.length, tx)) :=
      transactionOf_session List.getElem?_concat_length
    have hstep : Hub.take { store, transactions := transactions ++ [tx] }
        ⟨moment, .tell (.transaction store.label transactions.length) command⟩ =
          { store, transactions := transactions ++
            [{ tx with draft := (command.apply tx.draft).toOption.getD tx.draft }] } := by
      simp only [take, tell_of_transaction moment hsession]
      cases command.apply tx.draft <;> simp [Except.map, Except.toOption]
    obtain ⟨draft, hreflects, hafter⟩ :=
      @ih _ { tx with draft := (command.apply tx.draft).toOption.getD tx.draft } (h.tell command)
    refine ⟨draft, by rwa [List.append_assoc] at hreflects, ?_⟩
    rw [List.map_cons, after_cons, hstep]
    exact hafter

/-- A transaction that runs alone makes of the store what its commands make of it. -/
theorem after_alone {moment : Moment} (hfree : hub.gateFree = true)
    (hwritable : hub.store.Writable moment) (commands : List Command) :
    ∃ last : Transaction, last.ended = true ∧
      hub.after (alone hub.store.label moment hub.transactions.length commands) =
        { store := hub.store.extend commands, transactions := hub.transactions ++ [last] } := by
  obtain ⟨draft, hreflects, htells⟩ :=
    @after_tells _ _ { draft := { tables := hub.store.tables } } (.begun hub.store.tables)
      hub.store hub.transactions moment commands
  have hmark : Hub.take { hub with transactions := hub.transactions ++ [{ draft }] }
      ⟨moment, .mark hub.transactions.length true⟩ =
        { hub with transactions := hub.transactions ++ [{ draft, marked := true }] } := by
    simp [take, isOpen, mark, modify_last]
  have hinstall : hub.store.install moment draft = .ok (hub.store.extend commands) := by
    rw [Store.install, hreflects.tracks.layOver_eq, hreflects.tables]
    exact Store.commit_of_writable hwritable _
  have hfinish :
      Hub.take { hub with transactions := hub.transactions ++ [{ draft, marked := true }] }
        ⟨moment, .finish hub.transactions.length⟩ =
          { store := hub.store.extend commands
            transactions := hub.transactions ++ [{ draft, marked := true, ended := true }] } := by
    simp [take, isOpen, finish, drop, modify_last, hinstall]
  refine ⟨{ draft, marked := true, ended := true }, rfl, ?_⟩
  rw [alone, after_append, after_cons hub, begun_of_gateFree hfree, htells, after_cons, hmark,
    after_cons, hfinish]
  rfl

/-- Transactions that run one by one make of the store what they make of it one after the other. -/
theorem after_oneByOne {moment : Moment} (hfree : hub.gateFree = true)
    (hwritable : hub.store.Writable moment) (works : List (List Command)) :
    (hub.after (oneByOne hub.store.label moment hub.transactions.length works)).store =
      works.foldl Store.extend hub.store := by
  induction works generalizing hub with
  | nil => rfl
  | cons commands rest ih =>
    obtain ⟨last, hended, halone⟩ := after_alone hfree hwritable commands
    have hfree' : gateFree
        { store := hub.store.extend commands, transactions := hub.transactions ++ [last] } = true :=
      gateFree_last hfree hended
    have hrest := ih hfree' hwritable
    rw [oneByOne, after_append, halone]
    rwa [List.length_append] at hrest

/-! ## The whole of a schedule -/

/-- Whatever is done on a store through plain sessions and through those of transactions:

* plain sessions see the committed tables and change them;
* nothing else changes the store but the end of a transaction that is marked to be committed;
* from its begin on, every transaction is isolated, and commits just what it has written;
* and where plain sessions write nothing, the store comes to be what the transactions that are
  committed make of it when they run one by one, in the order of their begins. -/
theorem transactions_isolated (store : Store) (schedule : List Turn) :
    let hub := Hub.after { store } schedule
    (∀ session, hub.transactionOf session = .ok none →
      (∀ {α : Type} (query : Query α), hub.ask session query = query.answer hub.store.tables) ∧
      ∀ moment command, hub.tell moment session command =
        (command.on hub.store.tables >>= hub.store.commit moment).map fun store =>
          { hub with store }) ∧
    (∀ turn, turn.event.tellsPlainly = false → hub.commits? turn = none →
      (hub.take turn).store = hub.store) ∧
    (∀ before moment during, schedule = before ++ ⟨moment, .begin⟩ :: during →
      let earlier := Hub.after { store } before
      let number := earlier.transactions.length
      earlier.gateFree = true →
        hub.Isolates number earlier.store.tables
          (told (.transaction store.label number) during) (lastMark number during)) ∧
    ((∀ turn ∈ schedule, turn.event.tellsPlainly = false) →
      let numbers := Hub.committed { store } schedule
      let works := numbers.map (Hub.work { store } · schedule)
      numbers.Pairwise (· < ·) ∧
      ∀ moment, store.Writable moment →
        hub.store = (Hub.after { store } (oneByOne store.label moment 0 works)).store) := by
  refine ⟨fun session hsession => ⟨?_, ?_⟩, fun turn => store_take_of_commits?_eq_none,
    fun before moment during hsplit hfree => ?_, fun hplain => ?_⟩
  · exact ask_of_plain hsession
  · exact fun moment command => tell_of_plain_eq moment hsession command
  · have hisolates := isolates_of_begin hfree moment during
    rwa [← after_append, ← hsplit, session, label_after] at hisolates
  · have horder := (InOrder.fresh store).after hplain
    refine ⟨horder.ascending, fun moment hwritable => ?_⟩
    have hfree : Hub.gateFree { store } = true := rfl
    exact horder.serial.trans (after_oneByOne hfree hwritable _).symm

/-! ### Two roles and a transaction -/

namespace TwoRoles

/-- A role that is named like its id. -/
def role (id : String) : AccessRole :=
  { id := ⟨id⟩, name := id }

/-- A store of two roles, without a file. -/
def twoRoles : Store where
  tables := { roles := (Table.insert ∅ ⟨"a"⟩ (role "a")).insert ⟨"b"⟩ (role "b") }
  file := none
  attached := false

/-- A transaction removes one of the roles and files a third one. -/
def exchange : List Turn :=
  [⟨.epoch, .begin⟩,
    ⟨.epoch, .tell (.transaction 0 0) (.removeRole ⟨"a"⟩)⟩,
    ⟨.epoch, .tell (.transaction 0 0) (.saveRole (role "c"))⟩,
    ⟨.epoch, .mark 0 true⟩]

/-- Meanwhile the other role is renamed through a plain session. -/
def crossed : List Turn :=
  exchange ++ [⟨.epoch, .tell .plain (.saveRole { role "b" with name := "beta" })⟩]

/-- When the transaction ends, the first role is gone, the second one has its new name, and the
third one is there; and had nobody renamed a role, all would be as if the transaction had run
alone. -/
theorem transactions_isolated_crossed :
    let ended := (Hub.finish (Hub.after { store := twoRoles } crossed) .epoch 0).2.store
    let works : List (List Command) := [[.removeRole ⟨"a"⟩, .saveRole (role "c")]]
    ended.tables.roles.get? ⟨"a"⟩ = none ∧
      ended.tables.roles.get? ⟨"b"⟩ = some { role "b" with name := "beta" } ∧
      ended.tables.roles.get? ⟨"c"⟩ = some (role "c") ∧
      (Hub.after { store := twoRoles } (exchange ++ [⟨.epoch, .finish 0⟩])).store =
        (Hub.after { store := twoRoles } (oneByOne 0 .epoch 0 works)).store := by
  have hisolates := (transactions_isolated twoRoles crossed).2.2.1 [] .epoch _ rfl rfl
  have hcommit := hisolates.commit rfl rfl .epoch rfl
  have hserial :=
    (transactions_isolated twoRoles (exchange ++ [⟨.epoch, .finish 0⟩])).2.2.2 (by decide)
  have hfree : ¬ twoRoles.tables.Written [.removeRole ⟨"a"⟩, .saveRole (role "c")]
      (.role ⟨"b"⟩) := by
    rintro ⟨earlier, command, later, t', hsplit, -, haffects⟩
    have hmem : command ∈ [.removeRole ⟨"a"⟩, .saveRole (role "c")] := by
      rw [hsplit]
      exact List.mem_append_right _ List.mem_cons_self
    obtain rfl | hlast := List.mem_cons.1 hmem
    · exact absurd (Key.role.inj haffects) (by decide)
    · obtain rfl := List.mem_singleton.1 hlast
      exact absurd (Key.role.inj haffects) (by decide)
  refine ⟨?_, ?_, ?_, hserial.2 .epoch nofun⟩
  · exact (hcommit (.role ⟨"a"⟩)).1 ⟨[], _, _, _, rfl, rfl, rfl⟩
  · exact (hcommit (.role ⟨"b"⟩)).2 hfree
  · exact (hcommit (.role ⟨"c"⟩)).1 ⟨[_], _, _, _, rfl, rfl, rfl⟩

end TwoRoles

end Hub

end Roster
