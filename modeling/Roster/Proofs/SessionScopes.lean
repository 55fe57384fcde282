import Mathlib.Logic.Function.Basic
import Roster.Proofs.Restarts
import Roster.Proofs.Serial

/-!
# How far sessions reach

A session of a transaction reaches the draft of this transaction and nothing else. It is refused by
every other store. Once the transaction has ended nobody but its own session can tell whether a call
has been made through it: a schedule comes to the same when all such calls are left out. Sessions
that were made for something else are plain sessions.
-/

namespace Roster

/-! ## The draft of a transaction that has ended -/

namespace Hub

/-- Whether a transaction has begun and ended. -/
def hasEnded (hub : Hub) (number : Nat) : Bool :=
  hub.transactions[number]?.any Transaction.ended

/-- The hub with another draft for one of its transactions. -/
def redraft (hub : Hub) (number : Nat) (draft : Draft) : Hub :=
  { hub with transactions := hub.transactions.modify number ({ · with draft }) }

/-- Whether an event tells a command through a session. -/
def Event.through (session : Session) : Event → Bool
  | .tell session' _ => decide (session' = session)
  | _ => false

variable {α : Type} {hub : Hub} {number : Nat} {draft : Draft} {session : Session}

/-- A transaction has ended if it has begun and is not open. -/
theorem hasEnded_eq_true_iff :
    hub.hasEnded number = true ↔ ∃ tx, hub.transactions[number]? = some tx ∧ tx.ended = true := by
  rw [hasEnded, Option.any_eq_true]

/-- A transaction that has ended is not open. -/
theorem not_isOpen_of_hasEnded (h : hub.hasEnded number = true) : hub.isOpen number = false := by
  obtain ⟨tx, htx, hended⟩ := hasEnded_eq_true_iff.1 h
  rw [isOpen_eq htx, hended]
  rfl

/-- A transaction that has ended remains so. -/
theorem hasEnded_take (h : hub.hasEnded number = true) (turn : Turn) :
    (hub.take turn).hasEnded number = true := by
  obtain ⟨tx, htx, hended⟩ := hasEnded_eq_true_iff.1 h
  refine hasEnded_eq_true_iff.2 ⟨_, transaction_take htx turn, ?_⟩
  simp only [Event.on, hended, Bool.true_or]

/-- Another draft does not open a transaction that has ended. -/
theorem hasEnded_redraft (h : hub.hasEnded number = true) (draft : Draft) :
    (hub.redraft number draft).hasEnded number = true := by
  obtain ⟨tx, htx, hended⟩ := hasEnded_eq_true_iff.1 h
  exact hasEnded_eq_true_iff.2 ⟨{ tx with draft }, by simp [redraft, htx], hended⟩

/-- The last of several new drafts counts. -/
theorem redraft_redraft (hub : Hub) (number : Nat) (draft draft' : Draft) :
    (hub.redraft number draft).redraft number draft' = hub.redraft number draft' := by
  simp only [redraft, List.modify_modify_eq]
  rfl

/-- What a new draft makes of a transaction. -/
theorem redraft_eq {tx : Transaction} (htx : hub.transactions[number]? = some tx) (draft : Draft) :
    hub.redraft number draft =
      { hub with transactions := hub.transactions.set number { tx with draft } } := by
  obtain ⟨hlt, rfl⟩ := List.getElem?_eq_some_iff.1 htx
  unfold redraft
  congr 1
  apply List.ext_getElem?
  intro other
  rw [List.getElem?_modify, List.getElem?_set]
  by_cases hother : number = other
  · subst hother
    simp [hlt]
  · simp [hother]

/-- A hub has the drafts that it has. -/
theorem redraft_self {tx : Transaction} (htx : hub.transactions[number]? = some tx) :
    hub.redraft number tx.draft = hub := by
  rw [redraft_eq htx]
  obtain ⟨hlt, rfl⟩ := List.getElem?_eq_some_iff.1 htx
  exact congrArg (fun transactions => { hub with transactions }) (List.set_getElem_self hlt)

/-- Another draft does not end a transaction. -/
theorem gateFree_redraft (hub : Hub) (number : Nat) (draft : Draft) :
    (hub.redraft number draft).gateFree = hub.gateFree := by
  obtain ⟨store, transactions⟩ := hub
  simp only [gateFree, redraft]
  induction transactions generalizing number with
  | nil => simp
  | cons tx rest ih =>
    cases number with
    | zero => rfl
    | succ number => simp [ih]

/-- The same transactions are open whatever their drafts are. -/
theorem isOpen_redraft (hub : Hub) (number : Nat) (draft : Draft) (other : Nat) :
    (hub.redraft number draft).isOpen other = hub.isOpen other := by
  simp only [isOpen, redraft, List.getElem?_modify]
  cases hub.transactions[other]? with
  | none => rfl
  | some tx => by_cases h : number = other <;> simp [h]

/-- A session belongs to what it belonged to unless it is that of the transaction with the new
draft. -/
theorem transactionOf_redraft (hsession : session ≠ hub.session number) (draft : Draft) :
    (hub.redraft number draft).transactionOf session = hub.transactionOf session := by
  cases session with
  | plain | other content => rfl
  | transaction label other =>
    by_cases hlabel : label = hub.store.label
    · have hother : number ≠ other := by
        rintro rfl
        exact hsession (hlabel ▸ rfl)
      simp only [transactionOf, redraft, hlabel, if_true, List.getElem?_modify_ne _ _ hother]
    · simp only [transactionOf, redraft, hlabel, if_false]

/-- Nobody else sees the new draft of a transaction. -/
theorem ask_redraft (hsession : session ≠ hub.session number) (draft : Draft) (query : Query α) :
    (hub.redraft number draft).ask session query = hub.ask session query := by
  have hseen : (hub.redraft number draft).seen session = hub.seen session := by
    unfold seen
    rw [transactionOf_redraft hsession]
    rfl
  rw [ask_eq, ask_eq, hseen]

/-- Through a session that is refused nothing is asked. -/
theorem ask_of_error {error : Error} (hsession : hub.transactionOf session = .error error)
    (query : Query α) : hub.ask session query = .error (query.refusal?.getD error) := by
  unfold ask
  rw [hsession]
  cases query.refusal? <;> rfl

/-- Through a session that is refused nothing is told. -/
theorem tell_of_error {error : Error} (moment : Moment)
    (hsession : hub.transactionOf session = .error error) (command : Command) :
    hub.tell moment session command = .error (command.refusal?.getD error) := by
  unfold tell
  rw [hsession]
  cases command.refusal? <;> rfl

/-- It makes no difference which one of two transactions is changed first. -/
theorem set_modify_of_ne {number other : Nat} (hother : number ≠ other)
    (transactions : List Transaction) (tx : Transaction) (f : Transaction → Transaction) :
    (transactions.modify number f).set other tx = (transactions.set other tx).modify number f := by
  apply List.ext_getElem?
  intro place
  simp only [List.getElem?_set, List.getElem?_modify, List.length_modify]
  by_cases hplace : other = place
  · subst hplace
    simp [hother]
  · simp [hplace]

/-- To begin a transaction leaves those before it alone. -/
theorem modify_append_of_lt {transactions : List Transaction} {number : Nat}
    (h : number < transactions.length) (f : Transaction → Transaction) (tx : Transaction) :
    (transactions ++ [tx]).modify number f = transactions.modify number f ++ [tx] := by
  induction transactions generalizing number with
  | nil => exact absurd h (Nat.not_lt_zero number)
  | cons first rest ih =>
    cases number with
    | zero => rfl
    | succ number => exact congrArg (first :: ·) (ih (Nat.lt_of_succ_lt_succ h))

/-- A command through another session does the same whatever the draft of a transaction is. -/
theorem tell_redraft (hsession : session ≠ hub.session number) (draft : Draft) (moment : Moment)
    (command : Command) :
    (hub.redraft number draft).tell moment session command =
      (hub.tell moment session command).map (·.redraft number draft) := by
  have hsame := transactionOf_redraft hsession draft
  obtain hplain | ⟨other, tx, htx, hof⟩ | ⟨error, hrefused⟩ := hub.transactionOf_cases session
  · rw [tell_of_plain moment hplain, tell_of_plain moment (hsame.trans hplain)]
    change (hub.store.execute moment command).map _ = _
    cases hub.store.execute moment command <;> rfl
  · have hother : number ≠ other := by
      rintro rfl
      exact hsession (session_of_transactionOf hof)
    rw [tell_of_transaction moment hof, tell_of_transaction moment (hsame.trans hof)]
    have hstill : (hub.redraft number draft).transactions[other]? = some tx :=
      (List.getElem?_modify_ne _ _ hother).trans htx
    cases command.apply tx.draft with
    | error error => rfl
    | ok changed =>
      exact congrArg (fun transactions => Except.ok { hub with transactions })
        (set_modify_of_ne hother hub.transactions _ _)
  · rw [tell_of_error moment hrefused, tell_of_error moment (hsame.trans hrefused)]
    rfl

/-- To mark another transaction is the same whatever the draft of a transaction is. -/
theorem mark_redraft {other : Nat} (hother : number ≠ other) (draft : Draft) (marked : Bool) :
    (hub.redraft number draft).mark other marked = (hub.mark other marked).redraft number draft :=
  congrArg (fun transactions => { hub with transactions }) (List.modify_modify_ne _ _ _ hother)

/-- To give another transaction up is the same whatever the draft of a transaction is. -/
theorem drop_redraft {other : Nat} (hother : number ≠ other) (draft : Draft) :
    (hub.redraft number draft).drop other = (hub.drop other).redraft number draft :=
  congrArg (fun transactions => { hub with transactions }) (List.modify_modify_ne _ _ _ hother)

/-- The end of another transaction is the same whatever the draft of a transaction is. -/
theorem finish_redraft {other : Nat} (hother : number ≠ other) (draft : Draft) (moment : Moment) :
    (hub.redraft number draft).finish moment other =
      ((hub.finish moment other).1, (hub.finish moment other).2.redraft number draft) := by
  have hstill : (hub.redraft number draft).transactions[other]? = hub.transactions[other]? :=
    List.getElem?_modify_ne _ _ hother
  simp only [finish, hstill, drop_redraft hother]
  obtain htx | ⟨⟨staged, marked, ended⟩, htx⟩ := (hub.transactions[other]?).eq_none_or_eq_some
  · simp only [htx]
  · cases marked with
    | false => simp only [htx]
    | true =>
      simp only [htx]
      cases hinstall : hub.store.install moment staged with
      | error error => simp only [redraft, hinstall]
      | ok store => simp only [redraft, hinstall]

/-- As long as nothing is done through the session of a transaction that has ended, a turn returns the
same and leaves the same behind whatever the draft of this transaction is. -/
theorem take_redraft (hended : hub.hasEnded number = true) {turn : Turn}
    (hturn : turn.event.through (hub.session number) = false) (draft : Draft) :
    (hub.redraft number draft).take turn = (hub.take turn).redraft number draft ∧
      (hub.redraft number draft).reply turn = hub.reply turn := by
  obtain ⟨moment, event⟩ := turn
  have hclosed := not_isOpen_of_hasEnded hended
  have hne {other : Nat} (hopen : hub.isOpen other = true) : number ≠ other := by
    rintro rfl
    exact Bool.false_ne_true (hclosed.symm.trans hopen)
  cases event with
  | begin =>
    refine ⟨?_, rfl⟩
    obtain ⟨tx, htx, -⟩ := hasEnded_eq_true_iff.1 hended
    have hlt := (List.getElem?_eq_some_iff.1 htx).1
    simp only [take, begin?, gateFree_redraft]
    split
    · exact congrArg (fun transactions => { hub with transactions })
        (modify_append_of_lt hlt _ _).symm
    · rfl
  | tell session command =>
    have hsession : session ≠ hub.session number := of_decide_eq_false hturn
    simp only [take, reply, tell_redraft hsession]
    cases hub.tell moment session command with
    | error error => exact ⟨rfl, rfl⟩
    | ok told => exact ⟨rfl, rfl⟩
  | mark other marked =>
    refine ⟨?_, rfl⟩
    simp only [take, isOpen_redraft]
    split
    · rename_i hopen
      exact mark_redraft (hne hopen) draft marked
    · rfl
  | drop other =>
    refine ⟨?_, rfl⟩
    simp only [take, isOpen_redraft]
    split
    · rename_i hopen
      exact drop_redraft (hne hopen) draft
    · rfl
  | finish other =>
    simp only [take, reply, isOpen_redraft]
    split
    · rename_i hopen
      simp only [finish_redraft (hne hopen)]
      exact ⟨trivial, trivial⟩
    · exact ⟨rfl, rfl⟩

/-- A command through the session of a transaction that has ended changes nothing but its draft. -/
theorem take_late (hended : hub.hasEnded number = true) {turn : Turn}
    (hturn : turn.event.through (hub.session number) = true) :
    ∃ draft, hub.take turn = hub.redraft number draft := by
  obtain ⟨moment, event⟩ := turn
  obtain ⟨tx, htx, -⟩ := hasEnded_eq_true_iff.1 hended
  cases event with
  | begin | mark other marked | drop other | finish other => exact nomatch hturn
  | tell session command =>
    obtain rfl : session = hub.session number := of_decide_eq_true hturn
    simp only [take, tell_of_transaction moment (transactionOf_session htx)]
    cases command.apply tx.draft with
    | error error => exact ⟨tx.draft, (redraft_self htx).symm⟩
    | ok draft => exact ⟨draft, (redraft_eq htx draft).symm⟩

/-- Through a session that was made for something else a program does what it does through a plain
session. -/
theorem perform_other {moment : Moment} (content : Nat) (body : Program α) (hub : Hub)
    (drawn : Nat) :
    Hub.perform moment (.other content) body hub drawn =
      Hub.perform moment .plain body hub drawn := by
  induction body generalizing hub drawn with
  | finish outcome => rfl
  | ask query next ih => exact ih _ hub drawn
  | tell command next ih =>
    simp only [Hub.perform]
    have hsame : hub.tell moment (.other content) command = hub.tell moment .plain command := rfl
    rw [hsame]
    cases hub.tell moment .plain command with
    | ok hub => exact ih _ hub drawn
    | error error => exact ih _ hub drawn
  | draw next ih => exact ih _ hub (drawn + 1)

end Hub

/-! ## Stores side by side -/

/-- Stores that are in use side by side. No two of them have one label. -/
@[ext]
structure Site (ι : Type) where
  hub : ι → Hub
  apart : Function.Injective fun place => (hub place).store.label

/-- Two stores, one of them without a file. -/
example : Site Bool where
  hub := fun kept => { store := .blank kept.toNat none kept }
  apart := by unfold Function.Injective; decide

namespace Site

variable {ι : Type}

/-- The session of a transaction is refused by every other store. -/
theorem transactionOf_foreign (site : Site ι) {place other : ι} (h : other ≠ place) (number : Nat) :
    (site.hub other).transactionOf ((site.hub place).session number) =
      .error Hub.foreignSession :=
  if_neg fun hlabel => h (site.apart hlabel.symm)

variable [DecidableEq ι]

/-- The site with another hub at some place, whose store has the same label. -/
def set (site : Site ι) (place : ι) (hub : Hub)
    (hlabel : hub.store.label = (site.hub place).store.label) : Site ι where
  hub := Function.update site.hub place hub
  apart := by
    have hsame : (fun other => (Function.update site.hub place hub other).store.label) =
        fun other => (site.hub other).store.label := by
      funext other
      by_cases hother : other = place
      · subst hother
        rw [Function.update_self, hlabel]
      · rw [Function.update_of_ne hother]
    rw [hsame]
    exact site.apart

/-- A turn is taken at one of the stores. -/
def take (site : Site ι) (turn : ι × Hub.Turn) : Site ι :=
  site.set turn.1 ((site.hub turn.1).take turn.2) (Hub.label_take _ _)

/-- The site after a schedule, the first turn first. -/
def after (site : Site ι) (schedule : List (ι × Hub.Turn)) : Site ι :=
  schedule.foldl take site

/-- What the turns of a schedule return, each with the turn. -/
def replies : Site ι → List (ι × Hub.Turn) → List ((ι × Hub.Turn) × Except Error Unit)
  | _, [] => []
  | site, turn :: rest =>
    (turn, (site.hub turn.1).reply turn.2) :: (site.take turn).replies rest

/-- The site with another draft for a transaction of one of its stores. -/
def redraft (site : Site ι) (place : ι) (number : Nat) (draft : Draft) : Site ι :=
  site.set place ((site.hub place).redraft number draft) rfl

/-- Whether a turn at some place is taken through a session. -/
def through (place : ι) (session : Session) (turn : ι × Hub.Turn) : Bool :=
  decide (turn.1 = place) && turn.2.event.through session

variable {site : Site ι} {place : ι} {number : Nat} {turn : ι × Hub.Turn}

/-- The first turn of a schedule comes first. -/
theorem after_cons (site : Site ι) (turn : ι × Hub.Turn) (rest : List (ι × Hub.Turn)) :
    site.after (turn :: rest) = (site.take turn).after rest :=
  rfl

/-- A turn at one of the stores leaves the others alone. -/
theorem hub_take_of_ne {other : ι} (h : other ≠ turn.1) :
    (site.take turn).hub other = site.hub other :=
  Function.update_of_ne h _ _

/-- A turn is taken where it is taken. -/
theorem hub_take_self : (site.take turn).hub turn.1 = (site.hub turn.1).take turn.2 :=
  Function.update_self _ _ _

/-- Every store keeps its label. -/
theorem label_take (site : Site ι) (turn : ι × Hub.Turn) (other : ι) :
    ((site.take turn).hub other).store.label = (site.hub other).store.label := by
  by_cases hother : other = turn.1
  · subst hother
    rw [hub_take_self, Hub.label_take]
  · rw [hub_take_of_ne hother]

/-- A transaction that has ended remains so. -/
theorem hasEnded_take (h : (site.hub place).hasEnded number = true) (turn : ι × Hub.Turn) :
    ((site.take turn).hub place).hasEnded number = true := by
  by_cases hplace : place = turn.1
  · subst hplace
    rw [hub_take_self]
    exact Hub.hasEnded_take h turn.2
  · rwa [hub_take_of_ne hplace]

/-- Another draft is seen in its place only. -/
theorem hub_redraft_of_ne {other : ι} (h : other ≠ place) (draft : Draft) :
    (site.redraft place number draft).hub other = site.hub other :=
  Function.update_of_ne h _ _

/-- Another draft is seen in its place. -/
theorem hub_redraft_self (site : Site ι) (place : ι) (number : Nat) (draft : Draft) :
    (site.redraft place number draft).hub place = (site.hub place).redraft number draft :=
  Function.update_self _ _ _

/-- As long as nothing is done through the session of a transaction that has ended, a turn returns the
same and leaves the same behind whatever the draft of this transaction is. -/
theorem take_redraft (hended : (site.hub place).hasEnded number = true)
    (hturn : through place ((site.hub place).session number) turn = false) (draft : Draft) :
    (site.redraft place number draft).take turn = (site.take turn).redraft place number draft ∧
      ((site.redraft place number draft).hub turn.1).reply turn.2 =
        (site.hub turn.1).reply turn.2 := by
  by_cases hplace : turn.1 = place
  · subst hplace
    have hturn' : turn.2.event.through ((site.hub turn.1).session number) = false := by
      simpa [through] using hturn
    obtain ⟨htake, hreply⟩ := Hub.take_redraft hended hturn' draft
    refine ⟨Site.ext (funext fun other => ?_), by rw [hub_redraft_self, hreply]⟩
    by_cases hother : other = turn.1
    · subst hother
      rw [hub_take_self, hub_redraft_self, hub_redraft_self, hub_take_self, htake]
    · rw [hub_take_of_ne hother, hub_redraft_of_ne hother, hub_redraft_of_ne hother,
        hub_take_of_ne hother]
  · refine ⟨Site.ext (funext fun other => ?_), by rw [hub_redraft_of_ne hplace]⟩
    by_cases hother : other = place
    · subst hother
      rw [hub_take_of_ne (Ne.symm hplace), hub_redraft_self, hub_redraft_self,
        hub_take_of_ne (Ne.symm hplace)]
    · rw [hub_redraft_of_ne hother]
      by_cases hturned : other = turn.1
      · subst hturned
        rw [hub_take_self, hub_redraft_of_ne hother, hub_take_self]
      · rw [hub_take_of_ne hturned, hub_redraft_of_ne hother, hub_take_of_ne hturned]

/-- A command through the session of a transaction that has ended changes nothing but its draft. -/
theorem take_late (hended : (site.hub place).hasEnded number = true)
    (hturn : through place ((site.hub place).session number) turn = true) (draft : Draft) :
    ∃ draft', (site.redraft place number draft).take turn = site.redraft place number draft' := by
  rw [through, Bool.and_eq_true, decide_eq_true_iff] at hturn
  obtain ⟨rfl, hturn⟩ := hturn
  obtain ⟨draft', htake⟩ := Hub.take_late (Hub.hasEnded_redraft hended draft) hturn
  refine ⟨draft', Site.ext (funext fun other => ?_)⟩
  by_cases hother : other = turn.1
  · subst hother
    rw [hub_take_self, hub_redraft_self, hub_redraft_self, htake, Hub.redraft_redraft]
  · rw [hub_take_of_ne hother, hub_redraft_of_ne hother, hub_redraft_of_ne hother]

/-- A schedule comes to the same, and its turns return the same, when all that is done through the
session of a transaction that has ended is left out. -/
theorem after_redraft (hended : (site.hub place).hasEnded number = true) (draft : Draft)
    (later : List (ι × Hub.Turn)) :
    let late := through place ((site.hub place).session number)
    let spared := later.filter (!late ·)
    (∃ draft', (site.redraft place number draft).after later =
      (site.after spared).redraft place number draft') ∧
    ((site.redraft place number draft).replies later).filter (!late ·.1) = site.replies spared := by
  -- Each late call leaves yet another draft behind, so what is shown is shown of every draft.
  induction later generalizing site draft with
  | nil => exact ⟨⟨draft, rfl⟩, rfl⟩
  | cons turn rest ih =>
    have hsession : ((site.take turn).hub place).session number =
        (site.hub place).session number := by
      rw [Hub.session, label_take, Hub.session]
    cases hturn : through place ((site.hub place).session number) turn with
    | true =>
      obtain ⟨draft', htake⟩ := take_late hended hturn draft
      obtain ⟨hafter, hreplies⟩ := ih hended draft'
      simp only [List.filter_cons, hturn, Bool.not_true, Bool.false_eq_true, if_false, replies]
      rw [htake]
      refine ⟨?_, hreplies⟩
      rwa [after_cons, htake]
    | false =>
      obtain ⟨htake, hreply⟩ := take_redraft hended hturn draft
      obtain ⟨hafter, hreplies⟩ := ih (hasEnded_take hended turn) draft
      rw [hsession] at hafter hreplies
      simp only [List.filter_cons, hturn, Bool.not_false, if_true, replies, hreply, htake, hreplies]
      refine ⟨?_, trivial⟩
      rwa [after_cons, after_cons, htake]

/-- Every store keeps its label along a schedule. -/
theorem label_after (site : Site ι) (schedule : List (ι × Hub.Turn)) (other : ι) :
    ((site.after schedule).hub other).store.label = (site.hub other).store.label := by
  induction schedule generalizing site with
  | nil => rfl
  | cons turn rest ih => exact (ih (site.take turn)).trans (site.label_take turn other)

/-- The stores have the drafts that they have. -/
theorem redraft_self (site : Site ι) {place : ι} {number : Nat} {tx : Transaction}
    (htx : (site.hub place).transactions[number]? = some tx) :
    site.redraft place number tx.draft = site := by
  refine Site.ext (funext fun other => ?_)
  by_cases hother : other = place
  · subst hother
    rw [hub_redraft_self, Hub.redraft_self htx]
  · rw [hub_redraft_of_ne hother]

/-- The sessions of the store at some place reach no further than they are meant to. -/
structure Confines (site : Site ι) (place : ι) : Prop where
  /-- Through the session of a transaction nothing is asked of another store, whose error comes only
  after those that are raised without it. -/
  foreign_ask : ∀ other, other ≠ place → ∀ number {α : Type} (query : Query α),
    (site.hub other).ask ((site.hub place).session number) query =
      .error (query.refusal?.getD Hub.foreignSession)
  /-- Through the session of a transaction nothing is told to another store either, and neither store
  changes. -/
  foreign_tell : ∀ other, other ≠ place → ∀ number moment command,
    let session := (site.hub place).session number
    (site.hub other).tell moment session command =
        .error (command.refusal?.getD Hub.foreignSession) ∧
      site.take (other, ⟨moment, .tell session command⟩) = site
  /-- Once a transaction has ended, a schedule leaves the same behind, and its other turns return the
  same, when all that is done through the session of the transaction is left out. Only its own draft
  may differ, which nobody else sees. -/
  late : ∀ number, (site.hub place).hasEnded number = true → ∀ later,
    let session := (site.hub place).session number
    let spared := later.filter (!through place session ·)
    (∃ draft, site.after later = (site.after spared).redraft place number draft) ∧
      (site.replies later).filter (!through place session ·.1) = site.replies spared ∧
      (∀ other, ((site.after later).hub other).store = ((site.after spared).hub other).store) ∧
      ∀ other session', (other = place → session' ≠ session) → ∀ {α : Type} (query : Query α),
        ((site.after later).hub other).ask session' query =
          ((site.after spared).hub other).ask session' query
  /-- A session that was made for something else is a plain session to every query, every command and
  every program. -/
  other_scope : ∀ content {α : Type},
    (∀ query : Query α, (site.hub place).ask (.other content) query =
      (site.hub place).ask .plain query) ∧
    (∀ moment command, (site.hub place).tell moment (.other content) command =
      (site.hub place).tell moment .plain command) ∧
    ∀ moment (body : Program α) drawn,
      Hub.perform moment (.other content) body (site.hub place) drawn =
        Hub.perform moment .plain body (site.hub place) drawn

/-- Wherever a schedule on stores that are in use side by side has led, the sessions of every store
reach no further than they are meant to. -/
theorem sessions_isolated (site : Site ι) (schedule : List (ι × Hub.Turn)) (place : ι) :
    (site.after schedule).Confines place := by
  generalize site.after schedule = site
  constructor
  case foreign_ask =>
    intro other hother number α query
    exact Hub.ask_of_error (site.transactionOf_foreign hother number) query
  case foreign_tell =>
    intro other hother number moment command
    have htell := Hub.tell_of_error moment (site.transactionOf_foreign hother number) command
    refine ⟨htell, Site.ext (funext fun third => ?_)⟩
    by_cases hthird : third = other
    · subst hthird
      rw [hub_take_self]
      simp only [Hub.take, htell]
    · rw [hub_take_of_ne hthird]
  case late =>
    intro number hended later
    obtain ⟨tx, htx, -⟩ := Hub.hasEnded_eq_true_iff.1 hended
    obtain ⟨⟨draft, hafter⟩, hreplies⟩ := site.after_redraft hended tx.draft later
    rw [site.redraft_self htx] at hafter hreplies
    refine ⟨⟨draft, hafter⟩, hreplies, fun other => ?_, fun other session' hsession α query => ?_⟩
    · rw [hafter]
      by_cases hother : other = place
      · subst hother
        rw [hub_redraft_self]
        rfl
      · rw [hub_redraft_of_ne hother]
    · rw [hafter]
      by_cases hother : other = place
      · subst hother
        rw [hub_redraft_self]
        refine Hub.ask_redraft ?_ draft query
        rw [Hub.session, label_after]
        exact hsession rfl
      · rw [hub_redraft_of_ne hother]
  case other_scope =>
    intro content α
    exact ⟨fun query => rfl, fun moment command => rfl, fun moment body drawn =>
      Hub.perform_other content body _ drawn⟩

end Site

end Roster
