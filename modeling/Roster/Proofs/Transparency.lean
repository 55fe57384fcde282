import Roster.Proofs.Isolation
import Roster.Proofs.Snapshots

/-!
# Transactions are transparent

As long as nobody else writes, queries and commands come to the same whether they go through a
plain session, each for itself, or all together through the session of a transaction that is
committed afterwards. Every one of them returns the same, and in the end the same tables are
committed and kept.
-/

namespace Roster

/-- Something to be done through a session: a query or a command. -/
inductive Errand
  | ask {α : Type} (query : Query α)
  | tell (command : Command)

/-- What an errand returns when it succeeds. -/
def Errand.Answer : Errand → Type
  | @ask α _ => α
  | tell _ => Unit

/-- An errand and what came of it. -/
abbrev Reply := (errand : Errand) × Except Error errand.Answer

namespace Hub

/-- Do an errand through a session. -/
def serve (hub : Hub) (moment : Moment) (session : Session) :
    (errand : Errand) → Except Error errand.Answer × Hub
  | .ask query => (hub.ask session query, hub)
  | .tell command =>
    match hub.tell moment session command with
    | .ok hub => (.ok (), hub)
    | .error error => (.error error, hub)

/-- Do errands through a session, one after the other, each at its moment. -/
def serveAll (hub : Hub) (session : Session) : List (Moment × Errand) → List Reply × Hub
  | [] => ([], hub)
  | (moment, errand) :: rest =>
    let (reply, hub) := hub.serve moment session errand
    let (replies, hub) := hub.serveAll session rest
    (⟨errand, reply⟩ :: replies, hub)

end Hub

/-! ## Faithful stores -/

namespace Store

/-- The snapshot file holds the committed tables, if they are kept in one. -/
def Faithful (store : Store) : Prop :=
  store.attached = true → load? store.file = some store.tables

/-- A store is faithful after every commit. -/
theorem faithful_holding (store : Store) (t : Tables) : (store.holding t).Faithful := by
  intro hattached
  have hfile : (store.holding t).file = some t.toSnapshot := if_pos hattached
  rw [hfile, load?, Tables.ofSnapshot?_toSnapshot]
  rfl

/-- To commit the tables of a faithful store once more changes nothing that can be read from its
file. -/
theorem Faithful.load?_holding {store : Store} (h : store.Faithful) :
    load? (store.holding store.tables).file = load? store.file := by
  cases hattached : store.attached with
  | false => simp [holding, hattached]
  | true => exact (store.faithful_holding store.tables hattached).trans (h hattached).symm

end Store

/-! ## Errands on two hubs -/

namespace Hub

variable {start : Store} {number : Nat} {inside plain : Hub} {moment : Moment}

/-- One hub holds a transaction that has come to the tables that another hub has committed since
both had the same store. -/
structure Mirrors (start : Store) (number : Nat) (inside plain : Hub) : Prop where
  draft : ∃ tx, inside.transactions[number]? = some tx ∧ tx.draft.tables = plain.store.tables ∧
    tx.draft.Tracks start.tables
  still : inside.store = start
  moved : plain.store = start ∨ plain.store = start.holding plain.store.tables

namespace Mirrors

/-- The store that the plain sessions have come to differs from the first one in its tables and its
file only. -/
theorem writable_iff (h : Mirrors start number inside plain) (moment : Moment) :
    plain.store.Writable moment ↔ start.Writable moment := by
  obtain hsame | hmoved := h.moved
  · rw [hsame]
  · rw [hmoved]
    rfl

/-- To commit other tables is the same now as at first. -/
theorem holding_eq (h : Mirrors start number inside plain) (t : Tables) :
    plain.store.holding t = start.holding t := by
  obtain hsame | hmoved := h.moved
  · rw [hsame]
  · rw [hmoved]
    unfold Store.holding
    cases start.attached <;> rfl

/-- A command succeeds on both hubs or is refused with the same error on both. -/
theorem tell (h : Mirrors start number inside plain) (hwritable : start.Writable moment)
    (command : Command) :
    (∃ inside' plain', inside.tell moment (.transaction start.label number) command = .ok inside' ∧
      plain.tell moment .plain command = .ok plain' ∧ Mirrors start number inside' plain') ∨
    ∃ error, inside.tell moment (.transaction start.label number) command = .error error ∧
      plain.tell moment .plain command = .error error := by
  obtain ⟨tx, htx, htables, htracks⟩ := h.draft
  have hsession : inside.transactionOf (.transaction start.label number) =
      .ok (some (number, tx)) := by
    rw [← h.still]
    exact transactionOf_session htx
  have hinside := tell_of_transaction moment hsession command
  have hplain : plain.tell moment .plain command = _ := tell_of_plain_eq moment rfl command
  rw [← htables, ← Draft.map_tables_apply] at hplain
  cases happly : command.apply tx.draft with
  | error error =>
    rw [happly] at hinside hplain
    exact .inr ⟨error, hinside, hplain⟩
  | ok draft =>
    have hcommit : plain.store.commit moment draft.tables = .ok (start.holding draft.tables) := by
      rw [Store.commit_of_writable ((h.writable_iff moment).2 hwritable), h.holding_eq]
    have hplain' : plain.tell moment .plain command =
        .ok { plain with store := start.holding draft.tables } := by
      rw [hplain, happly]
      exact congrArg (Except.map _) hcommit
    rw [happly] at hinside
    have hdraft : (inside.transactions.set number { tx with draft })[number]? =
        some { tx with draft } :=
      List.getElem?_set_self (List.getElem?_eq_some_iff.1 htx).1
    have htracks' := htracks.change (Command.change_of_apply happly)
    exact .inl ⟨_, _, hinside, hplain', ⟨_, hdraft, rfl, htracks'⟩, h.still, .inr rfl⟩

/-- An errand returns the same on both hubs, and they go on mirroring each other. -/
theorem serve (h : Mirrors start number inside plain) (hwritable : start.Writable moment)
    (errand : Errand) :
    (inside.serve moment (.transaction start.label number) errand).1 =
      (plain.serve moment .plain errand).1 ∧
    Mirrors start number (inside.serve moment (.transaction start.label number) errand).2
      (plain.serve moment .plain errand).2 := by
  cases errand with
  | ask query =>
    obtain ⟨tx, htx, htables, -⟩ := h.draft
    refine ⟨?_, h⟩
    have hinside := ask_session htx query
    rw [session, h.still, htables] at hinside
    exact hinside.trans (ask_of_plain rfl query).symm
  | tell command =>
    obtain ⟨inside', plain', hinside, hplain, hmirrors⟩ | ⟨error, hinside, hplain⟩ :=
      h.tell hwritable command
    · simp only [Hub.serve, hinside, hplain]
      exact ⟨trivial, hmirrors⟩
    · simp only [Hub.serve, hinside, hplain]
      exact ⟨trivial, h⟩

/-- Errands return the same on both hubs, from the first to the last. -/
theorem serveAll (h : Mirrors start number inside plain) {calls : List (Moment × Errand)}
    (hwritable : ∀ call ∈ calls, start.Writable call.1) :
    (inside.serveAll (.transaction start.label number) calls).1 = (plain.serveAll .plain calls).1 ∧
    Mirrors start number (inside.serveAll (.transaction start.label number) calls).2
      (plain.serveAll .plain calls).2 := by
  induction calls generalizing inside plain with
  | nil => exact ⟨rfl, h⟩
  | cons call rest ih =>
    obtain ⟨moment, errand⟩ := call
    obtain ⟨hreply, hmirrors⟩ := h.serve (hwritable _ List.mem_cons_self) errand
    obtain ⟨hreplies, hmirrors⟩ := ih hmirrors fun call hcall =>
      hwritable call (List.mem_cons_of_mem _ hcall)
    simp only [Hub.serveAll]
    rw [hreply, hreplies]
    exact ⟨rfl, hmirrors⟩

/-- A transaction that is committed now comes to what the plain sessions have come to. -/
theorem finish (h : Mirrors start number inside plain) (hwritable : start.Writable moment) :
    ((inside.mark number true).finish moment number).1 = .ok () ∧
    ((inside.mark number true).finish moment number).2.store =
      start.holding plain.store.tables := by
  obtain ⟨tx, htx, htables, htracks⟩ := h.draft
  have hmarked : (inside.mark number true).transactions[number]? =
      some { tx with marked := true } := by
    simp [mark, htx]
  have hstore : (inside.mark number true).store = start := h.still
  have hok := (finish_ok_iff hmarked rfl moment).2 (hstore ▸ hwritable)
  refine ⟨hok, ?_⟩
  rw [store_finish_of_ok hmarked rfl hok, hstore, htracks.layOver_eq, htables]

/-- The store of the plain sessions remains faithful. -/
theorem faithful (h : Mirrors start number inside plain) (hfaithful : start.Faithful) :
    plain.store.Faithful := by
  obtain hsame | hmoved := h.moved
  · rwa [hsame]
  · rw [hmoved]
    exact start.faithful_holding _

/-- What can be read from the file of the plain sessions is what a commit of their tables leaves
there. -/
theorem load?_file (h : Mirrors start number inside plain) (hfaithful : start.Faithful) :
    Store.load? (start.holding plain.store.tables).file = Store.load? plain.store.file := by
  obtain hsame | hmoved := h.moved
  · rw [hsame, hfaithful.load?_holding]
  · rw [← hmoved]

end Mirrors

/-- When a transaction begins, its draft and the committed tables are the same. -/
theorem mirrors_of_begin (hub : Hub) :
    Mirrors hub.store hub.transactions.length
      { hub with
        transactions := hub.transactions ++ [{ draft := { tables := hub.store.tables } }] }
      hub where
  draft := ⟨_, List.getElem?_concat_length, rfl, .begun _⟩
  still := rfl
  moved := .inl rfl

/-- While no transaction is open and every snapshot can be written, it is all the same whether
errands are done through plain sessions or through that of a transaction which is committed
afterwards: each of them returns the same, the end of the transaction succeeds, and the same tables
are committed. If the file held the tables before, the same tables are read from it as well, and they
are those that are committed. -/
theorem transparent {hub : Hub} (hfree : hub.gateFree = true) {calls : List (Moment × Errand)}
    (hwritable : ∀ call ∈ calls, hub.store.Writable call.1) {ending : Moment}
    (hending : hub.store.Writable ending) :
    ∃ number begun, hub.begin? = some (number, begun) ∧
      let plain := hub.serveAll .plain calls
      let inside := begun.serveAll (begun.session number) calls
      let ended := (inside.2.mark number true).finish ending number
      inside.1 = plain.1 ∧ ended.1 = .ok () ∧
        ended.2.store.tables = plain.2.store.tables ∧
        (hub.store.Faithful →
          Store.load? ended.2.store.file = Store.load? plain.2.store.file ∧
          plain.2.store.Faithful) := by
  refine ⟨_, _, if_pos hfree, ?_⟩
  obtain ⟨hreplies, hmirrors⟩ := hub.mirrors_of_begin.serveAll hwritable
  obtain ⟨hok, hstore⟩ := hmirrors.finish hending
  have htables := congrArg Store.tables hstore
  have hfile := congrArg (Store.load? ·.file) hstore
  exact ⟨hreplies, hok, htables, fun hfaithful =>
    ⟨hfile.trans (hmirrors.load?_file hfaithful), hmirrors.faithful hfaithful⟩⟩

/-! ### Two clerks -/

namespace Clerks

/-- An empty store that is kept in a file which is not there yet. -/
def office : Hub where
  store := .blank 0 none true

/-- Two roles of one name are to be filed, and the first one is asked for. -/
def calls : List (Moment × Errand) :=
  [(.epoch, .tell (.saveRole { id := ⟨"r1"⟩, name := "clerk" })),
    (.epoch, .tell (.saveRole { id := ⟨"r2"⟩, name := "clerk" })),
    (.epoch, .ask (.role ⟨"r1"⟩))]

/-- In a transaction, too, the second role is refused, and the first one is found in the file
afterwards. -/
theorem transparent_office :
    ∃ number begun, office.begin? = some (number, begun) ∧
      let inside := begun.serveAll (begun.session number) calls
      let ended := (inside.2.mark number true).finish .epoch number
      inside.1 =
        [⟨.tell (.saveRole { id := ⟨"r1"⟩, name := "clerk" }), .ok ()⟩,
          ⟨.tell (.saveRole { id := ⟨"r2"⟩, name := "clerk" }),
            .error (.alreadyExists "role clerk")⟩,
          ⟨.ask (.role ⟨"r1"⟩), .ok { id := ⟨"r1"⟩, name := "clerk" }⟩] ∧
      Store.load? ended.2.store.file =
        some { roles := Table.insert ∅ ⟨"r1"⟩ { id := ⟨"r1"⟩, name := "clerk" } } := by
  have hwritable : ∀ call ∈ calls, office.store.Writable call.1 := by
    intro call hcall _
    simp only [calls, List.mem_cons, List.not_mem_nil, or_false] at hcall
    obtain rfl | rfl | rfl := hcall <;> rfl
  have hending : office.store.Writable .epoch := fun _ => rfl
  have hstart : office.store.Faithful := fun _ => rfl
  obtain ⟨number, begun, hbegin, hreplies, -, -, hsame⟩ := transparent rfl hwritable hending
  obtain ⟨hfile, hfaithful⟩ := hsame hstart
  exact ⟨number, begun, hbegin, hreplies.trans rfl, hfile.trans (hfaithful rfl)⟩

end Clerks

end Hub

end Roster
