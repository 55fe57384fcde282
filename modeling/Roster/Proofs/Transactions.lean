import Roster.Proofs.Actions
import Roster.Store.Sessions

/-!
# Usecases through sessions

A usecase that needs a transaction begins one, checks the caller, works through the session of
the transaction and ends it, marked to be committed only if all went well. Run in this way step
by step, it returns what it returns on the directory, commits the same tables, and leaves no
transaction open.
-/

namespace Roster.Hub

variable {α : Type} {moment : Moment} {hub : Hub}

/-- End a transaction whose work has come to an outcome: it is marked to be committed when the
outcome is a value, and a commit that fails becomes the outcome. -/
def close (hub : Hub) (moment : Moment) (number : Nat) : Except Error α → Except Error α × Hub
  | .ok value =>
    let (ended, hub) := (hub.mark number true).finish moment number
    (ended.map fun _ => value, hub)
  | .error error => (.error error, ((hub.mark number false).finish moment number).2)

/-- Run a program in a transaction of its own, if the caller passes the check; it has to wait
while another transaction is open. -/
def transact? (hub : Hub) (moment : Moment) (requirements : Requirements)
    (operator : Option Operator) (body : Program α) (drawn : Nat) :
    Option (Except Error α × Hub × Nat) := do
  let (number, hub) ← hub.begin?
  match requirements.check operator with
  | .error error =>
    let (outcome, hub) := hub.close moment number (.error error)
    return (outcome, hub, drawn)
  | .ok () =>
    let (outcome, hub, drawn) := Hub.perform moment (hub.session number) body hub drawn
    let (outcome, hub) := hub.close moment number outcome
    return (outcome, hub, drawn)

/-- A transaction that is open is among those of the hub. -/
theorem transactionOf_session {number : Nat} {tx : Transaction}
    (htx : hub.transactions[number]? = some tx) :
    hub.transactionOf (hub.session number) = .ok (some (number, tx)) := by
  simp only [transactionOf, session, if_true, htx]

/-- The tables that a session sees: the draft of its transaction, or the committed ones. -/
def seen (hub : Hub) (session : Session) : Except Error Tables :=
  (hub.transactionOf session).map fun
    | some (_, tx) => tx.draft.tables
    | none => hub.store.tables

/-- Unless a query is refused, the tables that its session sees are searched. -/
theorem ask_eq (hub : Hub) (session : Session) (query : Query α) :
    hub.ask session query =
      query.refusal?.elim (hub.seen session >>= query.search) Except.error := by
  unfold ask seen
  cases query.refusal? with
  | some error => rfl
  | none => obtain error | ⟨_ | ⟨number, tx⟩⟩ := hub.transactionOf session <;> rfl

/-- A query is answered when it is answered from the tables that its session sees. -/
theorem ask_eq_ok {session : Session} {query : Query α} {value : α} :
    hub.ask session query = .ok value ↔
      ∃ t, hub.seen session = .ok t ∧ query.answer t = .ok value := by
  rw [ask_eq]
  unfold Query.answer
  cases query.refusal? <;> simp

/-- A query through the session of a transaction is answered from its draft. -/
theorem ask_session {number : Nat} {tx : Transaction}
    (htx : hub.transactions[number]? = some tx) (query : Query α) :
    hub.ask (hub.session number) query = query.answer tx.draft.tables := by
  unfold ask Query.answer
  rw [transactionOf_session htx]
  cases query.refusal? <;> rfl

/-- A command through a session that belongs to a transaction applies to its draft. -/
theorem tell_of_transaction (moment : Moment) {session : Session} {number : Nat} {tx : Transaction}
    (hsession : hub.transactionOf session = .ok (some (number, tx))) (command : Command) :
    hub.tell moment session command =
      (command.apply tx.draft).map fun draft =>
        { hub with transactions := hub.transactions.set number { tx with draft } } := by
  unfold tell Command.apply
  rw [hsession]
  cases command.refusal? with
  | some error => rfl
  | none =>
    change (command.change tx.draft >>= fun draft => pure _) = _
    cases command.change tx.draft <;> rfl

/-- Through the session of a transaction a program works on its draft, and on nothing else. -/
theorem perform_session (body : Program α) {number : Nat} {tx : Transaction}
    (htx : hub.transactions[number]? = some tx) (drawn : Nat) :
    Hub.perform moment (hub.session number) body hub drawn =
      ((body.onDraft moment.ids tx.draft drawn).1,
        { hub with
          transactions := hub.transactions.set number
            { tx with draft := (body.onDraft moment.ids tx.draft drawn).2.1 } },
        (body.onDraft moment.ids tx.draft drawn).2.2) := by
  induction body generalizing hub tx drawn with
  | finish outcome =>
    have hset : hub.transactions.set number tx = hub.transactions := by
      obtain ⟨hlt, rfl⟩ := List.getElem?_eq_some_iff.1 htx
      exact List.set_getElem_self hlt
    simp only [Hub.perform, Program.onDraft, hset]
  | ask query next ih =>
    simp only [Hub.perform, Program.onDraft, ask_session htx]
    exact ih _ htx drawn
  | tell command next ih =>
    simp only [Hub.perform, Program.onDraft, tell_of_transaction moment (transactionOf_session htx)]
    cases command.apply tx.draft with
    | error error => exact ih _ htx drawn
    | ok draft =>
      have hlt := (List.getElem?_eq_some_iff.1 htx).1
      let next : Hub := { hub with transactions := hub.transactions.set number { tx with draft } }
      have htx' : next.transactions[number]? = some { tx with draft } := List.getElem?_set_self hlt
      refine (ih _ htx' drawn).trans ?_
      simp only [next, List.set_set]
  | draw next ih => exact ih _ htx (drawn + 1)

/-- Through the session of the last transaction a program works on its draft. -/
theorem perform_last (body : Program α) (store : Store) (transactions : List Transaction)
    (tx : Transaction) (drawn : Nat) :
    Hub.perform moment (session { store, transactions := transactions ++ [tx] } transactions.length)
        body { store, transactions := transactions ++ [tx] } drawn =
      ((body.onDraft moment.ids tx.draft drawn).1,
        { store
          transactions := transactions ++
            [{ tx with draft := (body.onDraft moment.ids tx.draft drawn).2.1 }] },
        (body.onDraft moment.ids tx.draft drawn).2.2) := by
  rw [perform_session body List.getElem?_concat_length drawn]
  simp

/-- Modifying the last transaction leaves the others alone. -/
theorem modify_last (transactions : List Transaction) (tx : Transaction)
    (f : Transaction → Transaction) :
    (transactions ++ [tx]).modify transactions.length f = transactions ++ [f tx] := by
  induction transactions with
  | nil => rfl
  | cons first rest ih => exact congrArg (first :: ·) ih

/-- Ending the last transaction commits its draft if its work came to a value. -/
theorem close_last (moment : Moment) (store : Store) (transactions : List Transaction) (tx : Transaction)
    (outcome : Except Error α) :
    ∃ last : Transaction, last.ended = true ∧
      close { store, transactions := transactions ++ [tx] } moment transactions.length outcome =
        match outcome with
        | .error error => (.error error, { store, transactions := transactions ++ [last] })
        | .ok value =>
          match store.install moment tx.draft with
          | .error error => (.error error, { store, transactions := transactions ++ [last] })
          | .ok store => (.ok value, { store, transactions := transactions ++ [last] }) := by
  cases outcome with
  | error error =>
    refine ⟨{ tx with marked := false, ended := true }, rfl, ?_⟩
    simp only [close, mark, modify_last, finish, List.getElem?_concat_length, drop]
  | ok value =>
    refine ⟨{ tx with marked := true, ended := true }, rfl, ?_⟩
    simp only [close, mark, modify_last, finish, List.getElem?_concat_length, drop]
    cases store.install moment tx.draft <;> rfl

/-- What a run through sessions came to is what a run on the directory came to, and no transaction
is open. -/
structure Agrees (run : Except Error α × Hub × Nat) (result : Except Error α × Directory) : Prop where
  outcome : run.1 = result.1
  store : run.2.1.store = result.2.store
  drawn : run.2.2 = result.2.drawn
  gateFree : run.2.1.gateFree = true

/-- The run through sessions says what the result on the directory is. -/
theorem Agrees.result_eq {run : Except Error α × Hub × Nat} {result : Except Error α × Directory}
    (h : Agrees run result) : result = (run.1, { store := run.2.1.store, drawn := run.2.2 }) := by
  obtain ⟨houtcome, hstore, hdrawn, -⟩ := h
  rw [houtcome, hstore, hdrawn]

/-- Once the last transaction has ended, the gate is free. -/
theorem gateFree_last {store : Store} {transactions : List Transaction} {last : Transaction}
    (hfree : transactions.all Transaction.ended = true) (hlast : last.ended = true) :
    gateFree { store, transactions := transactions ++ [last] } = true := by
  simp [gateFree, hlast, hfree]

/-- While no transaction is open, a transaction of its own brings a program to what the usecase
brings it to on the directory, and is no longer open in the end. -/
theorem transact?_agrees (moment : Moment) (hfree : hub.gateFree = true) {usecase : Usecase}
    (htransactional : usecase.transactional = true) (operator : Option Operator) (body : Program α)
    (drawn : Nat) :
    ∃ run, hub.transact? moment usecase.requirements operator body drawn = some run ∧
      Agrees run ((usecase.run operator body).perform moment { store := hub.store, drawn }) := by
  rw [Usecase.perform_run htransactional]
  simp only [transact?, begin?, hfree, if_true, Option.bind_eq_bind, Option.bind_some]
  cases usecase.requirements.check operator with
  | error error =>
    obtain ⟨last, hlast, hclose⟩ := close_last moment hub.store hub.transactions
      { draft := { tables := hub.store.tables } } (.error error : Except Error α)
    simp only [hclose]
    exact ⟨_, rfl, rfl, rfl, rfl, gateFree_last hfree hlast⟩
  | ok _ =>
    simp only [perform_last, Usecase.perform_runTransaction, Usecase.opening]
    have htracks := (Draft.Tracks.begun hub.store.tables).onDraft body moment.ids drawn
    generalize body.onDraft moment.ids { tables := hub.store.tables } drawn = ran at htracks ⊢
    obtain ⟨outcome, draft, drawn⟩ := ran
    obtain ⟨last, hlast, hclose⟩ := close_last moment hub.store hub.transactions
      { draft } outcome
    rw [hclose]
    cases outcome with
    | error error => exact ⟨_, rfl, rfl, rfl, rfl, gateFree_last hfree hlast⟩
    | ok value =>
      simp only [Store.install_eq_commit htracks]
      cases hub.store.commit moment draft.tables with
      | error error => exact ⟨_, rfl, rfl, rfl, rfl, gateFree_last hfree hlast⟩
      | ok store => exact ⟨_, rfl, rfl, rfl, rfl, gateFree_last hfree hlast⟩

/-- Through a session without a transaction a command is carried out on the committed tables. -/
theorem tell_of_plain (moment : Moment) {session : Session}
    (hsession : hub.transactionOf session = .ok none) (command : Command) :
    hub.tell moment session command =
      (hub.store.execute moment command).map fun store => { hub with store } := by
  unfold tell Store.execute Command.apply
  rw [hsession]
  cases command.refusal? with
  | some error => rfl
  | none =>
    change ((command.change _ >>= fun draft => _) >>= fun store => pure _) = _
    cases command.change { tables := hub.store.tables } with
    | error error => rfl
    | ok draft => cases hub.store.commit moment draft.tables <;> rfl

/-- Through a plain session a program works on the committed tables. -/
theorem perform_plain (body : Program α) (hub : Hub) (drawn : Nat) :
    Hub.perform moment .plain body hub drawn =
      ((body.onStore moment hub.store drawn).1,
        { hub with store := (body.onStore moment hub.store drawn).2.1 },
        (body.onStore moment hub.store drawn).2.2) := by
  induction body generalizing hub drawn with
  | finish outcome => rfl
  | ask query next ih =>
    have hask : hub.ask .plain query = query.answer hub.store.tables := by
      unfold ask Query.answer
      cases query.refusal? <;> rfl
    simp only [Hub.perform, Program.onStore, hask]
    exact ih _ hub drawn
  | tell command next ih =>
    have htell : hub.tell moment .plain command = _ := tell_of_plain moment rfl command
    simp only [Hub.perform, Program.onStore, htell]
    cases hub.store.execute moment command with
    | error error => exact ih _ hub drawn
    | ok store => exact ih _ { hub with store } drawn
  | draw next ih => exact ih _ hub (drawn + 1)

/-- How an action unfolds through the sessions of a hub, where some ids have been drawn before:
its parts run one after the other, up to the first that fails, and those that need a transaction
begin one of their own. -/
inductive Unfolds (moment : Moment) :
    {α : Type} → Action α → Hub × Nat → Except Error α × Hub × Nat → Prop
  | known {α : Type} (outcome : Except Error α) (s : Hub × Nat) :
    Unfolds moment (Action.ofExcept outcome) s (outcome, s)
  | now (s : Hub × Nat) : Unfolds moment Action.now s (.ok moment.now, s)
  | draw (kind : Entity) (s : Hub × Nat) :
    Unfolds moment (Action.drawId : Action (Ident kind)) s (.ok ⟨moment.ids s.2⟩, s.1, s.2 + 1)
  | plain {α : Type} (body : Program α) (s : Hub × Nat) :
    Unfolds moment (Usecase.runPlain body) s (Hub.perform moment .plain body s.1 s.2)
  | transaction {α : Type} {usecase : Usecase} {operator : Option Operator} {body : Program α}
    {s : Hub × Nat} {run : Except Error α × Hub × Nat}
    (htransactional : usecase.transactional = true)
    (hrun : s.1.transact? moment usecase.requirements operator body s.2 = some run) :
    Unfolds moment (usecase.run operator body) s run
  | bindOk {α β : Type} {action : Action α} {f : α → Action β} {s s₁ : Hub × Nat} {a : α}
    {run : Except Error β × Hub × Nat} (hfirst : Unfolds moment action s (.ok a, s₁))
    (hsecond : Unfolds moment (f a) s₁ run) :
    Unfolds moment (action >>= f) s run
  | bindError {α β : Type} {action : Action α} {f : α → Action β} {s s₁ : Hub × Nat}
    {error : Error} (hfirst : Unfolds moment action s (.error error, s₁)) :
    Unfolds moment (action >>= f) s (.error error, s₁)

/-- However an action unfolds, it comes to what it comes to on the directory, and no transaction
is open in the end. -/
theorem Unfolds.agrees {action : Action α} {s : Hub × Nat} {run : Except Error α × Hub × Nat}
    (h : Unfolds moment action s run) (hfree : s.1.gateFree = true) :
    Agrees run (action.perform moment { store := s.1.store, drawn := s.2 }) := by
  induction h with
  | known outcome s =>
    rw [Action.perform_ofExcept]
    exact ⟨rfl, rfl, rfl, hfree⟩
  | now s => exact ⟨rfl, rfl, rfl, hfree⟩
  | draw kind s => exact ⟨rfl, rfl, rfl, hfree⟩
  | plain body s =>
    rw [perform_plain, Usecase.perform_runPlain]
    exact ⟨rfl, rfl, rfl, hfree⟩
  | @transaction _ usecase operator body s run htransactional hrun =>
    obtain ⟨run', hrun', hagrees⟩ := transact?_agrees _ hfree htransactional operator body s.2
    rw [hrun, Option.some.injEq] at hrun'
    exact hrun' ▸ hagrees
  | bindOk hfirst hsecond ihfirst ihsecond =>
    have hagrees := ihfirst hfree
    rw [Action.perform_bind, hagrees.result_eq]
    exact ihsecond hagrees.gateFree
  | bindError hfirst ih =>
    have hagrees := ih hfree
    rw [Action.perform_bind, hagrees.result_eq]
    exact ⟨rfl, rfl, rfl, hagrees.gateFree⟩

end Roster.Hub
