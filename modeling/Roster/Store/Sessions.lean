import Roster.Store.Usecase

/-!
# Sessions and transactions

Queries and commands go through sessions. A plain session sees and changes the committed tables;
the session of a transaction sees and changes that transaction's draft, also after the transaction
has ended. At most one transaction is open at a time. When a transaction that is marked to be
committed ends, the rows its draft touched are committed.
-/

namespace Roster

/-- Through what queries and commands reach the tables. -/
inductive Session
  | plain
  /-- A transaction of the store with this label. -/
  | transaction (store number : Nat)
  /-- A session made for something else, which reaches the tables like a plain one. -/
  | other (content : Nat)
  deriving DecidableEq, Repr

namespace Session

/-- Whether a session belongs to something. -/
def inTransaction : Session → Bool
  | plain => false
  | _ => true

/-- The number a session was made for. -/
def content? : Session → Option Nat
  | other content => some content
  | _ => none

/-- What a session says of itself. -/
def describe (session : Session) : String :=
  "Session \x7b in_transaction: " ++ (if session.inTransaction then "true" else "false") ++ " \x7d"

end Session

/-- A draft and what is to become of it. -/
structure Transaction where
  draft : Draft
  /-- Whether the draft is to be committed at the end. -/
  marked : Bool := false
  ended : Bool := false

/-- A store and the transactions begun on it, each known by its place in the list. -/
structure Hub where
  store : Store
  transactions : List Transaction := []

namespace Hub

variable {α : Type}

/-- The error of a session that belongs to another store. -/
def foreignSession : Error :=
  .storage "session belongs to a different store"

/-- Whether no transaction is open. -/
def gateFree (hub : Hub) : Bool :=
  hub.transactions.all Transaction.ended

/-- Begin a transaction and give out its number, unless another one is open. -/
def begin? (hub : Hub) : Option (Nat × Hub) :=
  if hub.gateFree then
    some (hub.transactions.length, { hub with
      transactions := hub.transactions ++ [{ draft := { tables := hub.store.tables } }] })
  else none

/-- The session of a transaction. -/
def session (hub : Hub) (number : Nat) : Session :=
  .transaction hub.store.label number

/-- The transaction a session belongs to, if any; a session of another store is refused. -/
def transactionOf (hub : Hub) : Session → Except Error (Option (Nat × Transaction))
  | .transaction store number =>
    if store = hub.store.label then
      match hub.transactions[number]? with
      | some transaction => .ok (some (number, transaction))
      | none => .error foreignSession
    else .error foreignSession
  | _ => .ok none

/-- Answer a query through a session. -/
def ask (hub : Hub) (session : Session) (query : Query α) : Except Error α := do
  if let some error := query.refusal? then throw error
  match ← hub.transactionOf session with
  | some (_, transaction) => query.search transaction.draft.tables
  | none => query.search hub.store.tables

/-- Carry out a command through a session. -/
def tell (hub : Hub) (moment : Moment) (session : Session) (command : Command) :
    Except Error Hub := do
  if let some error := command.refusal? then throw error
  match ← hub.transactionOf session with
  | some (number, transaction) =>
    let draft ← command.change transaction.draft
    return { hub with transactions := hub.transactions.set number { transaction with draft } }
  | none => return { hub with store := ← hub.store.execute moment command }

/-- Run a program through a session, where `drawn` ids have been drawn before. -/
def perform (moment : Moment) (session : Session) : Program α → Hub → (drawn : Nat) →
    Except Error α × Hub × Nat
  | .finish outcome, hub, drawn => (outcome, hub, drawn)
  | .ask query next, hub, drawn => perform moment session (next (hub.ask session query)) hub drawn
  | .tell command next, hub, drawn =>
    match hub.tell moment session command with
    | .ok hub => perform moment session (next (.ok ())) hub drawn
    | .error error => perform moment session (next (.error error)) hub drawn
  | .draw next, hub, drawn => perform moment session (next (moment.ids drawn)) hub (drawn + 1)

/-- Say whether a transaction is to be committed when it ends. -/
def mark (hub : Hub) (number : Nat) (marked : Bool) : Hub :=
  { hub with transactions := hub.transactions.modify number ({ · with marked }) }

/-- Whether a transaction is to be committed. -/
def isMarked (hub : Hub) (number : Nat) : Bool :=
  hub.transactions[number]?.any Transaction.marked

/-- Give a transaction up without committing it. -/
def drop (hub : Hub) (number : Nat) : Hub :=
  { hub with transactions := hub.transactions.modify number ({ · with ended := true }) }

/-- End a transaction, and commit what it touched if it is marked. -/
def finish (hub : Hub) (moment : Moment) (number : Nat) : Except Error Unit × Hub :=
  match hub.transactions[number]? with
  | some { draft, marked := true, .. } =>
    match hub.store.install moment draft with
    | .ok store => (.ok (), { hub.drop number with store })
    | .error error => (.error error, hub.drop number)
  | _ => (.ok (), hub.drop number)

/-- Run a usecase; one that needs a transaction has to wait while another transaction is open. -/
def run? (hub : Hub) (moment : Moment) (usecase : Usecase) (operator : Option Operator)
    (body : Program α) : Option (Except Error α × Hub) :=
  if usecase.transactional && !hub.gateFree then none
  else
    let (outcome, directory) :=
      (usecase.run operator body).perform moment { store := hub.store }
    some (outcome, { hub with store := directory.store })

end Hub

end Roster
