import Roster.Store.Basic

/-!
# Programs over the store

A program asks queries, gives commands and draws ids, each depending on what came before, and
ends with a value or an error. It does not say whether it works on the committed tables or on a
draft: both are ways to run it.
-/

namespace Roster

/-- A course of queries and commands that ends with a value or an error. -/
inductive Program (α : Type) : Type 1
  | finish (outcome : Except Error α)
  | ask {β : Type} (query : Query β) (next : Except Error β → Program α)
  | tell (command : Command) (next : Except Error Unit → Program α)
  | draw (next : String → Program α)

namespace Program

variable {α β : Type}

/-- Go on with what a program ended with, be it a value or an error. -/
def andThen : Program α → (Except Error α → Program β) → Program β
  | finish outcome, f => f outcome
  | ask query next, f => ask query fun reply => (next reply).andThen f
  | tell command next, f => tell command fun reply => (next reply).andThen f
  | draw next, f => draw fun id => (next id).andThen f

instance : Monad Program where
  pure value := finish (.ok value)
  bind program f := program.andThen fun
    | .ok value => f value
    | .error error => finish (.error error)

instance : MonadExceptOf Error Program where
  throw error := finish (.error error)
  tryCatch program handle := program.andThen fun
    | .ok value => finish (.ok value)
    | .error error => handle error

/-- Ask one query. -/
def query (q : Query α) : Program α :=
  ask q finish

/-- Give one command. -/
def command (c : Command) : Program Unit :=
  tell c finish

/-- Draw an id. -/
def drawId {kind : Entity} : Program (Ident kind) :=
  draw fun id => finish (.ok ⟨id⟩)

/-- End with a value or an error that is known. -/
def ofExcept (outcome : Except Error α) : Program α :=
  finish outcome

/-- Ask a query to which there may be no answer. -/
def queryOptional (q : Query α) : Program (Option α) :=
  ask q fun reply => finish (Roster.optional reply)

/-- Fail if a query is answered with something that is taken. -/
def refuseTaken (q : Query α) (taken : α → Bool) (error : Error) : Program Unit := do
  if let some a ← queryOptional q then
    if taken a then throw error

/--
Run a program on a draft, where `drawn` ids have been drawn before. A command that fails leaves
the draft as it was.
-/
def onDraft (ids : Nat → String) : Program α → Draft → (drawn : Nat) →
    Except Error α × Draft × Nat
  | finish outcome, draft, drawn => (outcome, draft, drawn)
  | ask query next, draft, drawn => (next (query.answer draft.tables)).onDraft ids draft drawn
  | tell command next, draft, drawn =>
    match command.apply draft with
    | .ok draft => (next (.ok ())).onDraft ids draft drawn
    | .error error => (next (.error error)).onDraft ids draft drawn
  | draw next, draft, drawn => (next (ids drawn)).onDraft ids draft (drawn + 1)

/-- Run a program on the committed tables, each command being committed by itself. -/
def onStore (moment : Moment) : Program α → Store → (drawn : Nat) → Except Error α × Store × Nat
  | finish outcome, store, drawn => (outcome, store, drawn)
  | ask query next, store, drawn => (next (query.answer store.tables)).onStore moment store drawn
  | tell command next, store, drawn =>
    match store.execute moment command with
    | .ok store => (next (.ok ())).onStore moment store drawn
    | .error error => (next (.error error)).onStore moment store drawn
  | draw next, store, drawn => (next (moment.ids drawn)).onStore moment store (drawn + 1)

end Program

end Roster
