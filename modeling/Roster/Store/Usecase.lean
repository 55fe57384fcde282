import Roster.Access.Operator
import Roster.Store.Program

/-!
# Running programs with permission

A usecase checks what the caller may do and then runs a program, on the committed tables or in a
transaction. In a transaction the program works on a draft; the draft is committed when the
program ends well, and forgotten otherwise.
-/

namespace Roster

/-- A store at work and the number of ids drawn so far. -/
structure Directory where
  store : Store
  drawn : Nat := 0

/-- Something done to a directory at some moment. When it fails, what it did before remains. -/
abbrev Action := ReaderT Moment (EStateM Error Directory)

namespace Action

variable {α : Type}

/-- What an action returns and what it leaves behind. -/
def perform (action : Action α) (moment : Moment) (directory : Directory) :
    Except Error α × Directory :=
  match action moment directory with
  | .ok value directory => (.ok value, directory)
  | .error error directory => (.error error, directory)

/-- The action that returns an outcome and leaves a directory behind. -/
def ofOutcome (outcome : Except Error α) (directory : Directory) :
    EStateM.Result Error Directory α :=
  match outcome with
  | .ok value => .ok value directory
  | .error error => .error error directory

/-- An outcome that is known. -/
def ofExcept (outcome : Except Error α) : Action α :=
  fun _ directory => ofOutcome outcome directory

/-- The time. -/
def now : Action Time.Instant :=
  fun moment directory => .ok moment.now directory

/-- Draw an id. -/
def drawId {kind : Entity} : Action (Ident kind) :=
  fun moment directory =>
    .ok ⟨moment.ids directory.drawn⟩ { directory with drawn := directory.drawn + 1 }

end Action

/-- What a program demands of its caller, and whether it runs in a transaction. -/
structure Usecase where
  requirements : Requirements := {}
  transactional : Bool := false

namespace Usecase

variable {α : Type}

/-- Run a program on the committed tables. -/
def runPlain (body : Program α) : Action α := fun moment directory =>
  let (outcome, store, drawn) := body.onStore moment directory.store directory.drawn
  Action.ofOutcome outcome { directory with store, drawn }

/-- Run a program on a draft, and commit the draft if the program ends well. -/
def runTransaction (body : Program α) : Action α := fun moment directory =>
  let (outcome, draft, drawn) :=
    body.onDraft moment.ids { tables := directory.store.tables } directory.drawn
  match outcome with
  | .error error => .error error { directory with drawn }
  | .ok value =>
    match directory.store.install moment draft with
    | .error error => .error error { directory with drawn }
    | .ok store => .ok value { directory with store, drawn }

/-- Check the caller and run the program. -/
def run (usecase : Usecase) (operator : Option Operator) (body : Program α) : Action α := do
  Action.ofExcept (usecase.requirements.check operator)
  if usecase.transactional then runTransaction body else runPlain body

end Usecase

end Roster
