import Roster.Access.Policy
import Roster.Store.Usecase

/-!
# Talking to a terminal

Instructions act on the directory and say things line by line. What was said before a failure
stays said.
-/

namespace Roster.CommandLine

/-- Why an instruction ends early. -/
inductive Failure
  /-- The directory refused. -/
  | refused (error : Error)
  | failed (message : String)
  deriving DecidableEq, Repr

/-- The sentence people read. -/
def Failure.message : Failure → String
  | refused error => error.message
  | failed message => message

/-- The directory and the lines said so far. -/
structure Desk where
  directory : Directory
  lines : List String := []

/-- Something done at a terminal. -/
abbrev Console := ReaderT Moment (EStateM Failure Desk)

namespace Console

variable {α : Type}

/-- Say one line. -/
def say (line : String) : Console Unit :=
  fun _ desk => .ok () { desk with lines := desk.lines ++ [line] }

/-- Say lines one after another. -/
def sayAll (lines : List String) : Console Unit :=
  fun _ desk => .ok () { desk with lines := desk.lines ++ lines }

/-- An action on the directory. -/
def ofAction (action : Action α) : Console α := fun moment desk =>
  match action moment desk.directory with
  | .ok value directory => .ok value { desk with directory }
  | .error error directory => .error (.refused error) { desk with directory }

instance : MonadLift Action Console := ⟨ofAction⟩

end Console

end Roster.CommandLine
