import Roster.Error
import Roster.Text.LowerCase

/-!
# Roles within a workspace

A member of a workspace has one of four roles. Each role may do all that the roles below it may.
-/

namespace Roster

/-- What a member may do in a workspace. -/
inductive Role
  | reader
  | writer
  | maintainer
  | owner
  deriving DecidableEq, Repr

namespace Role

/-- Every role, the highest first. -/
def all : List Role := [owner, maintainer, writer, reader]

/-- The word for a role. -/
def name : Role → String
  | reader => "reader"
  | writer => "writer"
  | maintainer => "maintainer"
  | owner => "owner"

/-- The place of a role in the order. -/
def rank : Role → Nat
  | reader => 0
  | writer => 1
  | maintainer => 2
  | owner => 3

instance : LT Role := ⟨fun a b => a.rank < b.rank⟩
instance (a b : Role) : Decidable (a < b) := inferInstanceAs (Decidable (a.rank < b.rank))

/-- Whether a role may do all that the other may. -/
def includes (role other : Role) : Bool :=
  other.rank ≤ role.rank

/-- The role a word names exactly. -/
def ofName? : String → Option Role
  | "reader" => some reader
  | "writer" => some writer
  | "maintainer" => some maintainer
  | "owner" => some owner
  | _ => none

/-- The role named by a text, in any case and with blanks around it. -/
def parse (s : String) : Except Error Role :=
  match ofName? (Text.lower (Text.trim s)) with
  | some role => .ok role
  | none => .error (.invalidParameter ("invalid role: " ++ s))

/-- Whether a text names a role. -/
def isValid (s : String) : Bool :=
  (parse s).isOk

theorem mem_all (role : Role) : role ∈ all := by
  cases role <;> simp [all]

@[simp]
theorem ofName?_name (role : Role) : ofName? role.name = some role := by
  cases role <;> rfl

end Role

end Roster
