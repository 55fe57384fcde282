import Roster.Text.Blank

/-!
# Ids

An id is a text marked with the kind of record it names, so that ids of different kinds do not
mix. Ids are ordered by the code points of their texts, which is also the order of their bytes.
-/

namespace Roster

/-- What an id names. -/
inductive Entity
  | user
  | workspace
  | integration
  | policy
  | role
  | permittable
  deriving DecidableEq, Repr

/-- The name of a record of one kind. -/
structure Ident (kind : Entity) where
  /-- The text of the id, kept verbatim. -/
  text : String
  deriving DecidableEq, Repr

abbrev UserId := Ident .user
abbrev WorkspaceId := Ident .workspace
abbrev IntegrationId := Ident .integration
abbrev PolicyId := Ident .policy
abbrev RoleId := Ident .role
abbrev PermittableId := Ident .permittable

namespace Ident

variable {kind : Entity}

instance : LawfulBEq (Ident kind) := inferInstance

instance : LT (Ident kind) := ⟨fun a b => a.text < b.text⟩

instance (a b : Ident kind) : Decidable (a < b) :=
  inferInstanceAs (Decidable (a.text < b.text))

/-- The id written in a text, which is the text without its blank ends; a blank text has none. -/
def parse? (s : String) : Option (Ident kind) :=
  let trimmed := Text.trim s
  if trimmed.isEmpty then none else some ⟨trimmed⟩

theorem lt_irrefl (a : Ident kind) : ¬ a < a :=
  String.lt_irrefl a.text

theorem lt_trans {a b c : Ident kind} : a < b → b < c → a < c :=
  String.lt_trans

/-- Two ids of which neither comes first are the same. -/
theorem eq_of_not_lt {a b : Ident kind} (hab : ¬ a < b) (hba : ¬ b < a) : a = b := by
  have : a.text = b.text :=
    String.le_antisymm (String.not_lt.1 hba) (String.not_lt.1 hab)
  cases a
  cases b
  simp_all

end Ident

/-- The list with only the first occurrence of each element, in order. -/
def distinct {α : Type} [DecidableEq α] : List α → List α
  | [] => []
  | a :: rest => a :: (distinct rest).filter (· ≠ a)

/-- De-duplicating keeps exactly the elements of the list. -/
@[simp]
theorem mem_distinct {α : Type} [DecidableEq α] {a : α} {as : List α} :
    a ∈ distinct as ↔ a ∈ as := by
  induction as with
  | nil => simp [distinct]
  | cons b rest ih => by_cases h : a = b <;> simp [distinct, ih, h]

theorem nodup_distinct {α : Type} [DecidableEq α] (as : List α) : (distinct as).Nodup := by
  induction as with
  | nil => simp [distinct]
  | cons a rest ih =>
    simp only [distinct, List.nodup_cons, List.mem_filter]
    exact ⟨by simp, ih.filter _⟩

end Roster
