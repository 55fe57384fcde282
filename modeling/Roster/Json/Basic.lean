/-!
# Values of a JSON text

A value keeps what the text says: members in their order and with repetitions, numbers as
written. Since a text can stop being JSON half-way, a value can also hold the place where that
happens, so that whoever reads a value in the order of the text meets its first fault first.
Names and texts that stand for no characters are kept as well, since a value that nobody asks
for may hold some.
-/

namespace Roster

/-- A JSON text as far as it could be read. -/
inductive Json
  | null
  | bool (value : Bool)
  /-- A number, kept as it is written. -/
  | number (literal : String)
  | text (value : String)
  /-- A text between quotes that stands for no characters; `atEnd` tells whether that does not
  show before its closing quote. -/
  | illegible (atEnd : Bool)
  | array (items : List Json)
  /-- Members in their order, with their names where these are legible; `closed` tells whether
  the closing brace was reached. -/
  | object (members : List (Option String × Json)) (closed : Bool)
  /-- The place where the text stops being JSON. -/
  | broken
  deriving Inhabited, Repr, BEq

namespace Json

/-- The number written with the digits of a natural number. -/
def ofNat (n : Nat) : Json :=
  number (toString n)

/-- A complete object. -/
def record (members : List (String × Json)) : Json :=
  object (members.map fun (name, value) => (some name, value)) true

/-- The text if there is one, `null` if not. -/
def ofText? : Option String → Json
  | some s => text s
  | none => null

/-- The first member of a name, in an object. -/
def member? (name : String) : Json → Option Json
  | object members _ => (members.find? fun entry => entry.1 = some name).map (·.2)
  | _ => none

end Json

end Roster
