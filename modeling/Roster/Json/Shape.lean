import Roster.Json.Bytes
import Roster.Json.Number
import Roster.Table

/-!
# Reading values of a known shape

A shape turns a value into data or names the first fault in the order of the text. A place where
the text is no JSON, or a token that stands for nothing, is *malformed*; a value of the wrong
kind, a missing or repeated member and an unknown word are *mismatched*.

A record may be written as an object, whose unknown members are skipped, or as an array of its
fields in their order.
-/

namespace Roster.Json

/-- Why a text does not have the shape asked for. -/
inductive Fault
  | malformed
  | mismatched
  deriving DecidableEq, Repr

/-- How to read data out of a value. -/
abbrev Shape (α : Type) := Json → Except Fault α

/-- The fault of a value that does not begin as the shape asks. -/
def refusal : Json → Fault
  | broken | illegible _ => .malformed
  | number literal => if overflows literal then .malformed else .mismatched
  | _ => .mismatched

namespace Shape

variable {α β : Type}

/-- A text. -/
def text : Shape String
  | .text s => .ok s
  | value => .error value.refusal

/-- `true` or `false`. -/
def bool : Shape Bool
  | .bool b => .ok b
  | value => .error value.refusal

/-- A natural number below 2^64, written without sign, point or exponent. -/
def natural : Shape Nat
  | value@(.number literal) =>
    let n := Nat.ofDigitChars 10 literal.toList 0
    if literal ≠ "" ∧ literal.toList.all Char.isDigit ∧ n < UInt64.size then .ok n
    else .error value.refusal
  | value => .error value.refusal

/-- `null` or a value of the shape. -/
def nullable (shape : Shape α) : Shape (Option α)
  | .null => .ok none
  | value => (shape value).map some

/-- A value of the shape, passed through a function that may refuse it. -/
def filterMap (shape : Shape α) (f : α → Option β) : Shape β := fun value => do
  match f (← shape value) with
  | some b => return b
  | none => throw .mismatched

/-- An array of values of the shape. -/
def list (shape : Shape α) : Shape (List α)
  | .array items => items.mapM shape
  | value => .error value.refusal

/-- An object with ids as names; of two members with one name the later one stays. -/
def table {kind : Entity} (shape : Shape α) : Shape (Table kind α)
  | .object members closed => do
    let rows ← members.mapM fun (name?, value) => do
      let some name := name? | throw .malformed
      return (⟨name⟩, ← shape value)
    if closed then return Table.ofList rows else throw .malformed
  | value => .error value.refusal

/-- One of some words, alone or as the only name of an object that holds `null`. -/
def word (meaning : String → Option α) : Shape α
  | .text s =>
    match meaning s with
    | some a => .ok a
    | none => .error .mismatched
  | .object ((some name, value) :: rest) closed =>
    match meaning name, value with
    | none, _ => .error .mismatched
    | some a, .null => if rest.isEmpty && closed then .ok a else .error .malformed
    | some _, value => .error value.refusal
  | _ => .error .malformed

end Shape

/-! ## Records -/

/-- What a record says of one of its fields. -/
structure Field where
  /-- The name of the field. -/
  name : String
  /-- Whether a value has the shape of the field. -/
  check : Shape Unit
  /-- Whether the field may be left out at the end of an array. -/
  omissible : Bool

/-- A record: its fields in their order, and what they make together. -/
structure Record (α : Type) where
  /-- The fields in the order in which an array lists them. -/
  fields : List Field
  /-- The data made from the values found for the fields. -/
  make : (String → Option Json) → Except Fault α

namespace Record

variable {α β : Type}

instance : Functor Record where
  map f record := ⟨record.fields, fun found => (record.make found).map f⟩

instance : Seq Record where
  seq f record :=
    let rest := record ()
    ⟨f.fields ++ rest.fields, fun found => do return (← f.make found) (← rest.make found)⟩

/-- A field that must be there. -/
def required (name : String) (shape : Shape α) : Record α :=
  ⟨[⟨name, fun value => (shape value).map fun _ => (), false⟩], fun found =>
    match found name with
    | some value => shape value
    | none => .error .mismatched⟩

/-- A field that has a value of its own when it is left out. -/
def defaulted (name : String) (shape : Shape α) (default : α) : Record α :=
  ⟨[⟨name, fun value => (shape value).map fun _ => (), true⟩], fun found =>
    match found name with
    | some value => shape value
    | none => .ok default⟩

/-- A field that may be `null`, or left out of an object, but not out of an array. -/
def optional (name : String) (shape : Shape α) : Record (Option α) :=
  ⟨[⟨name, fun value => (Shape.nullable shape value).map fun _ => (), false⟩], fun found =>
    match found name with
    | some value => Shape.nullable shape value
    | none => .ok none⟩

/-- The values of the fields among the members of an object, the last one first. -/
def gather (fields : List Field) (found : List (String × Json)) :
    List (Option String × Json) → Except Fault (List (String × Json))
  | [] => .ok found
  | (none, _) :: _ => .error .malformed
  | (some name, value) :: rest =>
    match fields.find? fun field => field.name = name with
    | none => gather fields found rest
    | some field =>
      if found.any fun entry => entry.1 = name then .error .mismatched
      else
        match field.check value with
        | .error fault => .error fault
        | .ok () => gather fields ((name, value) :: found) rest

/-- The values of the fields among the items of an array. -/
def align : List Field → List Json → Except Fault (List (String × Json))
  | [], [] => .ok []
  | [], _ :: _ => .error .malformed
  | field :: fields, [] => if field.omissible then align fields [] else .error .mismatched
  | field :: fields, item :: items => do
    field.check item
    return (field.name, item) :: (← align fields items)

/-- The shape of a record. -/
def shape (record : Record α) : Shape α
  | .object members closed => do
    let found ← gather record.fields [] members
    if closed then record.make (List.lookup · found) else throw .malformed
  | .array items => do
    let found ← align record.fields items
    record.make (List.lookup · found)
  | value => .error value.refusal

end Record

/-! ## Reading texts -/

/-- Read the value at the front of a text, whatever follows it. -/
def Shape.readFirst {α : Type} (shape : Shape α) (s : String) : Except Fault α :=
  shape (read s.toList).1

/-- Take a value that was read as the only one between blanks. -/
def Shape.takeWhole {α : Type} (shape : Shape α) : Json × Option (List Char) → Except Fault α
  | (value, rest?) => do
    let data ← shape value
    match rest? with
    | some rest => if (skipSpace rest).isEmpty then return data else throw .malformed
    | none => throw .malformed

/-- Read a text that holds one value between blanks and nothing else. -/
def Shape.readWhole {α : Type} (shape : Shape α) (s : String) : Except Fault α :=
  shape.takeWhole (read s.toList)

/-- Read bytes that hold one value between blanks and nothing else. -/
def Shape.readWholeBytes {α : Type} (shape : Shape α) (bytes : List UInt8) : Except Fault α :=
  shape.takeWhole (readBytes bytes)

end Roster.Json
