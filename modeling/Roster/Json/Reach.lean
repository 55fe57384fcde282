import Roster.Json.Number

/-!
# Reading values of no particular shape

A value that may be anything is read as a whole. Where that fails reading stops, be it behind the
value, so that what follows can still be read, or within it.
-/

namespace Roster.Json

/-- How far the reading of a value comes. -/
inductive Reach
  /-- The value is read. -/
  | whole
  /-- The value cannot be read, but reading stops behind it. -/
  | behind
  /-- Reading stops within the value. -/
  | within
  deriving DecidableEq, Repr

namespace Reach

/-- How far the reading of items comes, given how far it comes in the first one and in the
others. -/
def andThen (first : Reach) (isLast : Bool) (others : Reach) : Reach :=
  match first with
  | whole => others
  | behind => if isLast then behind else within
  | within => within

end Reach

mutual

/-- How far the reading of a value comes, if brackets may be nested up to some depth. -/
def reach : (depth : Nat) → Json → Reach
  | _, null | _, bool _ | _, text _ => .whole
  | _, number literal =>
    match (Numeral.ofLiteral literal).excess with
    | none => .whole
    | some true => .behind
    | some false => .within
  | _, illegible atEnd => if atEnd then .behind else .within
  | 0, array _ | 0, object _ _ => .within
  | depth + 1, array items => reachItems depth items
  | depth + 1, object members closed => if closed then reachMembers depth members else .within
  | _, broken => .within

/-- How far the reading of items comes. -/
def reachItems : (depth : Nat) → List Json → Reach
  | _, [] => .whole
  | depth, item :: rest => (reach depth item).andThen rest.isEmpty (reachItems depth rest)

/-- How far the reading of members comes. -/
def reachMembers : (depth : Nat) → List (Option String × Json) → Reach
  | _, [] => .whole
  | _, (none, _) :: _ => .within
  | depth, (some _, value) :: rest =>
    (reach depth value).andThen rest.isEmpty (reachMembers depth rest)

end

end Roster.Json
