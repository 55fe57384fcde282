import Roster.Ident

/-!
# Filters on workspaces

A filter limits which workspaces may be read and which may be written. A missing list is no limit,
and what may be written may also be read.
-/

namespace Roster

/-- Limits on the workspaces that may be read and written. -/
structure Filter where
  readable : Option (List WorkspaceId) := none
  writable : Option (List WorkspaceId) := none
  deriving DecidableEq, Repr

namespace Filter

/-- The filter without limits. -/
def none : Filter := {}

/-- Only these workspaces may be read. -/
def ofReadable (ids : List WorkspaceId) : Filter :=
  { readable := some ids }

/-- Whether a workspace may be written. -/
def canWrite (filter : Filter) (id : WorkspaceId) : Bool :=
  filter.writable.all fun ids => id ∈ ids

/-- Whether a workspace may be read. -/
def canRead (filter : Filter) (id : WorkspaceId) : Bool :=
  filter.readable.all fun ids => id ∈ ids || filter.writable.any fun ids => id ∈ ids

/-- The ids on both lists, in the order of the first; a missing list leaves the other as it is. -/
def meet : Option (List WorkspaceId) → Option (List WorkspaceId) → Option (List WorkspaceId)
  | some a, some b => some (a.filter (· ∈ b))
  | some a, .none => some a
  | .none, b => b

/-- The limits of two filters together. -/
def merge (a b : Filter) : Filter where
  readable := meet a.readable b.readable
  writable := meet a.writable b.writable

/-- The limits of a list of filters together. -/
def ofList (filters : List Filter) : Filter :=
  filters.foldl merge none

end Filter

end Roster
