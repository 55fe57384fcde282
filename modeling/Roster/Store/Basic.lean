import Roster.Records
import Roster.Store.Command

/-!
# The store

A store holds the committed tables and, unless it is detached, keeps a snapshot of them in a
file. The committed tables change only when the snapshot has been replaced, so that the file
always says what the store holds.
-/

namespace Roster

/-- What surrounds a step: the clock, the ids it may draw, and the state of the disk. -/
structure Moment where
  now : Time.Instant
  /-- The id that is drawn after a number of others. -/
  ids : Nat → String
  /-- Why a snapshot cannot be written now, if it cannot. -/
  writeFault : Option String

/-- The epoch, at which every id drawn is empty and snapshots can be written. -/
def Moment.epoch : Moment :=
  { now := .epoch, ids := fun _ => "", writeFault := none }

/-- The committed tables and their snapshot. -/
structure Store where
  /-- Tells this store apart from others. -/
  label : Nat := 0
  tables : Tables
  /-- The text of the snapshot file, if there is one. -/
  file : Option String
  /-- Whether changes are kept in the file. -/
  attached : Bool

namespace Store

/-- Why a store cannot be opened when the text of its file is no snapshot. -/
def openFailure (path : String) : String :=
  "Failed to parse store file " ++ path

/-- Why a store cannot be opened when there is no text at its path but something else. -/
def readFailure (path : String) : String :=
  "Failed to read store file " ++ path

/-- The tables that a snapshot file holds; a missing file holds no rows. -/
def load? (file : Option String) : Option Tables :=
  match file with
  | none => some {}
  | some snapshot => Tables.ofSnapshot? snapshot

/-- Open the store that is kept in a file, unless its text is no snapshot. -/
def open? (file : Option String) (attached : Bool) (label : Nat := 0) : Option Store := do
  return { label, tables := ← load? file, file, attached }

/-- Commit other tables: first the snapshot is written, then the tables are replaced. -/
def commit (store : Store) (moment : Moment) (tables : Tables) : Except Error Store :=
  if store.attached then
    match moment.writeFault with
    | some reason => .error (.storage reason)
    | none => .ok { store with tables, file := some tables.toSnapshot }
  else .ok { store with tables }

/-- Carry out a command on the committed tables. -/
def execute (store : Store) (moment : Moment) (command : Command) : Except Error Store := do
  let draft ← command.apply { tables := store.tables }
  store.commit moment draft.tables

/-- Commit the rows that a draft touched. -/
def install (store : Store) (moment : Moment) (draft : Draft) : Except Error Store :=
  store.commit moment (draft.layOver store.tables)

end Store

end Roster
