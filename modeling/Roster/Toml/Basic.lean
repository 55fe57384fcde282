/-!
# Values of a TOML text

A text is a table of named values. How a table came about decides what may still be added to it:
a table that stands on one line is complete, one that was opened by a header may get tables below
it, and one that was only mentioned may still be opened.
-/

namespace Roster

/-- How a table came about. -/
inductive Toml.Standing
  /-- It was written within braces. -/
  | closed
  /-- It was opened by a header of its own. -/
  | opened
  /-- It was mentioned by the header of a table below it. -/
  | implied
  /-- It was made by a key with points. -/
  | dotted
  deriving DecidableEq, Repr

/-- A value of a TOML text. -/
inductive Toml
  | text (s : String)
  /-- A number, a truth value or a time, kept as it is written. -/
  | bare (literal : String)
  | array (items : List Toml)
  | table (standing : Toml.Standing) (entries : List (String × Toml))
  /-- The tables opened one after another by headers in double brackets. -/
  | tables (elements : List (List (String × Toml)))
  deriving Inhabited

namespace Toml

/-- The named values of a table, in their order. -/
abbrev Entries := List (String × Toml)

/-- Put another value under a name that is there. -/
def Entries.replace (entries : Entries) (name : String) (value : Toml) : Entries :=
  entries.map fun entry => if entry.1 = name then (name, value) else entry

/-- Change the last of some tables. -/
def changeLast (change : Entries → Option Entries) : List Entries → Option (List Entries)
  | [] => none
  | [last] => do return [← change last]
  | element :: rest => do return element :: (← changeLast change rest)

namespace Entries

/-- Change the table that a header's path leads to; tables on the way are made as needed. -/
def changeAt (change : Entries → Option Entries) : (path : List String) → Entries →
    Option Entries
  | [], entries => change entries
  | name :: path, entries =>
    match entries.lookup name with
    | none => do return entries ++ [(name, .table .implied (← changeAt change path []))]
    | some (.table .closed _) => none
    | some (.table standing inner) => do
      return entries.replace name (.table standing (← changeAt change path inner))
    | some (.tables elements) => do
      return entries.replace name (.tables (← changeLast (changeAt change path) elements))
    | some _ => none

/-- Open a table; only one that was implied may be there already. -/
def openTable (name : String) (entries : Entries) : Option Entries :=
  match entries.lookup name with
  | none => some (entries ++ [(name, .table .opened [])])
  | some (.table .implied inner) => some (entries.replace name (.table .opened inner))
  | some _ => none

/-- Open one more table of an array of tables. -/
def openElement (name : String) (entries : Entries) : Option Entries :=
  match entries.lookup name with
  | none => some (entries ++ [(name, .tables [[]])])
  | some (.tables elements) => some (entries.replace name (.tables (elements ++ [[]])))
  | some _ => none

/--
Enter a value under a key with or without points. The name must be free, and the table it goes
into must not have been opened or mentioned by a header.
-/
def enter (name : String) (value : Toml) : (path : List String) → Entries → Option Entries
  | [], entries =>
    match entries.lookup name with
    | none => some (entries ++ [(name, value)])
    | some _ => none
  | head :: path, entries =>
    match entries.lookup head with
    | none => do return entries ++ [(head, .table .dotted (← enter name value path []))]
    | some (.table .dotted inner) => do
      return entries.replace head (.table .dotted (← enter name value path inner))
    | some (.table .implied inner) => do
      guard !path.isEmpty
      return entries.replace head (.table .implied (← enter name value path inner))
    | some (.tables elements) => do
      guard !path.isEmpty
      return entries.replace head (.tables (← changeLast (enter name value path) elements))
    | some _ => none

end Entries

end Toml

end Roster
