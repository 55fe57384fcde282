import Roster.Json.Basic
import Roster.Text.Hex

/-!
# Writing JSON

Values are written on one line without blanks, or over several lines with two blanks for each
level. In texts only the quote, the backslash and the control characters below the blank are
escaped, by a letter where there is one.
-/

namespace Roster.Json

/-- How a character stands inside a quoted text. -/
def escape (c : Char) : List Char :=
  if c = '"' then ['\\', '"']
  else if c = '\\' then ['\\', '\\']
  else if c = '\x08' then ['\\', 'b']
  else if c = '\x0c' then ['\\', 'f']
  else if c = '\n' then ['\\', 'n']
  else if c = '\r' then ['\\', 'r']
  else if c = '\t' then ['\\', 't']
  else if c.toNat < 0x20 then
    ['\\', 'u', '0', '0', Text.hexDigit (c.toNat / 16), Text.hexDigit (c.toNat % 16)]
  else [c]

/-- A text between quotes. -/
def quote (s : String) : List Char :=
  '"' :: s.toList.flatMap escape ++ ['"']

/-- A name between quotes, or nothing in place of an illegible one. -/
def quoteName (name : Option String) : List Char :=
  (name.map quote).getD []

/-- How values are laid out: on one line, or over lines from some level of indentation on. -/
inductive Layout
  | oneLine
  | lines (level : Nat)

namespace Layout

/-- The layout of what stands inside brackets. -/
def inner : Layout → Layout
  | oneLine => oneLine
  | lines level => lines (level + 1)

/-- What separates a bracket or a comma from what follows it. -/
def lineBreak : Layout → List Char
  | oneLine => []
  | lines level => '\n' :: List.replicate (2 * level) ' '

/-- What stands between a name and its value. -/
def colon : Layout → List Char
  | oneLine => [':']
  | lines _ => [':', ' ']

end Layout

mutual

/-- Write a value. A place that could not be read is written as nothing. -/
def write (layout : Layout) : Json → List Char
  | null => "null".toList
  | bool true => "true".toList
  | bool false => "false".toList
  | number literal => literal.toList
  | text value => quote value
  | illegible _ => []
  | array [] => ['[', ']']
  | array (item :: rest) =>
    '[' :: layout.inner.lineBreak ++ write layout.inner item ++ writeItems layout.inner rest ++
      layout.lineBreak ++ [']']
  | object [] _ => ['{', '}']
  | object ((name, value) :: rest) _ =>
    '{' :: layout.inner.lineBreak ++ quoteName name ++ layout.colon ++ write layout.inner value ++
      writeMembers layout.inner rest ++ layout.lineBreak ++ ['}']
  | broken => []

/-- Write the items after the first one. -/
def writeItems (layout : Layout) : List Json → List Char
  | [] => []
  | item :: rest => ',' :: layout.lineBreak ++ write layout item ++ writeItems layout rest

/-- Write the members after the first one. -/
def writeMembers (layout : Layout) : List (Option String × Json) → List Char
  | [] => []
  | (name, value) :: rest =>
    ',' :: layout.lineBreak ++ quoteName name ++ layout.colon ++ write layout value ++
      writeMembers layout rest

end

/-- The value on one line. -/
def compact (value : Json) : String :=
  String.ofList (value.write .oneLine)

/-- The value over several lines. -/
def pretty (value : Json) : String :=
  String.ofList (value.write (.lines 0))

end Roster.Json
