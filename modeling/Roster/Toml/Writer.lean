import Roster.Json.Writer

/-!
# Writing TOML

A text is written in the plainest form that can hold it: between double quotes if it needs no
escape, between single quotes if it can do with these, over several lines if it has line breaks
or both kinds of quotes, and with escapes if there is no other way.
-/

namespace Roster.Toml

/-- Whether some character stands three times in a row. -/
def hasTriple (c : Char) : List Char → Bool
  | x :: y :: z :: rest => (x = c && y = c && z = c) || hasTriple c (y :: z :: rest)
  | _ => false

/-- Whether a character can only be written with an escape. -/
def needsEscape (c : Char) : Bool :=
  (c < ' ' && c ≠ '\t' && c ≠ '\n') || c = '\x7f'

/-- The form in which a text is written. -/
inductive Form
  | double
  | single
  | doubleLines
  | singleLines
  deriving DecidableEq, Repr

/-- The plainest form that can hold a text. -/
def Form.of (s : List Char) : Form :=
  let escapes := s.any needsEscape
  let lines := '\n' ∈ s
  if !escapes && '\\' ∉ s && '"' ∉ s && !lines then double
  else if !escapes && '\'' ∉ s && !lines then single
  else if !escapes && '\\' ∉ s && !hasTriple '"' s then doubleLines
  else if !escapes && !hasTriple '\'' s then singleLines
  else if lines then doubleLines
  else double

/-- How a character other than a quote or a line break stands between double quotes. -/
def escape (c : Char) : List Char :=
  if c = '\\' then ['\\', '\\']
  else if c = '\x08' then ['\\', 'b']
  else if c = '\t' then ['\\', 't']
  else if c = '\x0c' then ['\\', 'f']
  else if c = '\r' then ['\\', 'r']
  else if needsEscape c then
    ['\\', 'u', '0', '0', Text.upperHexDigit (c.toNat / 16), Text.upperHexDigit (c.toNat % 16)]
  else [c]

/-- How a character stands between double quotes on one line. -/
def escapeInLine (c : Char) : List Char :=
  if c = '"' then ['\\', '"']
  else if c = '\n' then ['\\', 'n']
  else escape c

/-- How characters stand between three double quotes, of which at most two come in a row. -/
def escapeLines : (quotes : Nat) → List Char → List Char
  | _, [] => []
  | quotes, c :: rest =>
    if c = '"' then
      if quotes < 2 then '"' :: escapeLines (quotes + 1) rest
      else '\\' :: '"' :: escapeLines 0 rest
    else if c = '\n' then '\n' :: escapeLines 0 rest
    else escape c ++ escapeLines 0 rest

/-- A line break in front of a text that has line breaks of its own. -/
def leadIn (s : List Char) : List Char :=
  if '\n' ∈ s then ['\n'] else []

/-- A text between quotes. -/
def quote (text : String) : String :=
  let s := text.toList
  String.ofList <|
    match Form.of s with
    | .double => '"' :: s.flatMap escapeInLine ++ ['"']
    | .single => '\'' :: s ++ ['\'']
    | .doubleLines => ['"', '"', '"'] ++ leadIn s ++ escapeLines 0 s ++ ['"', '"', '"']
    | .singleLines => ['\'', '\'', '\''] ++ leadIn s ++ s ++ ['\'', '\'', '\'']

/-- An array of texts: on one line if there is at most one, else with a line for each. -/
def quoteAll : List String → String
  | [] => "[]"
  | [item] => "[" ++ quote item ++ "]"
  | items => "[\n" ++ String.join (items.map fun item => "    " ++ quote item ++ ",\n") ++ "]"

/-- A line that enters a value under a key. -/
def entryLine (key value : String) : String :=
  key ++ " = " ++ value ++ "\n"

end Roster.Toml
