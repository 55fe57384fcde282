import Roster.Toml.Bare
import Roster.Toml.Basic
import Roster.Toml.Quoted

/-!
# Reading TOML

A text is a sequence of lines that open tables or enter values. The whole text is refused as soon
as one line is not well-formed or contradicts an earlier one. Values are nested only so far, and
keys have only so many parts. The length of the text serves as fuel.
-/

namespace Roster.Toml

/-- How deep values may be nested, and how many parts a key may have. -/
def maxDepth : Nat := 79

/-- The text from its first character on that is not a blank. -/
def skipSpace (s : List Char) : List Char :=
  s.dropWhile isSpace

/-- What stands after blanks, line breaks and comments; `comment` tells whether one has begun. -/
def skipBreaks (comment : Bool) : List Char → Option (List Char)
  | [] => some []
  | '\n' :: rest => skipBreaks false rest
  | '\r' :: '\n' :: rest => skipBreaks false rest
  | c :: rest =>
    if comment then if isPlain c then skipBreaks true rest else none
    else if c = '#' then skipBreaks true rest
    else if isSpace c then skipBreaks false rest
    else some (c :: rest)

/-- The line after this one, of which only blanks and a comment may be left. -/
def nextLine? (s : List Char) : Option (List Char) :=
  let tail :=
    match skipSpace s with
    | '#' :: comment => comment.dropWhile isPlain
    | tail => tail
  match tail with
  | [] => some []
  | '\n' :: rest | '\r' :: '\n' :: rest => some rest
  | _ => none

/-! ## Keys -/

/-- Whether a character may stand in a key without quotes. -/
def isKeyChar (c : Char) : Bool :=
  c.isAlphanum || c = '_' || c = '-'

/-- A single key. -/
def readKey (s : List Char) : Option (String × List Char) := do
  let (key, rest) ←
    match s with
    | '"' :: rest => readDouble rest
    | '\'' :: rest => readSingle rest
    | _ =>
      let (key, rest) := s.span isKeyChar
      if key.isEmpty then none else some (key, rest)
  return (String.ofList key, rest)

/-- At most `room` keys with points between them, and what follows them and blanks. -/
def readPath : (room : Nat) → List Char → Option (List String × List Char)
  | 0, _ => none
  | room + 1, s => do
    let (key, rest) ← readKey (skipSpace s)
    match skipSpace rest with
    | '.' :: more =>
      let (path, rest) ← readPath room more
      return (key :: path, rest)
    | rest => return ([key], rest)

/-- The last key of a path and the keys before it. -/
def splitPath (path : List String) : Option (List String × String) := do
  return (path.dropLast, ← path.getLast?)

/-! ## Values -/

mutual

/-- A value at the front of a text, nested at most `room` deep, and the rest. -/
def readValue : (fuel room : Nat) → List Char → Option (Toml × List Char)
  | 0, _, _ => none
  | fuel + 1, room, s =>
    match s with
    | '"' :: _ | '\'' :: _ => do
      let (value, rest) ← readQuoted s
      return (.text (String.ofList value), rest)
    | '[' :: rest =>
      match room with
      | 0 => none
      | room + 1 => do
        let (items, rest) ← readItems fuel room rest
        return (.array items, rest)
    | '{' :: rest =>
      match room, skipSpace rest with
      | 0, _ => none
      | _, '}' :: rest => some (.table .closed [], rest)
      | room + 1, _ => do
        let (entries, rest) ← readEntries fuel room [] rest
        return (.table .closed entries, rest)
    | _ => do
      let (literal, rest) ← readBare s
      return (.bare (String.ofList literal), rest)

/-- The items of an array up to the closing bracket; a comma may stand behind the last one. -/
def readItems : (fuel room : Nat) → List Char → Option (List Toml × List Char)
  | 0, _, _ => none
  | fuel + 1, room, s => do
    match ← skipBreaks false s with
    | ']' :: rest => return ([], rest)
    | start =>
      let (item, rest) ← readValue fuel room start
      match ← skipBreaks false rest with
      | ',' :: rest =>
        let (items, rest) ← readItems fuel room rest
        return (item :: items, rest)
      | ']' :: rest => return ([item], rest)
      | _ => none

/-- The entries of a table within braces, of which there is at least one more. -/
def readEntries : (fuel room : Nat) → Entries → List Char → Option (Entries × List Char)
  | 0, _, _, _ => none
  | fuel + 1, room, entries, s => do
    let (entries, rest) ← readEntry fuel room entries s
    match skipSpace rest with
    | ',' :: rest => readEntries fuel room entries rest
    | '}' :: rest => return (entries, rest)
    | _ => none

/-- A key and a value, entered among the entries read before. -/
def readEntry : (fuel room : Nat) → Entries → List Char → Option (Entries × List Char)
  | 0, _, _, _ => none
  | fuel + 1, room, entries, s => do
    let (path, rest) ← readPath maxDepth s
    let (path, name) ← splitPath path
    match rest with
    | '=' :: rest =>
      let (value, rest) ← readValue fuel room (skipSpace rest)
      return (← entries.enter name value path, rest)
    | _ => none

end

/-! ## Lines -/

/-- What a line does. -/
inductive Line
  /-- Open the table at a path. -/
  | table (path : List String) (name : String)
  /-- Open one more table of the array of tables at a path. -/
  | element (path : List String) (name : String)
  /-- Enter a value under a key. -/
  | entry (path : List String) (name : String) (value : Toml)

/-- What a line does, and what follows it on the line. -/
def readLine (s : List Char) : Option (Line × List Char) := do
  match s with
  | '[' :: '[' :: rest =>
    let (path, rest) ← readPath maxDepth rest
    let (path, name) ← splitPath path
    match rest with
    | ']' :: ']' :: rest => return (.element path name, rest)
    | _ => none
  | '[' :: rest =>
    let (path, rest) ← readPath maxDepth rest
    let (path, name) ← splitPath path
    match rest with
    | ']' :: rest => return (.table path name, rest)
    | _ => none
  | _ =>
    let (path, rest) ← readPath maxDepth s
    let (path, name) ← splitPath path
    match rest with
    | '=' :: rest =>
      let (value, rest) ← readValue (2 * s.length + 2) maxDepth (skipSpace rest)
      return (.entry path name value, rest)
    | _ => none

/-- The lines of a text; those that do nothing are passed over. -/
def readLines : (fuel : Nat) → List Char → Option (List Line)
  | 0, _ => none
  | _ + 1, [] => some []
  | fuel + 1, s =>
    match nextLine? s with
    | some rest => readLines fuel rest
    | none => do
      let (line, rest) ← readLine (skipSpace s)
      return line :: (← readLines fuel (← nextLine? rest))

/-- A document as far as it has been read: the table that is open, and all entries. -/
structure Document where
  current : List String := []
  entries : Entries := []

/-- Do what a line says. -/
def Document.take (document : Document) : Line → Option Document
  | .table path name => do
    return ⟨path ++ [name], ← document.entries.changeAt (Entries.openTable name) path⟩
  | .element path name => do
    return ⟨path ++ [name], ← document.entries.changeAt (Entries.openElement name) path⟩
  | .entry path name value => do
    return { document with
      entries := ← document.entries.changeAt (Entries.enter name value path) document.current }

/-- The text without a byte order mark in front. -/
def dropMark : List Char → List Char
  | '\uFEFF' :: rest => rest
  | s => s

/-- The entries of a TOML text, if it is one. -/
def ofText? (s : String) : Option Entries := do
  let cs := dropMark s.toList
  let lines ← readLines (cs.length + 1) cs
  return (← lines.foldlM Document.take {}).entries

end Roster.Toml
