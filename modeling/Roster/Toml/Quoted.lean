import Roster.Json.Reader

/-!
# Quoted texts

A text stands between quotes, which may be single or double. Double quotes allow escapes. Three
quotes begin a text of several lines, in which the first line break is dropped and a backslash at
the end of a line joins it with the next word.
-/

namespace Roster.Toml

/-- A blank or a tab. -/
def isSpace (c : Char) : Bool :=
  c = ' ' || c = '\t'

/-- Whether a character may stand for itself: a tab, or anything that is no control character. -/
def isPlain (c : Char) : Bool :=
  c = '\t' || (' ' ≤ c && c ≠ '\x7f')

/-- The character with a number, unless the number is half of a pair or too large. -/
def charOf? (digits : List Char) : Option Char := do
  let n ← Json.hexNumber? digits
  guard n.isValidChar
  return Char.ofNat n

/-- The character an escape letter stands for. -/
def escapeLetter? : Char → Option Char
  | 'b' => some '\x08'
  | 't' => some '\t'
  | 'n' => some '\n'
  | 'f' => some '\x0c'
  | 'r' => some '\r'
  | '"' => some '"'
  | '\\' => some '\\'
  | _ => none

/-- A text with a character in front, and what follows it. -/
def prepend (c : Char) (reading : List Char × List Char) : List Char × List Char :=
  (c :: reading.1, reading.2)

/-- The inside of a text on one line, up to the closing double quote. -/
def readDouble : List Char → Option (List Char × List Char)
  | [] => none
  | '"' :: rest => some ([], rest)
  | '\\' :: 'u' :: a :: b :: c :: d :: rest => do
    return prepend (← charOf? [a, b, c, d]) (← readDouble rest)
  | '\\' :: 'U' :: a :: b :: c :: d :: e :: f :: g :: h :: rest => do
    return prepend (← charOf? [a, b, c, d, e, f, g, h]) (← readDouble rest)
  | '\\' :: letter :: rest => do
    return prepend (← escapeLetter? letter) (← readDouble rest)
  | c :: rest => do
    guard (isPlain c)
    return prepend c (← readDouble rest)

/-- The inside of a text on one line, up to the closing single quote. -/
def readSingle : List Char → Option (List Char × List Char)
  | [] => none
  | '\'' :: rest => some ([], rest)
  | c :: rest => do
    guard (isPlain c)
    return prepend c (← readSingle rest)

/-- Whether nothing but blanks stands before the end of the line. -/
def endsLine (s : List Char) : Bool :=
  match s.dropWhile isSpace with
  | '\n' :: _ | '\r' :: '\n' :: _ => true
  | _ => false

/--
The inside of a text of several lines, up to three double quotes. Up to two quotes may stand
right before these. While `joining`, blanks and line breaks are passed over.
-/
def readDoubleLines (joining : Bool) : List Char → Option (List Char × List Char)
  | [] => none
  | '\n' :: rest =>
    if joining then readDoubleLines true rest
    else (readDoubleLines false rest).map (prepend '\n')
  | '\r' :: '\n' :: rest =>
    if joining then readDoubleLines true rest
    else (readDoubleLines false rest).map (prepend '\n')
  | '"' :: '"' :: '"' :: '"' :: '"' :: rest => some (['"', '"'], rest)
  | '"' :: '"' :: '"' :: '"' :: rest => some (['"'], rest)
  | '"' :: '"' :: '"' :: rest => some ([], rest)
  | '\\' :: 'u' :: a :: b :: c :: d :: rest => do
    return prepend (← charOf? [a, b, c, d]) (← readDoubleLines false rest)
  | '\\' :: 'U' :: a :: b :: c :: d :: e :: f :: g :: h :: rest => do
    return prepend (← charOf? [a, b, c, d, e, f, g, h]) (← readDoubleLines false rest)
  | '\\' :: c :: rest =>
    if endsLine (c :: rest) then readDoubleLines true (c :: rest)
    else do return prepend (← escapeLetter? c) (← readDoubleLines false rest)
  | c :: rest =>
    if joining && isSpace c then readDoubleLines true rest
    else do
      guard (isPlain c)
      return prepend c (← readDoubleLines false rest)

/-- The inside of a text of several lines, up to three single quotes. -/
def readSingleLines : List Char → Option (List Char × List Char)
  | [] => none
  | '\n' :: rest => (readSingleLines rest).map (prepend '\n')
  | '\r' :: '\n' :: rest => (readSingleLines rest).map (prepend '\n')
  | '\'' :: '\'' :: '\'' :: '\'' :: '\'' :: rest => some (['\'', '\''], rest)
  | '\'' :: '\'' :: '\'' :: '\'' :: rest => some (['\''], rest)
  | '\'' :: '\'' :: '\'' :: rest => some ([], rest)
  | c :: rest => do
    guard (isPlain c)
    return prepend c (← readSingleLines rest)

/-- The text without a line break right at its beginning. -/
def dropLineBreak : List Char → List Char
  | '\n' :: rest | '\r' :: '\n' :: rest => rest
  | s => s

/-- A quoted text of any form, if the text begins with a quote. -/
def readQuoted : List Char → Option (List Char × List Char)
  | '"' :: '"' :: '"' :: rest => readDoubleLines false (dropLineBreak rest)
  | '"' :: rest => readDouble rest
  | '\'' :: '\'' :: '\'' :: rest => readSingleLines (dropLineBreak rest)
  | '\'' :: rest => readSingle rest
  | _ => none

end Roster.Toml
