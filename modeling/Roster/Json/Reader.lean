import Roster.Json.Basic
import Roster.Text.Hex

/-!
# Reading JSON

A reader takes a value off the front of a text and gives back the rest. Where the text stops
being JSON, reading stops: the value says so at that place, and there is no rest. The depth of
the text is bounded by its length, which serves as fuel.
-/

namespace Roster.Json

/-- The blanks allowed between tokens. -/
def isSpace (c : Char) : Bool :=
  c = ' ' || c = '\n' || c = '\t' || c = '\r'

/-- The text from its first token on. -/
def skipSpace (s : List Char) : List Char :=
  s.dropWhile isSpace

/-- The value of digits, the first one the highest; absent when one is not a digit. -/
def hexNumber? (digits : List Char) : Option Nat :=
  digits.foldl (fun value? c => do return 16 * (← value?) + (← Text.hexValue? c)) (some 0)

/-- What stands inside a quoted text: a character, or a 16-bit unit given by its number. -/
inductive Glyph
  | char (c : Char)
  | unit (code : Nat)

/-- The character an escape letter stands for. -/
def escapeLetter? : Char → Option Char
  | '"' => some '"'
  | '\\' => some '\\'
  | '/' => some '/'
  | 'b' => some '\x08'
  | 'f' => some '\x0c'
  | 'n' => some '\n'
  | 'r' => some '\r'
  | 't' => some '\t'
  | _ => none

/-- The inside of a quoted text up to the closing quote, and what follows the quote. -/
def readGlyphs : List Char → Option (List Glyph × List Char)
  | [] => none
  | '"' :: rest => some ([], rest)
  | '\\' :: 'u' :: a :: b :: c :: d :: rest => do
    let code ← hexNumber? [a, b, c, d]
    let (glyphs, tail) ← readGlyphs rest
    return (.unit code :: glyphs, tail)
  | '\\' :: letter :: rest => do
    let c ← escapeLetter? letter
    let (glyphs, tail) ← readGlyphs rest
    return (.char c :: glyphs, tail)
  | c :: rest => do
    guard (c ≠ '\\' && 0x20 ≤ c.toNat)
    let (glyphs, tail) ← readGlyphs rest
    return (.char c :: glyphs, tail)

/-- The characters of glyphs, where two units make one character above the first 65536. If half
a pair stands alone there are none; the first such half shows only at the end when a second half
might still have followed there. -/
def joinGlyphs : List Glyph → Except Bool (List Char)
  | [] => .ok []
  | .char c :: rest => (joinGlyphs rest).map (c :: ·)
  | .unit high :: .unit low :: rest =>
    if 0xD800 ≤ high && high < 0xDC00 then
      if 0xDC00 ≤ low && low < 0xE000 then
        (joinGlyphs rest).map
          (Char.ofNat (0x10000 + 0x400 * (high - 0xD800) + (low - 0xDC00)) :: ·)
      else .error false
    else if 0xDC00 ≤ high && high < 0xE000 then .error false
    else (joinGlyphs (.unit low :: rest)).map (Char.ofNat high :: ·)
  | .unit code :: rest =>
    if 0xD800 ≤ code && code < 0xE000 then .error (code < 0xDC00 && rest.isEmpty)
    else (joinGlyphs rest).map (Char.ofNat code :: ·)

/-- The leading decimal digits and the rest. -/
def spanDigits (s : List Char) : List Char × List Char :=
  s.span Char.isDigit

/-- The whole part of a number: digits without a needless zero in front. -/
def readWhole (s : List Char) : Option (List Char × List Char) :=
  match spanDigits s with
  | ([], _) => none
  | ('0' :: _ :: _, _) => none
  | (digits, rest) => some (digits, rest)

/-- The part after the point, if there is a point. -/
def readFraction : List Char → Option (List Char × List Char)
  | '.' :: rest =>
    match spanDigits rest with
    | ([], _) => none
    | (digits, tail) => some ('.' :: digits, tail)
  | s => some ([], s)

/-- The power of ten, if there is one. -/
def readExponent : List Char → Option (List Char × List Char)
  | s@(e :: rest) =>
    if e = 'e' || e = 'E' then
      let (sign, digits) :=
        match rest with
        | '+' :: digits => (['+'], digits)
        | '-' :: digits => (['-'], digits)
        | digits => ([], digits)
      match spanDigits digits with
      | ([], _) => none
      | (digits, tail) => some (e :: sign ++ digits, tail)
    else some ([], s)
  | [] => some ([], [])

/-- A number as it is written, and the rest. -/
def readNumber (s : List Char) : Option (List Char × List Char) := do
  let (sign, unsigned) :=
    match s with
    | '-' :: rest => (['-'], rest)
    | _ => ([], s)
  let (whole, rest) ← readWhole unsigned
  let (fraction, rest) ← readFraction rest
  let (exponent, rest) ← readExponent rest
  return (sign ++ whole ++ fraction ++ exponent, rest)

/-- The text after a word it begins with. -/
def afterWord? : (word : List Char) → List Char → Option (List Char)
  | [], s => some s
  | w :: word, c :: s => if w = c then afterWord? word s else none
  | _ :: _, [] => none

/-- A word that stands for a value. -/
def readWord (word : String) (value : Json) (s : List Char) : Json × Option (List Char) :=
  match afterWord? word.toList s with
  | some rest => (value, some rest)
  | none => (broken, none)

/-- A quoted text, after its opening quote. -/
def readText (s : List Char) : Json × Option (List Char) :=
  match readGlyphs s with
  | some (glyphs, rest) =>
    match joinGlyphs glyphs with
    | .ok cs => (text (String.ofList cs), some rest)
    | .error atEnd => (illegible atEnd, some rest)
  | none => (broken, none)

/-- The name that a quoted text is, if it is legible. -/
def name? : Json → Option String
  | text s => some s
  | _ => none

mutual

/-- A value at the front of a text. -/
def readValue : (fuel : Nat) → List Char → Json × Option (List Char)
  | 0, _ => (broken, none)
  | fuel + 1, s =>
    match skipSpace s with
    | [] => (broken, none)
    | '[' :: rest =>
      match skipSpace rest with
      | ']' :: tail => (array [], some tail)
      | start =>
        let (items, tail?) := readItems fuel start
        (array items, tail?)
    | '{' :: rest =>
      match skipSpace rest with
      | '}' :: tail => (object [] true, some tail)
      | start =>
        let (members, tail?) := readMembers fuel start
        (object members tail?.isSome, tail?)
    | '"' :: rest => readText rest
    | 'n' :: rest => readWord "ull" null rest
    | 't' :: rest => readWord "rue" (bool true) rest
    | 'f' :: rest => readWord "alse" (bool false) rest
    | start =>
      match readNumber start with
      | some (literal, rest) => (number (String.ofList literal), some rest)
      | none => (broken, none)

/-- The items of an array that is not empty, up to the closing bracket. -/
def readItems : (fuel : Nat) → List Char → List Json × Option (List Char)
  | 0, _ => ([broken], none)
  | fuel + 1, s =>
    match readValue fuel s with
    | (item, none) => ([item], none)
    | (item, some rest) =>
      match skipSpace rest with
      | ',' :: more =>
        let (items, tail?) := readItems fuel more
        (item :: items, tail?)
      | ']' :: tail => ([item], some tail)
      | _ => ([item, broken], none)

/-- The members of an object that is not empty, up to the closing brace. -/
def readMembers : (fuel : Nat) → List Char → List (Option String × Json) × Option (List Char)
  | 0, _ => ([], none)
  | fuel + 1, s =>
    match skipSpace s with
    | '"' :: rest =>
      match readText rest with
      | (quoted, some rest) =>
        match skipSpace rest with
        | ':' :: rest =>
          match readValue fuel rest with
          | (value, none) => ([(name? quoted, value)], none)
          | (value, some rest) =>
            match skipSpace rest with
            | ',' :: more =>
              let (members, tail?) := readMembers fuel more
              ((name? quoted, value) :: members, tail?)
            | '}' :: tail => ([(name? quoted, value)], some tail)
            | _ => ([(name? quoted, value)], none)
        | _ => ([(name? quoted, broken)], none)
      | (_, none) => ([], none)
    | _ => ([], none)

end

/-- The value at the front of a text, and what follows it if the value is complete. -/
def read (s : List Char) : Json × Option (List Char) :=
  readValue (2 * s.length + 2) s

/-- The value of a text that is one complete value between blanks. -/
def ofString? (s : String) : Option Json :=
  match read s.toList with
  | (value, some rest) => if (skipSpace rest).isEmpty then some value else none
  | (_, none) => none

end Roster.Json
