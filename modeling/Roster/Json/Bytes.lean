import Roster.Json.Reader
import Roster.Text.Utf8

/-!
# Reading JSON from bytes

Bytes that are no UTF-8 stand for no characters, so a quoted text that holds some is illegible,
and outside of texts they end the JSON. Whatever is put in their place, as long as it has no
meaning of its own: the texts that depend on it are the ones that hold such bytes.
-/

namespace Roster.Json

/-- The character at the front of some bytes, and how many more bytes belong to it. -/
def firstChar? (bytes : List UInt8) : Option (Char × Nat) :=
  [0, 1, 2, 3].findSome? fun more => do
    let s ← Text.ofUtf8? (bytes.take (more + 1))
    return (← s.toList.head?, more)

/-- The characters of bytes after some that are to be skipped, with a stand-in for each byte that
is no UTF-8. -/
def decodeWith (standIn : Char) : (skip : Nat) → List UInt8 → List Char
  | _, [] => []
  | skip + 1, _ :: rest => decodeWith standIn skip rest
  | 0, byte :: rest =>
    match firstChar? (byte :: rest) with
    | some (c, more) => c :: decodeWith standIn more rest
    | none => standIn :: decodeWith standIn 0 rest

mutual

/-- What two readings of the same bytes have in common. -/
def common : Json → Json → Json
  | text s, text s' => if s = s' then text s else illegible true
  | array items, array items' => array (commonItems items items')
  | object members closed, object members' _ => object (commonMembers members members') closed
  | value, _ => value

/-- What two readings of the same items have in common. -/
def commonItems : List Json → List Json → List Json
  | item :: rest, item' :: rest' => common item item' :: commonItems rest rest'
  | _, _ => []

/-- What two readings of the same members have in common. -/
def commonMembers : List (Option String × Json) → List (Option String × Json) →
    List (Option String × Json)
  | (name, value) :: rest, (name', value') :: rest' =>
    (if name = name' then name else none, common value value') :: commonMembers rest rest'
  | _, _ => []

end

/-- The value at the front of some bytes, and what follows it if the value is complete. Neither
of the stand-ins is a token, a digit or the letter of an escape. -/
def readBytes (bytes : List UInt8) : Json × Option (List Char) :=
  let (value, rest?) := read (decodeWith 'x' 0 bytes)
  (common value (read (decodeWith 'y' 0 bytes)).1, rest?)

end Roster.Json
