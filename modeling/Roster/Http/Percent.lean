import Roster.Json.Reader
import Roster.Text.Utf8

/-!
# Percent encoding

In a path a byte may be written as a percent sign and two hexadecimal digits. A percent sign that
is not followed by two such digits stands for itself.
-/

namespace Roster.Http.Percent

/-- Whether a byte may stand for itself in any part of a path. -/
def isUnreserved (byte : UInt8) : Bool :=
  let c := Char.ofNat byte.toNat
  c.isAlphanum || c = '-' || c = '.' || c = '_' || c = '~'

/-- A byte, written with a percent sign unless it is unreserved. -/
def encodeByte (byte : UInt8) : List Char :=
  if isUnreserved byte then [Char.ofNat byte.toNat]
  else ['%', Text.upperHexDigit (byte.toNat / 16), Text.upperHexDigit (byte.toNat % 16)]

/-- A text as one segment of a path. -/
def encode (s : String) : String :=
  String.ofList ((Text.utf8 s).flatMap encodeByte)

/-- The bytes that a part of a path stands for. -/
def decodeBytes : List Char → List UInt8
  | '%' :: a :: b :: rest =>
    match Text.hexValue? a, Text.hexValue? b with
    | some high, some low => .ofNat (16 * high + low) :: decodeBytes rest
    | _, _ => Text.utf8 "%" ++ decodeBytes (a :: b :: rest)
  | c :: rest => Text.utf8 (String.singleton c) ++ decodeBytes rest
  | [] => []

/-- The text that a part of a path stands for, if its bytes are one. -/
def decode? (s : String) : Option String :=
  Text.ofUtf8? (decodeBytes s.toList)

end Roster.Http.Percent
