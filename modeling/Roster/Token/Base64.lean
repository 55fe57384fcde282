/-!
# Bytes as base64url text

Three bytes are four digits of six bits each. At the end of the text, where one or two bytes
remain, two or three digits are written and nothing fills the gap. Each sequence of bytes has
just one text, so reading refuses digits whose surplus bits are set.
-/

namespace Roster.Token.Base64

/-- The digit for a number below 64. -/
def digit (n : Nat) : Char :=
  if n < 26 then Char.ofNat (n + 'A'.toNat)
  else if n < 52 then Char.ofNat (n - 26 + 'a'.toNat)
  else if n < 62 then Char.ofNat (n - 52 + '0'.toNat)
  else if n = 62 then '-'
  else '_'

/-- The number a digit stands for. -/
def value? (c : Char) : Option Nat :=
  if c.isUpper then some (c.toNat - 'A'.toNat)
  else if c.isLower then some (c.toNat - 'a'.toNat + 26)
  else if c.isDigit then some (c.toNat - '0'.toNat + 52)
  else if c = '-' then some 62
  else if c = '_' then some 63
  else none

/-- The digits of some bytes. -/
def encode : List UInt8 → List Char
  | a :: b :: c :: rest =>
    let n := (a.toNat * 256 + b.toNat) * 256 + c.toNat
    digit (n / 64 / 64 / 64) :: digit (n / 64 / 64 % 64) :: digit (n / 64 % 64) ::
      digit (n % 64) :: encode rest
  | [a, b] =>
    let n := (a.toNat * 256 + b.toNat) * 4
    [digit (n / 64 / 64), digit (n / 64 % 64), digit (n % 64)]
  | [a] =>
    let n := a.toNat * 16
    [digit (n / 64), digit (n % 64)]
  | [] => []

/-- The bytes that some digits stand for. -/
def decode? : List Char → Option (List UInt8)
  | w :: x :: y :: z :: rest => do
    let n := ((← value? w) * 64 + (← value? x)) * 64 * 64 + (← value? y) * 64 + (← value? z)
    let bytes ← decode? rest
    return .ofNat (n / 256 / 256) :: .ofNat (n / 256 % 256) :: .ofNat (n % 256) :: bytes
  | [w, x, y] => do
    let n := ((← value? w) * 64 + (← value? x)) * 64 + (← value? y)
    guard (n % 4 = 0)
    return [.ofNat (n / 4 / 256), .ofNat (n / 4 % 256)]
  | [w, x] => do
    let n := (← value? w) * 64 + (← value? x)
    guard (n % 16 = 0)
    return [.ofNat (n / 16)]
  | [_] => none
  | [] => some []

end Roster.Token.Base64
