import Roster.Text.Hex
import Roster.Token.Sha256

/-!
# Unique names

A unique name is 128 bits, of which six say that the others are random, written as hexadecimal
digits in five groups. From one random seed come as many names as are needed, since each is taken
from the digest of the seed and a number.
-/

namespace Roster.Uuid

/-- The bytes of a number, the lowest first. -/
def littleEndian : (width : Nat) → Nat → List UInt8
  | 0, _ => []
  | width + 1, n => .ofNat (n % 256) :: littleEndian width (n / 256)

/-- The two digits of a byte. -/
def digits (byte : UInt8) : List Char :=
  [Text.hexDigit (byte.toNat / 16), Text.hexDigit (byte.toNat % 16)]

/-- Mark a byte at some place of the name as the standard asks for random names. -/
def mark (entry : UInt8 × Nat) : UInt8 :=
  match entry.2 with
  | 6 => (entry.1 &&& 0x0f) ||| 0x40
  | 8 => (entry.1 &&& 0x3f) ||| 0x80
  | _ => entry.1

/-- The groups of digits, given how many bytes each of them has. -/
def groups : (sizes : List Nat) → List UInt8 → List String
  | [], _ => []
  | size :: sizes, bytes =>
    String.ofList ((bytes.take size).flatMap digits) :: groups sizes (bytes.drop size)

/-- A name that comes from a seed, given its number. -/
def ofSeed (seed : List UInt8) (number : Nat) : String :=
  let bytes := (Token.Sha256.digest (seed ++ littleEndian 8 number)).take 16
  "-".intercalate (groups [4, 2, 2, 2, 6] (bytes.zipIdx.map mark))

end Roster.Uuid
