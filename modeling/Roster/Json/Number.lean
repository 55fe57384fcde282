import Roster.Json.Reader

/-!
# Numbers that no double holds

A number stands for a double. Its digits are taken into a 64-bit word as long as they fit, those
that do not fit count as places, and the word is multiplied by the power of ten that remains,
with one rounding for the word, one for the power and one for the product. So of the numbers next
to the largest double some are refused that a single rounding would let pass.
-/

namespace Roster.Json

/-- A number as it is written, without its sign. -/
structure Numeral where
  whole : List Char
  fraction : List Char
  /-- Whether the power of ten has a minus sign. -/
  shrinks : Bool
  /-- The digits of the power of ten. -/
  power : List Char
  deriving DecidableEq, Repr

/-- The power of ten, after its mark. -/
def splitPower : List Char → Bool × List Char
  | '-' :: digits => (true, digits)
  | '+' :: digits => (false, digits)
  | digits => (false, digits)

/-- The parts of a number. -/
def Numeral.ofLiteral (literal : String) : Numeral :=
  let (whole, tail) := spanDigits (literal.toList.dropWhile (· = '-'))
  let (fraction, tail) :=
    match tail with
    | '.' :: rest => spanDigits rest
    | _ => ([], tail)
  let (shrinks, power) := splitPower (tail.drop 1)
  { whole, fraction, shrinks, power }

/-- Take digits into a number as long as it stays within a limit; the rest of the digits is given
back. -/
def takeDigits (limit : Nat) : Nat → List Char → Nat × List Char
  | n, [] => (n, [])
  | n, c :: rest =>
    let next := 10 * n + (c.toNat - '0'.toNat)
    if next ≤ limit then takeDigits limit next rest else (n, c :: rest)

/-- The largest word that holds digits. -/
def maxWord : Nat := 0xFFFFFFFFFFFFFFFF

/-- The largest power of ten that is reckoned with. -/
def maxPower : Nat := 0x7FFFFFFF

/-- The largest power of ten that a double holds. -/
def maxDoublePower : Nat := 308

/-- The least number that is not rounded to a double: half a step beyond the largest one. -/
def doubleLimit : Nat := 1 <<< 1024 - 1 <<< 970

/-- The number of 53 bits and some zeros that is nearest; of two the one whose last bit is
zero. -/
def nearestDouble (n : Nat) : Nat :=
  let unit := 1 <<< (n.log2 - 52)
  let count := n / unit
  let excess := 2 * (n % unit)
  if unit < excess || (unit = excess && count % 2 = 1) then (count + 1) * unit else count * unit

/-- A power of ten. -/
def tenTo : Nat → Nat
  | 0 => 1
  | n + 1 => 10 * tenTo n

/-- Whether a word times a power of ten lies beyond every double. -/
def isBeyond (word : Nat) (power : Int) : Bool :=
  word ≠ 0 && ((maxDoublePower : Int) < power ||
    (0 ≤ power && doubleLimit ≤ nearestDouble word * nearestDouble (tenTo power.toNat)))

namespace Numeral

/-- The digits as a word, and the places by which it is shifted. -/
def word (n : Numeral) : Nat × Int :=
  let (whole, uncounted) := takeDigits maxWord 0 n.whole
  let (all, dropped) := takeDigits maxWord whole n.fraction
  (all, (uncounted.length : Int) - ((n.fraction.length : Int) - dropped.length))

/-- Whether a number lies beyond every double, and whether that does not show before its last
digit. -/
def excess (n : Numeral) : Option Bool :=
  let (word, places) := n.word
  match takeDigits maxPower 0 n.power with
  | (power, []) =>
    if isBeyond word (if n.shrinks then places - power else places + power) then some true else none
  | (_, _ :: rest) => if word ≠ 0 && !n.shrinks then some rest.isEmpty else none

end Numeral

/-- Whether a number as it is written lies beyond every double. -/
def overflows (literal : String) : Bool :=
  (Numeral.ofLiteral literal).excess.isSome

end Roster.Json
