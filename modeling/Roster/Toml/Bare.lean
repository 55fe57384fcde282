import Roster.Json.Number
import Roster.Time.Date

/-!
# Bare values

Numbers, truth values and times are written without quotes. Digits may be set apart by single
underscores, integers have 64 bits, and a time of day may have a second 60.
-/

namespace Roster.Toml

/-- Digits, which may be set apart by single underscores. -/
def areDigits (isDigit : Char → Bool) : List Char → Bool
  | [] => false
  | [c] => isDigit c
  | c :: '_' :: rest => isDigit c && areDigits isDigit rest
  | c :: rest => isDigit c && areDigits isDigit rest

/-- Decimal digits without a needless zero in front. -/
def areDecimal (s : List Char) : Bool :=
  areDigits Char.isDigit s && (s.length = 1 || s.head? ≠ some '0')

/-- A sign, if there is one, and what follows it. -/
def splitSign : List Char → Option Char × List Char
  | '+' :: rest => (some '+', rest)
  | '-' :: rest => (some '-', rest)
  | s => (none, s)

/-- The number that digits of some base stand for, underscores aside. -/
def numberOf (base : Nat) (digits : List Char) : Nat :=
  (digits.filter (· ≠ '_')).foldl (fun n c => base * n + (Text.hexValue? c).getD 0) 0

/-- The largest integer. -/
def maxInteger : Nat := 0x7FFFFFFFFFFFFFFF

/-- Whether a text is an integer with 64 bits. -/
def isInteger (s : List Char) : Bool :=
  let digitsBelow (base : Nat) (ds : List Char) : Bool :=
    areDigits (fun c => (Text.hexValue? c).any (· < base)) ds && numberOf base ds ≤ maxInteger
  match s with
  | '0' :: 'x' :: ds => digitsBelow 16 ds
  | '0' :: 'o' :: ds => digitsBelow 8 ds
  | '0' :: 'b' :: ds => digitsBelow 2 ds
  | _ =>
    let (sign, ds) := splitSign s
    areDecimal ds && numberOf 10 ds ≤ (if sign = some '-' then maxInteger + 1 else maxInteger)

/-- How many digits the largest doubles have before the point. -/
def doubleDigits : Nat := 309

/-- Whether a number without sign and underscores is not rounded to a double. -/
def overflows (literal : List Char) : Bool :=
  let numeral := Json.Numeral.ofLiteral (String.ofList literal)
  let all := numeral.whole ++ numeral.fraction
  let digits := all.dropWhile (· = '0')
  let power : Int := numberOf 10 numeral.power
  let places := (numeral.whole.length : Int) - (all.length - digits.length : Nat) +
    (if numeral.shrinks then -power else power)
  if digits.isEmpty || places < doubleDigits then false
  else if (doubleDigits : Int) < places then true
  else
    let leading := (digits ++ List.replicate doubleDigits '0').take doubleDigits
    Json.doubleLimit ≤ numberOf 10 leading

/-- Whether a text is a number with a fraction or an exponent that a double can hold. -/
def isFraction (s : List Char) : Bool :=
  let isMark (c : Char) : Bool := c = 'e' || c = 'E'
  let (sign, unsigned) := splitSign s
  let (mantissa, exponent) := unsigned.span fun c => !isMark c
  let (whole, fraction) := mantissa.span (· ≠ '.')
  let fractionOk := match fraction with
    | [] => !exponent.isEmpty
    | _ :: ds => areDigits Char.isDigit ds
  let exponentOk := match exponent with
    | [] => true
    | _ :: power => areDigits Char.isDigit (splitSign power).2
  areDecimal whole && fractionOk && exponentOk &&
    (sign = some '-' || !overflows (unsigned.filter (· ≠ '_')))

/-- Whether a text is infinity or no number at all. -/
def isUnusual (s : List Char) : Bool :=
  let word := String.ofList (splitSign s).2
  word = "inf" || word = "nan"

/-- Whether a text is a date. -/
def isDate (s : List Char) : Bool :=
  match s with
  | [y, y', y'', y''', '-', m, m', '-', d, d'] =>
    [y, y', y'', y''', m, m', d, d'].all Char.isDigit &&
      (Time.Date.of? (numberOf 10 [y, y', y'', y''']) (numberOf 10 [m, m'])
        (numberOf 10 [d, d'])).isSome
  | _ => false

/-- Two digits for a number up to some limit. -/
def isPair (limit : Nat) (a b : Char) : Bool :=
  a.isDigit && b.isDigit && numberOf 10 [a, b] ≤ limit

/-- Whether a text is a time of day. -/
def isClock (s : List Char) : Bool :=
  match s with
  | h :: h' :: ':' :: m :: m' :: ':' :: sec :: sec' :: fraction =>
    isPair 23 h h' && isPair 59 m m' && isPair 60 sec sec' &&
      match fraction with
      | [] => true
      | '.' :: ds => !ds.isEmpty && ds.all Char.isDigit
      | _ => false
  | _ => false

/-- Whether a text is a distance from universal time. -/
def isOffset (s : List Char) : Bool :=
  match s with
  | [] | ['Z'] | ['z'] => true
  | [sign, h, h', ':', m, m'] =>
    (sign = '+' || sign = '-') && isPair 23 h h' && isPair 59 m m'
  | _ => false

/-- Whether a text is a time of day with or without an offset. -/
def isClockWithOffset (s : List Char) : Bool :=
  let (clock, offset) := s.span fun c => c.isDigit || c = ':' || c = '.'
  isClock clock && isOffset offset

/-- Whether a text is a date, a time of day, or both. -/
def isTime (s : List Char) : Bool :=
  match s.drop 10 with
  | [] => isDate s || isClock s
  | separator :: clock =>
    isClock s ||
      isDate (s.take 10) && separator ∈ ['T', 't', ' '] && isClockWithOffset clock

/-- Whether a text is a bare value. -/
def isBare (s : List Char) : Bool :=
  s = "true".toList || s = "false".toList || isInteger s || isFraction s || isUnusual s || isTime s

/-- Whether a character may stand within a bare value. -/
def isBareChar (c : Char) : Bool :=
  c.isAlphanum || c = '+' || c = '-' || c = '.' || c = '_' || c = ':'

/-- A bare value at the front of a text, and the rest; a blank may stand between date and time. -/
def readBare (s : List Char) : Option (List Char × List Char) := do
  let (token, rest) := s.span isBareChar
  let (token, rest) :=
    match rest with
    | ' ' :: more =>
      if isDate token && (more.head?.any Char.isDigit) then
        let (clock, rest) := more.span isBareChar
        (token ++ ' ' :: clock, rest)
      else (token, rest)
    | _ => (token, rest)
  guard (isBare token)
  return (token, rest)

end Roster.Toml
