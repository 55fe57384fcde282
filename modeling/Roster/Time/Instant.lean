import Roster.Time.Date
import Roster.Text.Blank

/-!
# Instants

An instant is a moment in UTC to the nanosecond: a day, a minute of it, a second and the
nanoseconds. The second may be the sixtieth, as when a leap second is counted.

Instants are written as RFC 3339 says, in UTC, with no fraction when there is none and otherwise
with three, six or nine digits. They are read with any offset from UTC, with the parts of the
date and of the time set off by blanks or not, and with a blank or a `T` between the two.
-/

namespace Roster.Time

/-- A moment in UTC. -/
structure Instant where
  date : Date
  /-- The minute of the day. -/
  minute : Nat
  /-- The second of the minute, 60 in a leap second. -/
  second : Nat
  nano : Nat
  minute_lt : minute < 1440 := by decide
  second_le : second ≤ 60 := by decide
  nano_lt : nano < 1000000000 := by decide
  deriving DecidableEq

namespace Instant

instance : Repr Instant := ⟨fun i => reprPrec (i.date, i.minute, i.second, i.nano)⟩

/-- The instant from which computers count seconds. -/
def epoch : Instant where
  date := { year := 1970, month := 1, day := 1 }
  minute := 0
  second := 0
  nano := 0

instance : Inhabited Instant := ⟨epoch⟩

/-- The instant a number of seconds later. -/
def addSeconds (start : Instant) (seconds : Nat) : Instant :=
  let total := start.minute * 60 + start.second + seconds
  { date := start.date.addDays (total / 86400)
    minute := total % 86400 / 60
    second := total % 60
    nano := start.nano
    minute_lt := by omega
    second_le := by omega
    nano_lt := start.nano_lt }

/-- The whole seconds since the epoch. -/
def secondsSinceEpoch (i : Instant) : Int :=
  i.date.daysSinceEpoch * 86400 + i.minute * 60 + i.second

/-- Earlier instants come first. -/
def lt (a b : Instant) : Prop :=
  a.date.daysSinceEpoch < b.date.daysSinceEpoch ∨
    a.date.daysSinceEpoch = b.date.daysSinceEpoch ∧
      (a.minute < b.minute ∨ a.minute = b.minute ∧
        (a.second < b.second ∨ a.second = b.second ∧ a.nano < b.nano))

instance : LT Instant := ⟨lt⟩
instance (a b : Instant) : Decidable (a < b) :=
  inferInstanceAs (Decidable (_ ∨ _ ∧ (_ ∨ _ ∧ (_ ∨ _ ∧ _))))

/-! ## Writing -/

/-- The digit for a number below ten. -/
def digit (n : Nat) : Char :=
  Char.ofNat (0x30 + n)

/-- The lowest `width` decimal digits of a number. -/
def digits : (width : Nat) → Nat → List Char
  | 0, _ => []
  | width + 1, n => digits width (n / 10) ++ [digit (n % 10)]

/-- A year: four digits, or a sign and at least four digits before year 0 and after 9999. -/
def writeYear (year : Int) : List Char :=
  let n := year.natAbs
  let width := if n < 10000 then 4 else if n < 100000 then 5 else 6
  if 0 ≤ year ∧ year < 10000 then digits 4 n
  else (if 0 ≤ year then '+' else '-') :: digits width n

/-- The fraction of a second, in three, six or nine digits. -/
def writeFraction (nano : Nat) : List Char :=
  if nano = 0 then []
  else if nano % 1000000 = 0 then '.' :: digits 3 (nano / 1000000)
  else if nano % 1000 = 0 then '.' :: digits 6 (nano / 1000)
  else '.' :: digits 9 nano

/-- The instant in UTC. -/
def write (i : Instant) : List Char :=
  writeYear i.date.year ++ '-' :: digits 2 i.date.month ++ '-' :: digits 2 i.date.day ++
    'T' :: digits 2 (i.minute / 60) ++ ':' :: digits 2 (i.minute % 60) ++
    ':' :: digits 2 i.second ++ writeFraction i.nano ++ ['Z']

/-- The text of an instant. -/
def toText (i : Instant) : String :=
  String.ofList i.write

/-! ## Reading -/

/-- The number written with digits. -/
def ofDigits (ds : List Char) : Nat :=
  ds.foldl (fun n d => 10 * n + (d.toNat - 0x30)) 0

/-- A number of one to `limit` digits, after blanks. -/
def readNumber (limit : Nat) (s : List Char) : Option (Nat × List Char) :=
  let start := s.dropWhile Text.isBlank
  match (start.take limit).takeWhile Char.isDigit with
  | [] => none
  | ds => some (ofDigits ds, start.drop ds.length)

/-- A year: up to four digits, or any number of digits after a sign. -/
def readYear (s : List Char) : Option (Int × List Char) :=
  match s.dropWhile Text.isBlank with
  | '-' :: rest => signed rest fun n => -(n : Int)
  | '+' :: rest => signed rest fun n => (n : Int)
  | start => (readNumber 4 start).map fun (n, rest) => ((n : Int), rest)
where
  /-- All the digits that follow a sign. -/
  signed (s : List Char) (value : Nat → Int) : Option (Int × List Char) :=
    match s.span Char.isDigit with
    | ([], _) => none
    | (ds, rest) => some (value (ofDigits ds), rest)

/-- A mark, after blanks. -/
def readMark (mark : Char) (s : List Char) : Option (List Char) :=
  match s.dropWhile Text.isBlank with
  | c :: rest => if c = mark then some rest else none
  | [] => none

/-- The nanoseconds after a point, if there is a point; digits after the ninth are dropped. -/
def readFraction : List Char → Option (Nat × List Char)
  | '.' :: rest =>
    match rest.span Char.isDigit with
    | ([], _) => none
    | (ds, tail) => some (ofDigits ((ds ++ List.replicate 9 '0').take 9), tail)
  | s => some (0, s)

/-- The offset from UTC in minutes, at most a day either way. -/
def readOffset (s : List Char) : Option (Int × List Char) :=
  match s.dropWhile Text.isBlank with
  | 'Z' :: rest | 'z' :: rest => some (0, rest)
  | '+' :: rest => minutes rest fun n => (n : Int)
  | '-' :: rest | '−' :: rest => minutes rest fun n => -(n : Int)
  | u :: t :: c :: rest =>
    if [u.toLower, t.toLower, c.toLower] = ['u', 't', 'c'] then some (0, rest) else none
  | _ => none
where
  /-- Two digits of hours and two of minutes, with or without colons and blanks between. -/
  minutes (s : List Char) (value : Nat → Int) : Option (Int × List Char) :=
    match s with
    | h :: h' :: rest =>
      match rest.dropWhile fun c => c = ':' || Text.isBlank c with
      | m :: m' :: rest =>
        let offset := 60 * ofDigits [h, h'] + ofDigits [m, m']
        if [h, h', m, m'].all Char.isDigit && ofDigits [m, m'] < 60 && offset < 1440 then
          some (value offset, rest)
        else none
      | _ => none
    | _ => none

/-- The instant at a local time, given how far local time is ahead of UTC. -/
def ofLocal? (date : Date) (minute second nano : Nat) (offset : Int) : Option Instant := do
  let shifted := (minute : Int) - offset
  let (date, minute) ←
    if shifted < 0 then (·, (shifted + 1440).toNat) <$> date.previous?
    else if shifted < 1440 then some (date, shifted.toNat)
    else (·, (shifted - 1440).toNat) <$> date.next?
  if h : minute < 1440 ∧ second ≤ 60 ∧ nano < 1000000000 then
    some ⟨date, minute, second, nano, h.1, h.2.1, h.2.2⟩
  else none

/-- Read an instant and nothing after it but blanks. -/
def read (s : List Char) : Option Instant := do
  let (year, s) ← readYear s
  let (month, s) ← readNumber 2 (← readMark '-' s)
  let (day, s) ← readNumber 2 (← readMark '-' s)
  let s ←
    match s with
    | c :: rest => if c = 'T' || c = 't' || c = ' ' then some rest else none
    | [] => none
  let (hour, s) ← readNumber 2 s
  let (minute, s) ← readNumber 2 (← readMark ':' s)
  let (second, s) ← readNumber 2 (← readMark ':' s)
  let (nano, s) ← readFraction s
  let (offset, s) ← readOffset s
  guard (s.all Text.isBlank && hour < 24 && minute < 60 && second ≤ 60)
  let date ← Date.of? year month day
  ofLocal? date (60 * hour + minute) second nano offset

/-- The instant a text stands for. -/
def ofText? (s : String) : Option Instant :=
  read s.toList

end Instant

end Roster.Time
