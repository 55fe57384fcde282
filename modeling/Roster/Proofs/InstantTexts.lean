import Mathlib.Algebra.Group.Nat.Defs
import Mathlib.Data.List.TakeDrop
import Mathlib.Data.List.TakeWhile
import Mathlib.Tactic.SplitIfs
import Roster.Time.Instant

/-!
# Written instants are read back

Every number in the text of an instant has as many digits as are read for it, or ends before a
character that is no digit. So the text is read back as the instant, to the nanosecond.
-/

namespace Roster.Time.Instant

/-! ## Digits -/

/-- What is written for a number below ten is a digit that says the number. -/
theorem digit_spec {n : Nat} (h : n < 10) :
    (digit n).isDigit = true ∧ (digit n).toNat - 0x30 = n ∧ Text.isBlank (digit n) = false := by
  revert n
  decide

/-- As many digits are written as are asked for. -/
theorem length_digits (width n : Nat) : (digits width n).length = width := by
  induction width generalizing n with
  | zero => rfl
  | succ width ih => rw [digits, List.length_append, ih, List.length_singleton]

/-- All that is written for a number is digits, and no blanks. -/
theorem isDigit_of_mem_digits {width n : Nat} {c : Char} (h : c ∈ digits width n) :
    c.isDigit = true ∧ Text.isBlank c = false := by
  induction width generalizing n with
  | zero => exact nomatch h
  | succ width ih =>
    obtain h | h := List.mem_append.1 h
    · exact ih h
    · obtain ⟨hdigit, -, hblank⟩ := digit_spec (Nat.mod_lt n (by decide : 0 < 10))
      rw [List.mem_singleton.1 h]
      exact ⟨hdigit, hblank⟩

/-- A number that has enough digits is the number of its digits. -/
theorem ofDigits_digits {width n : Nat} (h : n < 10 ^ width) : ofDigits (digits width n) = n := by
  induction width generalizing n with
  | zero =>
    rw [Nat.pow_zero] at h
    obtain rfl : n = 0 := by omega
    rfl
  | succ width ih =>
    have hhigh : n / 10 < 10 ^ width := by
      rw [Nat.pow_succ] at h
      omega
    have hlow := (digit_spec (Nat.mod_lt n (by decide : 0 < 10))).2.1
    have hstep : ofDigits (digits width (n / 10) ++ [digit (n % 10)]) =
        10 * ofDigits (digits width (n / 10)) + ((digit (n % 10)).toNat - 0x30) := by
      simp [ofDigits]
    rw [digits, hstep, ih hhigh, hlow]
    omega

/-- Digits begin with a character that is no blank. -/
theorem exists_digits_eq_cons {width : Nat} (h : 0 < width) (n : Nat) :
    ∃ c cs, digits width n = c :: cs ∧ c.isDigit = true ∧ Text.isBlank c = false := by
  cases hdigits : digits width n with
  | nil =>
    have hlength := length_digits width n
    rw [hdigits, List.length_nil] at hlength
    omega
  | cons c cs =>
    have hmem : c ∈ digits width n := by
      rw [hdigits]
      exact List.mem_cons_self
    exact ⟨c, cs, rfl, isDigit_of_mem_digits hmem⟩

/-- There are no blanks before digits. -/
theorem dropWhile_digits {width : Nat} (h : 0 < width) (n : Nat) (rest : List Char) :
    (digits width n ++ rest).dropWhile Text.isBlank = digits width n ++ rest := by
  obtain ⟨c, cs, hdigits, -, hblank⟩ := exists_digits_eq_cons h n
  rw [hdigits, List.cons_append, List.dropWhile_cons_of_neg (by simp [hblank])]

/-- As many digits as may be read are read back. -/
theorem readNumber_digits {width n : Nat} (hwidth : 0 < width) (hn : n < 10 ^ width)
    (rest : List Char) : readNumber width (digits width n ++ rest) = some (n, rest) := by
  have htake : (digits width n ++ rest).take width = digits width n :=
    List.take_left' (length_digits width n)
  have hall : (digits width n).takeWhile Char.isDigit = digits width n :=
    List.takeWhile_eq_self_iff.2 fun c hc => (isDigit_of_mem_digits hc).1
  obtain ⟨c, cs, hdigits, -⟩ := exists_digits_eq_cons hwidth n
  simp only [readNumber, dropWhile_digits hwidth, htake, hall]
  rw [hdigits]
  simp only [← hdigits, ofDigits_digits hn, List.drop_left]

/-- Digits before something else are told apart from it. -/
theorem span_digits {c : Char} (hc : c.isDigit = false) (width n : Nat) (rest : List Char) :
    (digits width n ++ c :: rest).span Char.isDigit = (digits width n, c :: rest) := by
  have hall : ∀ d ∈ digits width n, d.isDigit = true := fun d hd => (isDigit_of_mem_digits hd).1
  rw [List.span_eq_takeWhile_dropWhile, List.takeWhile_append_of_pos hall,
    List.dropWhile_append_of_pos hall, List.takeWhile_cons_of_neg (by simp [hc]),
    List.dropWhile_cons_of_neg (by simp [hc]), List.append_nil]

/-- A mark that is no blank is read. -/
theorem readMark_cons {mark : Char} (h : Text.isBlank mark = false) (rest : List Char) :
    readMark mark (mark :: rest) = some rest := by
  simp [readMark, h]

/-! ## Years and fractions -/

/-- The digits after the sign of a year are read back. -/
theorem readYear_signed {width n : Nat} (hwidth : 0 < width) (hn : n < 10 ^ width)
    (rest : List Char) (value : Nat → Int) :
    readYear.signed (digits width n ++ '-' :: rest) value = some (value n, '-' :: rest) := by
  obtain ⟨c, cs, hdigits, -⟩ := exists_digits_eq_cons hwidth n
  rw [readYear.signed, span_digits rfl]
  rw [hdigits]
  simp only [← hdigits, ofDigits_digits hn]

/-- A year of four digits is read back. -/
theorem readYear_digits {n : Nat} (hn : n < 10 ^ 4) (rest : List Char) :
    readYear (digits 4 n ++ rest) = some ((n : Int), rest) := by
  have hread := readNumber_digits (by decide : 0 < 4) hn rest
  obtain ⟨c, cs, hdigits, hdigit, -⟩ := exists_digits_eq_cons (by decide : 0 < 4) n
  rw [readYear, dropWhile_digits (by decide)]
  rw [hdigits, List.cons_append] at hread ⊢
  split
  · rename_i hminus
    obtain rfl := (List.cons.inj hminus).1
    exact nomatch hdigit
  · rename_i hplus
    obtain rfl := (List.cons.inj hplus).1
    exact nomatch hdigit
  · rw [hread]
    rfl

/-- A year is read back before a dash. -/
theorem readYear_writeYear {year : Int} (hlow : -262143 ≤ year) (hhigh : year ≤ 262142)
    (rest : List Char) : readYear (writeYear year ++ '-' :: rest) = some (year, '-' :: rest) := by
  unfold writeYear
  dsimp only
  generalize hwidth :
    (if year.natAbs < 10000 then 4 else if year.natAbs < 100000 then 5 else 6) = width
  have hfits : 0 < width ∧ year.natAbs < 10 ^ width := by
    subst hwidth
    split_ifs <;> omega
  by_cases hsmall : 0 ≤ year ∧ year < 10000
  · have hself : (year.natAbs : Int) = year := by omega
    rw [if_pos hsmall, readYear_digits (by omega), hself]
  · rw [if_neg hsmall]
    by_cases hsign : 0 ≤ year
    · have hself : (year.natAbs : Int) = year := by omega
      rw [if_pos hsign, List.cons_append, readYear, List.dropWhile_cons_of_neg (by decide)]
      exact (readYear_signed hfits.1 hfits.2 rest _).trans (by rw [hself])
    · have hself : -(year.natAbs : Int) = year := by omega
      rw [if_neg hsign, List.cons_append, readYear, List.dropWhile_cons_of_neg (by decide)]
      exact (readYear_signed hfits.1 hfits.2 rest _).trans (by rw [hself])

/-- Every zero at the end of some digits makes their number ten times as large. -/
theorem ofDigits_append_zeros (ds : List Char) (count : Nat) :
    ofDigits (ds ++ List.replicate count '0') = ofDigits ds * 10 ^ count := by
  induction count with
  | zero => simp
  | succ count ih =>
    have hstep : ofDigits (ds ++ List.replicate (count + 1) '0') =
        10 * ofDigits (ds ++ List.replicate count '0') := by
      rw [List.replicate_succ', ← List.append_assoc]
      simp [ofDigits]
    rw [hstep, ih, Nat.pow_succ, Nat.mul_left_comm, Nat.mul_comm 10]

/-- A fraction of some digits counts for nine of them. -/
theorem readFraction_digits {width n : Nat} (hpos : 0 < width) (hwidth : width ≤ 9)
    (hn : n < 10 ^ width) :
    readFraction ('.' :: digits width n ++ ['Z']) = some (n * 10 ^ (9 - width), ['Z']) := by
  have htake : (digits width n ++ List.replicate 9 '0').take 9 =
      digits width n ++ List.replicate (9 - width) '0' := by
    have hall : (digits width n).take 9 = digits width n :=
      List.take_of_length_le (by rwa [length_digits])
    rw [List.take_append, length_digits, hall, List.take_replicate, Nat.min_eq_left (by omega)]
  obtain ⟨c, cs, hdigits, -⟩ := exists_digits_eq_cons hpos n
  rw [List.cons_append, readFraction, span_digits rfl]
  rw [hdigits]
  simp only [← hdigits, htake, ofDigits_append_zeros, ofDigits_digits hn]

/-- The fraction of a second is read back before the mark of UTC. -/
theorem readFraction_writeFraction {nano : Nat} (h : nano < 1000000000) :
    readFraction (writeFraction nano ++ ['Z']) = some (nano, ['Z']) := by
  unfold writeFraction
  split_ifs with hzero hmilli hmicro
  · rw [hzero]
    rfl
  · rw [readFraction_digits (by decide) (by decide) (by omega)]
    have : nano / 1000000 * 10 ^ (9 - 3) = nano := by omega
    rw [this]
  · rw [readFraction_digits (by decide) (by decide) (by omega)]
    have : nano / 1000 * 10 ^ (9 - 6) = nano := by omega
    rw [this]
  · rw [readFraction_digits (by decide) (by decide) (by omega)]
    have : nano * 10 ^ (9 - 9) = nano := by omega
    rw [this]

/-! ## Instants -/

/-- Every date has a month and a day of at most two digits. -/
theorem date_lt (date : Date) : date.month < 10 ^ 2 ∧ date.day < 10 ^ 2 := by
  have hpos := date.day_pos
  have hday := date.day_le
  unfold daysInMonth at hday
  split at hday <;> first
    | omega
    | split at hday <;> omega

/-- An instant is read back from its text. -/
theorem read_write (i : Instant) : read i.write = some i := by
  have hwrite : i.write = writeYear i.date.year ++ '-' :: (digits 2 i.date.month ++
      '-' :: (digits 2 i.date.day ++ 'T' :: (digits 2 (i.minute / 60) ++
        ':' :: (digits 2 (i.minute % 60) ++ ':' :: (digits 2 i.second ++
          (writeFraction i.nano ++ ['Z'])))))) := by
    simp [write]
  have hminute := i.minute_lt
  have hsecond := i.second_le
  obtain ⟨hmonth, hday⟩ := date_lt i.date
  have hyear := readYear_writeYear i.date.year_ge i.date.year_le
  have hnumber {n : Nat} (h : n < 10 ^ 2) (rest : List Char) :
      readNumber 2 (digits 2 n ++ rest) = some (n, rest) := readNumber_digits (by decide) h rest
  have hdash := readMark_cons (by decide : Text.isBlank '-' = false)
  have hcolon := readMark_cons (by decide : Text.isBlank ':' = false)
  have hoffset : readOffset ['Z'] = some (0, []) := rfl
  have hbounds : (i.minute / 60 < 24 && i.minute % 60 < 60 && i.second ≤ 60) = true := by
    simp only [Bool.and_eq_true, decide_eq_true_eq]
    omega
  have hdate : Date.of? i.date.year i.date.month i.date.day = some i.date :=
    dif_pos ⟨i.date.year_ge, i.date.year_le, i.date.day_pos, i.date.day_le⟩
  have htime : 60 * (i.minute / 60) + i.minute % 60 = i.minute := by omega
  have hlocal : ofLocal? i.date (60 * (i.minute / 60) + i.minute % 60) i.second i.nano 0 =
      some i := by
    have hshift : ¬ (i.minute : Int) < 0 ∧ (i.minute : Int) < 1440 := by omega
    simp only [htime, ofLocal?, Int.sub_zero, if_neg hshift.1, if_pos hshift.2, Int.toNat_natCast,
      Option.bind_eq_bind, Option.bind_some]
    exact dif_pos ⟨i.minute_lt, i.second_le, i.nano_lt⟩
  -- The parts are read one after the other.
  have next {α : Type} {part : Option α} {a : α} {rest : α → Option Instant} (hpart : part = some a)
      (hrest : rest a = some i) : part >>= rest = some i := by
    rw [hpart]
    exact hrest
  rw [hwrite, read]
  refine next (hyear _) ?_
  refine next (hdash _) (next (hnumber hmonth _) ?_)
  refine next (hdash _) (next (hnumber hday _) ?_)
  refine (if_pos rfl).trans (next rfl (next (hnumber (by omega) _) ?_))
  refine next (hcolon _) (next (hnumber (by omega) _) ?_)
  refine next (hcolon _) (next (hnumber (by omega) _) ?_)
  refine next (readFraction_writeFraction i.nano_lt) (next hoffset ?_)
  refine next (if_pos hbounds) ?_
  exact next hdate hlocal

/-- The text of an instant stands for it. -/
theorem ofText?_toText (i : Instant) : ofText? i.toText = some i := by
  rw [ofText?, toText, String.toList_ofList, read_write]

end Roster.Time.Instant
