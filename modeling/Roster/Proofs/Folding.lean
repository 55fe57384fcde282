import Roster.User

/-!
# Folding twice

E-mail addresses are stored without blank ends and in lower case. Whatever lower-casing gives is
left alone by every rule of lower-casing, and it is blank only where a blank stood before; so an
address in its stored form is stored as it is.
-/

namespace Roster

namespace Text

namespace LowerCase

/-- No rule of lower-casing is about a code point. -/
structure Settled (code : Nat) : Prop where
  run : inRuns? code = none
  dottedI : code ≠ 0x130
  sigma : code ≠ 0x3A3

/-! ## What the runs lead to -/

/-- The lower-case letters of a run keep out of the code points `first', first' + step', …` up to
`last'`: they come before or after them, or lie in between. -/
def misses (first' last' step' : Nat) : Nat × Nat × Nat × Nat → Bool
  | (first, last, step, lower) =>
    Nat.blt (lower + (last - first)) first' || Nat.blt last' lower ||
      (step' == 2 && (step == 2 || first == last) && lower % 2 != first' % 2)

variable {first last step lower first' last' step' code : Nat}

/-- A letter of a run that keeps out of some code points does not become one of them. -/
theorem not_mem_of_misses (h : misses first' last' step' (first, last, step, lower) = true)
    (hfirst : first ≤ code) (hlast : code ≤ last) (hstep : (code - first) % step = 0) :
    ¬ (first' ≤ lower + (code - first) ∧ lower + (code - first) ≤ last' ∧
      (lower + (code - first) - first') % step' = 0) := by
  simp only [misses, Nat.blt_eq, Bool.or_eq_true, Bool.and_eq_true, beq_iff_eq,
    bne_iff_ne] at h
  rintro ⟨hfirst', hlast', hstep'⟩
  obtain (hbefore | hafter) | ⟨⟨rfl, rfl | rfl⟩, hparity⟩ := h
  · omega
  · omega
  · omega
  · omega

/-- No letter that a run leads to is changed again by a run. -/
theorem runs_miss_runs :
    (runs.all fun (first', last', step', _) => runs.all (misses first' last' step')) = true := by
  decide +kernel

/-- Code points to which no run leads: the dotted capital I, the capital sigma, the halves of pairs,
and the blanks. -/
def avoided : Ranges :=
  [(0x130, 0x130), (0x3A3, 0x3A3), (0xD800, 0xDFFF)] ++ blankRanges

/-- No letter that a run leads to is to be avoided. -/
theorem runs_miss_avoided :
    (avoided.all fun (first', last') => runs.all (misses first' last' 1)) = true := by
  decide +kernel

/-- The runs do not lead beyond the last code point. -/
theorem runs_bounded :
    (runs.all fun (first, last, _, lower) => Nat.blt (lower + (last - first)) 0x110000) = true := by
  decide +kernel

/-- What the runs make of a code point is settled, and it is a character that is not blank. -/
theorem settled_of_inRuns? {code' : Nat} (h : inRuns? code = some code') :
    Settled code' ∧ code'.isValidChar ∧ blankRanges.contains code' = false := by
  obtain ⟨⟨first, last, step, lower⟩, hfind, hcode'⟩ := Option.map_eq_some_iff.1 h
  have hrun := List.mem_of_find?_eq_some hfind
  have htest := List.find?_some hfind
  simp only [Bool.and_eq_true, decide_eq_true_eq, beq_iff_eq] at htest hcode'
  obtain ⟨⟨hfirst, hlast⟩, hstep⟩ := htest
  have hbound := List.all_eq_true.1 runs_bounded _ hrun
  rw [Nat.blt_eq] at hbound
  have hruns (run : Nat × Nat × Nat × Nat) (hmem : run ∈ runs) :=
    not_mem_of_misses (List.all_eq_true.1 (List.all_eq_true.1 runs_miss_runs run hmem) _ hrun)
      hfirst hlast hstep
  have havoided (range : Nat × Nat) (hmem : range ∈ avoided) :=
    not_mem_of_misses (List.all_eq_true.1 (List.all_eq_true.1 runs_miss_avoided range hmem) _ hrun)
      hfirst hlast hstep
  rw [hcode'] at hruns havoided
  have hpairs := havoided (0xD800, 0xDFFF) (by decide)
  refine ⟨⟨?_, ?_, ?_⟩, by omega, ?_⟩
  · refine Option.map_eq_none_iff.2 (List.find?_eq_none.2 fun run hmem htest => hruns run hmem ?_)
    simpa [and_assoc] using htest
  · rintro rfl
    exact havoided (0x130, 0x130) (by decide) (by decide)
  · rintro rfl
    exact havoided (0x3A3, 0x3A3) (by decide) (by decide)
  · refine List.any_eq_false.2 fun range hmem htest => ?_
    refine havoided range (List.mem_append_right _ hmem) ?_
    simpa [Nat.mod_one] using htest

/-! ## What single characters become -/

/-- The runs say what becomes of ASCII characters, too. -/
theorem inRuns?_ascii (hcode : code < 0x80) :
    inRuns? code = if 0x41 ≤ code ∧ code ≤ 0x5A then some (code + 0x20) else none := by
  have hlater : (runs.tail.all fun (first, _) => Nat.ble 0x80 first) = true := by decide +kernel
  have hrest : runs.tail.find? (fun (first, last, step, _) =>
      first ≤ code && code ≤ last && (code - first) % step == 0) = none := by
    refine List.find?_eq_none.2 fun run hmem htest => ?_
    have hfirst := List.all_eq_true.1 hlater run hmem
    simp only [Nat.ble_eq, Bool.and_eq_true, decide_eq_true_eq] at hfirst htest
    omega
  have hruns : runs = (0x41, 0x5A, 1, 0x61) :: runs.tail := rfl
  rw [inRuns?, hruns, List.find?_cons, hrest]
  split <;> rename_i htest <;> simp at htest ⊢ <;> omega

/-- Away from the dotted capital I, the runs say what becomes of a character. -/
theorem char_eq {c : Char} (hc : c.toNat ≠ 0x130) :
    char c = [((inRuns? c.toNat).map Char.ofNat).getD c] := by
  unfold char
  split
  · rename_i hascii
    have hlower : ∀ n < 0x80, (Char.ofNat n).toLower =
        ((if 0x41 ≤ n ∧ n ≤ 0x5A then some (n + 0x20) else none).map Char.ofNat).getD
          (Char.ofNat n) := by decide +kernel
    have hc := hlower c.toNat hascii
    rw [Char.ofNat_toNat] at hc
    rw [inRuns?_ascii hascii, hc]
  · rfl

/-- A settled character stays as it is. -/
theorem char_of_settled {c : Char} (h : Settled c.toNat) : char c = [c] := by
  rw [char_eq h.dottedI, h.run]
  rfl

/-- A character has the code point that it was made from. -/
theorem toNat_ofNat (h : code.isValidChar) : (Char.ofNat code).toNat = code := by
  rw [Char.ofNat, dif_pos h]
  rfl

/-- What becomes of a character other than the capital sigma is settled, and it is blank only if the
character is. -/
theorem settled_of_mem_char {c d : Char} (hc : c.toNat ≠ 0x3A3) (hd : d ∈ char c) :
    Settled d.toNat ∧ (isBlank d = true → isBlank c = true) := by
  by_cases hdotted : c.toNat = 0x130
  · have hi : char c = ['i', '\u0307'] := by
      rw [← Char.ofNat_toNat c, hdotted]
      rfl
    rw [hi] at hd
    obtain rfl | rfl : d = 'i' ∨ d = '\u0307' := by simpa using hd
    · exact ⟨⟨by decide +kernel, by decide, by decide⟩, fun h => absurd h (by decide)⟩
    · exact ⟨⟨by decide +kernel, by decide, by decide⟩, fun h => absurd h (by decide)⟩
  · rw [char_eq hdotted, List.mem_singleton] at hd
    cases hrun : inRuns? c.toNat with
    | none =>
      rw [hrun] at hd
      obtain rfl : d = c := hd
      exact ⟨⟨hrun, hdotted, hc⟩, id⟩
    | some code =>
      rw [hrun] at hd
      obtain rfl : d = Char.ofNat code := hd
      obtain ⟨hsettled, hvalid, hblank⟩ := settled_of_inRuns? hrun
      rw [isBlank, toNat_ofNat hvalid, hblank]
      exact ⟨hsettled, nofun⟩

/-! ## What texts become -/

variable {before rest cs : List Char} {c d : Char}

/-- What becomes of a character between those that stand before it, the nearest first, and those
that follow. -/
def image (before : List Char) (c : Char) (rest : List Char) : List Char :=
  if c = 'Σ' then [if meetsCased before && !meetsCased rest then 'ς' else 'σ'] else char c

/-- A text is lower-cased character by character. -/
theorem chars_cons : chars before (c :: rest) = image before c rest ++ chars (c :: before) rest :=
  rfl

/-- Every character becomes something. -/
theorem image_ne_nil : image before c rest ≠ [] := by
  unfold image
  split
  · exact List.cons_ne_nil _ _
  · by_cases hdotted : c.toNat = 0x130
    · rw [← Char.ofNat_toNat c, hdotted]
      exact List.cons_ne_nil _ _
    · rw [char_eq hdotted]
      exact List.cons_ne_nil _ _

/-- What becomes of a character is settled, and it is blank only if the character is. -/
theorem settled_of_mem_image (hd : d ∈ image before c rest) :
    Settled d.toNat ∧ (isBlank d = true → isBlank c = true) := by
  unfold image at hd
  split at hd
  · have hsigma : d = 'ς' ∨ d = 'σ' := by
      rw [List.mem_singleton] at hd
      split at hd
      · exact .inl hd
      · exact .inr hd
    obtain rfl | rfl := hsigma
    · exact ⟨⟨by decide +kernel, by decide, by decide⟩, fun h => absurd h (by decide)⟩
    · exact ⟨⟨by decide +kernel, by decide, by decide⟩, fun h => absurd h (by decide)⟩
  · rename_i hsigma
    refine settled_of_mem_char (fun hcode => hsigma ?_) hd
    rw [← Char.ofNat_toNat c, hcode]

/-- A text in lower case is settled. -/
theorem settled_of_mem_chars (hd : d ∈ chars before cs) : Settled d.toNat := by
  induction cs generalizing before with
  | nil => exact absurd hd List.not_mem_nil
  | cons c rest ih =>
    rw [chars_cons] at hd
    obtain hd | hd := List.mem_append.1 hd
    · exact (settled_of_mem_image hd).1
    · exact ih hd

/-- A settled text is in lower case. -/
theorem chars_eq_self (h : ∀ c ∈ cs, Settled c.toNat) : chars before cs = cs := by
  induction cs generalizing before with
  | nil => rfl
  | cons c rest ih =>
    have hc := h c List.mem_cons_self
    have hsigma : c ≠ 'Σ' := by
      rintro rfl
      exact hc.sigma rfl
    rw [chars_cons, image, if_neg hsigma, char_of_settled hc,
      ih fun d hd => h d (List.mem_cons_of_mem _ hd)]
    rfl

/-- A text that does not begin with a blank does not begin with one in lower case. -/
theorem head?_chars (h : ∀ c ∈ cs.head?, isBlank c = false) :
    ∀ d ∈ (chars before cs).head?, isBlank d = false := by
  intro d hd
  cases cs with
  | nil => exact nomatch hd
  | cons c rest =>
    have hd : d ∈ (image before c rest).head? := by
      rw [chars_cons, List.head?_append] at hd
      obtain ⟨first, others, himage⟩ := List.exists_cons_of_ne_nil image_ne_nil
      rw [himage] at hd ⊢
      exact hd
    have hblank := (settled_of_mem_image (List.mem_of_mem_head? hd)).2
    rw [h c rfl] at hblank
    exact Bool.eq_false_iff.2 fun htrue => nomatch hblank htrue

/-- A text that does not end with a blank does not end with one in lower case. -/
theorem getLast?_chars (h : ∀ c ∈ cs.getLast?, isBlank c = false) :
    ∀ d ∈ (chars before cs).getLast?, isBlank d = false := by
  induction cs generalizing before with
  | nil => exact fun d hd => nomatch hd
  | cons c rest ih =>
    intro d hd
    rw [chars_cons] at hd
    cases rest with
    | nil =>
      rw [chars, List.append_nil] at hd
      have hblank := (settled_of_mem_image (List.mem_of_mem_getLast? hd)).2
      rw [h c rfl] at hblank
      exact Bool.eq_false_iff.2 fun htrue => nomatch hblank htrue
    | cons c' rest =>
      refine @ih (c :: before) (fun e he => h e ?_) d ?_
      · rw [List.getLast?_cons_cons]
        exact he
      · rw [List.getLast?_append] at hd
        cases hlast : (chars (c :: before) (c' :: rest)).getLast? with
        | none =>
          rw [List.getLast?_eq_none_iff, chars_cons] at hlast
          exact absurd (List.append_eq_nil_iff.1 hlast).1 image_ne_nil
        | some e =>
          rw [hlast] at hd
          exact hd

end LowerCase

/-- A text in lower case without blank ends is not changed by trimming. -/
theorem trim_lower_trim (s : String) : trim (lower (trim s)) = lower (trim s) := by
  simp only [trim, lower, String.toList_ofList]
  rw [trimChars_eq_self (LowerCase.head?_chars (head?_trimChars _))
    (LowerCase.getLast?_chars (getLast?_dropBlankEnd _))]

/-- Lower-casing twice is lower-casing once. -/
theorem lower_lower (s : String) : lower (lower s) = lower s := by
  simp only [lower, String.toList_ofList]
  rw [LowerCase.chars_eq_self fun c hc => LowerCase.settled_of_mem_chars hc]

end Text

/-- An address that has been folded stays as it is. -/
theorem foldEmail_foldEmail (email : String) : foldEmail (foldEmail email) = foldEmail email := by
  simp only [foldEmail, Text.trim_lower_trim, Text.lower_lower]

/-- The stored form of an address is stored as it is. -/
theorem normalizeEmail_of_normalizeEmail {email normal : String}
    (h : normalizeEmail email = .ok normal) : normalizeEmail normal = .ok normal := by
  have hfolded : foldEmail email = normal := by
    unfold normalizeEmail at h
    dsimp only at h
    split at h
    · split at h
      · exact Except.ok.inj h
      · exact nomatch h
    · exact nomatch h
  have hsame : foldEmail normal = foldEmail email := by rw [← hfolded, foldEmail_foldEmail]
  rw [← h, normalizeEmail, normalizeEmail, hsame]

end Roster
