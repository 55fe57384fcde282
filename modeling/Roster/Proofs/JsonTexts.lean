import Mathlib.Data.List.Forall2
import Mathlib.Data.Option.Basic
import Mathlib.Tactic.SplitIfs
import Roster.Json.Reader
import Roster.Json.Writer

/-!
# Written values are read back

A value that holds no number and is complete is read back from the text that is written for it,
whatever follows, and however the text is laid out.
-/

namespace Roster.Json

/-! ## Quoted texts -/

/-- A glyph stands for a character: it is the character itself, or the number of one below the
blank. -/
def Glyph.Spells (glyph : Glyph) (c : Char) : Prop :=
  glyph = .char c ∨ glyph = .unit c.toNat ∧ c.toNat < 0x20

/-- The number of a character below the blank makes that character, whatever comes next. -/
theorem joinGlyphs_unit {code : Nat} (h : code < 0x20) (glyphs : List Glyph) :
    joinGlyphs (.unit code :: glyphs) = (joinGlyphs glyphs).map (Char.ofNat code :: ·) := by
  have hhigh : ¬ 0xD800 ≤ code := by omega
  have hlow : ¬ 0xDC00 ≤ code := by omega
  cases glyphs with
  | nil => simp [joinGlyphs, hhigh]
  | cons glyph rest => cases glyph <;> simp [joinGlyphs, hhigh, hlow]

/-- Glyphs that stand for characters make these characters. -/
theorem joinGlyphs_of_spells {glyphs : List Glyph} {cs : List Char}
    (h : List.Forall₂ Glyph.Spells glyphs cs) : joinGlyphs glyphs = .ok cs := by
  induction h with
  | nil => rfl
  | @cons glyph c glyphs cs hspells _ ih =>
    obtain rfl | ⟨rfl, hlow⟩ := hspells
    · rw [joinGlyphs, ih]
      rfl
    · rw [joinGlyphs_unit hlow, ih, Char.ofNat_toNat]
      rfl

/-- A number below 32 is read from the four digits that are written for it. -/
theorem hexNumber?_hexDigits {n : Nat} (h : n < 0x20) :
    hexNumber? ['0', '0', Text.hexDigit (n / 16), Text.hexDigit (n % 16)] = some n := by
  revert n
  decide

/-- A character is escaped by a letter or by its number, or it stands as it is. -/
theorem escape_cases (c : Char) :
    (∃ letter, escape c = ['\\', letter] ∧ escapeLetter? letter = some c) ∨
    (c.toNat < 0x20 ∧
      escape c =
        ['\\', 'u', '0', '0', Text.hexDigit (c.toNat / 16), Text.hexDigit (c.toNat % 16)]) ∨
    (c ≠ '"' ∧ c ≠ '\\' ∧ 0x20 ≤ c.toNat ∧ escape c = [c]) := by
  unfold escape
  split_ifs with hquote hslash hback hfeed hline hreturn htab hlow
  iterate 7 exact .inl ⟨_, rfl, by subst c; rfl⟩
  · exact .inr (.inl ⟨hlow, rfl⟩)
  · exact .inr (.inr ⟨hquote, hslash, by omega, rfl⟩)

/-- An escaped letter is read as the character it stands for. -/
theorem readGlyphs_letter {letter c : Char} (h : escapeLetter? letter = some c) (rest : List Char) :
    readGlyphs ('\\' :: letter :: rest) =
      (readGlyphs rest).map fun (glyphs, tail) => (.char c :: glyphs, tail) := by
  have hletter : letter ≠ 'u' := by
    rintro rfl
    exact nomatch h
  rw [readGlyphs, h]
  · cases readGlyphs rest <;> rfl
  · rintro a b c d rest rfl
    exact absurd rfl hletter

/-- A character that needs no escape is read as it stands. -/
theorem readGlyphs_plain {c : Char} (hquote : c ≠ '"') (hslash : c ≠ '\\') (hlow : 0x20 ≤ c.toNat)
    (rest : List Char) :
    readGlyphs (c :: rest) =
      (readGlyphs rest).map fun (glyphs, tail) => (.char c :: glyphs, tail) := by
  have hguard : (c ≠ '\\' && 0x20 ≤ c.toNat) = true := by simp [hslash, hlow]
  rw [readGlyphs, hguard]
  · cases readGlyphs rest <;> rfl
  · exact hquote
  · exact fun _ _ _ _ _ h => absurd h hslash
  · exact fun _ _ h => absurd h hslash

/-- A character that is written inside a quoted text is read as a glyph that stands for it. -/
theorem exists_readGlyphs_escape (c : Char) :
    ∃ glyph : Glyph, glyph.Spells c ∧ ∀ rest,
      readGlyphs (escape c ++ rest) =
        (readGlyphs rest).map fun (glyphs, tail) => (glyph :: glyphs, tail) := by
  obtain ⟨letter, hescape, hletter⟩ | ⟨hlow, hescape⟩ | ⟨hquote, hslash, hlow, hescape⟩ :=
    escape_cases c
  · rw [hescape]
    exact ⟨.char c, .inl rfl, readGlyphs_letter hletter⟩
  · refine ⟨.unit c.toNat, .inr ⟨rfl, hlow⟩, fun rest => ?_⟩
    rw [hescape, List.cons_append, List.cons_append, List.cons_append, List.cons_append,
      List.cons_append, List.cons_append, List.nil_append, readGlyphs, hexNumber?_hexDigits hlow]
    cases readGlyphs rest <;> rfl
  · rw [hescape]
    exact ⟨.char c, .inl rfl, readGlyphs_plain hquote hslash hlow⟩

/-- Characters that are written inside a quoted text are read as glyphs that stand for them. -/
theorem exists_readGlyphs (cs rest : List Char) :
    ∃ glyphs, List.Forall₂ Glyph.Spells glyphs cs ∧
      readGlyphs (cs.flatMap escape ++ '"' :: rest) = some (glyphs, rest) := by
  induction cs with
  | nil => exact ⟨[], .nil, by rw [List.flatMap_nil, List.nil_append, readGlyphs]⟩
  | cons c cs ih =>
    obtain ⟨glyph, hspells, hread⟩ := exists_readGlyphs_escape c
    obtain ⟨glyphs, hall, hrest⟩ := ih
    refine ⟨glyph :: glyphs, .cons hspells hall, ?_⟩
    rw [List.flatMap_cons, List.append_assoc, hread, hrest]
    rfl

/-- A quoted text is read back. -/
theorem readText_quote (s : String) (rest : List Char) :
    readText (s.toList.flatMap escape ++ '"' :: rest) = (text s, some rest) := by
  obtain ⟨glyphs, hall, hread⟩ := exists_readGlyphs s.toList rest
  rw [readText, hread]
  simp only [joinGlyphs_of_spells hall, String.ofList_toList]

/-! ## Blanks -/

/-- A token that is no blank stands at the front. -/
theorem skipSpace_cons {c : Char} (h : isSpace c = false) (s : List Char) :
    skipSpace (c :: s) = c :: s := by
  rw [skipSpace, List.dropWhile_cons_of_neg (by simp [h])]

/-- The blanks that set off a line are skipped. -/
theorem skipSpace_lineBreak (layout : Layout) (s : List Char) :
    skipSpace (layout.lineBreak ++ s) = skipSpace s := by
  refine List.dropWhile_append_of_pos fun c hc => ?_
  cases layout with
  | oneLine => exact nomatch hc
  | lines level =>
    obtain rfl | hc := List.mem_cons.1 hc
    · rfl
    · rw [List.eq_of_mem_replicate hc]
      rfl

/-- Between a name and its value there are a colon and blanks. -/
theorem skipSpace_colon (layout : Layout) (s : List Char) :
    ∃ s', skipSpace (layout.colon ++ s) = ':' :: s' ∧ skipSpace s' = skipSpace s := by
  cases layout with
  | oneLine => exact ⟨s, skipSpace_cons rfl s, rfl⟩
  | lines level => exact ⟨' ' :: s, skipSpace_cons rfl _, List.dropWhile_cons_of_pos rfl⟩

/-! ## Values -/

mutual

/-- A value is complete and holds no number. -/
def IsPlain : Json → Prop
  | null | bool _ | text _ => True
  | number _ | illegible _ | broken => False
  | array items => ArePlain items
  | object members closed => closed = true ∧ HavePlain members

/-- Some items are complete and hold no number. -/
def ArePlain : List Json → Prop
  | [] => True
  | item :: rest => IsPlain item ∧ ArePlain rest

/-- Some members have names and values that are complete and hold no number. -/
def HavePlain : List (Option String × Json) → Prop
  | [] => True
  | (name, value) :: rest => name.isSome = true ∧ IsPlain value ∧ HavePlain rest

end

/-- A value begins with a token that is neither a blank nor a closing bracket. -/
theorem exists_write_eq_cons {v : Json} (h : v.IsPlain) (layout : Layout) :
    ∃ c s, v.write layout = c :: s ∧ isSpace c = false ∧ c ≠ ']' := by
  cases v with
  | null => exact ⟨'n', _, rfl, rfl, by decide⟩
  | bool b => cases b <;> exact ⟨_, _, rfl, rfl, by decide⟩
  | text s => exact ⟨'"', _, rfl, rfl, by decide⟩
  | number literal | illegible atEnd | broken => exact h.elim
  | array items =>
    cases items <;> rw [write] <;> exact ⟨'[', _, rfl, rfl, by decide⟩
  | object members closed =>
    cases members <;> rw [write] <;> exact ⟨'{', _, rfl, rfl, by decide⟩

/-! ## How the reader goes on -/

variable {c : Char} {s t t' t'' rest : List Char} {fuel : Nat} {item value : Json} {name : String}

/-- After an opening bracket that is not closed at once, items are read. -/
theorem readValue_items (hs : skipSpace s = '[' :: t) (ht : skipSpace t = c :: rest)
    (hc : c ≠ ']') :
    readValue (fuel + 1) s =
      (array (readItems fuel (c :: rest)).1, (readItems fuel (c :: rest)).2) := by
  rw [readValue, hs]
  simp only [ht]
  split
  · rename_i hclosed
    exact absurd (List.cons.inj hclosed).1 hc
  · rfl

/-- After an opening brace before a quote, members are read. -/
theorem readValue_members (hs : skipSpace s = '{' :: t) (ht : skipSpace t = '"' :: rest) :
    readValue (fuel + 1) s =
      (object (readMembers fuel ('"' :: rest)).1 (readMembers fuel ('"' :: rest)).2.isSome,
        (readMembers fuel ('"' :: rest)).2) := by
  rw [readValue, hs]
  simp only [ht]
  rfl

/-- After a comma, more items are read. -/
theorem readItems_more (hitem : readValue fuel s = (item, some t))
    (ht : skipSpace t = ',' :: rest) :
    readItems (fuel + 1) s = (item :: (readItems fuel rest).1, (readItems fuel rest).2) := by
  rw [readItems, hitem]
  simp only [ht]

/-- A closing bracket ends the items. -/
theorem readItems_last (hitem : readValue fuel s = (item, some t))
    (ht : skipSpace t = ']' :: rest) :
    readItems (fuel + 1) s = ([item], some rest) := by
  rw [readItems, hitem]
  simp only [ht]

/-- After a comma, more members are read. -/
theorem readMembers_more (hs : skipSpace s = quote name ++ t) (ht : skipSpace t = ':' :: t')
    (hvalue : readValue fuel t' = (value, some t'')) (ht'' : skipSpace t'' = ',' :: rest) :
    readMembers (fuel + 1) s =
      ((some name, value) :: (readMembers fuel rest).1, (readMembers fuel rest).2) := by
  have hs : skipSpace s = '"' :: (name.toList.flatMap escape ++ '"' :: t) := by
    simpa [quote] using hs
  rw [readMembers, hs]
  simp only [readText_quote, ht, hvalue, ht'']
  rfl

/-- A closing brace ends the members. -/
theorem readMembers_last (hs : skipSpace s = quote name ++ t) (ht : skipSpace t = ':' :: t')
    (hvalue : readValue fuel t' = (value, some t'')) (ht'' : skipSpace t'' = '}' :: rest) :
    readMembers (fuel + 1) s = ([(some name, value)], some rest) := by
  have hs : skipSpace s = '"' :: (name.toList.flatMap escape ++ '"' :: t) := by
    simpa [quote] using hs
  rw [readMembers, hs]
  simp only [readText_quote, ht, hvalue, ht'']
  rfl

/-- A quoted name stands at the front. -/
theorem skipSpace_quote (name : String) (s : List Char) :
    skipSpace (quote name ++ s) = quote name ++ s :=
  skipSpace_cons rfl _

/-- A written value stands at the front. -/
theorem skipSpace_write {v : Json} (h : v.IsPlain) (layout : Layout) (s : List Char) :
    skipSpace (write layout v ++ s) = write layout v ++ s := by
  obtain ⟨c, t, hwrite, hblank, -⟩ := exists_write_eq_cons h layout
  rw [hwrite]
  exact skipSpace_cons hblank _

/-! ## Reading what was written -/

mutual

/-- A written value is read back, whatever follows. -/
theorem readValue_write : ∀ {v : Json}, v.IsPlain → ∀ {layout : Layout} {rest s : List Char}
    {fuel : Nat}, skipSpace s = write layout v ++ rest → 2 * (write layout v).length ≤ fuel →
      readValue fuel s = (v, some rest)
  | .null, _, layout, rest, s, fuel + 1, hs, hfuel => by
    have hs : skipSpace s = 'n' :: 'u' :: 'l' :: 'l' :: rest := hs
    rw [readValue, hs]
    rfl
  | .bool true, _, layout, rest, s, fuel + 1, hs, hfuel => by
    have hs : skipSpace s = 't' :: 'r' :: 'u' :: 'e' :: rest := hs
    rw [readValue, hs]
    rfl
  | .bool false, _, layout, rest, s, fuel + 1, hs, hfuel => by
    have hs : skipSpace s = 'f' :: 'a' :: 'l' :: 's' :: 'e' :: rest := hs
    rw [readValue, hs]
    rfl
  | .text value, _, layout, rest, s, fuel + 1, hs, hfuel => by
    have hs : skipSpace s = '"' :: (value.toList.flatMap escape ++ '"' :: rest) := by
      simpa [write, quote] using hs
    rw [readValue, hs]
    exact readText_quote value rest
  | .array [], _, layout, rest, s, fuel + 1, hs, hfuel => by
    have hs : skipSpace s = '[' :: ']' :: rest := by simpa [write] using hs
    rw [readValue, hs]
    rfl
  | .array (item :: items), hplain, layout, rest, s, fuel + 1, hs, hfuel => by
    simp only [IsPlain, ArePlain] at hplain
    have hs : skipSpace s = '[' :: (layout.inner.lineBreak ++ (write layout.inner item ++
        (writeItems layout.inner items ++ (layout.lineBreak ++ ']' :: rest)))) := by
      simpa [write] using hs
    obtain ⟨c, t, hitem, hblank, hbracket⟩ := exists_write_eq_cons hplain.1 layout.inner
    have hfirst : skipSpace (layout.inner.lineBreak ++ (write layout.inner item ++
        (writeItems layout.inner items ++ (layout.lineBreak ++ ']' :: rest)))) =
          c :: (t ++ (writeItems layout.inner items ++ (layout.lineBreak ++ ']' :: rest))) := by
      rw [skipSpace_lineBreak, skipSpace_write hplain.1, hitem]
      rfl
    have hstart := skipSpace_write hplain.1 layout.inner
      (writeItems layout.inner items ++ (layout.lineBreak ++ ']' :: rest))
    have hfuel : 2 * (write layout.inner item ++ writeItems layout.inner items).length + 1 ≤
        fuel := by
      simp only [write, List.length_append, List.length_cons, List.length_nil] at hfuel ⊢
      omega
    have hitems := readItems_write hplain.1 hplain.2 hstart hfuel
    rw [hitem, List.cons_append] at hitems
    rw [readValue_items hs hfirst hbracket, hitems]
  | .object [] closed, hplain, layout, rest, s, fuel + 1, hs, hfuel => by
    have hs : skipSpace s = '{' :: '}' :: rest := by simpa [write] using hs
    simp only [IsPlain] at hplain
    rw [readValue, hs, hplain.1]
    rfl
  | .object ((none, value) :: members) closed, hplain, layout, rest, s, fuel + 1, hs, hfuel => by
    simp [IsPlain, HavePlain] at hplain
  | .object ((some name, value) :: members) closed, hplain, layout, rest, s, fuel + 1, hs,
      hfuel => by
    simp only [IsPlain, HavePlain] at hplain
    have hs : skipSpace s = '{' :: (layout.inner.lineBreak ++ (quote name ++ (layout.colon ++
        (write layout.inner value ++ (writeMembers layout.inner members ++
          (layout.lineBreak ++ '}' :: rest)))))) := by
      simpa [write, quoteName] using hs
    have hstart := skipSpace_quote name (layout.colon ++ (write layout.inner value ++
      (writeMembers layout.inner members ++ (layout.lineBreak ++ '}' :: rest))))
    have hfirst := (skipSpace_lineBreak layout.inner _).trans hstart
    have hfuel : 2 * (write layout.inner value ++ writeMembers layout.inner members).length + 1 ≤
        fuel := by
      simp only [write, List.length_append, List.length_cons, List.length_nil] at hfuel ⊢
      omega
    have hmembers := readMembers_write hplain.2.2.1 hplain.2.2.2 hstart hfuel
    rw [quote, List.cons_append, List.cons_append] at hfirst hmembers
    rw [readValue_members hs hfirst, hmembers, hplain.1]
    rfl
  | v, hplain, layout, rest, s, 0, hs, hfuel => by
    obtain ⟨c, s, hwrite, -⟩ := exists_write_eq_cons hplain layout
    simp [hwrite] at hfuel

/-- Written items are read back up to the closing bracket. -/
theorem readItems_write : ∀ {item : Json} {items : List Json}, item.IsPlain → ArePlain items →
    ∀ {layout outer : Layout} {rest s : List Char} {fuel : Nat},
      skipSpace s = write layout item ++
        (writeItems layout items ++ (outer.lineBreak ++ ']' :: rest)) →
      2 * (write layout item ++ writeItems layout items).length + 1 ≤ fuel →
        readItems fuel s = (item :: items, some rest)
  | item, [], hitem, hitems, layout, outer, rest, s, fuel + 1, hs, hfuel => by
    have hfuel : 2 * (write layout item).length ≤ fuel := by
      simp only [List.length_append] at hfuel
      omega
    have hlast : skipSpace (outer.lineBreak ++ ']' :: rest) = ']' :: rest := by
      rw [skipSpace_lineBreak]
      exact skipSpace_cons rfl rest
    exact readItems_last (readValue_write hitem hs hfuel) hlast
  | item, next :: items, hitem, hitems, layout, outer, rest, s, fuel + 1, hs, hfuel => by
    simp only [ArePlain] at hitems
    simp only [writeItems, List.length_append, List.length_cons] at hfuel
    have hmore : skipSpace (writeItems layout (next :: items) ++ (outer.lineBreak ++ ']' :: rest)) =
        ',' :: (layout.lineBreak ++ (write layout next ++
          (writeItems layout items ++ (outer.lineBreak ++ ']' :: rest)))) := by
      simp only [writeItems, List.cons_append, List.append_assoc]
      exact skipSpace_cons rfl _
    have hnext : skipSpace (layout.lineBreak ++ (write layout next ++
        (writeItems layout items ++ (outer.lineBreak ++ ']' :: rest)))) = _ :=
      (skipSpace_lineBreak layout _).trans (skipSpace_write hitems.1 layout _)
    have hfuel' : 2 * (write layout next ++ writeItems layout items).length + 1 ≤ fuel := by
      simp only [List.length_append]
      omega
    have hitem : readValue fuel s = _ := readValue_write hitem hs (by omega)
    rw [readItems_more hitem hmore, readItems_write hitems.1 hitems.2 hnext hfuel']

/-- Written members are read back up to the closing brace. -/
theorem readMembers_write : ∀ {name : String} {value : Json}
    {members : List (Option String × Json)}, value.IsPlain → HavePlain members →
    ∀ {mark layout outer : Layout} {rest s : List Char} {fuel : Nat},
      skipSpace s = quote name ++ (mark.colon ++ (write layout value ++
        (writeMembers layout members ++ (outer.lineBreak ++ '}' :: rest)))) →
      2 * (write layout value ++ writeMembers layout members).length + 1 ≤ fuel →
        readMembers fuel s = ((some name, value) :: members, some rest)
  | name, value, [], hvalue, hmembers, mark, layout, outer, rest, s, fuel + 1, hs, hfuel => by
    have hfuel : 2 * (write layout value).length ≤ fuel := by
      simp only [List.length_append] at hfuel
      omega
    obtain ⟨t, hcolon, ht⟩ := skipSpace_colon mark (write layout value ++
      (writeMembers layout [] ++ (outer.lineBreak ++ '}' :: rest)))
    have hvalue := readValue_write hvalue (ht.trans (skipSpace_write hvalue layout _)) hfuel
    have hlast : skipSpace (outer.lineBreak ++ '}' :: rest) = '}' :: rest := by
      rw [skipSpace_lineBreak]
      exact skipSpace_cons rfl rest
    exact readMembers_last hs hcolon hvalue hlast
  | name, value, (none, next) :: members, hvalue, hmembers, mark, layout, outer, rest, s, fuel + 1,
      hs, hfuel => by
    simp [HavePlain] at hmembers
  | name, value, (some nextName, next) :: members, hvalue, hmembers, mark, layout, outer, rest, s,
      fuel + 1, hs, hfuel => by
    simp only [HavePlain] at hmembers
    simp only [writeMembers, List.length_append, List.length_cons] at hfuel
    obtain ⟨t, hcolon, ht⟩ := skipSpace_colon mark (write layout value ++
      (writeMembers layout ((some nextName, next) :: members) ++ (outer.lineBreak ++ '}' :: rest)))
    have hvalue : readValue fuel t = _ :=
      readValue_write hvalue (ht.trans (skipSpace_write hvalue layout _)) (by omega)
    have hmore : skipSpace (writeMembers layout ((some nextName, next) :: members) ++
        (outer.lineBreak ++ '}' :: rest)) =
          ',' :: (layout.lineBreak ++ (quote nextName ++ (layout.colon ++ (write layout next ++
            (writeMembers layout members ++ (outer.lineBreak ++ '}' :: rest)))))) := by
      simp only [writeMembers, quoteName, Option.map_some, Option.getD_some, List.cons_append,
        List.append_assoc]
      exact skipSpace_cons rfl _
    have hnext := (skipSpace_lineBreak layout _).trans (skipSpace_quote nextName (layout.colon ++
      (write layout next ++ (writeMembers layout members ++ (outer.lineBreak ++ '}' :: rest)))))
    have hfuel' : 2 * (write layout next ++ writeMembers layout members).length + 1 ≤ fuel := by
      simp only [List.length_append]
      omega
    rw [readMembers_more hs hcolon hvalue hmore,
      readMembers_write hmembers.2.1 hmembers.2.2 hnext hfuel']

end

/-- A text that is written for a value is read back as a whole. -/
theorem read_write {v : Json} (h : v.IsPlain) (layout : Layout) :
    read (write layout v) = (v, some []) := by
  have hstart := skipSpace_write h layout []
  rw [List.append_nil] at hstart
  exact readValue_write h (hstart.trans (List.append_nil _).symm) (by omega)

end Roster.Json
