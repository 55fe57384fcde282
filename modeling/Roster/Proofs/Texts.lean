import Mathlib.Data.String.Basic

/-!
# Texts as lists of characters

Splitting a text at a separator walks along its bytes. Here it is brought down to the list of
characters, on which it can be worked out.
-/

namespace Roster

open String

/-- Where a walk along a text stands: `l` lies behind, up to the last separator, `m` has been read since,
and `r` is still to be read. -/
theorem splitOnAux_singleton (c : Char) (l m r : List Char) (acc : List String) :
    splitOnAux (ofList (l ++ m ++ r)) (ofList [c]) ⟨utf8Len l⟩ ⟨utf8Len l + utf8Len m⟩ 0 acc =
      acc.reverse ++ (List.splitOnPPrepend (· == c) r m.reverse).map ofList := by
  have hlen : utf8Len [c] = c.utf8Size := by simp
  have hsep : Pos.Raw.get (ofList [c]) 0 = c := get_of_valid [] [c]
  have hend : Pos.Raw.next (ofList [c]) 0 = ⟨c.utf8Size⟩ := by simpa using next_of_valid [] c []
  induction r generalizing l m acc with
  | nil =>
    unfold splitOnAux
    simpa [atEnd_iff, -ofList_append] using extract_of_valid l m []
  | cons d r ih =>
    have hget : Pos.Raw.get (ofList (l ++ m ++ d :: r)) ⟨utf8Len l + utf8Len m⟩ = d := by
      simpa [-ofList_append] using get_of_valid (l ++ m) (d :: r)
    have hnext : Pos.Raw.next (ofList (l ++ m ++ d :: r)) ⟨utf8Len l + utf8Len m⟩ =
        ⟨utf8Len l + utf8Len m + d.utf8Size⟩ := by
      simpa [-ofList_append] using next_of_valid (l ++ m) d r
    have hextract : Pos.Raw.extract (ofList (l ++ m ++ d :: r)) ⟨utf8Len l⟩
        ⟨utf8Len l + utf8Len m⟩ = ofList m := by
      simpa [-ofList_append] using extract_of_valid l m (d :: r)
    have hmore : ¬ Pos.Raw.atEnd (ofList (l ++ m ++ d :: r)) ⟨utf8Len l + utf8Len m⟩ := by
      have hsize := d.utf8Size_pos
      simp only [atEnd_iff, rawEndPos_ofList, utf8Len_append, utf8Len_cons, Pos.Raw.mk_le_mk]
      omega
    have hzero : (⟨utf8Len l + utf8Len m⟩ : Pos.Raw).unoffsetBy 0 = ⟨utf8Len l + utf8Len m⟩ := rfl
    unfold splitOnAux
    simp only [hmore, Bool.false_eq_true, if_false, hget, hsep, hend, hzero, hnext, beq_iff_eq,
      List.splitOnPPrepend_cons_eq_if]
    split
    · subst d
      have hback : (⟨utf8Len l + utf8Len m + c.utf8Size⟩ : Pos.Raw).unoffsetBy ⟨c.utf8Size⟩ =
          ⟨utf8Len l + utf8Len m⟩ := by
        simp [Pos.Raw.ext_iff]
      simp only [atEnd_iff, rawEndPos_ofList, hlen, hback, hextract]
      simpa [Nat.add_assoc] using ih (l ++ m ++ [c]) [] (ofList m :: acc)
    · simpa [Nat.add_assoc] using ih l (m ++ [d]) acc

/-- A text falls apart at a character where its list of characters does. -/
theorem splitOn_singleton (s : String) (c : Char) :
    s.splitOn (ofList [c]) = (s.toList.splitOnP (· == c)).map ofList := by
  simpa [splitOn] using splitOnAux_singleton c [] [] s.toList []

/-- A path falls apart at its slashes. -/
theorem splitOn_slash (s : String) : s.splitOn "/" = (s.toList.splitOnP (· == '/')).map ofList :=
  splitOn_singleton s '/'

end Roster
