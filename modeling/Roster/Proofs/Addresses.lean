import Mathlib.Data.List.TakeDrop
import Mathlib.Data.List.TakeWhile
import Roster.Http.Percent
import Roster.Http.Route
import Roster.Proofs.Texts

/-!
# Addresses of places

A path is made of segments. Any text can be a segment: where a character would mean something else in
a path, its bytes are written with percent signs, and reading the segment gives the text back. A path
whose segments hold no separators leads where the segments do.
-/

namespace Roster.Http

/-! ## Texts as segments -/

namespace Percent

/-- A statement about bytes may be tried out on all of them. -/
theorem forall_byte {P : UInt8 → Prop} (h : ∀ n < 256, P (.ofNat n)) (byte : UInt8) : P byte := by
  rw [← UInt8.ofNat_toNat (x := byte)]
  exact h _ byte.toNat_lt

/-- A byte that stands for itself is no percent sign, and is the form of its character. -/
theorem utf8_of_isUnreserved : ∀ byte : UInt8, isUnreserved byte = true →
    Char.ofNat byte.toNat ≠ '%' ∧
      Text.utf8 (String.singleton (Char.ofNat byte.toNat)) = [byte] :=
  forall_byte (by decide +kernel)

/-- A character that is no percent sign stands for its bytes. -/
theorem decodeBytes_cons_of_ne {c : Char} (hc : c ≠ '%') (rest : List Char) :
    decodeBytes (c :: rest) = Text.utf8 (String.singleton c) ++ decodeBytes rest := by
  rw [decodeBytes]
  exact fun a b rest' h _ => hc h

/-- A byte that has been written is read back. -/
theorem decodeBytes_encodeByte_append (byte : UInt8) (rest : List Char) :
    decodeBytes (encodeByte byte ++ rest) = byte :: decodeBytes rest := by
  unfold encodeByte
  cases hplain : isUnreserved byte with
  | true =>
    obtain ⟨hne, hutf8⟩ := utf8_of_isUnreserved byte hplain
    rw [if_pos rfl, List.singleton_append, decodeBytes_cons_of_ne hne, hutf8]
    rfl
  | false =>
    have hbyte := byte.toNat_lt
    have hhigh := (Text.hexValue?_digits (byte.toNat / 16) (by omega)).2
    have hlow := (Text.hexValue?_digits (byte.toNat % 16) (by omega)).2
    simp only [Bool.false_eq_true, if_false, List.cons_append, List.nil_append, decodeBytes, hhigh,
      hlow, Nat.div_add_mod, UInt8.ofNat_toNat]

/-- Bytes that have been written are read back. -/
theorem decodeBytes_flatMap_encodeByte (bytes : List UInt8) :
    decodeBytes (bytes.flatMap encodeByte) = bytes := by
  induction bytes with
  | nil => rfl
  | cons byte rest ih => rw [List.flatMap_cons, decodeBytes_encodeByte_append, ih]

/-- A segment that has been written for a text is read as this text. -/
theorem decode?_encode (s : String) : decode? (encode s) = some s := by
  rw [decode?, encode, String.toList_ofList, decodeBytes_flatMap_encodeByte, Text.ofUtf8?_utf8]

/-- Two texts are not written as one segment. -/
theorem encode_injective : Function.Injective encode := fun s s' h =>
  Option.some.inj <| by rw [← decode?_encode s, ← decode?_encode s', h]

end Percent

/-! ## Paths of segments -/

/-- Whether a character may stand within a segment. -/
def keepsSegment (c : Char) : Bool :=
  c ≠ '/' && !endsPath c

/-- Nothing within a segment ends it. -/
def Unbroken (segment : String) : Prop :=
  ∀ c ∈ segment.toList, keepsSegment c = true

instance (segment : String) : Decidable (Unbroken segment) :=
  decidable_of_iff (segment.toList.all keepsSegment = true) List.all_eq_true

/-- A segment that is written for a text is not broken by anything in the text. -/
theorem Percent.unbroken_encode (s : String) : Unbroken (encode s) := by
  have hbyte : ∀ byte : UInt8, (encodeByte byte).all keepsSegment = true :=
    forall_byte (by decide +kernel)
  intro c hc
  rw [encode, String.toList_ofList] at hc
  obtain ⟨byte, -, hc⟩ := List.mem_flatMap.1 hc
  exact List.all_eq_true.1 (hbyte byte) c hc

/-- The path of some segments below the root of the interface. -/
def pathOf (segments : List String) : String :=
  "/".intercalate ("" :: "api" :: "v1" :: segments)

example : pathOf ["workspaces", "team"] = "/api/v1/workspaces/team" := by decide

/-- What stands in joined lists stands in the separator or in one of the lists. -/
theorem mem_of_mem_intercalate {α : Type} {a : α} {separator : List α} {lists : List (List α)}
    (h : a ∈ separator.intercalate lists) : a ∈ separator ∨ ∃ list ∈ lists, a ∈ list := by
  induction lists with
  | nil => exact absurd h (by simp)
  | cons first rest ih =>
    cases rest with
    | nil => exact .inr ⟨first, List.mem_cons_self, by simpa using h⟩
    | cons second rest =>
      rw [List.intercalate_cons_cons, List.mem_append, List.mem_append] at h
      obtain (hfirst | hseparator) | hrest := h
      · exact .inr ⟨first, List.mem_cons_self, hfirst⟩
      · exact .inl hseparator
      · obtain hseparator | ⟨list, hlist, ha⟩ := ih hrest
        · exact .inl hseparator
        · exact .inr ⟨list, List.mem_cons_of_mem _ hlist, ha⟩

/-- What stands in a part of a list stands in the list, and is no separator. -/
theorem of_mem_splitOnP {α : Type} {separates : α → Bool} {items part : List α}
    (hpart : part ∈ items.splitOnP separates) {a : α} (ha : a ∈ part) :
    a ∈ items ∧ separates a = false := by
  induction items generalizing part with
  | nil =>
    rw [List.splitOnP_nil, List.mem_singleton] at hpart
    exact absurd ha (hpart ▸ List.not_mem_nil)
  | cons first rest ih =>
    rw [List.splitOnP_cons_eq_if_modifyHead] at hpart
    split at hpart
    · obtain rfl | hpart := List.mem_cons.1 hpart
      · exact absurd ha List.not_mem_nil
      · exact (ih hpart ha).imp_left (List.mem_cons_of_mem _)
    · rename_i hfirst
      obtain ⟨head, tail, hparts⟩ := List.exists_cons_of_ne_nil (List.splitOnP_ne_nil separates rest)
      rw [hparts] at ih hpart
      obtain rfl | hpart := List.mem_cons.1 hpart
      · obtain rfl | ha := List.mem_cons.1 ha
        · exact ⟨List.mem_cons_self, Bool.eq_false_iff.2 hfirst⟩
        · exact (ih List.mem_cons_self ha).imp_left (List.mem_cons_of_mem _)
      · exact (ih (List.mem_cons_of_mem _ hpart) ha).imp_left (List.mem_cons_of_mem _)

/-- Segments without separators are found again in the path that they are joined to. -/
theorem splitOn_intercalate {segments : List String} (hne : segments ≠ [])
    (h : ∀ segment ∈ segments, '/' ∉ segment.toList) :
    ("/".intercalate segments).splitOn "/" = segments := by
  have hsplit : ("/".intercalate segments).toList.splitOnP (· == '/') = segments.map String.toList := by
    rw [String.toList_intercalate]
    exact List.splitOn_intercalate '/' (by simpa using h) (by simpa using hne)
  rw [splitOn_slash, hsplit, List.map_map]
  simp

/-- A path of unbroken segments leads where the segments do. -/
theorem ofPath?_pathOf {segments : List String} (h : ∀ segment ∈ segments, Unbroken segment) :
    Target.ofPath? (pathOf segments) = (Route.ofSegments? segments).map .route := by
  have hsegments : ∀ segment ∈ "" :: "api" :: "v1" :: segments, Unbroken segment := by
    have hroot : ∀ segment ∈ ["", "api", "v1"], Unbroken segment := by decide
    have hsplit : "" :: "api" :: "v1" :: segments = ["", "api", "v1"] ++ segments := rfl
    intro segment hsegment
    obtain hin | hin := List.mem_append.1 (hsplit ▸ hsegment)
    · exact hroot segment hin
    · exact h segment hin
  have hlocal : localPath (pathOf segments).toList = (pathOf segments).toList := by
    obtain ⟨rest, hrest⟩ : ∃ rest, (pathOf segments).toList = '/' :: rest :=
      ⟨_, by rw [pathOf, String.toList_intercalate]; simp [List.intercalate_cons_cons]; rfl⟩
    rw [hrest, localPath, List.span_eq_takeWhile_dropWhile]
    rfl
  have hkept : (pathOf segments).toList.takeWhile (!endsPath ·) = (pathOf segments).toList := by
    refine List.takeWhile_eq_self_iff.2 fun c hc => ?_
    rw [pathOf, String.toList_intercalate] at hc
    obtain hslash | ⟨list, hlist, hc⟩ := mem_of_mem_intercalate hc
    · obtain rfl := List.mem_singleton.1 hslash
      rfl
    · obtain ⟨segment, hsegment, rfl⟩ := List.mem_map.1 hlist
      exact (Bool.and_eq_true_iff.1 (hsegments segment hsegment c hc)).2
  have hsplit : (pathOf segments).splitOn "/" = "" :: "api" :: "v1" :: segments := by
    refine splitOn_intercalate (List.cons_ne_nil _ _) fun segment hsegment hslash => ?_
    exact absurd (hsegments segment hsegment '/' hslash) (by decide)
  simp only [Target.ofPath?, hlocal, hkept, String.ofList_toList, hsplit]

/-- Whatever a path is cut into at its separators is unbroken. -/
theorem unbroken_of_mem_splitOn {path segment : String}
    (h : segment ∈ (String.ofList ((localPath path.toList).takeWhile (!endsPath ·))).splitOn "/") :
    Unbroken segment := by
  rw [splitOn_slash, String.toList_ofList] at h
  obtain ⟨part, hpart, rfl⟩ := List.mem_map.1 h
  intro c hc
  rw [String.toList_ofList] at hc
  obtain ⟨hkept, hslash⟩ := of_mem_splitOnP hpart hc
  have hends := List.mem_takeWhile_imp hkept
  exact Bool.and_eq_true_iff.2 ⟨decide_eq_true (beq_eq_false_iff_ne.1 hslash), hends⟩

/-- Only three segments lead to the integrations of a workspace. -/
theorem eq_of_ofSegments?_integrations {segments : List String} {segment : String}
    (h : Route.ofSegments? segments = some (.integrations segment)) :
    segments = ["workspaces", segment, "integrations"] := by
  unfold Route.ofSegments? at h
  split at h <;> simp_all [Route.endingWith]

/-- The segment for the workspace in a path that leads to its integrations is unbroken. -/
theorem unbroken_of_ofPath? {path segment : String}
    (h : Target.ofPath? path = some (.route (.integrations segment))) : Unbroken segment := by
  refine @unbroken_of_mem_splitOn path _ ?_
  unfold Target.ofPath? at h
  dsimp only at h
  split at h
  · exact nomatch h
  · rename_i segments hsplit
    obtain ⟨route, hroute, hsame⟩ := Option.map_eq_some_iff.1 h
    obtain rfl := Target.route.inj hsame
    rw [hsplit, eq_of_ofSegments?_integrations hroute]
    simp
  · exact nomatch h

end Roster.Http
