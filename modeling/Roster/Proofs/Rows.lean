import Roster.Table

/-!
# Reading tables row by row

A table is known by the row under each key. These lemmas say which rows are listed, found by
another property than their key, or laid over a table by a draft.
-/

namespace Roster.Table

variable {kind : Entity} {ρ : Type}

/-- A key is occupied exactly when some row is filed under it. -/
theorem contains_iff {table : Table kind ρ} {key : Ident kind} :
    table.contains key = true ↔ ∃ row, table.get? key = some row :=
  Option.isSome_iff_exists

/-- A key is free exactly when no row is filed under it. -/
theorem contains_eq_false_iff {table : Table kind ρ} {key : Ident kind} :
    table.contains key = false ↔ table.get? key = none :=
  Option.isSome_eq_false_iff.trans Option.isNone_iff_eq_none

/-- Filing a row occupies its key and leaves the other keys alone. -/
@[simp]
theorem contains_insert (table : Table kind ρ) (key : Ident kind) (row : ρ) (k : Ident kind) :
    (table.insert key row).contains k = true ↔ key = k ∨ table.contains k = true := by
  simp only [contains, get?_insert]
  by_cases h : key = k <;> simp [h]

/-- Taking a row away frees its key and leaves the other keys alone. -/
@[simp]
theorem contains_erase (table : Table kind ρ) (key k : Ident kind) :
    (table.erase key).contains k = true ↔ key ≠ k ∧ table.contains k = true := by
  simp only [contains, get?_erase]
  by_cases h : key = k <;> simp [h]

/-- A row that is there after filing one is the filed one or was there before. -/
theorem get?_insert_eq_some {table : Table kind ρ} {key k : Ident kind} {row r : ρ} :
    (table.insert key row).get? k = some r ↔
      (key = k ∧ row = r) ∨ (key ≠ k ∧ table.get? k = some r) := by
  rw [get?_insert]
  by_cases h : key = k <;> simp [h]

/-- A row that is there after taking one away was there before under another key. -/
theorem get?_erase_eq_some {table : Table kind ρ} {key k : Ident kind} {r : ρ} :
    (table.erase key).get? k = some r ↔ key ≠ k ∧ table.get? k = some r := by
  rw [get?_erase]
  by_cases h : key = k <;> simp [h]

/-- Filing a row again where it is filed changes nothing. -/
theorem insert_of_get? {table : Table kind ρ} {key : Ident kind} {row : ρ}
    (h : table.get? key = some row) : table.insert key row = table := by
  refine ext_get? fun k => ?_
  rw [get?_insert]
  split
  · rename_i hk
    rw [← hk, h]
  · rfl

/-- A row that is there is amended under its key. -/
theorem get?_insert_amended {table : Table kind ρ} {key : Ident kind} {row : ρ} (amend : ρ → ρ)
    (hrow : table.get? key = some row) (k : Ident kind) :
    (table.insert key (amend row)).get? k =
      if key = k then (table.get? k).map amend else table.get? k := by
  rw [get?_insert]
  split
  · rename_i hk
    rw [← hk, hrow, Option.map_some]
  · rfl

/-- There is nothing to take away under a free key. -/
theorem erase_of_free {table : Table kind ρ} {key : Ident kind}
    (h : table.contains key = false) : table.erase key = table := by
  refine ext_get? fun k => ?_
  rw [get?_erase]
  split
  · rename_i hk
    rw [← hk, contains_eq_false_iff.1 h]
  · rfl

/-- The listed rows are those that are filed under some key. -/
theorem mem_values_iff {table : Table kind ρ} {row : ρ} :
    row ∈ table.values ↔ ∃ key, table.get? key = some row := by
  simp only [values, List.mem_map, get?_eq_some_iff, Prod.exists, exists_eq_right]

/-- What holds of every listed row holds of every filed row. -/
theorem forall_mem_values {table : Table kind ρ} {p : ρ → Prop} :
    (∀ row, row ∈ table.values → p row) ↔ ∀ key row, table.get? key = some row → p row := by
  simp only [mem_values_iff, forall_exists_index]
  exact forall_comm

/-- A row found by a test is filed under some key and passes the test. -/
theorem get?_of_find?_values {table : Table kind ρ} {test : ρ → Bool} {row : ρ}
    (h : table.values.find? test = some row) :
    ∃ key, table.get? key = some row ∧ test row = true := by
  obtain ⟨key, hkey⟩ := mem_values_iff.1 (List.mem_of_find?_eq_some h)
  exact ⟨key, hkey, List.find?_some h⟩

/-- When no row is found by a test, no filed row passes it. -/
theorem test_of_find?_values_eq_none {table : Table kind ρ} {test : ρ → Bool} {key : Ident kind}
    {row : ρ} (h : table.values.find? test = none) (hrow : table.get? key = some row) :
    test row = false := by
  have := List.find?_eq_none.1 h row (mem_values_iff.2 ⟨key, hrow⟩)
  simpa using this

/-- The first row that passes a test is the one with the first key. -/
theorem find?_values_eq_some {table : Table kind ρ} {test : ρ → Bool} {row : ρ} :
    table.values.find? test = some row ↔ ∃ key, table.get? key = some row ∧ test row = true ∧
      ∀ other r, table.get? other = some r → other < key → test r = false := by
  have hvalues : table.values.find? test = some row ↔
      ∃ key, table.rows.find? (fun entry => test entry.2) = some (key, row) := by
    rw [values, List.find?_map, Option.map_eq_some_iff]
    constructor
    · rintro ⟨⟨key, _⟩, hfind, rfl⟩
      exact ⟨key, hfind⟩
    · rintro ⟨key, hfind⟩
      exact ⟨(key, row), hfind, rfl⟩
  rw [hvalues]
  refine exists_congr fun key => ?_
  rw [List.find?_eq_some_iff_append]
  constructor
  · rintro ⟨htest, before, after, hrows, hbefore⟩
    refine ⟨get?_eq_some_iff.2 (by rw [hrows]; simp), htest, fun other r hr hlt => ?_⟩
    -- A row with an earlier key comes before the one that was found, since rows are sorted.
    have hsorted := table.sorted
    rw [get?_eq_some_iff, hrows, List.mem_append, List.mem_cons] at hr
    rw [hrows, List.pairwise_append] at hsorted
    obtain hr | hr | hr := hr
    · simpa using hbefore _ hr
    · cases hr
      exact absurd hlt (Ident.lt_irrefl _)
    · have hgt := (List.pairwise_cons.1 hsorted.2.1).1 _ hr
      exact absurd (Ident.lt_trans hlt hgt) (Ident.lt_irrefl _)
  · rintro ⟨hrow, htest, hearlier⟩
    obtain ⟨before, after, hrows⟩ := List.append_of_mem (get?_eq_some_iff.1 hrow)
    refine ⟨htest, before, after, hrows, fun entry hentry => ?_⟩
    have hsorted := table.sorted
    rw [hrows, List.pairwise_append] at hsorted
    have hthere : table.get? entry.1 = some entry.2 :=
      get?_eq_some_iff.2 (by rw [hrows]; exact List.mem_append_left _ hentry)
    rw [hearlier _ _ hthere (hsorted.2.2 entry hentry _ List.mem_cons_self)]
    rfl

/-- No key is listed twice. -/
theorem nodup_keys (table : Table kind ρ) : table.keys.Nodup := by
  rw [keys, List.Nodup, List.pairwise_map]
  refine table.sorted.imp fun hlt heq => ?_
  rw [heq] at hlt
  exact Ident.lt_irrefl _ hlt

/-- Rows that are filed under their own ids have the keys of the table as ids. -/
theorem map_values {table : Table kind ρ} {own : ρ → Ident kind}
    (h : ∀ {key row}, table.get? key = some row → own row = key) :
    table.values.map own = table.keys := by
  rw [values, keys, List.map_map]
  exact List.map_congr_left fun entry hentry => h (get?_eq_some_iff.2 hentry)

/-- Laying rows over a table replaces exactly the touched keys. -/
theorem get?_overlay (target staged : Table kind ρ) (touched : List (Ident kind))
    (k : Ident kind) :
    (target.overlay staged touched).get? k =
      if k ∈ touched then staged.get? k else target.get? k := by
  unfold overlay
  induction touched generalizing target with
  | nil => simp
  | cons key rest ih =>
    rw [List.foldl_cons, ih]
    by_cases hrest : k ∈ rest
    · simp [hrest]
    · by_cases h : key = k
      · subst h
        cases hstaged : staged.get? key with
        | none => simp [hrest]
        | some row => simp [hrest]
      · cases hstaged : staged.get? key with
        | none => simp [hrest, h, Ne.symm h]
        | some row => simp [hrest, h, Ne.symm h]

/-- Two tables agree on every key outside a list. -/
def AgreeOff (touched : List (Ident kind)) (staged base : Table kind ρ) : Prop :=
  ∀ key, key ∉ touched → staged.get? key = base.get? key

namespace AgreeOff

variable {touched : List (Ident kind)} {staged base : Table kind ρ}

/-- Filing a row keeps the agreement off its key. -/
theorem insert (h : AgreeOff touched staged base) (key : Ident kind) (row : ρ) :
    AgreeOff (key :: touched) (staged.insert key row) base := by
  intro k hk
  rw [List.mem_cons, not_or] at hk
  rw [get?_insert, if_neg (Ne.symm hk.1)]
  exact h k hk.2

/-- Taking a row away keeps the agreement off its key. -/
theorem erase (h : AgreeOff touched staged base) (key : Ident kind) :
    AgreeOff (key :: touched) (staged.erase key) base := by
  intro k hk
  rw [List.mem_cons, not_or] at hk
  rw [get?_erase, if_neg (Ne.symm hk.1)]
  exact h k hk.2

/-- Laying the touched rows over the table they were staged for gives the staged table. -/
theorem overlay_eq (h : AgreeOff touched staged base) : base.overlay staged touched = staged := by
  refine ext_get? fun key => ?_
  rw [get?_overlay]
  split
  · rfl
  · exact (h key ‹_›).symm

end AgreeOff

/-! ## Rows that are told apart -/

/-- No two rows of a table are alike. -/
def Separates (alike : ρ → ρ → Prop) (table : Table kind ρ) : Prop :=
  ∀ ⦃key key' row row'⦄, table.get? key = some row → table.get? key' = some row' →
    alike row row' → key = key'

/-- There are no two rows in an empty table. -/
theorem separates_empty (alike : ρ → ρ → Prop) : (empty : Table kind ρ).Separates alike :=
  fun _ _ _ _ h => nomatch h

/-- A row may be filed that is unlike all rows under other keys. -/
theorem Separates.insert {alike : ρ → ρ → Prop} {table : Table kind ρ}
    (h : table.Separates alike) (hsymm : ∀ {row row'}, alike row row' → alike row' row)
    {key : Ident kind} {row : ρ}
    (hunlike : ∀ k other, table.get? k = some other → k ≠ key → ¬ alike other row) :
    (table.insert key row).Separates alike := by
  intro k k' r r' hr hr' halike
  obtain ⟨rfl, rfl⟩ | ⟨hne, hr⟩ := get?_insert_eq_some.1 hr
  · obtain ⟨hsame, -⟩ | ⟨hne', hr'⟩ := get?_insert_eq_some.1 hr'
    · exact hsame
    · exact absurd (hsymm halike) (hunlike k' r' hr' hne'.symm)
  · obtain ⟨rfl, rfl⟩ | ⟨-, hr'⟩ := get?_insert_eq_some.1 hr'
    · exact absurd halike (hunlike k r hr hne.symm)
    · exact h hr hr' halike

/-- A row may be taken away. -/
theorem Separates.erase {alike : ρ → ρ → Prop} {table : Table kind ρ}
    (h : table.Separates alike) (key : Ident kind) : (table.erase key).Separates alike :=
  fun _ _ _ _ hr hr' => h (get?_erase_eq_some.1 hr).2 (get?_erase_eq_some.1 hr').2

/-- The rows that are there under some keys are filed under their own ids. -/
def FiledOn (own : ρ → Ident kind) (keys : List (Ident kind)) (table : Table kind ρ) : Prop :=
  ∀ ⦃key row⦄, key ∈ keys → table.get? key = some row → own row = key

namespace FiledOn

variable {own : ρ → Ident kind} {keys : List (Ident kind)} {table : Table kind ρ}

/-- A row may be filed under its own id. -/
theorem insert (h : FiledOn own keys table) (row : ρ) :
    FiledOn own (own row :: keys) (table.insert (own row) row) := by
  intro key row' hkey hrow'
  obtain ⟨rfl, rfl⟩ | ⟨hne, hrow'⟩ := get?_insert_eq_some.1 hrow'
  · rfl
  · exact h ((List.mem_cons.1 hkey).resolve_left hne.symm) hrow'

/-- A row may be taken away. -/
theorem erase (h : FiledOn own keys table) (key : Ident kind) :
    FiledOn own (key :: keys) (table.erase key) := by
  intro key' row hkey hrow
  obtain ⟨hne, hrow⟩ := get?_erase_eq_some.1 hrow
  exact h ((List.mem_cons.1 hkey).resolve_left hne.symm) hrow

end FiledOn

/-- Erasing keys one after another empties exactly those keys. -/
theorem get?_foldl_erase (keys : List (Ident kind)) (table : Table kind ρ) (k : Ident kind) :
    (keys.foldl erase table).get? k = if k ∈ keys then none else table.get? k := by
  induction keys generalizing table with
  | nil => simp
  | cons key rest ih =>
    rw [List.foldl_cons, ih, get?_erase]
    by_cases hrest : k ∈ rest
    · simp [hrest]
    · by_cases h : key = k
      · simp [h]
      · simp [hrest, h, Ne.symm h]

/-- Filing rows one after another leaves every other key alone. -/
theorem get?_foldl_insert_of_ne {key : ρ → Ident kind} {rows : List ρ} {k : Ident kind}
    (h : ∀ row ∈ rows, key row ≠ k) (table : Table kind ρ) :
    (rows.foldl (fun table row => table.insert (key row) row) table).get? k = table.get? k := by
  induction rows generalizing table with
  | nil => rfl
  | cons row rest ih =>
    rw [List.foldl_cons, ih fun other hother => h other (List.mem_cons_of_mem _ hother),
      get?_insert, if_neg (h row List.mem_cons_self)]

/-- Filing rows one after another files each of them if no two have the same key. -/
theorem get?_foldl_insert_of_mem (key : ρ → Ident kind) {rows : List ρ} {row : ρ}
    (hrow : row ∈ rows) (hunique : ∀ other ∈ rows, key other = key row → other = row)
    (table : Table kind ρ) :
    (rows.foldl (fun table row => table.insert (key row) row) table).get? (key row) =
      some row := by
  induction rows generalizing table with
  | nil => exact absurd hrow List.not_mem_nil
  | cons first rest ih =>
    rw [List.foldl_cons]
    by_cases hlater : row ∈ rest
    · exact ih hlater (fun other hother => hunique other (List.mem_cons_of_mem _ hother)) _
    · obtain rfl := (List.mem_cons.1 hrow).resolve_right hlater
      rw [get?_foldl_insert_of_ne, get?_insert, if_pos rfl]
      intro other hother hkey
      rw [hunique other (List.mem_cons_of_mem _ hother) hkey] at hother
      exact hlater hother

/-- A table with one row has nothing under any other key. -/
theorem get?_of_rows_eq_singleton {table : Table kind ρ} {key : Ident kind} {row : ρ}
    (h : table.rows = [(key, row)]) (k : Ident kind) :
    table.get? k = if key = k then some row else none := by
  unfold get?
  rw [h]
  by_cases hk : key = k <;> simp [hk]

end Roster.Table
