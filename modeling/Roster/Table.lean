import Roster.Ident

/-!
# Tables of rows

A table holds at most one row under each key, and lists its rows in the order of the keys. Since
the order is part of the type, two tables are equal as soon as they hold the same row under every
key.
-/

namespace Roster

/-- Rows filed under ids of one kind, in the order of the ids. -/
structure Table (kind : Entity) (ρ : Type) where
  /-- The keys and their rows. -/
  rows : List (Ident kind × ρ)
  /-- Each key comes before every later one. -/
  sorted : rows.Pairwise fun a b => a.1 < b.1
  deriving DecidableEq

namespace Table

variable {kind : Entity} {ρ : Type}

instance [Repr ρ] : Repr (Table kind ρ) := ⟨fun table => reprPrec table.rows⟩

/-- The table without rows. -/
def empty : Table kind ρ := ⟨[], .nil⟩

instance : Inhabited (Table kind ρ) := ⟨empty⟩
instance : EmptyCollection (Table kind ρ) := ⟨empty⟩

/-- Put a row at its place among sorted rows, over the row of the same key if there is one. -/
def placeRow (key : Ident kind) (row : ρ) : List (Ident kind × ρ) → List (Ident kind × ρ)
  | [] => [(key, row)]
  | head :: rest =>
    if key < head.1 then (key, row) :: head :: rest
    else if head.1 < key then head :: placeRow key row rest
    else (key, row) :: rest

theorem mem_placeRow {key : Ident kind} {row : ρ} {rows : List (Ident kind × ρ)}
    {entry : Ident kind × ρ} (h : entry ∈ placeRow key row rows) :
    entry = (key, row) ∨ entry ∈ rows := by
  induction rows with
  | nil => simpa [placeRow] using h
  | cons head rest ih =>
    unfold placeRow at h
    split at h
    · simpa using h
    · split at h
      · rcases List.mem_cons.1 h with h | h
        · exact .inr (h ▸ List.mem_cons_self)
        · exact (ih h).imp_right (List.mem_cons_of_mem _)
      · rcases List.mem_cons.1 h with h | h
        · exact .inl h
        · exact .inr (List.mem_cons_of_mem _ h)

theorem sorted_placeRow (key : Ident kind) (row : ρ) {rows : List (Ident kind × ρ)}
    (h : rows.Pairwise fun a b => a.1 < b.1) :
    (placeRow key row rows).Pairwise fun a b => a.1 < b.1 := by
  induction rows with
  | nil => simp [placeRow]
  | cons head rest ih =>
    obtain ⟨hhead, hrest⟩ := List.pairwise_cons.1 h
    unfold placeRow
    split
    · rename_i hlt
      refine List.pairwise_cons.2 ⟨fun entry hentry => ?_, h⟩
      rcases List.mem_cons.1 hentry with rfl | hentry
      · exact hlt
      · exact Ident.lt_trans hlt (hhead entry hentry)
    · split
      · rename_i hlt
        refine List.pairwise_cons.2 ⟨fun entry hentry => ?_, ih hrest⟩
        rcases mem_placeRow hentry with rfl | hentry
        · exact hlt
        · exact hhead entry hentry
      · rename_i hnlt hngt
        refine List.pairwise_cons.2 ⟨fun entry hentry => ?_, hrest⟩
        exact Ident.eq_of_not_lt hnlt hngt ▸ hhead entry hentry

/-- The row under a key. -/
def get? (table : Table kind ρ) (key : Ident kind) : Option ρ :=
  (table.rows.find? fun entry => entry.1 = key).map (·.2)

/-- Whether there is a row under a key. -/
def contains (table : Table kind ρ) (key : Ident kind) : Bool :=
  (table.get? key).isSome

/-- File a row under a key, in place of the row that was there. -/
def insert (table : Table kind ρ) (key : Ident kind) (row : ρ) : Table kind ρ :=
  ⟨placeRow key row table.rows, sorted_placeRow key row table.sorted⟩

/-- Take the row under a key away, if there is one. -/
def erase (table : Table kind ρ) (key : Ident kind) : Table kind ρ :=
  ⟨table.rows.filter fun entry => entry.1 ≠ key, table.sorted.filter _⟩

/-- The keys, in order. -/
def keys (table : Table kind ρ) : List (Ident kind) :=
  table.rows.map (·.1)

/-- The rows, in the order of their keys. -/
def values (table : Table kind ρ) : List ρ :=
  table.rows.map (·.2)

/-- How many rows there are. -/
def size (table : Table kind ρ) : Nat :=
  table.rows.length

/-- File rows one after another; of two under one key the later one stays. -/
def ofList (entries : List (Ident kind × ρ)) : Table kind ρ :=
  entries.foldl (fun table entry => table.insert entry.1 entry.2) empty

/--
The rows of `staged` under the given keys, laid over `target`: a key with a staged row takes it,
and a key without one loses its row.
-/
def overlay (target staged : Table kind ρ) (touched : List (Ident kind)) : Table kind ρ :=
  touched.foldl
    (fun table key =>
      match staged.get? key with
      | some row => table.insert key row
      | none => table.erase key)
    target

/-! ## What each operation does to the rows -/

@[simp]
theorem get?_empty (key : Ident kind) : (empty : Table kind ρ).get? key = none := rfl

theorem find?_placeRow (key : Ident kind) (row : ρ) (k : Ident kind)
    (rows : List (Ident kind × ρ)) :
    (placeRow key row rows).find? (fun entry => entry.1 = k) =
      if key = k then some (key, row) else rows.find? (fun entry => entry.1 = k) := by
  induction rows with
  | nil => by_cases h : key = k <;> simp [placeRow, h]
  | cons head rest ih =>
    unfold placeRow
    split
    · by_cases h : key = k <;> simp [List.find?_cons, h]
    · split
      · rename_i hlt
        have hne : key = k → ¬ head.1 = k := by
          rintro rfl rfl
          exact Ident.lt_irrefl _ hlt
        rw [List.find?_cons, List.find?_cons, ih]
        by_cases h : key = k
        · simp [h, hne h]
        · simp [h]
      · rename_i hnlt hngt
        have heq : key = head.1 := Ident.eq_of_not_lt hnlt hngt
        by_cases h : key = k <;> simp [← heq, h]

@[simp]
theorem get?_insert (table : Table kind ρ) (key : Ident kind) (row : ρ) (k : Ident kind) :
    (table.insert key row).get? k = if key = k then some row else table.get? k := by
  unfold get? insert
  rw [find?_placeRow]
  by_cases h : key = k <;> simp [h]

@[simp]
theorem get?_erase (table : Table kind ρ) (key k : Ident kind) :
    (table.erase key).get? k = if key = k then none else table.get? k := by
  unfold get? erase
  rw [List.find?_filter]
  by_cases h : key = k
  · subst h
    simp
  · have : (fun entry : Ident kind × ρ => !decide (entry.1 = key) && decide (entry.1 = k)) =
        fun entry => decide (entry.1 = k) := by
      funext entry
      by_cases hk : entry.1 = k
      · simp [hk, Ne.symm h]
      · simp [hk]
    simp [this, h]

/-- A row is under its key exactly when the pair is listed. -/
theorem get?_eq_some_iff {table : Table kind ρ} {key : Ident kind} {row : ρ} :
    table.get? key = some row ↔ (key, row) ∈ table.rows := by
  obtain ⟨rows, sorted⟩ := table
  simp only [get?]
  induction rows with
  | nil => simp
  | cons head rest ih =>
    obtain ⟨hhead, hrest⟩ := List.pairwise_cons.1 sorted
    rw [List.find?_cons]
    by_cases h : head.1 = key
    · subst h
      have hnot : (head.1, row) ∉ rest := fun hmem =>
        Ident.lt_irrefl head.1 (hhead (head.1, row) hmem)
      simp [Prod.ext_iff, hnot, eq_comm]
    · have hne : ¬ (key, row) = head := fun he => h (he ▸ rfl)
      simp only [h, decide_false, List.mem_cons, hne, false_or]
      exact ih hrest

/-- Tables with the same row under every key are equal. -/
theorem ext_get? {a b : Table kind ρ} (h : ∀ key, a.get? key = b.get? key) : a = b := by
  have hmem : ∀ entry, entry ∈ a.rows ↔ entry ∈ b.rows := fun ⟨key, row⟩ => by
    rw [← get?_eq_some_iff, h, get?_eq_some_iff]
  obtain ⟨as, ha⟩ := a
  obtain ⟨bs, hb⟩ := b
  simp only at hmem
  have hrows : as = bs := by
    clear h
    induction as generalizing bs with
    | nil =>
      cases bs with
      | nil => rfl
      | cons b rest => simpa using hmem b
    | cons x as ih =>
      cases bs with
      | nil => simpa using hmem x
      | cons y bs =>
        obtain ⟨hx, has⟩ := List.pairwise_cons.1 ha
        obtain ⟨hy, hbs⟩ := List.pairwise_cons.1 hb
        have hxy : x = y := by
          rcases List.mem_cons.1 ((hmem x).1 List.mem_cons_self) with h | h
          · exact h
          · rcases List.mem_cons.1 ((hmem y).2 List.mem_cons_self) with h' | h'
            · exact h'.symm
            · exact absurd (Ident.lt_trans (hx y h') (hy x h)) (Ident.lt_irrefl _)
        subst hxy
        rw [ih has bs hbs fun entry => ?_]
        have := hmem entry
        simp only [List.mem_cons] at this
        constructor
        · intro he
          rcases this.1 (.inr he) with rfl | h
          · exact absurd (hx _ he) (Ident.lt_irrefl _)
          · exact h
        · intro he
          rcases this.2 (.inr he) with rfl | h
          · exact absurd (hy _ he) (Ident.lt_irrefl _)
          · exact h
  subst hrows
  rfl

end Table

end Roster
