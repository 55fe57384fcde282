import Roster.Error

/-!
# Outcomes

When an outcome is a value, and what the value then is. These lemmas take a refusal under a
condition, a sequence and a fold apart.
-/

namespace Roster

variable {α β : Type}

/-- A sequence comes to a value exactly when both parts do. -/
@[simp]
theorem bind_eq_ok {outcome : Except Error α} {f : α → Except Error β} {b : β} :
    (outcome >>= f) = .ok b ↔ ∃ a, outcome = .ok a ∧ f a = .ok b := by
  cases outcome <;> simp [bind, Except.bind]

/-- A value comes to itself. -/
@[simp]
theorem pure_eq_ok {a b : α} : (pure a : Except Error α) = .ok b ↔ b = a := by
  simp [pure, Except.pure, eq_comm]

/-- What is made of an outcome is a value when the outcome is one. -/
@[simp]
theorem map_eq_ok {outcome : Except Error α} {f : α → β} {b : β} :
    f <$> outcome = .ok b ↔ ∃ a, outcome = .ok a ∧ b = f a := by
  cases outcome <;> simp [Functor.map, Except.map, eq_comm]

/-- What every step preserves holds at the end of a fold. -/
theorem foldlM_induction {P : β → Prop} {f : β → α → Except Error β} {items : List α} {b b' : β}
    (hfold : items.foldlM f b = .ok b') (h : P b)
    (hstep : ∀ b a b', a ∈ items → f b a = .ok b' → P b → P b') : P b' := by
  induction items generalizing b with
  | nil =>
    obtain rfl := pure_eq_ok.1 hfold
    exact h
  | cons a rest ih =>
    rw [List.foldlM_cons, bind_eq_ok] at hfold
    obtain ⟨b₁, hb₁, hrest⟩ := hfold
    exact ih hrest (hstep b a b₁ List.mem_cons_self hb₁ h)
      fun b a b' ha => hstep b a b' (List.mem_cons_of_mem _ ha)

/-- When every item is made something of, each of the items has its result and each result its
item. -/
theorem mapM_eq_ok {f : α → Except Error β} {items : List α} {results : List β}
    (h : items.mapM f = .ok results) :
    (∀ a ∈ items, ∃ b ∈ results, f a = .ok b) ∧ ∀ b ∈ results, ∃ a ∈ items, f a = .ok b := by
  induction items generalizing results with
  | nil =>
    obtain rfl := pure_eq_ok.1 h
    simp
  | cons a rest ih =>
    simp only [List.mapM_cons, bind_eq_ok, pure_eq_ok] at h
    obtain ⟨b, hb, others, hothers, rfl⟩ := h
    obtain ⟨hitems, hresults⟩ := ih hothers
    constructor
    · rintro a' (_ | ⟨_, ha'⟩)
      · exact ⟨b, List.mem_cons_self, hb⟩
      · obtain ⟨b', hb', hf⟩ := hitems a' ha'
        exact ⟨b', List.mem_cons_of_mem _ hb', hf⟩
    · rintro b' (_ | ⟨_, hb'⟩)
      · exact ⟨a, List.mem_cons_self, hb⟩
      · obtain ⟨a', ha', hf⟩ := hresults b' hb'
        exact ⟨a', List.mem_cons_of_mem _ ha', hf⟩

/-- What every step keeps of its item is the same in the items and in the results. -/
theorem map_of_mapM_eq_ok {γ : Type} {f : α → Except Error β} (before : α → γ) (after : β → γ)
    (hkeeps : ∀ {a b}, f a = .ok b → after b = before a) {items : List α} {results : List β}
    (h : items.mapM f = .ok results) : results.map after = items.map before := by
  induction items generalizing results with
  | nil =>
    obtain rfl := pure_eq_ok.1 h
    rfl
  | cons a rest ih =>
    simp only [List.mapM_cons, bind_eq_ok, pure_eq_ok] at h
    obtain ⟨b, hb, others, hothers, rfl⟩ := h
    rw [List.map_cons, List.map_cons, hkeeps hb, ih hothers]

/-- There are values for all items if there is one for each. -/
theorem exists_mapM_eq_ok {f : α → Except Error β} {items : List α}
    (h : ∀ a ∈ items, ∃ b, f a = .ok b) : ∃ results, items.mapM f = .ok results := by
  induction items with
  | nil => exact ⟨[], rfl⟩
  | cons a rest ih =>
    obtain ⟨b, hb⟩ := h a List.mem_cons_self
    obtain ⟨others, hothers⟩ := ih fun a' ha' => h a' (List.mem_cons_of_mem _ ha')
    refine ⟨b :: others, ?_⟩
    simp only [List.mapM_cons, bind_eq_ok, pure_eq_ok]
    exact ⟨b, hb, others, hothers, rfl⟩

/-- A value that is refused under a condition is there exactly when the condition fails. -/
theorem refusing_eq_ok {refused : Bool} {error : Error} {a b : α} :
    (do if refused then throw error
        return a : Except Error α) = .ok b ↔ refused = false ∧ b = a := by
  cases refused with
  | false => exact ⟨fun h => ⟨rfl, (Except.ok.inj h).symm⟩, fun h => congrArg Except.ok h.2.symm⟩
  | true => exact ⟨fun h => (nomatch h), fun h => (nomatch h.1)⟩

/-- What remains of an outcome without its error is the value, if it is one. -/
theorem toOption_eq_some {outcome : Except Error α} {a : α} :
    outcome.toOption = some a ↔ outcome = .ok a := by
  cases outcome <;> simp [Except.toOption]

/-- A value is what it is. -/
theorem ok_eq_ok_comm {a b : α} : (.ok a : Except Error α) = .ok b ↔ b = a :=
  ⟨fun h => (Except.ok.inj h).symm, fun h => congrArg Except.ok h.symm⟩

end Roster
