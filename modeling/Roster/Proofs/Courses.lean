import Roster.Proofs.Atomicity

/-!
# Courses that may end early

The handler of a request and an instruction at a terminal are courses of steps, taken at one moment,
that change a state as they go and may end early. What was done before the end stays done, so a course
leaves the store as it was only if nothing can end it any more once it has changed something: it looks
around first, then does one thing that happens completely or not at all, and then cannot fail.
-/

namespace Roster

/-- Steps taken at some moment that act on a state and may end early. -/
abbrev Course (ε σ α : Type) := ReaderT Moment (EStateM ε σ) α

namespace Course

variable {ε σ α β : Type}

/-- The state that a course leaves behind, however it ends. -/
def leaves (course : Course ε σ α) (moment : Moment) (s : σ) : σ :=
  match course moment s with
  | .ok _ s' | .error _ s' => s'

/-- A course that leaves the store as it was, however it ends. -/
def Quiet (store : σ → Store) (course : Course ε σ α) : Prop :=
  ∀ moment s, store (course.leaves moment s) = store s

/-- A course that leaves the store as it was if it ends early. -/
def Atomic (store : σ → Store) (course : Course ε σ α) : Prop :=
  ∀ moment s error s', course moment s = .error error s' → store s' = store s

/-- A course that does not end early. -/
def Sure (course : Course ε σ α) : Prop :=
  ∀ moment s, ∃ value s', course moment s = .ok value s'

variable {store : σ → Store} {course : Course ε σ α} {f : α → Course ε σ β}

/-- A course that goes on with another one ends early where one of them does. -/
theorem bind_apply (course : Course ε σ α) (f : α → Course ε σ β) (moment : Moment) (s : σ) :
    (course >>= f) moment s =
      match course moment s with
      | .ok value s' => f value moment s'
      | .error error s' => .error error s' :=
  rfl

/-- A value does nothing. -/
theorem quiet_pure (value : α) : Quiet store (pure value : Course ε σ α) :=
  fun _ _ => rfl

/-- To end early is to do nothing. -/
theorem quiet_throw (error : ε) : Quiet store (throw error : Course ε σ α) :=
  fun _ _ => rfl

/-- Looking around may go on after looking around. -/
theorem Quiet.bind (h : Quiet store course) (hf : ∀ value, Quiet store (f value)) :
    Quiet store (course >>= f) := by
  intro moment s
  have hfirst := h moment s
  simp only [leaves, bind_apply] at hfirst ⊢
  cases hcourse : course moment s with
  | ok value s' =>
    rw [hcourse] at hfirst
    exact (hf value moment s').trans hfirst
  | error error s' =>
    rw [hcourse] at hfirst
    exact hfirst

/-- What only looks around leaves the store as it was if it ends early. -/
theorem Quiet.atomic (h : Quiet store course) : Atomic store course := by
  intro moment s error s' hcourse
  have hsame := h moment s
  simp only [leaves, hcourse] at hsame
  exact hsame

/-- Something atomic may come after looking around. -/
theorem Quiet.bind_atomic (h : Quiet store course) (hf : ∀ value, Atomic store (f value)) :
    Atomic store (course >>= f) := by
  intro moment s error s' hends
  have hfirst := h moment s
  simp only [leaves, bind_apply] at hfirst hends
  cases hcourse : course moment s with
  | ok value s₁ =>
    rw [hcourse] at hfirst hends
    exact (hf value moment s₁ error s' hends).trans hfirst
  | error error₁ s₁ =>
    rw [hcourse] at hfirst hends
    cases hends
    exact hfirst

/-- What cannot fail may come after something atomic. -/
theorem Atomic.bind_sure (h : Atomic store course) (hf : ∀ value, Sure (f value)) :
    Atomic store (course >>= f) := by
  intro moment s error s' hends
  rw [bind_apply] at hends
  cases hcourse : course moment s with
  | ok value s₁ =>
    obtain ⟨value', s₂, hsecond⟩ := hf value moment s₁
    simp only [hcourse, hsecond] at hends
    exact nomatch hends
  | error error₁ s₁ =>
    simp only [hcourse] at hends
    cases hends
    exact h _ _ _ _ hcourse

/-- What cannot fail may go on with what cannot fail. -/
theorem Sure.bind (h : Sure course) (hf : ∀ value, Sure (f value)) : Sure (course >>= f) := by
  intro moment s
  obtain ⟨value, s₁, hcourse⟩ := h moment s
  rw [bind_apply, hcourse]
  exact hf value moment s₁

/-- A course that carries out an action on the directory within its state, and ends early where the
action fails. -/
structure Carries (directory : σ → Directory) (action : Action α) (course : Course ε σ α) : Prop where
  ok : ∀ {moment s value d}, action.perform moment (directory s) = (.ok value, d) →
    ∃ s', course moment s = .ok value s' ∧ directory s' = d
  error : ∀ {moment s error d}, action.perform moment (directory s) = (.error error, d) →
    ∃ error' s', course moment s = .error error' s' ∧ directory s' = d

variable {directory : σ → Directory} {action : Action α}

/-- To carry out an action that only looks around is to look around. -/
theorem Carries.quiet (h : Carries directory action course) (hlooks : action.Looks) :
    Quiet (fun s => (directory s).store) course := by
  intro moment s
  have hstore := hlooks.store moment (directory s)
  cases hperform : action.perform moment (directory s) with
  | mk outcome d =>
    rw [hperform] at hstore
    cases outcome with
    | ok value =>
      obtain ⟨s', hcourse, rfl⟩ := h.ok hperform
      simpa only [leaves, hcourse] using hstore
    | error error =>
      obtain ⟨error', s', hcourse, rfl⟩ := h.error hperform
      simpa only [leaves, hcourse] using hstore

/-- To carry out an action that acts once is atomic. -/
theorem Carries.atomic (h : Carries directory action course) (hacts : action.ActsOnce) :
    Atomic (fun s => (directory s).store) course := by
  intro moment s error' s' hends
  cases hperform : action.perform moment (directory s) with
  | mk outcome d =>
    cases outcome with
    | ok value =>
      obtain ⟨s₁, hcourse, -⟩ := h.ok hperform
      exact nomatch hends.symm.trans hcourse
    | error error =>
      obtain ⟨error₁, s₁, hcourse, rfl⟩ := h.error hperform
      cases hends.symm.trans hcourse
      exact hacts.store_of_error hperform

end Course

end Roster
