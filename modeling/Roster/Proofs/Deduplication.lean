import Roster.Proofs.Reach
import Roster.Proofs.SingleRemovals

/-!
# Lists without repetitions

A list is rid of its repetitions in one pass that remembers what it has seen. What remains is what
stands at the places where it has not stood before, in the order of these places. Where two such lists
are put together and rid of their repetitions again, it is no matter whether the second one had been
rid of them; so the reach of a role, which is made up level by level, is one list without repetitions.
-/

namespace Roster

variable {α σ : Type}

/-! ## One pass with a memory -/

/-- The elements that pass a test with a memory, which is asked about one after the other. -/
def sieve (test : σ → α → Bool × σ) : σ → List α → List α
  | _, [] => []
  | memory, a :: rest =>
    match test memory a with
    | (true, memory) => a :: sieve test memory rest
    | (false, memory) => sieve test memory rest

variable [DecidableEq α]

/-- Whether an element has not been seen before; from now on it has. -/
def firstSight (seen : List α) (a : α) : Bool × List α :=
  if a ∈ seen then (false, seen) else (true, a :: seen)

/-- A pass that has seen something before keeps what a fresh one keeps, less what it has seen. -/
theorem sieve_firstSight (seen as : List α) :
    sieve firstSight seen as = (distinct as).filter (· ∉ seen) := by
  induction as generalizing seen with
  | nil => rfl
  | cons a rest ih =>
    rw [sieve, firstSight, distinct]
    by_cases ha : a ∈ seen
    · -- An element that has been seen is among those that are left out anyhow.
      have hleft : ∀ b ∈ distinct rest, decide (b ∉ seen) = (decide (b ∉ seen) && decide (b ≠ a)) := by
        intro b _
        by_cases hb : b ∈ seen
        · simp [hb]
        · have hne : b ≠ a := fun h => hb (h ▸ ha)
          simp [hb, hne]
      simp only [ha, if_true, not_true_eq_false, decide_false, List.filter_cons_of_neg,
        Bool.false_eq_true, not_false_eq_true, List.filter_filter]
      rw [ih, List.filter_congr hleft]
    · simp only [ha, if_false, not_false_eq_true, decide_true, List.filter_cons_of_pos,
        List.filter_filter]
      rw [ih]
      congr 1
      refine List.filter_congr fun b _ => ?_
      by_cases hb : b = a <;> simp [hb]

/-! ## What is kept -/

/-- All elements of a list are kept, each of them once, in the order of the list and where it first
stands. -/
structure KeepsFirsts (as kept : List α) : Prop where
  once : kept.Nodup
  all : ∀ a, a ∈ kept ↔ a ∈ as
  inOrder : kept.Sublist as
  /-- What is kept is what stands at the places where it has not stood before. -/
  atFirst : kept = (as.zipIdx.filter fun entry => entry.1 ∉ as.take entry.2).map (·.1)

/-- Of a second list that is added to a first one, what is not in the first is kept. -/
theorem distinct_append (as bs : List α) :
    distinct (as ++ bs) = distinct as ++ (distinct bs).filter (· ∉ as) := by
  induction as with
  | nil => simp [distinct]
  | cons a rest ih =>
    rw [List.cons_append, distinct, ih, List.filter_append, distinct, List.cons_append,
      List.filter_filter]
    congr 2
    refine List.filter_congr fun b _ => ?_
    by_cases hb : b = a <;> simp [hb]

/-- One more element is kept if it is not in the list. -/
theorem distinct_concat (as : List α) (a : α) :
    distinct (as ++ [a]) = distinct as ++ if a ∈ as then [] else [a] := by
  rw [distinct_append, distinct_of_nodup (List.nodup_singleton a), List.filter_singleton]
  by_cases ha : a ∈ as <;> simp [ha]

/-- What is kept is what stands at the places where it has not stood before. -/
theorem distinct_eq_atFirst (as : List α) :
    distinct as = (as.zipIdx.filter fun entry => entry.1 ∉ as.take entry.2).map (·.1) := by
  induction as using List.reverseRecOn with
  | nil => rfl
  | append_singleton as a ih =>
    -- The places before the last one are as they were, and before the last one stands the whole list.
    have hbefore : ∀ entry ∈ as.zipIdx,
        decide (entry.1 ∉ (as ++ [a]).take entry.2) = decide (entry.1 ∉ as.take entry.2) := by
      intro entry hentry
      rw [List.take_append_of_le_length (Nat.le_of_lt (List.snd_lt_of_mem_zipIdx hentry))]
    rw [distinct_concat, ih, List.zipIdx_append, List.filter_append, List.map_append,
      List.filter_congr hbefore]
    by_cases ha : a ∈ as <;> simp [ha]

/-- These are the elements that are kept. -/
theorem keepsFirsts_distinct (as : List α) : KeepsFirsts as (distinct as) where
  once := nodup_distinct as
  all _ := mem_distinct
  inOrder := by
    rw [distinct_eq_atFirst]
    exact (List.filter_sublist.map _).trans (by rw [List.zipIdx_map_fst])
  atFirst := distinct_eq_atFirst as

/-- A list without repetitions is kept as it is. -/
theorem distinct_distinct (as : List α) : distinct (distinct as) = distinct as :=
  distinct_of_nodup (nodup_distinct as)

/-- It is no matter whether a list that is added has been rid of its repetitions. -/
theorem distinct_append_distinct (as bs : List α) :
    distinct (as ++ distinct bs) = distinct (as ++ bs) := by
  rw [distinct_append, distinct_distinct, distinct_append]

/-! ## The reach of a role, level by level -/

namespace Operator

/-- The workspaces that an operator lists under a role and the roles that may do more, the role itself
first. -/
def listedFrom (operator : Operator) (role : Role) : List WorkspaceId :=
  (Role.all.reverse.filter (·.includes role)).flatMap operator.listed

/-- A role reaches what is listed from it upwards, each workspace where it is first listed. -/
theorem reach_eq_distinct (operator : Operator) (role : Role) :
    operator.reach role = distinct (operator.listedFrom role) := by
  have hmaintaining : operator.allMaintaining =
      distinct (operator.maintainable ++ operator.owning) :=
    distinct_append_distinct ..
  have hwritable : operator.allWritable =
      distinct (operator.writable ++ (operator.maintainable ++ operator.owning)) := by
    rw [allWritable, hmaintaining, distinct_append_distinct]
  have hreadable : operator.allReadable =
      distinct (operator.readable ++
        (operator.writable ++ (operator.maintainable ++ operator.owning))) := by
    rw [allReadable, hwritable, distinct_append_distinct]
  cases role <;>
    simp [reach, hreadable, hwritable, hmaintaining, allOwning, listedFrom, listed, Role.all,
      Role.includes, Role.rank]

end Operator

/-- One pass that remembers what it has seen keeps of a list what stands at the places where it has not
stood before, and nothing is left to do for another pass. A list that is added may be rid of its
repetitions beforehand or not. So a role reaches the workspaces that are listed under it or higher up,
from the role itself upwards and without repetitions. -/
theorem one_pass_keeps_firsts (α : Type) [DecidableEq α] :
    (∀ as : List α, sieve firstSight [] as = distinct as ∧ KeepsFirsts as (distinct as) ∧
      distinct (distinct as) = distinct as) ∧
    (∀ as bs : List α, distinct (as ++ distinct bs) = distinct (as ++ bs)) ∧
    ∀ (operator : Operator) (role : Role),
      operator.reach role = distinct (operator.listedFrom role) := by
  refine ⟨fun as => ⟨?_, keepsFirsts_distinct as, distinct_distinct as⟩, distinct_append_distinct,
    Operator.reach_eq_distinct⟩
  rw [sieve_firstSight, List.filter_eq_self]
  simp

end Roster
