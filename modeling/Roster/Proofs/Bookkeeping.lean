import Roster.Proofs.Farewells
import Roster.Proofs.Revocations

/-!
# What permittables keep track of

A permittable lists roles and bindings, each of them once, and tells of most changes whether they
have changed anything. Those who change permittables rely on this: they save one only if it has
changed.
-/

namespace Roster

namespace Permittable

variable {p q : Permittable} {role : RoleId} {workspace : WorkspaceId} {binding : Binding}

/-! ## Whether anything has changed -/

/-- Of the roles and the bindings of a permittable some are kept, in their order, and nothing else has
changed. -/
structure Keeps (p : Permittable) (keptRole : RoleId → Prop) (keptBinding : Binding → Prop)
    (q : Permittable) : Prop where
  id : q.id = p.id
  user : q.user = p.user
  roles : q.roles.Sublist p.roles
  mem_roles : ∀ role, role ∈ q.roles ↔ role ∈ p.roles ∧ keptRole role
  bindings : q.bindings.Sublist p.bindings
  mem_bindings : ∀ binding, binding ∈ q.bindings ↔ binding ∈ p.bindings ∧ keptBinding binding

/-- Everything but one role is kept when it is dropped. -/
theorem keeps_removeRole (p : Permittable) (role : RoleId) :
    p.Keeps (· ≠ role) (·.role ≠ role) (p.removeRole role).1 where
  id := rfl
  user := rfl
  roles := List.filter_sublist
  mem_roles _ := List.mem_filter.trans (and_congr_right' decide_eq_true_iff)
  bindings := List.filter_sublist
  mem_bindings _ := List.mem_filter.trans (and_congr_right' decide_eq_true_iff)

/-- Everything but the bindings to one workspace is kept when they are dropped. -/
theorem keeps_removeWorkspace (p : Permittable) (workspace : WorkspaceId) :
    p.Keeps (fun _ => True) (·.workspace ≠ workspace) (p.removeWorkspace workspace).1 where
  id := rfl
  user := rfl
  roles := .refl _
  mem_roles _ := (and_iff_left trivial).symm
  bindings := List.filter_sublist
  mem_bindings _ := List.mem_filter.trans (and_congr_right' decide_eq_true_iff)

/-- When some roles and bindings are kept, they are as many as before exactly if nothing has
changed. -/
theorem Keeps.weight_eq_iff {keptRole : RoleId → Prop} {keptBinding : Binding → Prop}
    (h : p.Keeps keptRole keptBinding q) : q.weight = p.weight ↔ q = p := by
  refine ⟨fun hweight => ?_, congrArg weight⟩
  have hfewer := h.roles.length_le
  have hfewer' := h.bindings.length_le
  unfold weight at hweight
  have hroles : q.roles = p.roles := h.roles.eq_of_length (by omega)
  have hbindings : q.bindings = p.bindings := h.bindings.eq_of_length (by omega)
  obtain ⟨id, user, roles, bindings⟩ := p
  obtain ⟨id', user', roles', bindings'⟩ := q
  simp only [mk.injEq]
  exact ⟨h.id, h.user, hroles, hbindings⟩

/-- It is told whether a binding was added. -/
theorem addBinding_snd_iff : (p.addBinding binding).2 = true ↔ (p.addBinding binding).1 ≠ p := by
  unfold addBinding
  split
  · simp
  · refine iff_of_true rfl fun hsame => ?_
    have hbindings : p.bindings ++ [binding] = p.bindings := congrArg Permittable.bindings hsame
    simp at hbindings

/-- It is told whether a role was dropped anywhere. -/
theorem removeRole_snd_iff : (p.removeRole role).2 = true ↔ (p.removeRole role).1 ≠ p :=
  decide_eq_true_iff.trans (not_congr (p.keeps_removeRole role).weight_eq_iff)

/-- It is told whether a binding to a workspace was dropped. -/
theorem removeWorkspace_snd_iff :
    (p.removeWorkspace workspace).2 = true ↔ (p.removeWorkspace workspace).1 ≠ p :=
  decide_eq_true_iff.trans (not_congr (p.keeps_removeWorkspace workspace).weight_eq_iff)

/-! ## Which roles count -/

/-- A role is mentioned if it counts somewhere. -/
theorem hasRole_iff_exists_effective :
    p.hasRole role = true ↔ ∃ workspace, role ∈ p.effectiveRoles workspace := by
  simp only [mem_effectiveRoles]
  constructor
  · intro hrole
    obtain hlisted | ⟨binding, hbinding, rfl⟩ := hasRole_iff.1 hrole
    · exact ⟨none, .inl hlisted⟩
    · exact ⟨some binding.workspace, .inr ⟨_, rfl, hbinding⟩⟩
  · rintro ⟨workspace, hholds⟩
    exact hholds.hasRole

/-- A permittable changes when a role is dropped that it mentions. -/
theorem removeRole_ne_self (h : p.hasRole role = true) : (p.removeRole role).1 ≠ p := by
  intro hsame
  rw [← hsame] at h
  exact (hasRole_removeRole.1 h).1 rfl

/-- A role that has been dropped counts nowhere. -/
theorem not_mem_effectiveRoles_removeRole (p : Permittable) (role : RoleId)
    (workspace : Option WorkspaceId) : role ∉ (p.removeRole role).1.effectiveRoles workspace := by
  rw [mem_effectiveRoles, holds_removeRole]
  exact fun hholds => hholds.1 rfl

/-- Once the bindings to a workspace have been dropped, the roles that count there are those that
count everywhere, which are as before. -/
theorem effectiveRoles_removeWorkspace (p : Permittable) (workspace : WorkspaceId) :
    (p.removeWorkspace workspace).1.effectiveRoles (some workspace) =
        (p.removeWorkspace workspace).1.effectiveRoles none ∧
      (p.removeWorkspace workspace).1.effectiveRoles none = p.effectiveRoles none := by
  simp [effectiveRoles, removeWorkspace, List.filter_filter]

/-! ## Changes in turn -/

/-- A change that a permittable offers, with its arguments. -/
inductive Change
  | setRoles (roles : List RoleId)
  | addBinding (binding : Binding)
  | removeRole (role : RoleId)
  | removeWorkspace (workspace : WorkspaceId)

/-- Make the change. -/
def Change.on (p : Permittable) : Change → Permittable
  | setRoles roles => p.setRoles roles
  | addBinding binding => (p.addBinding binding).1
  | removeRole role => (p.removeRole role).1
  | removeWorkspace workspace => (p.removeWorkspace workspace).1

/-- A permittable after some changes, the first one first. -/
def changed (p : Permittable) (changes : List Change) : Permittable :=
  changes.foldl Change.on p

/-- Nothing is listed twice. -/
structure Unrepeated (p : Permittable) : Prop where
  roles : p.roles.Nodup
  bindings : p.bindings.Nodup

/-- What is kept of a permittable is listed as often as before. -/
theorem Unrepeated.of_keeps {keptRole : RoleId → Prop} {keptBinding : Binding → Prop}
    (h : p.Unrepeated) (hkeeps : p.Keeps keptRole keptBinding q) : q.Unrepeated where
  roles := h.roles.sublist hkeeps.roles
  bindings := h.bindings.sublist hkeeps.bindings

/-- No change leads to anything being listed twice. -/
theorem Unrepeated.on (h : p.Unrepeated) (change : Change) : (change.on p).Unrepeated := by
  cases change with
  | setRoles roles => exact ⟨nodup_distinct roles, h.bindings⟩
  | addBinding binding =>
    change (p.addBinding binding).1.Unrepeated
    unfold addBinding
    split
    · exact h
    · rename_i hnew
      have hbindings := h.bindings.concat hnew
      rw [List.concat_eq_append] at hbindings
      exact ⟨h.roles, hbindings⟩
  | removeRole role => exact h.of_keeps (p.keeps_removeRole role)
  | removeWorkspace workspace => exact h.of_keeps (p.keeps_removeWorkspace workspace)

/-- However a permittable came about by changes, nothing is listed twice. -/
theorem unrepeated_changed (id : PermittableId) (user : UserId) (roles : List RoleId)
    (changes : List Change) : ((create id user roles).changed changes).Unrepeated := by
  have hrun (p : Permittable) (h : p.Unrepeated) : (p.changed changes).Unrepeated := by
    induction changes generalizing p with
    | nil => exact h
    | cons change rest ih => exact ih _ (h.on change)
  exact hrun _ ⟨nodup_distinct roles, .nil⟩

/-! ## Who saves what -/

/-- Nothing is unbound from a permittable exactly if it has no bindings to any of the workspaces. -/
theorem unbind_eq_self_iff {workspaces : List WorkspaceId} :
    p.unbind workspaces = p ↔ ∀ binding ∈ p.bindings, binding.workspace ∉ workspaces := by
  have hbindings : p.unbind workspaces = p ↔
      p.bindings.filter (·.workspace ∉ workspaces) = p.bindings :=
    ⟨congrArg Permittable.bindings, fun hsame => by rw [unbind, hsame]⟩
  rw [hbindings, List.filter_eq_self]
  simp only [decide_eq_true_eq]

/-- When several workspaces are gone through, it is told whether any binding to them was dropped. -/
theorem removeWorkspaces_snd_iff (workspaces : List WorkspaceId) (p : Permittable) :
    (p.removeWorkspaces workspaces).2 = true ↔ (p.removeWorkspaces workspaces).1 ≠ p := by
  -- The induction is on the workspaces, with any permittable that is left and any flag so far.
  have hfold (told : Bool) : (workspaces.foldl
      (fun far id => ((far.1.removeWorkspace id).1, far.2 || (far.1.removeWorkspace id).2))
      (p, told)).2 = true ↔ told = true ∨ p.unbind workspaces ≠ p := by
    induction workspaces generalizing p told with
    | nil => simp
    | cons id rest ih =>
      have hsplit : p.unbind (id :: rest) = p ↔ p.unbind [id] = p ∧ p.unbind rest = p := by
        simp only [unbind_eq_self_iff, List.mem_cons, List.not_mem_nil, or_false, not_or,
          forall_and]
      rw [List.foldl_cons]
      refine (ih (p.removeWorkspace id).1 (told || (p.removeWorkspace id).2)).trans ?_
      rw [Bool.or_eq_true, removeWorkspace_snd_iff, removeWorkspace_fst, or_assoc]
      refine or_congr_right ?_
      by_cases hsame : p.unbind [id] = p <;> simp [hsame, hsplit]
  rw [removeWorkspaces_fst]
  exact (hfold false).trans (or_iff_right Bool.false_ne_true)

variable {rewrite : Permittable → Permittable}

/-- Those of some permittables that a rewriting changes, rewritten. -/
def alteredBy (rewrite : Permittable → Permittable) (permittables : List Permittable) :
    List Permittable :=
  (permittables.filter fun p => rewrite p ≠ p).map rewrite

/-- A permittable that does change is altered. -/
theorem alteredBy_singleton_of_ne (h : rewrite p ≠ p) : alteredBy rewrite [p] = [rewrite p] := by
  simp [alteredBy, h]

/-- A permittable that does not change is not altered. -/
theorem alteredBy_singleton_of_eq (h : rewrite p = p) : alteredBy rewrite [p] = [] := by
  simp [alteredBy, h]

/-- Those that are passed over may be left out if rewriting does not change them. -/
theorem alteredBy_filter {chosen : Permittable → Bool}
    (hothers : ∀ p, chosen p = false → rewrite p = p) (permittables : List Permittable) :
    alteredBy rewrite (permittables.filter chosen) = alteredBy rewrite permittables := by
  have hchosen (p : Permittable) : (decide (rewrite p ≠ p) && chosen p) = decide (rewrite p ≠ p) := by
    cases hp : chosen p with
    | true => exact Bool.and_true _
    | false => simp [hothers p hp]
  simp only [alteredBy, List.filter_filter, hchosen]

end Permittable

namespace Draft

/-- The draft in which some permittables have been saved, one after the other. -/
def saving (draft : Draft) (permittables : List Permittable) : Draft :=
  permittables.foldl putPermittable draft

/-- Between two drafts some permittables have been saved, one after the other, and no others. -/
structure Saves (permittables : List Permittable) (draft draft' : Draft) : Prop where
  tables : draft'.tables.permittables = (draft.saving permittables).tables.permittables
  touched : draft'.touched.permittables = (draft.saving permittables).touched.permittables

end Draft

namespace Program

variable {ids : Nat → String} {s s' : Draft × Nat}

/-- A turn of a loop over permittables saves the one it is about, rewritten, if this changes it. -/
def SavesAltered (ids : Nat → String) (rewrite : Permittable → Permittable) (p : Permittable)
    (turn : Program (ForInStep PUnit)) : Prop :=
  ∀ s step s', turn.Ends ids s step s' →
    step = .yield ⟨⟩ ∧ s'.1 = s.1.saving (Permittable.alteredBy rewrite [p])

/-- To save a permittable that rewriting changes is such a turn. -/
theorem savesAltered_command {rewrite : Permittable → Permittable} {p : Permittable}
    (hchanged : rewrite p ≠ p) :
    SavesAltered ids rewrite p (do
      Program.command (.savePermittable (rewrite p))
      pure (.yield ⟨⟩)) := by
  intro s step s' hends
  rw [ends_bind] at hends
  obtain ⟨_, s₁, hsave, hyield⟩ := hends
  obtain ⟨draft, happly, rfl⟩ := ends_command.1 hsave
  obtain ⟨rfl, rfl⟩ := ends_pure.1 hyield
  obtain rfl := (Command.apply_savePermittable.1 happly).2
  rw [Permittable.alteredBy_singleton_of_ne hchanged]
  exact ⟨rfl, rfl⟩

/-- To save a permittable if it is told that it has changed is such a turn. -/
theorem savesAltered_told {rewritten : Permittable → Permittable × Bool}
    (htold : ∀ p, (rewritten p).2 = true ↔ (rewritten p).1 ≠ p) (p : Permittable) :
    SavesAltered ids (fun p => (rewritten p).1) p
      (if (rewritten p).2 then do
        Program.command (.savePermittable (rewritten p).1)
        pure (.yield ⟨⟩)
      else pure (.yield ⟨⟩)) := by
  by_cases hchanged : (rewritten p).2 = true
  · rw [if_pos hchanged]
    exact savesAltered_command ((htold p).1 hchanged)
  · rw [if_neg hchanged]
    intro s step s' hends
    obtain ⟨rfl, rfl⟩ := ends_pure.1 hends
    rw [Permittable.alteredBy_singleton_of_eq (not_not.1 (mt (htold p).2 hchanged))]
    exact ⟨rfl, rfl⟩

/-- A loop of such turns saves those of the permittables that rewriting changes. -/
theorem saving_of_forIn {rewrite : Permittable → Permittable} {items : List Permittable}
    {body : Permittable → PUnit → Program (ForInStep PUnit)}
    (hbody : ∀ p ∈ items, ∀ u, SavesAltered ids rewrite p (body p u)) {u v : PUnit}
    (hends : (forIn items u body).Ends ids s v s') :
    s'.1 = s.1.saving (Permittable.alteredBy rewrite items) := by
  induction items generalizing u s with
  | nil =>
    rw [List.forIn_nil, ends_pure] at hends
    rw [hends.2]
    rfl
  | cons p rest ih =>
    rw [List.forIn_cons, ends_bind] at hends
    obtain ⟨step, s₁, hturn, hrest⟩ := hends
    obtain ⟨rfl, hfirst⟩ := hbody p List.mem_cons_self u _ _ _ hturn
    have hsplit : Permittable.alteredBy rewrite (p :: rest) =
        Permittable.alteredBy rewrite [p] ++ Permittable.alteredBy rewrite rest := by
      simp only [Permittable.alteredBy, ← List.map_append, ← List.filter_append,
        List.singleton_append]
    rw [ih (fun q hq => hbody q (List.mem_cons_of_mem _ hq)) hrest, hfirst, hsplit]
    exact (List.foldl_append ..).symm

/-- Whenever a program ends well, it has saved just those of some permittables that a rewriting
changes. -/
def SavesJust {α : Type} (body : Program α) (items : Tables → List Permittable)
    (rewrite : Permittable → Permittable) : Prop :=
  ∀ {ids : Nat → String} {s s' : Draft × Nat} {value : α}, body.Ends ids s value s' →
    s.1.Saves (Permittable.alteredBy rewrite (items s.1.tables)) s'.1

end Program

/-- Where bindings to some workspaces are stripped, just those permittables are saved that this
changes. -/
theorem savesJust_stripBindings (workspaces : List WorkspaceId) :
    (stripBindings workspaces).SavesJust (·.permittables.values)
      fun p => (p.removeWorkspaces workspaces).1 := by
  intro ids s s' u hends
  unfold stripBindings at hends
  cases hnone : workspaces.isEmpty with
  | true =>
    rw [hnone, if_pos rfl] at hends
    obtain ⟨-, hsame⟩ := Program.ends_pure.1 hends
    obtain rfl := List.isEmpty_iff.1 hnone
    have hnobody : Permittable.alteredBy (fun p => (p.removeWorkspaces []).1)
        s.1.tables.permittables.values = [] := by
      rw [Permittable.alteredBy, List.map_eq_nil_iff, List.filter_eq_nil_iff]
      exact fun p _ hchanged => of_decide_eq_true hchanged rfl
    rw [hnobody, hsame]
    exact ⟨rfl, rfl⟩
  | false =>
    rw [hnone, if_neg Bool.false_ne_true] at hends
    simp only [Program.ends_bind, Program.ends_query, Program.ends_pure] at hends
    obtain ⟨permittables, s₁, ⟨hall, rfl⟩, _, s₂, hloop, -, rfl⟩ := hends
    obtain rfl := ok_eq_ok_comm.1 hall
    have htold := Permittable.removeWorkspaces_snd_iff workspaces
    rw [Program.saving_of_forIn (fun p _ _ => Program.savesAltered_told htold p) hloop]
    exact ⟨rfl, rfl⟩

/-- Where users are taken out of a workspace, just those of their permittables are saved that this
changes. -/
theorem Workspaces.savesJust_takingOut (id : WorkspaceId) (operator : Operator)
    (targets : List UserId) (user : UserId) (now : Time.Instant) (ws : Workspace) :
    (takingOut id operator targets user now ws).SavesJust
      (fun t => t.permittables.values.filter (·.user ∈ targets))
      fun p => (p.removeWorkspace id).1 := by
  intro ids s s' ws' hends
  rw [takingOut, Program.ends_bind] at hends
  obtain ⟨left, s₁, hfirst, hends⟩ := hends
  obtain ⟨-, rfl⟩ := Program.ends_ofExcept.1 hfirst
  split at hends
  · simp at hends
  simp only [Program.ends_bind, Program.ends_query, Program.ends_pure] at hends
  obtain ⟨permittables, _, ⟨hanswer, rfl⟩, _, _, hloop, -, rfl⟩ := hends
  obtain rfl := ok_eq_ok_comm.1 hanswer
  have htold (p : Permittable) := @Permittable.removeWorkspace_snd_iff p id
  rw [Program.saving_of_forIn (fun p _ _ => Program.savesAltered_told htold p) hloop]
  exact ⟨rfl, rfl⟩

/-- Where an access role is removed, the permittables of those who hold it are saved, which are just
those that this changes. -/
theorem AccessRoles.savesJust_remove (id : RoleId) :
    ∃ body : Program Unit, remove id = Usecase.run { transactional := true } none body ∧
      body.SavesJust (·.permittables.values) fun p => (p.removeRole id).1 := by
  refine ⟨_, rfl, fun {ids s s' u} hends => ?_⟩
  obtain ⟨draft, drawn⟩ := s
  simp only [Program.ends_bind, Program.ends_query, Program.ends_command,
    Command.apply_removeRole] at hends
  obtain ⟨_, _, ⟨-, rfl⟩, holders, _, ⟨hholders, rfl⟩, _, s₁, hloop, _, ⟨-, rfl⟩, rfl⟩ := hends
  obtain rfl := ok_eq_ok_comm.1 hholders
  have hholder (p : Permittable) (hp : p ∈ draft.tables.permittables.values.filter (·.hasRole id)) :
      (p.removeRole id).1 ≠ p := Permittable.removeRole_ne_self (List.mem_filter.1 hp).2
  have hsaved := Program.saving_of_forIn (fun p hp _ =>
    @Program.savesAltered_command ids (fun p => (p.removeRole id).1) p (hholder p hp)) hloop
  rw [Permittable.alteredBy_filter fun p => removeRole_eq_self] at hsaved
  exact ⟨congrArg (·.tables.permittables) hsaved, congrArg (·.touched.permittables) hsaved⟩

namespace Grants

open Program

/-- Where a user is given a role within a workspace, what they hold, or else a new permittable without
roles, gets the binding, and it is saved just if this changes it. -/
theorem saves_of_addWorkspaceRole (user : UserId) (workspace : WorkspaceId) (role : RoleId) :
    ∃ body : Program Permittable,
      addWorkspaceRole user workspace role = Usecase.run { transactional := true } none body ∧
      ∀ {ids : Nat → String} {s s' : Draft × Nat} {p : Permittable}, body.Ends ids s p s' →
        ∃ held, ((∃ key, s.1.tables.permittables.get? key = some held ∧ held.user = user) ∨
            ∃ id, held = .create id user []) ∧
          p = (held.addBinding { workspace, role }).1 ∧
          s.1.Saves (Permittable.alteredBy (fun p => (p.addBinding { workspace, role }).1) [held])
            s'.1 := by
  refine ⟨_, rfl, fun {ids s s' p} hends => ?_⟩
  obtain ⟨draft, drawn⟩ := s
  simp -zeta only [ends_bind, ends_query, ends_queryOptional] at hends
  obtain ⟨_, _, ⟨-, rfl⟩, _, _, ⟨-, rfl⟩, _, _, ⟨-, rfl⟩, found, _, ⟨hfound, rfl⟩, hends⟩ := hends
  obtain rfl := ok_eq_ok_comm.1 ((optional_found _ _).symm.trans hfound)
  extract_lets go at hends
  -- What remains to be done for a permittable of the user, be it a stored or a new one.
  have hgo {held : Permittable} {drawn : Nat} (hends : (go held).Ends ids (draft, drawn) p s') :
      p = (held.addBinding { workspace, role }).1 ∧
        draft.Saves (Permittable.alteredBy (fun p => (p.addBinding { workspace, role }).1) [held])
          s'.1 := by
    cases hadded : (held.addBinding { workspace, role }).2 with
    | false =>
      have hkept := mt Permittable.addBinding_snd_iff.2 (Bool.eq_false_iff.1 hadded)
      simp only [go, hadded, Bool.false_eq_true, if_false, ends_pure] at hends
      obtain ⟨rfl, rfl⟩ := hends
      rw [Permittable.alteredBy_singleton_of_eq (not_not.1 hkept)]
      exact ⟨rfl, rfl, rfl⟩
    | true =>
      have hchanged := Permittable.addBinding_snd_iff.1 hadded
      simp only [go, hadded, if_true, ends_bind, ends_command, ends_pure,
        Command.apply_savePermittable] at hends
      obtain ⟨_, _, ⟨_, ⟨-, rfl⟩, rfl⟩, rfl, rfl⟩ := hends
      rw [Permittable.alteredBy_singleton_of_ne hchanged]
      exact ⟨rfl, rfl, rfl⟩
  split at hends
  · rename_i hfind
    obtain ⟨key, hheld, hholder⟩ := Table.get?_of_find?_values hfind
    rw [ends_bind] at hends
    obtain ⟨_, _, hpure, hends⟩ := hends
    obtain ⟨rfl, rfl⟩ := ends_pure.1 hpure
    exact ⟨_, .inl ⟨key, hheld, of_decide_eq_true hholder⟩, hgo hends⟩
  · simp -zeta only [ends_bind, ends_drawId, ends_pure] at hends
    obtain ⟨id, _, ⟨-, rfl⟩, _, _, ⟨rfl, rfl⟩, hends⟩ := hends
    exact ⟨.create id user [], .inr ⟨id, rfl⟩, hgo hends⟩

end Grants

namespace Permittable

/-! ## In order -/

/-- The books of a permittable are in order: nothing is listed twice; the roles that count somewhere
are those held there, and the mentioned ones are those that count anywhere; what is dropped no longer
counts, while everything else stays where it was; and it is told whether a change has changed
anything. -/
structure Coherent (p : Permittable) : Prop where
  unrepeated : p.Unrepeated
  nodup_effective : ∀ workspace, (p.effectiveRoles workspace).Nodup
  mem_effective : ∀ workspace role, role ∈ p.effectiveRoles workspace ↔ p.Holds workspace role
  mentioned : ∀ role, p.hasRole role = true ↔ ∃ workspace, role ∈ p.effectiveRoles workspace
  role_gone : ∀ role workspace, role ∉ (p.removeRole role).1.effectiveRoles workspace
  workspace_gone : ∀ workspace, (p.removeWorkspace workspace).1.effectiveRoles (some workspace) =
      (p.removeWorkspace workspace).1.effectiveRoles none ∧
    (p.removeWorkspace workspace).1.effectiveRoles none = p.effectiveRoles none
  others_kept : ∀ role, p.Keeps (· ≠ role) (·.role ≠ role) (p.removeRole role).1
  elsewhere_kept : ∀ workspace,
    p.Keeps (fun _ => True) (·.workspace ≠ workspace) (p.removeWorkspace workspace).1
  told_binding : ∀ binding, (p.addBinding binding).2 = true ↔ (p.addBinding binding).1 ≠ p
  told_role : ∀ role, (p.removeRole role).2 = true ↔ (p.removeRole role).1 ≠ p
  told_workspace : ∀ workspace,
    (p.removeWorkspace workspace).2 = true ↔ (p.removeWorkspace workspace).1 ≠ p

/-- However a permittable came about by changes, its books are in order. And whoever changes
permittables, be it that a user is given a role within a workspace, that bindings to workspaces are
stripped, that users are taken out of a workspace or that a role is removed, saves just those that
have changed. -/
theorem coherent_changed (id : PermittableId) (user : UserId) (roles : List RoleId)
    (changes : List Change) :
    ((create id user roles).changed changes).Coherent ∧
    (∀ user workspace role, ∃ body : Program Permittable,
      Grants.addWorkspaceRole user workspace role =
          Usecase.run { transactional := true } none body ∧
        ∀ {ids : Nat → String} {s s' : Draft × Nat} {p : Permittable}, body.Ends ids s p s' →
          ∃ held, ((∃ key, s.1.tables.permittables.get? key = some held ∧ held.user = user) ∨
              ∃ id, held = .create id user []) ∧
            p = (held.addBinding { workspace, role }).1 ∧
            s.1.Saves (alteredBy (fun p => (p.addBinding { workspace, role }).1) [held]) s'.1) ∧
    (∀ workspaces, (stripBindings workspaces).SavesJust (·.permittables.values)
      fun p => (p.removeWorkspaces workspaces).1) ∧
    (∀ id members operator, ∃ change : UserId → Time.Instant → Workspace → Program Workspace,
      Workspaces.removeMultipleUserMembers id members operator = (do
          let _ ← Action.ofExcept operator.actor
          if (distinct members).isEmpty then throw .noSpecifiedUsers
          Workspaces.edit { requirements := { readable := some [id] }, transactional := true } id
            operator Workspaces.unchecked change) ∧
        ∀ user now ws, (change user now ws).SavesJust
          (fun t => t.permittables.values.filter (·.user ∈ distinct members))
          fun p => (p.removeWorkspace id).1) ∧
    ∀ id, ∃ body : Program Unit,
      AccessRoles.remove id = Usecase.run { transactional := true } none body ∧
        body.SavesJust (·.permittables.values) fun p => (p.removeRole id).1 := by
  refine ⟨?_, Grants.saves_of_addWorkspaceRole, savesJust_stripBindings, fun id members operator => ?_,
    AccessRoles.savesJust_remove⟩
  · exact {
      unrepeated := unrepeated_changed id user roles changes
      nodup_effective := fun _ => nodup_distinct _
      mem_effective := fun _ _ => mem_effectiveRoles
      mentioned := fun _ => hasRole_iff_exists_effective
      role_gone := not_mem_effectiveRoles_removeRole _
      workspace_gone := effectiveRoles_removeWorkspace _
      others_kept := keeps_removeRole _
      elsewhere_kept := keeps_removeWorkspace _
      told_binding := fun _ => addBinding_snd_iff
      told_role := fun _ => removeRole_snd_iff
      told_workspace := fun _ => removeWorkspace_snd_iff }
  · exact ⟨_, Workspaces.removeMultipleUserMembers_eq id members operator,
      Workspaces.savesJust_takingOut id operator (distinct members)⟩

/-! ### Two clerks -/

namespace TwoClerks

/-- Ann is a clerk everywhere, and twice she is made one within the team. -/
def changes : List Change :=
  [.setRoles [⟨"clerk"⟩, ⟨"clerk"⟩], .addBinding ⟨⟨"team"⟩, ⟨"clerk"⟩⟩,
    .addBinding ⟨⟨"team"⟩, ⟨"clerk"⟩⟩]

/-- What ann holds. -/
def ann : Permittable :=
  (create ⟨"p-ann"⟩ ⟨"ann"⟩ []).changed changes

/-- A draft with the permittable of ann and that of bob, who is a clerk everywhere. -/
def draft : Draft where
  tables.permittables :=
    Table.ofList [(⟨"p-ann"⟩, ann), (⟨"p-bob"⟩, .create ⟨"p-bob"⟩ ⟨"bob"⟩ [⟨"clerk"⟩])]

/-- Once her bindings to the team are gone, ann counts there as the clerk that she is everywhere; and
of the two clerks only she has a permittable that is saved when all bindings to the team go. -/
theorem coherent_ann :
    (ann.removeWorkspace ⟨"team"⟩).1.effectiveRoles (some ⟨"team"⟩) = [⟨"clerk"⟩] ∧
      ∃ s', (stripBindings [⟨"team"⟩]).Ends (fun _ => "") (draft, 0) () s' ∧
        s'.1.touched.permittables = [⟨"p-ann"⟩] := by
  obtain ⟨hcoherent, -, hstrips, -⟩ := coherent_changed ⟨"p-ann"⟩ ⟨"ann"⟩ [] changes
  obtain ⟨s', hends⟩ : ∃ s', (stripBindings [⟨"team"⟩]).Ends (fun _ => "") (draft, 0) () s' :=
    ⟨_, rfl⟩
  refine ⟨(hcoherent.workspace_gone ⟨"team"⟩).1.trans rfl, s', hends, ?_⟩
  exact (hstrips [⟨"team"⟩] hends).touched.trans rfl

end TwoClerks

end Permittable

end Roster
