import Roster.Proofs.Drafts
import Roster.Service.Workspaces

/-!
# Sweeping over the permittables

When an access role, a workspace or a member goes, a loop saves the permittables that listed it
without it. Whichever permittables the loop looks at and whichever it saves, it comes to one
rewriting of the whole table, as long as rewriting changes nothing about the others.
-/

namespace Roster

/-- Rows are filed under their own ids. -/
structure Tables.Filed (t : Tables) : Prop where
  workspaces : ∀ {id ws}, t.workspaces.get? id = some ws → ws.id = id
  users : ∀ {id user}, t.users.get? id = some user → user.id = id
  roles : ∀ {id role}, t.roles.get? id = some role → role.id = id
  permittables : ∀ {id p}, t.permittables.get? id = some p → p.id = id

/-- Rows are filed under their own ids, and no user has two permittables. -/
structure Tables.Keyed (t : Tables) : Prop where
  workspaces : ∀ {id ws}, t.workspaces.get? id = some ws → ws.id = id
  users : ∀ {id user}, t.users.get? id = some user → user.id = id
  roles : ∀ {id role}, t.roles.get? id = some role → role.id = id
  permittables : ∀ {id p}, t.permittables.get? id = some p → p.id = id
  onePermittable : ∀ {id id' p p'}, t.permittables.get? id = some p →
    t.permittables.get? id' = some p' → p.user = p'.user → id = id'

instance (t : Tables) : Decidable t.Filed :=
  decidable_of_iff
    ((∀ entry ∈ t.workspaces.rows, entry.2.id = entry.1) ∧
      (∀ entry ∈ t.users.rows, entry.2.id = entry.1) ∧
      (∀ entry ∈ t.roles.rows, entry.2.id = entry.1) ∧
      ∀ entry ∈ t.permittables.rows, entry.2.id = entry.1)
    ⟨fun ⟨hws, husers, hroles, hps⟩ =>
      ⟨fun hrow => hws _ (Table.get?_eq_some_iff.1 hrow),
        fun hrow => husers _ (Table.get?_eq_some_iff.1 hrow),
        fun hrow => hroles _ (Table.get?_eq_some_iff.1 hrow),
        fun hrow => hps _ (Table.get?_eq_some_iff.1 hrow)⟩,
      fun h => ⟨fun _ hrow => h.workspaces (Table.get?_eq_some_iff.2 hrow),
        fun _ hrow => h.users (Table.get?_eq_some_iff.2 hrow),
        fun _ hrow => h.roles (Table.get?_eq_some_iff.2 hrow),
        fun _ hrow => h.permittables (Table.get?_eq_some_iff.2 hrow)⟩⟩

/-- Where no user has two permittables, rows are still filed under their own ids. -/
theorem Tables.Keyed.filed {t : Tables} (h : t.Keyed) : t.Filed :=
  ⟨h.workspaces, h.users, h.roles, h.permittables⟩

instance (t : Tables) : Decidable t.Keyed :=
  decidable_of_iff
    (t.Filed ∧ ∀ entry ∈ t.permittables.rows, ∀ other ∈ t.permittables.rows,
      entry.2.user = other.2.user → entry.1 = other.1)
    ⟨fun ⟨hfiled, hone⟩ =>
      { hfiled with
        onePermittable := fun hp hp' =>
          hone _ (Table.get?_eq_some_iff.1 hp) _ (Table.get?_eq_some_iff.1 hp') },
      fun h => ⟨h.filed, fun _ hp _ hp' => h.onePermittable (Table.get?_eq_some_iff.2 hp)
        (Table.get?_eq_some_iff.2 hp')⟩⟩

/-- Other workspaces that are filed under their own ids may take the place of the stored ones. -/
theorem Tables.Filed.withWorkspaces {t : Tables} (h : t.Filed)
    {workspaces : Table .workspace Workspace}
    (hown : ∀ {id ws}, workspaces.get? id = some ws → ws.id = id) :
    Tables.Filed { t with workspaces } :=
  { h with workspaces := hown }

/-- Rows stay filed under their own ids when a workspace goes. -/
theorem Tables.Filed.eraseWorkspace {t : Tables} (h : t.Filed) (id : WorkspaceId) :
    Tables.Filed { t with workspaces := t.workspaces.erase id } :=
  h.withWorkspaces fun hws => h.workspaces (Table.get?_erase_eq_some.1 hws).2

/-- Every permittable is rewritten, and nothing else is touched. -/
structure Tables.Rewrites (rewrite : Permittable → Permittable) (t t' : Tables) : Prop where
  workspaces : t'.workspaces = t.workspaces
  users : t'.users = t.users
  roles : t'.roles = t.roles
  permittables : ∀ id, t'.permittables.get? id = (t.permittables.get? id).map rewrite

/-- Rows stay under their own ids, and users with their permittables, when every permittable is
rewritten but keeps its id and its user. -/
theorem Tables.Keyed.of_rewrites {rewrite : Permittable → Permittable} {t t' : Tables} (h : t.Keyed)
    (hrewrites : t.Rewrites rewrite t') (hid : ∀ p, (rewrite p).id = p.id)
    (huser : ∀ p, (rewrite p).user = p.user) : t'.Keyed := by
  obtain ⟨hworkspaces, husers, hroles, hpermittables⟩ := hrewrites
  have hbefore {key : PermittableId} {p' : Permittable} (hp' : t'.permittables.get? key = some p') :
      ∃ p, t.permittables.get? key = some p ∧ rewrite p = p' := by
    rwa [hpermittables, Option.map_eq_some_iff] at hp'
  refine
    { workspaces := fun hws => h.workspaces (hworkspaces ▸ hws)
      users := fun hu => h.users (husers ▸ hu)
      roles := fun hr => h.roles (hroles ▸ hr)
      permittables := fun hp' => ?_
      onePermittable := fun hp' hq' hsame => ?_ }
  · obtain ⟨p, hp, rfl⟩ := hbefore hp'
    exact (hid p).trans (h.permittables hp)
  · obtain ⟨p, hp, rfl⟩ := hbefore hp'
    obtain ⟨q, hq, rfl⟩ := hbefore hq'
    exact h.onePermittable hp hq ((huser p).symm.trans (hsame.trans (huser q)))

/-! ## Loops -/

namespace Program

variable {ids : Nat → String} {s s' : Draft × Nat} {u v : PUnit}

/-- A turn of a sweep over one permittable: the rewritten permittable is saved, or nothing happens
because rewriting changes nothing. -/
def Sweeps (ids : Nat → String) (rewrite : Permittable → Permittable) (p : Permittable)
    (turn : Program (ForInStep PUnit)) : Prop :=
  ∀ s step s', turn.Ends ids s step s' → step = .yield ⟨⟩ ∧ s'.2 = s.2 ∧
    (s'.1 = s.1.putPermittable (rewrite p) ∨ rewrite p = p ∧ s'.1 = s.1)

variable {rewrite : Permittable → Permittable} {base : Tables}

/-- The state of a sweep when some permittables still lie ahead: every row has been rewritten,
except that those ahead may be as they were. -/
structure Swept (rewrite : Permittable → Permittable) (base : Tables) (ahead : List Permittable)
    (t : Tables) : Prop where
  workspaces : t.workspaces = base.workspaces
  users : t.users = base.users
  roles : t.roles = base.roles
  permittables : ∀ id, t.permittables.get? id = (base.permittables.get? id).map rewrite ∨
    t.permittables.get? id = base.permittables.get? id ∧ ∃ p ∈ ahead, p.id = id

/-- One turn of a sweep deals with the permittable that comes first. -/
theorem Swept.step (hid : ∀ p, (rewrite p).id = p.id) {p : Permittable} {ahead : List Permittable}
    (hp : base.permittables.get? p.id = some p) {turn : Program (ForInStep PUnit)}
    (hturn : Sweeps ids rewrite p turn) {step : ForInStep PUnit} (hends : turn.Ends ids s step s')
    (h : Swept rewrite base (p :: ahead) s.1.tables) :
    Swept rewrite base ahead s'.1.tables := by
  obtain ⟨-, -, hput | ⟨hsame, hkept⟩⟩ := hturn _ _ _ hends
  · rw [hput]
    refine { h with permittables := fun id => ?_ }
    have hrow : (s.1.putPermittable (rewrite p)).tables.permittables.get? id =
        if p.id = id then some (rewrite p) else s.1.tables.permittables.get? id := by
      rw [Draft.putPermittable, Table.get?_insert, hid]
    rw [hrow]
    by_cases hfirst : p.id = id
    · subst hfirst
      exact .inl (by rw [if_pos rfl, hp, Option.map_some])
    · rw [if_neg hfirst]
      obtain hdone | ⟨hbefore, q, hq, hqid⟩ := h.permittables id
      · exact .inl hdone
      · obtain rfl | hq := List.mem_cons.1 hq
        · exact absurd hqid hfirst
        · exact .inr ⟨hbefore, q, hq, hqid⟩
  · rw [hkept]
    refine { h with permittables := fun id => ?_ }
    obtain hdone | ⟨hbefore, q, hq, hqid⟩ := h.permittables id
    · exact .inl hdone
    · obtain rfl | hq := List.mem_cons.1 hq
      · refine .inl ?_
        rw [hbefore, ← hqid, hp, Option.map_some, hsame]
      · exact .inr ⟨hbefore, q, hq, hqid⟩

/-- A loop of turns deals with all permittables that lie ahead. -/
theorem Swept.loop (hid : ∀ p, (rewrite p).id = p.id) {ahead : List Permittable}
    (hahead : ∀ p ∈ ahead, base.permittables.get? p.id = some p)
    {body : Permittable → PUnit → Program (ForInStep PUnit)}
    (hbody : ∀ p ∈ ahead, ∀ u, Sweeps ids rewrite p (body p u))
    (hends : (forIn ahead u body).Ends ids s v s') (h : Swept rewrite base ahead s.1.tables) :
    s'.2 = s.2 ∧ Swept rewrite base [] s'.1.tables := by
  induction ahead generalizing u s with
  | nil =>
    rw [List.forIn_nil, ends_pure] at hends
    rw [hends.2]
    exact ⟨rfl, h⟩
  | cons p ahead ih =>
    rw [List.forIn_cons, ends_bind] at hends
    obtain ⟨step, s₁, hturn, hrest⟩ := hends
    have hfirst := hbody p List.mem_cons_self u
    obtain ⟨rfl, hdrawn, -⟩ := hfirst _ _ _ hturn
    have hstep := h.step hid (hahead p List.mem_cons_self) hfirst hturn
    rw [← hdrawn]
    exact ih (fun q hq => hahead q (List.mem_cons_of_mem _ hq))
      (fun q hq => hbody q (List.mem_cons_of_mem _ hq)) hrest hstep

/-- A sweep over some permittables rewrites the whole table if it changes nothing about the
others. -/
theorem rewrites_of_forIn (rewrite : Permittable → Permittable) (hfiled : s.1.tables.Filed)
    (hid : ∀ p, (rewrite p).id = p.id)
    (chosen : Permittable → Bool) (hothers : ∀ p, chosen p = false → rewrite p = p)
    {items : List Permittable} (hitems : items = s.1.tables.permittables.values.filter chosen)
    {body : Permittable → PUnit → Program (ForInStep PUnit)}
    (hbody : ∀ p, chosen p = true → ∀ u, Sweeps ids rewrite p (body p u))
    (hends : (forIn items u body).Ends ids s v s') :
    s'.2 = s.2 ∧ s.1.tables.Rewrites rewrite s'.1.tables := by
  subst hitems
  have hitems : ∀ p ∈ s.1.tables.permittables.values.filter chosen,
      s.1.tables.permittables.get? p.id = some p := by
    intro p hp
    obtain ⟨key, hkey⟩ := Table.mem_values_iff.1 (List.mem_filter.1 hp).1
    rw [hfiled.permittables hkey, hkey]
  have hstart : Swept rewrite s.1.tables (s.1.tables.permittables.values.filter chosen)
      s.1.tables := by
    refine ⟨rfl, rfl, rfl, fun id => ?_⟩
    cases hp : s.1.tables.permittables.get? id with
    | none => exact .inl rfl
    | some p =>
      cases hchosen : chosen p with
      | false => exact .inl (by rw [Option.map_some, hothers p hchosen])
      | true =>
        refine .inr ⟨rfl, p, ?_, hfiled.permittables hp⟩
        exact List.mem_filter.2 ⟨Table.mem_values_iff.2 ⟨id, hp⟩, hchosen⟩
  obtain ⟨hdrawn, hswept⟩ := hstart.loop hid hitems
    (fun p hp => hbody p (List.mem_filter.1 hp).2) hends
  refine ⟨hdrawn, hswept.workspaces, hswept.users, hswept.roles, fun id => ?_⟩
  obtain hdone | ⟨-, p, hp, -⟩ := hswept.permittables id
  · exact hdone
  · exact absurd hp List.not_mem_nil

/-- Saving the rewritten permittable is a turn of a sweep. -/
theorem sweeps_command (p : Permittable) :
    Sweeps ids rewrite p (do
      Program.command (.savePermittable (rewrite p))
      pure (.yield ⟨⟩)) := by
  intro s step s' hends
  rw [ends_bind] at hends
  obtain ⟨_, s₁, hcommand, hyield⟩ := hends
  obtain ⟨draft, happly, rfl⟩ := ends_command.1 hcommand
  obtain ⟨rfl, rfl⟩ := ends_pure.1 hyield
  exact ⟨rfl, rfl, .inl (Command.apply_savePermittable.1 happly).2⟩

/-- Saving the rewritten permittable only if something has changed is a turn of a sweep, too. -/
theorem sweeps_save {p : Permittable} {rewritten : Permittable × Bool}
    (hrewritten : rewritten.1 = rewrite p) (hsame : rewritten.2 = false → rewrite p = p) :
    Sweeps ids rewrite p
      (if rewritten.2 then do
        Program.command (.savePermittable rewritten.1)
        pure (.yield ⟨⟩)
      else pure (.yield ⟨⟩)) := by
  cases hchanged : rewritten.2 with
  | false =>
    intro s step s' hends
    rw [if_neg Bool.false_ne_true] at hends
    obtain ⟨rfl, rfl⟩ := ends_pure.1 hends
    exact ⟨rfl, rfl, .inr ⟨hsame hchanged, rfl⟩⟩
  | true =>
    rw [if_pos rfl, hrewritten]
    exact sweeps_command p

end Program

/-! ## Bindings -/

namespace Permittable

/-- The permittable without its bindings to some workspaces. -/
def unbind (p : Permittable) (workspaces : List WorkspaceId) : Permittable :=
  { p with bindings := p.bindings.filter (·.workspace ∉ workspaces) }

/-- Without workspaces, there is nothing to unbind. -/
@[simp]
theorem unbind_nil (p : Permittable) : p.unbind [] = p := by
  have hall : p.bindings.filter (·.workspace ∉ ([] : List WorkspaceId)) = p.bindings :=
    List.filter_eq_self.2 (by simp)
  rw [unbind, hall]

/-- Dropping the bindings to one workspace is unbinding it. -/
theorem removeWorkspace_fst (p : Permittable) (id : WorkspaceId) :
    (p.removeWorkspace id).1 = p.unbind [id] := by
  simp [removeWorkspace, unbind]

/-- When nothing is dropped, the permittable stays as it is. -/
theorem removeWorkspace_fst_eq_self {p : Permittable} {id : WorkspaceId}
    (h : (p.removeWorkspace id).2 = false) : (p.removeWorkspace id).1 = p := by
  have hlength : (p.bindings.filter (·.workspace ≠ id)).length = p.bindings.length := by
    simpa only [removeWorkspace, weight, ne_eq, Nat.add_left_cancel_iff, decide_not,
      Bool.not_eq_false', decide_eq_true_eq] using h
  have hkept := List.filter_eq_self.2 (List.length_filter_eq_length_iff.1 hlength)
  simp only [removeWorkspace, hkept]

/-- Dropping the bindings to several workspaces, one after the other, is unbinding them; and when
nothing is dropped, the permittable stays as it is. -/
theorem foldl_removeWorkspace (workspaces : List WorkspaceId) (p : Permittable) (changed : Bool) :
    let rewritten := workspaces.foldl
      (fun (p, changed) id =>
        let (rest, dropped) := p.removeWorkspace id
        (rest, changed || dropped))
      (p, changed)
    rewritten.1 = p.unbind workspaces ∧
      (rewritten.2 = false → changed = false ∧ rewritten.1 = p) := by
  induction workspaces generalizing p changed with
  | nil => exact ⟨p.unbind_nil.symm, fun hnone => ⟨hnone, rfl⟩⟩
  | cons id rest ih =>
    obtain ⟨hfst, hsame⟩ := ih (p.removeWorkspace id).1 (changed || (p.removeWorkspace id).2)
    refine ⟨hfst.trans ?_, fun hnone => ?_⟩
    · simp only [removeWorkspace, unbind, List.filter_filter, List.mem_cons, not_or,
        Bool.decide_and, Bool.and_comm]
    · obtain ⟨hflags, hkept⟩ := hsame hnone
      obtain ⟨hchanged, hdropped⟩ := Bool.or_eq_false_iff.1 hflags
      exact ⟨hchanged, hkept.trans (removeWorkspace_fst_eq_self hdropped)⟩

/-- Unbinding keeps the id. -/
@[simp]
theorem unbind_id (p : Permittable) (workspaces : List WorkspaceId) :
    (p.unbind workspaces).id = p.id := rfl

end Permittable

/-- Stripping the bindings to some workspaces unbinds every permittable. -/
theorem ends_stripBindings {ids : Nat → String} {s s' : Draft × Nat} {u : Unit}
    (hfiled : s.1.tables.Filed) {workspaces : List WorkspaceId}
    (hends : (stripBindings workspaces).Ends ids s u s') :
    s'.2 = s.2 ∧ s.1.tables.Rewrites (·.unbind workspaces) s'.1.tables := by
  unfold stripBindings at hends
  cases hnone : workspaces.isEmpty with
  | true =>
    rw [hnone, if_pos rfl] at hends
    obtain ⟨-, rfl⟩ := Program.ends_pure.1 hends
    rw [List.isEmpty_iff.1 hnone]
    exact ⟨rfl, rfl, rfl, rfl, fun id => by simp⟩
  | false =>
    rw [hnone, if_neg Bool.false_ne_true] at hends
    simp only [Program.ends_bind, Program.ends_query, Program.ends_pure] at hends
    obtain ⟨permittables, s₁, ⟨hall, rfl⟩, _, s₂, hloop, -, rfl⟩ := hends
    obtain rfl := ok_eq_ok_comm.1 hall
    refine Program.rewrites_of_forIn (·.unbind workspaces) hfiled (fun p => p.unbind_id workspaces)
      (fun _ => true) (fun _ hfalse => Bool.noConfusion hfalse) (List.filter_eq_self.2 fun _ _ => rfl).symm
      (fun p _ _ => ?_) hloop
    obtain ⟨hfst, hsame⟩ := p.foldl_removeWorkspace workspaces false
    exact Program.sweeps_save hfst fun hchanged => hfst ▸ (hsame hchanged).2

end Roster
