import Roster.Proofs.Actions
import Roster.Proofs.Sweeps
import Roster.Service.AccessRoles
import Roster.Service.Grants

/-!
# What operations on access roles and grants come to

Access roles are filed, or taken away from everyone who holds them. A permittable is filed for a
user who exists and lists only what exists or what was listed before.
-/

namespace Roster

/-- A name is fit for an access role: it is not empty and has no blank ends. -/
def AccessRole.Named (role : AccessRole) : Prop :=
  role.name ≠ "" ∧ Text.trim role.name = role.name

/-- An access role is filed under its own id, with a name that is fit and that no role with another id
has. -/
inductive RoleFiling (t : Tables) : Tables → Prop
  | intro (role : AccessRole) (hnamed : role.Named)
    (hunique : ∀ key other, t.roles.get? key = some other → other.id ≠ role.id →
      other.name ≠ role.name) :
    RoleFiling t { t with roles := t.roles.insert role.id role }

/-- An access role goes, and nobody holds it any more. -/
inductive RoleRemoval (id : RoleId) (t : Tables) : Tables → Prop
  | intro {t₁ : Tables} (hrewrites : t.Rewrites (fun p => (p.removeRole id).1) t₁) :
    RoleRemoval id t { t₁ with roles := t₁.roles.erase id }

/-- A permittable is filed that belongs to a user who exists and to whom no other one belongs, and
that lists only what exists or what some permittable listed before. -/
inductive Grant (t : Tables) : Tables → Prop
  | intro {p : Permittable} (hunique : ∀ {key other}, t.permittables.get? key = some other →
      other.id ≠ p.id → other.user ≠ p.user)
    (huser : t.users.contains p.user = true)
    (hroles : ∀ role ∈ p.roles, t.roles.contains role = true ∨
      ∃ key q, t.permittables.get? key = some q ∧ role ∈ q.roles)
    (hbindings : ∀ binding ∈ p.bindings,
      (t.workspaces.contains binding.workspace = true ∧ t.roles.contains binding.role = true) ∨
        ∃ key q, t.permittables.get? key = some q ∧ binding ∈ q.bindings) :
    Grant t { t with permittables := t.permittables.insert p.id p }

namespace Tables.Keyed

variable {t t' : Tables}

/-- An access role may be filed under its own id. -/
theorem of_roleFiling (h : t.Keyed) (hfiling : RoleFiling t t') : t'.Keyed := by
  obtain ⟨role⟩ := hfiling
  refine { h with roles := fun hr => ?_ }
  obtain ⟨rfl, rfl⟩ | ⟨-, hr⟩ := Table.get?_insert_eq_some.1 hr
  · rfl
  · exact h.roles hr

/-- An access role may be taken from everyone and go. -/
theorem of_roleRemoval (h : t.Keyed) {id : RoleId} (hremoval : RoleRemoval id t t') : t'.Keyed := by
  obtain ⟨hrewrites⟩ := hremoval
  have h₁ := h.of_rewrites hrewrites (fun _ => rfl) fun _ => rfl
  exact { h₁ with roles := fun hr => h₁.roles (Table.get?_erase_eq_some.1 hr).2 }

/-- A permittable may be filed for a user to whom no other one belongs. -/
theorem of_grant (h : t.Keyed) (hgrant : Grant t t') : t'.Keyed := by
  obtain ⟨hunique, -, -, -⟩ := hgrant
  refine { h with permittables := fun hq => ?_, onePermittable := fun hq hq' hsame => ?_ }
  · obtain ⟨rfl, rfl⟩ | ⟨-, hq⟩ := Table.get?_insert_eq_some.1 hq
    · rfl
    · exact h.permittables hq
  · obtain ⟨rfl, rfl⟩ | ⟨hk, hq⟩ := Table.get?_insert_eq_some.1 hq
    · obtain ⟨hk', -⟩ | ⟨hk', hq'⟩ := Table.get?_insert_eq_some.1 hq'
      · exact hk'
      · rw [← h.permittables hq'] at hk'
        exact absurd hsame.symm (hunique hq' hk'.symm)
    · obtain ⟨rfl, rfl⟩ | ⟨-, hq'⟩ := Table.get?_insert_eq_some.1 hq'
      · rw [← h.permittables hq] at hk
        exact absurd hsame (hunique hq hk.symm)
      · exact h.onePermittable hq hq' hsame

end Tables.Keyed

open Program

variable {moment : Moment} {directory directory' : Directory}

namespace AccessRole

/-- A name that passes the check is fit. -/
theorem named_of_checkName {id : RoleId} {name checked : String} (h : checkName name = .ok checked) :
    AccessRole.Named { id, name := checked } := by
  unfold checkName at h
  dsimp only at h
  split at h
  · exact nomatch h
  · rename_i hsome
    obtain rfl := ok_eq_ok_comm.1 h
    exact ⟨fun hempty => hsome (String.isEmpty_iff.2 hempty), Text.trim_trim name⟩

/-- A new role has a fit name. -/
theorem named_of_create {id : RoleId} {name : String} {role : AccessRole}
    (h : create id name = .ok role) : role.Named := by
  simp only [create, bind_eq_ok, pure_eq_ok] at h
  obtain ⟨checked, hchecked, rfl⟩ := h
  exact named_of_checkName hchecked

/-- A role under another name has a fit name. -/
theorem named_of_rename {role role' : AccessRole} {name : String}
    (h : role.rename name = .ok role') : role'.Named := by
  simp only [rename, bind_eq_ok, pure_eq_ok] at h
  obtain ⟨checked, hchecked, rfl⟩ := h
  exact named_of_checkName hchecked

end AccessRole

namespace AccessRoles

variable {ids : Nat → String} {s s' : Draft × Nat} {u : Unit}

/-- Making sure of a name changes nothing. -/
theorem ends_nameFree {name : String} {except : Option RoleId}
    (h : (nameFree name except).Ends ids s u s') : s' = s :=
  (ends_refuseTaken.1 h).2

/-- What creating an access role comes to when it succeeds: the role is filed, with a name that is fit
and that no role with another id has. -/
theorem create_inversion {name : String} {role : AccessRole}
    (h : (create name).perform moment directory = (.ok role, directory')) :
    let t := directory.store.tables
    role.Named ∧
      (∀ key other, t.roles.get? key = some other → other.id ≠ role.id → other.name ≠ role.name) ∧
      directory'.store.tables = { t with roles := t.roles.insert role.id role } := by
  simp only [create, Action.perform_bind_eq_ok, Action.perform_ofExcept, Action.perform_drawId,
    Prod.mk.injEq,
    Usecase.perform_run_eq_ok (rfl : ({ transactional := true } : Usecase).transactional = true)]
    at h
  obtain ⟨id, _, ⟨-, rfl⟩, _, _, ⟨hcreate, rfl⟩, -, draft, drawn, store, hends, hcommit, rfl⟩ := h
  simp only [ends_bind, ends_command, ends_pure, Command.apply_saveRole] at hends
  obtain ⟨_, _, hfree, _, _, ⟨_, ⟨hunique, rfl⟩, rfl⟩, rfl, hdraft⟩ := hends
  obtain rfl := ends_nameFree hfree
  cases hdraft
  exact ⟨AccessRole.named_of_create hcreate, hunique, Store.tables_of_commit hcommit⟩

/-- A new access role is filed. -/
theorem create_effect {name : String} {role : AccessRole}
    (h : (create name).perform moment directory = (.ok role, directory')) :
    RoleFiling directory.store.tables directory'.store.tables := by
  obtain ⟨hnamed, hunique, htables⟩ := create_inversion h
  rw [htables]
  exact .intro role hnamed hunique

/-- An access role under another name is filed. -/
theorem update_effect {id : RoleId} {name : String} {role : AccessRole}
    (h : (update id name).perform moment directory = (.ok role, directory')) :
    RoleFiling directory.store.tables directory'.store.tables := by
  simp only [update,
    Usecase.perform_run_eq_ok (rfl : ({ transactional := true } : Usecase).transactional = true)]
    at h
  obtain ⟨-, draft, drawn, store, hends, hcommit, rfl⟩ := h
  simp only [ends_bind, ends_query, ends_ofExcept, ends_command, ends_pure,
    Command.apply_saveRole] at hends
  obtain ⟨_, _, ⟨-, rfl⟩, role, _, ⟨hrename, rfl⟩, _, _, hfree, _, _, ⟨_, ⟨hunique, rfl⟩, rfl⟩, -,
    hdraft⟩ := hends
  obtain rfl := ends_nameFree hfree
  cases hdraft
  rw [Store.tables_of_commit hcommit]
  exact .intro role (AccessRole.named_of_rename hrename) hunique

/-- Dropping a role that is listed nowhere changes nothing. -/
theorem removeRole_eq_self {p : Permittable} {id : RoleId} (h : p.hasRole id = false) :
    (p.removeRole id).1 = p := by
  obtain ⟨hlisted, hbound⟩ := Bool.or_eq_false_iff.1 h
  have hroles : p.roles.filter (· ≠ id) = p.roles := by
    refine List.filter_eq_self.2 fun role hrole => decide_eq_true ?_
    rintro rfl
    exact of_decide_eq_false hlisted hrole
  have hbindings : p.bindings.filter (·.role ≠ id) = p.bindings := by
    refine List.filter_eq_self.2 fun binding hbinding => decide_eq_true fun hrole => ?_
    exact List.any_eq_false.1 hbound binding hbinding (decide_eq_true hrole)
  simp only [Permittable.removeRole, hroles, hbindings]

/-- An access role is taken from everyone who holds it and removed. -/
theorem remove_effect (hfiled : directory.store.tables.Filed) {id : RoleId}
    (h : (remove id).perform moment directory = (.ok (), directory')) :
    RoleRemoval id directory.store.tables directory'.store.tables := by
  simp only [remove,
    Usecase.perform_run_eq_ok (rfl : ({ transactional := true } : Usecase).transactional = true)]
    at h
  obtain ⟨-, draft, drawn, store, hends, hcommit, rfl⟩ := h
  simp only [ends_bind, ends_query, ends_command, Command.apply_removeRole] at hends
  obtain ⟨_, _, ⟨-, rfl⟩, holders, _, ⟨hholders, rfl⟩, _, s, hloop, _, ⟨-, rfl⟩, hdraft⟩ := hends
  obtain rfl := ok_eq_ok_comm.1 hholders
  cases hdraft
  have hswept := rewrites_of_forIn (fun p => (p.removeRole id).1) hfiled (fun _ => rfl)
    (fun p => p.hasRole id) (fun _ => removeRole_eq_self) rfl (fun p _ _ => sweeps_command p) hloop
  rw [Store.tables_of_commit hcommit]
  exact .intro hswept.2

end AccessRoles

namespace Grants

variable {ids : Nat → String} {s s' : Draft × Nat} {u : Unit}

/-- Access roles of which none is missing all exist, and making sure of it changes nothing. -/
theorem ends_rolesExist (hfiled : s.1.tables.Filed) {roles : List RoleId}
    (h : (rolesExist roles).Ends ids s u s') :
    s' = s ∧ ∀ role ∈ roles, s.1.tables.roles.contains role = true := by
  simp only [rolesExist, ends_bind, ends_query] at h
  obtain ⟨found, s₁, ⟨hfound, rfl⟩, h⟩ := h
  obtain rfl := ok_eq_ok_comm.1 hfound
  split at h
  · simp at h
  · rename_i hmissing
    refine ⟨(ends_pure.1 h).2, fun role hrole => ?_⟩
    have hany := List.find?_eq_none.1 (Option.eq_none_iff_forall_ne_some.2 hmissing) role hrole
    simp only [Bool.not_eq_true', Bool.not_eq_false, List.any_eq_true, List.mem_filterMap,
      decide_eq_true_eq] at hany
    obtain ⟨stored, ⟨key, -, hkey⟩, rfl⟩ := hany
    rw [hfiled.roles hkey]
    exact Table.contains_iff.2 ⟨stored, hkey⟩

/-- The access roles of a user are replaced. -/
theorem updatePermittable_effect (hfiled : directory.store.tables.Filed) {user : UserId}
    {roles : List RoleId} {p : Permittable}
    (h : (updatePermittable user roles).perform moment directory = (.ok p, directory')) :
    Grant directory.store.tables directory'.store.tables := by
  simp only [updatePermittable,
    Usecase.perform_run_eq_ok (rfl : ({ transactional := true } : Usecase).transactional = true)]
    at h
  obtain ⟨-, draft, drawn, store, hends, hcommit, rfl⟩ := h
  simp only [ends_bind, ends_query, ends_queryOptional, Query.answer_user] at hends
  obtain ⟨_, _, ⟨huser, rfl⟩, _, _, hexist, held, _, ⟨hheld, rfl⟩, hends⟩ := hends
  obtain ⟨rfl, hroles⟩ := ends_rolesExist hfiled hexist
  obtain rfl := ok_eq_ok_comm.1 ((optional_found _ _).symm.trans hheld)
  rw [Store.tables_of_commit hcommit]
  have huser' : directory.store.tables.users.contains user = true :=
    Table.contains_iff.2 ⟨_, huser⟩
  split at hends
  · rename_i q hfind
    obtain ⟨key, hq, hholder⟩ := Table.get?_of_find?_values hfind
    obtain rfl := of_decide_eq_true hholder
    simp only [ends_bind, ends_pure, ends_command, Command.apply_savePermittable] at hends
    obtain ⟨_, _, ⟨rfl, rfl⟩, _, _, ⟨_, ⟨hunique, rfl⟩, rfl⟩, rfl, hdraft⟩ := hends
    cases hdraft
    refine .intro (p := q.setRoles (distinct roles)) (hunique _ _) huser' ?_ ?_
    · intro role hrole
      exact .inl (hroles role (mem_distinct.1 hrole))
    · intro binding hbinding
      exact .inr ⟨key, q, hq, hbinding⟩
  · simp only [ends_bind, ends_pure, ends_command, ends_drawId, Command.apply_savePermittable] at hends
    obtain ⟨id, _, ⟨-, rfl⟩, _, _, ⟨rfl, rfl⟩, _, _, ⟨_, ⟨hunique, rfl⟩, rfl⟩, rfl, hdraft⟩ := hends
    cases hdraft
    refine .intro (p := .create id user (distinct roles)) (hunique _ _) huser' ?_ ?_
    · intro role hrole
      exact .inl (hroles role (mem_distinct.1 hrole))
    · intro binding hbinding
      exact absurd hbinding List.not_mem_nil

/-- A user is given an access role within a workspace, unless they have it there already. -/
theorem addWorkspaceRole_effect {user : UserId} {workspace : WorkspaceId} {role : RoleId}
    {p : Permittable}
    (h : (addWorkspaceRole user workspace role).perform moment directory = (.ok p, directory')) :
    directory'.store.tables = directory.store.tables ∨
      Grant directory.store.tables directory'.store.tables := by
  simp -zeta only [addWorkspaceRole,
    Usecase.perform_run_eq_ok (rfl : ({ transactional := true } : Usecase).transactional = true)]
    at h
  obtain ⟨-, draft, drawn, store, hends, hcommit, rfl⟩ := h
  simp -zeta only [ends_bind, ends_query, ends_queryOptional, Query.answer_user,
    Query.answer_workspace, Query.answer_role] at hends
  obtain ⟨_, _, ⟨huser, rfl⟩, _, _, ⟨hworkspace, rfl⟩, _, _, ⟨hrole, rfl⟩, held, _, ⟨hheld, rfl⟩,
    hends⟩ := hends
  obtain rfl := ok_eq_ok_comm.1 ((optional_found _ _).symm.trans hheld)
  rw [Store.tables_of_commit hcommit]
  extract_lets go at hends
  -- What remains to be done for a permittable of the user, be it a stored or a new one.
  have hgo {q : Permittable} {s : Draft × Nat} (hsame : s.1 = (Usecase.opening directory).1)
      (hholder : q.user = user)
      (hlisted : ∀ role ∈ q.roles, ∃ key q', directory.store.tables.permittables.get? key = some q' ∧
        role ∈ q'.roles)
      (hbound : ∀ binding ∈ q.bindings, ∃ key q',
        directory.store.tables.permittables.get? key = some q' ∧ binding ∈ q'.bindings)
      (hends : (go q).Ends moment.ids s p (draft, drawn)) :
      draft.tables = directory.store.tables ∨ Grant directory.store.tables draft.tables := by
    simp only [go, Permittable.addBinding] at hends
    split at hends
    · simp only [Bool.false_eq_true, if_false, ends_pure] at hends
      have hdraft : draft = s.1 := congrArg Prod.fst hends.2
      rw [hdraft, hsame]
      exact .inl rfl
    · simp only [if_true, ends_bind, ends_command, ends_pure, Command.apply_savePermittable] at hends
      obtain ⟨_, _, ⟨_, ⟨hunique, rfl⟩, rfl⟩, rfl, hdraft⟩ := hends
      cases hdraft
      rw [hsame] at hunique ⊢
      refine .inr (.intro (hunique _ _) (hholder ▸ Table.contains_iff.2 ⟨_, huser⟩)
        (fun role hrole => .inr (hlisted role hrole)) fun binding hbinding => ?_)
      obtain hbefore | hnew := List.mem_append.1 hbinding
      · exact .inr (hbound binding hbefore)
      · obtain rfl := List.mem_singleton.1 hnew
        obtain ⟨stored, hstored, -⟩ := hworkspace
        exact .inl ⟨Table.contains_iff.2 ⟨_, hstored⟩, Table.contains_iff.2 ⟨_, hrole⟩⟩
  split at hends
  · rename_i q hfind
    obtain ⟨key, hq, hholder⟩ := Table.get?_of_find?_values hfind
    rw [ends_bind] at hends
    obtain ⟨_, _, hpure, hends⟩ := hends
    obtain ⟨rfl, rfl⟩ := ends_pure.1 hpure
    exact hgo rfl (of_decide_eq_true hholder) (fun role hrole => ⟨key, _, hq, hrole⟩)
      (fun binding hbinding => ⟨key, _, hq, hbinding⟩) hends
  · simp -zeta only [ends_bind, ends_drawId, ends_pure] at hends
    obtain ⟨id, _, ⟨-, rfl⟩, _, _, ⟨rfl, rfl⟩, hends⟩ := hends
    refine hgo ?_ ?_ ?_ ?_ hends
    · rfl
    · rfl
    · exact fun _ hrole => absurd hrole List.not_mem_nil
    · exact fun _ hbinding => absurd hbinding List.not_mem_nil

end Grants

end Roster
