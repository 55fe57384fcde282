import Roster.Proofs.Outsiders

/-!
# What permission checks decide

A user may do something exactly when they hold an access role whose name a rule of the policy lets
do it, everywhere or within the workspace of the resource. Nothing that is bound to another
workspace counts, and whoever is given more may do no less.
-/

namespace Roster

/-- A permittable lists an access role everywhere, or within the workspace if there is one. -/
def Permittable.Holds (p : Permittable) (workspace : Option WorkspaceId) (role : RoleId) : Prop :=
  role ∈ p.roles ∨ ∃ id, workspace = some id ∧ ⟨id, role⟩ ∈ p.bindings

/-- A rule of the policy lets whoever has a role of this name take an action on a kind of
resource. -/
def Policy.Covers (policy : Policy) (role kind action : String) : Prop :=
  ∃ rule ∈ policy, rule.role = role ∧ rule.resource = kind ∧
    ("*" ∈ rule.actions ∨ action ∈ rule.actions)

/-- The user holds some access role that is stored and that the policy lets take the action. -/
def Tables.Permits (t : Tables) (policy : Policy) (user : UserId) (resource : Resource)
    (action : String) : Prop :=
  ∃ key p id role, t.permittables.get? key = some p ∧ p.user = user ∧
    p.Holds resource.workspace id ∧ t.roles.get? id = some role ∧
    policy.Covers role.name resource.kind action

/-- The permittable without its bindings to other workspaces than the given one. -/
def Permittable.within (workspace : Option WorkspaceId) (p : Permittable) : Permittable :=
  { p with bindings := p.bindings.filter fun binding => some binding.workspace = workspace }

/-- The access roles are the same, and so is every permittable but for its bindings to other
workspaces than the given one. -/
structure Tables.AlikeWithin (workspace : Option WorkspaceId) (t t' : Tables) : Prop where
  roles : t'.roles = t.roles
  permittables : ∀ key, (t'.permittables.get? key).map (Permittable.within workspace) =
    (t.permittables.get? key).map (Permittable.within workspace)

/-- No access role has gone or changed, and every permittable lists at least what it listed. -/
structure Tables.Extends (t' t : Tables) : Prop where
  roles : ∀ {id role}, t.roles.get? id = some role → t'.roles.get? id = some role
  permittables : ∀ {key p}, t.permittables.get? key = some p →
    ∃ p', t'.permittables.get? key = some p' ∧ p.Shrinks p'

/-! ## What a check comes to -/

namespace Permittable

variable {p : Permittable} {workspace : Option WorkspaceId} {role : RoleId}

/-- The roles that count for a resource are those that a permittable holds there. -/
theorem mem_effectiveRoles : role ∈ p.effectiveRoles workspace ↔ p.Holds workspace role := by
  simp only [effectiveRoles, mem_distinct, List.mem_append, List.mem_map, List.mem_filter,
    decide_eq_true_eq, Holds]
  refine or_congr_right ⟨?_, ?_⟩
  · rintro ⟨⟨id, role⟩, ⟨hbinding, hworkspace⟩, rfl⟩
    exact ⟨id, hworkspace.symm, hbinding⟩
  · rintro ⟨id, hworkspace, hbinding⟩
    exact ⟨⟨id, role⟩, ⟨hbinding, hworkspace.symm⟩, rfl⟩

/-- What is bound to other workspaces does not count. -/
theorem holds_within : (p.within workspace).Holds workspace role ↔ p.Holds workspace role := by
  simp only [Holds, within, List.mem_filter, decide_eq_true_eq]
  refine or_congr_right (exists_congr fun id => and_congr_right fun hworkspace => ?_)
  exact and_iff_left hworkspace.symm

end Permittable

/-- A policy allows an action when it covers the action for one of the names. -/
theorem Policy.allows_iff {policy : Policy} {names : List String} {kind action : String} :
    policy.allows names kind action = true ↔ ∃ name ∈ names, policy.Covers name kind action := by
  simp only [allows, PolicyRule.allows, Covers, List.any_eq_true, Bool.and_eq_true, Bool.or_eq_true,
    decide_eq_true_eq]
  constructor
  · rintro ⟨rule, hrule, ⟨hkind, hname⟩, named, hnamed, hstar | haction⟩
    · exact ⟨rule.role, hname, rule, hrule, rfl, hkind, .inl (hstar ▸ hnamed)⟩
    · exact ⟨rule.role, hname, rule, hrule, rfl, hkind, .inr (haction ▸ hnamed)⟩
  · rintro ⟨name, hname, rule, hrule, rfl, hkind, hstar | haction⟩
    · exact ⟨rule, hrule, ⟨hkind, hname⟩, "*", hstar, .inl rfl⟩
    · exact ⟨rule, hrule, ⟨hkind, hname⟩, action, haction, .inr rfl⟩

namespace Tables

variable {t t' : Tables} {policy policy' : Policy} {user : UserId} {resource : Resource}
  {action : String}

/-- The permittable found for a user is the one that the user has. -/
theorem find?_permittable (hkeyed : t.Keyed) {p : Permittable} :
    t.permittables.values.find? (·.user = user) = some p ↔
      ∃ key, t.permittables.get? key = some p ∧ p.user = user := by
  constructor
  · intro hfind
    obtain ⟨key, hkey, huser⟩ := Table.get?_of_find?_values hfind
    exact ⟨key, hkey, of_decide_eq_true huser⟩
  · rintro ⟨key, hkey, huser⟩
    cases hfind : t.permittables.values.find? (·.user = user) with
    | none =>
      have hother := Table.test_of_find?_values_eq_none hfind hkey
      exact absurd huser (of_decide_eq_false hother)
    | some p' =>
      obtain ⟨key', hkey', huser'⟩ := Table.get?_of_find?_values hfind
      have hsame : p'.user = p.user := (of_decide_eq_true huser').trans huser.symm
      obtain rfl := hkeyed.onePermittable hkey' hkey hsame
      exact hkey'.symm.trans hkey

/-- The names that count for a user are those of the stored roles that their permittable holds. -/
theorem mem_roleNames (hkeyed : t.Keyed) {workspace : Option WorkspaceId} {name : String} :
    name ∈ t.roleNames user workspace ↔
      ∃ key p id role, t.permittables.get? key = some p ∧ p.user = user ∧ p.Holds workspace id ∧
        t.roles.get? id = some role ∧ role.name = name := by
  unfold roleNames
  cases hfind : t.permittables.values.find? (·.user = user) with
  | none =>
    refine iff_of_false List.not_mem_nil ?_
    rintro ⟨key, p, id, role, hkey, huser, -⟩
    exact nomatch hfind.symm.trans ((find?_permittable hkeyed).2 ⟨key, hkey, huser⟩)
  | some p =>
    simp only [List.mem_map, List.mem_filterMap, Permittable.mem_effectiveRoles]
    constructor
    · rintro ⟨role, ⟨id, hholds, hrole⟩, hname⟩
      obtain ⟨key, hkey, huser⟩ := (find?_permittable hkeyed).1 hfind
      exact ⟨key, p, id, role, hkey, huser, hholds, hrole, hname⟩
    · rintro ⟨key, p', id, role, hkey, huser, hholds, hrole, hname⟩
      obtain rfl := Option.some.inj
        (hfind.symm.trans ((find?_permittable hkeyed).2 ⟨key, hkey, huser⟩))
      exact ⟨role, ⟨id, hholds, hrole⟩, hname⟩

/-- The policy allows an action for the names that count exactly when the tables permit it. -/
theorem allows_roleNames_iff (hkeyed : t.Keyed) :
    policy.allows (t.roleNames user resource.workspace) resource.kind action = true ↔
      t.Permits policy user resource action := by
  rw [Policy.allows_iff]
  constructor
  · rintro ⟨name, hname, hcovers⟩
    obtain ⟨key, p, id, role, hkey, huser, hholds, hrole, rfl⟩ := (mem_roleNames hkeyed).1 hname
    exact ⟨key, p, id, role, hkey, huser, hholds, hrole, hcovers⟩
  · rintro ⟨key, p, id, role, hkey, huser, hholds, hrole, hcovers⟩
    exact ⟨role.name, (mem_roleNames hkeyed).2 ⟨key, p, id, role, hkey, huser, hholds, hrole, rfl⟩,
      hcovers⟩

/-! ## What does not matter and what only helps -/

/-- Being alike within a workspace goes both ways. -/
theorem AlikeWithin.symm {workspace : Option WorkspaceId} (h : AlikeWithin workspace t t') :
    AlikeWithin workspace t' t :=
  ⟨h.roles.symm, fun key => (h.permittables key).symm⟩

/-- What is permitted in a workspace remains so where the tables are alike within it. -/
theorem Permits.of_alikeWithin (hpermits : t.Permits policy user resource action)
    (h : AlikeWithin resource.workspace t t') : t'.Permits policy user resource action := by
  obtain ⟨key, p, id, role, hkey, huser, hholds, hrole, hcovers⟩ := hpermits
  have hmap := h.permittables key
  rw [hkey, Option.map_some, Option.map_eq_some_iff] at hmap
  obtain ⟨p', hkey', hwithin⟩ := hmap
  have huser' : (p'.within resource.workspace).user = (p.within resource.workspace).user := by
    rw [hwithin]
  refine ⟨key, p', id, role, hkey', huser'.trans huser, ?_, h.roles ▸ hrole, hcovers⟩
  rw [← Permittable.holds_within, hwithin, Permittable.holds_within]
  exact hholds

/-- What is permitted remains so when roles, bindings and rules are added. -/
theorem Permits.mono (hpermits : t.Permits policy user resource action) (h : t'.Extends t)
    (hpolicy : policy ⊆ policy') : t'.Permits policy' user resource action := by
  obtain ⟨key, p, id, role, hkey, huser, hholds, hrole, rule, hrule, hcovers⟩ := hpermits
  obtain ⟨p', hkey', hmore⟩ := h.permittables hkey
  refine ⟨key, p', id, role, hkey', hmore.user.symm.trans huser, ?_, h.roles hrole, rule,
    hpolicy hrule, hcovers⟩
  exact hholds.imp (fun hrole => hmore.roles hrole) fun ⟨id, hworkspace, hbinding⟩ =>
    ⟨id, hworkspace, hmore.bindings hbinding⟩

end Tables

/-- A check always comes to an answer and changes nothing. It is yes exactly when the tables permit
the action; it is the same wherever the tables are alike within the workspace of the resource, and a
yes remains one when roles, bindings and rules are added. -/
theorem Permissions.check_decides (policy : Policy) (user : UserId) (resource : Resource)
    (action : String) (moment : Moment) (directory : Directory)
    (hkeyed : directory.store.tables.Keyed) :
    ∃ allowed, (check policy user resource action).perform moment directory =
        (.ok allowed, directory) ∧
      (allowed = true ↔ directory.store.tables.Permits policy user resource action) ∧
      (∀ moment' directory', directory'.store.tables.Keyed →
        Tables.AlikeWithin resource.workspace directory.store.tables directory'.store.tables →
        ((check policy user resource action).perform moment' directory').1 = .ok allowed) ∧
      (allowed = true → ∀ policy' moment' directory', policy ⊆ policy' →
        directory'.store.tables.Keyed → directory'.store.tables.Extends directory.store.tables →
        ((check policy' user resource action).perform moment' directory').1 = .ok true) := by
  refine ⟨_, perform_check policy user resource action moment directory,
    Tables.allows_roleNames_iff hkeyed, ?_, ?_⟩
  · intro moment' directory' hkeyed' halike
    rw [perform_check, Except.ok.injEq, Bool.eq_iff_iff, Tables.allows_roleNames_iff hkeyed,
      Tables.allows_roleNames_iff hkeyed']
    exact ⟨fun h => h.of_alikeWithin halike.symm, fun h => h.of_alikeWithin halike⟩
  · intro hallowed policy' moment' directory' hpolicy hkeyed' hextends
    rw [perform_check, Except.ok.injEq, Tables.allows_roleNames_iff hkeyed']
    exact ((Tables.allows_roleNames_iff hkeyed).1 hallowed).mono hextends hpolicy

/-! ### A clerk

Bob is a clerk in the team, and clerks may do everything with invoices.
-/

namespace Permissions.Clerk

open Http (TwoGrants.bob TwoGrants.moment)
open Http.Leaving (directory tables)

/-- Clerks may do everything with invoices. -/
def policy : Policy :=
  [{ role := "clerk", resource := "invoice", actions := ["*"] }]

/-- The invoices of a workspace, or of none. -/
def invoice (workspace : Option WorkspaceId) : Resource :=
  { kind := "invoice", workspace }

/-- Bob as a clerk in the team and at home. -/
def holder : Permittable where
  id := ⟨"holder"⟩
  user := TwoGrants.bob.id
  roles := []
  bindings := [⟨⟨"team"⟩, ⟨"clerk"⟩⟩, ⟨⟨"home"⟩, ⟨"clerk"⟩⟩]

/-- The directory once bob is a clerk at home as well. -/
def promoted : Directory where
  store := { directory.store with
    tables := { tables with permittables := tables.permittables.insert holder.id holder } }

/-- What bob is at home does not count in no workspace, and takes nothing from him in the team. -/
theorem check_decides_promoted :
    (¬ tables.Permits policy TwoGrants.bob.id (invoice none) "approve" ∧
      ((check policy TwoGrants.bob.id (invoice none) "approve").perform TwoGrants.moment
        promoted).1 = .ok false) ∧
    tables.Permits policy TwoGrants.bob.id (invoice (some ⟨"team"⟩)) "approve" ∧
      ((check (⟨"clerk", "letter", []⟩ :: policy) TwoGrants.bob.id (invoice (some ⟨"team"⟩))
        "approve").perform TwoGrants.moment promoted).1 = .ok true := by
  have hkeyed : directory.store.tables.Keyed := by decide
  have hkeyed' : promoted.store.tables.Keyed := by decide
  constructor
  · obtain ⟨allowed, hcheck, hpermits, halike, -⟩ := check_decides policy TwoGrants.bob.id
      (invoice none) "approve" TwoGrants.moment directory hkeyed
    obtain rfl : false = allowed := Except.ok.inj (congrArg Prod.fst hcheck)
    refine ⟨fun h => (nomatch hpermits.2 h), halike _ _ hkeyed' ⟨rfl, fun key => ?_⟩⟩
    by_cases hkey : holder.id = key
    · subst hkey
      rfl
    · simp only [promoted, Table.get?_insert, if_neg hkey]
      rfl
  · obtain ⟨allowed, hcheck, hpermits, -, hmore⟩ := check_decides policy TwoGrants.bob.id
      (invoice (some ⟨"team"⟩)) "approve" TwoGrants.moment directory hkeyed
    obtain rfl : true = allowed := Except.ok.inj (congrArg Prod.fst hcheck)
    refine ⟨hpermits.1 rfl, hmore rfl _ _ _ (List.subset_cons_self _ _) hkeyed' ⟨id, ?_⟩⟩
    intro key p hp
    obtain ⟨rfl, rfl⟩ | ⟨-, hnone⟩ := Table.get?_insert_eq_some.1 hp
    · exact ⟨holder, rfl, rfl, rfl, List.Subset.refl _, List.cons_subset_cons _ (List.nil_subset _)⟩
    · exact nomatch hnone

end Permissions.Clerk

end Roster
