import Roster.Proofs.Decisions
import Roster.Proofs.Escalation

/-!
# Access roles that are taken away for good

A permission check goes by the names of access roles, while permittables list their ids. What keeps
the two together is that permittables list only roles that are stored: a role that is removed is
listed nowhere, and a role of the same name that is created later under an id of its own is held by
nobody. This is kept by every operation.
-/

namespace Roster

/-! ## What permittables mention -/

namespace Permittable

variable {p q : Permittable} {role id : RoleId}

/-- A permittable mentions a role if it lists it everywhere or binds it to a workspace. -/
theorem hasRole_iff :
    p.hasRole role = true ↔ role ∈ p.roles ∨ ∃ binding ∈ p.bindings, binding.role = role := by
  simp only [hasRole, Bool.or_eq_true, decide_eq_true_eq, List.any_eq_true]

/-- A role that is held within a workspace is mentioned. -/
theorem Holds.hasRole {workspace : Option WorkspaceId} (h : p.Holds workspace role) :
    p.hasRole role = true := by
  rw [hasRole_iff]
  exact h.imp_right fun ⟨id, _, hbinding⟩ => ⟨⟨id, role⟩, hbinding, rfl⟩

/-- A permittable that lists less mentions no other roles. -/
theorem Shrinks.hasRole (h : p.Shrinks q) (hrole : p.hasRole role = true) :
    q.hasRole role = true := by
  rw [hasRole_iff] at hrole ⊢
  exact hrole.imp (fun hlisted => h.roles hlisted) fun ⟨binding, hbinding, hsame⟩ =>
    ⟨binding, h.bindings hbinding, hsame⟩

/-- Once a role has been dropped, the other roles are mentioned. -/
theorem hasRole_removeRole :
    (p.removeRole id).1.hasRole role = true ↔ role ≠ id ∧ p.hasRole role = true := by
  simp only [hasRole_iff, removeRole, List.mem_filter, decide_eq_true_eq]
  constructor
  · rintro (⟨hlisted, hother⟩ | ⟨binding, ⟨hbinding, hother⟩, rfl⟩)
    · exact ⟨hother, .inl hlisted⟩
    · exact ⟨hother, .inr ⟨binding, hbinding, rfl⟩⟩
  · rintro ⟨hother, hlisted | ⟨binding, hbinding, rfl⟩⟩
    · exact .inl ⟨hlisted, hother⟩
    · exact .inr ⟨binding, ⟨hbinding, hother⟩, rfl⟩

/-- Once a role has been dropped, the other roles are held where they were. -/
theorem holds_removeRole {workspace : Option WorkspaceId} :
    (p.removeRole id).1.Holds workspace role ↔ role ≠ id ∧ p.Holds workspace role := by
  simp only [Holds, removeRole, List.mem_filter, decide_eq_true_eq]
  constructor
  · rintro (⟨hlisted, hother⟩ | ⟨ws, hws, hbinding, hother⟩)
    · exact ⟨hother, .inl hlisted⟩
    · exact ⟨hother, .inr ⟨ws, hws, hbinding⟩⟩
  · rintro ⟨hother, hlisted | ⟨ws, hws, hbinding⟩⟩
    · exact .inl ⟨hlisted, hother⟩
    · exact .inr ⟨ws, hws, hbinding, hother⟩

end Permittable

/-! ## Rows under their own ids -/

namespace Tables

variable {t t' : Tables}

/-- A workspace may be filed under its own id. -/
theorem Keyed.fileWorkspace (h : t.Keyed) (ws : Workspace) : (t.fileWorkspace ws).Keyed :=
  { h with workspaces := (h.filed.fileWorkspace ws).workspaces }

/-- A user may be filed under their own id. -/
theorem Keyed.fileUser (h : t.Keyed) (user : User) : (t.fileUser user).Keyed := by
  refine { h with users := fun hu => ?_ }
  obtain ⟨hid, rfl⟩ | ⟨-, hu⟩ := Table.get?_insert_eq_some.1 hu
  · exact hid
  · exact h.users hu

/-- A user may go for good. -/
theorem Keyed.of_withdrawal (h : t.Keyed) {operator : Operator}
    (hwithdrawal : Withdrawal operator t t') : t'.Keyed := by
  obtain @⟨me, user, closed, -, -, hfates, hnothing, -, husers, hroles, hpermittables⟩ :=
    hwithdrawal
  have hheld {key : PermittableId} {p : Permittable} (hp : t'.permittables.get? key = some p) :
      ∃ q, t.permittables.get? key = some q ∧ p = q.unbind closed := by
    rw [hpermittables h, Option.bind_eq_some_iff] at hp
    obtain ⟨q, hq, hp⟩ := hp
    split at hp
    · exact nomatch hp
    · exact ⟨q, hq, (Option.some.inj hp).symm⟩
  refine
    { workspaces := fun {id ws} hws => ?_
      users := fun hu => ?_
      roles := fun hr => h.roles (hroles ▸ hr)
      permittables := fun hp => ?_
      onePermittable := fun hp hp' hsame => ?_ }
  · cases hrow : t.workspaces.get? id with
    | none => exact nomatch (hnothing hrow).symm.trans hws
    | some row =>
      have hfate := hfates hrow
      rw [hws] at hfate
      exact hfate.id.trans (h.workspaces hrow)
  · rw [husers] at hu
    exact h.users (Table.get?_erase_eq_some.1 hu).2
  · obtain ⟨q, hq, rfl⟩ := hheld hp
    exact (q.unbind_id closed).trans (h.permittables hq)
  · obtain ⟨q, hq, rfl⟩ := hheld hp
    obtain ⟨q', hq', rfl⟩ := hheld hp'
    exact h.onePermittable hq hq' hsame

end Tables

/-- Every operation keeps rows under their own ids, and users with their permittables. -/
theorem Operation.Effect.keyed {operator held : Operator} {operation : Operation} {t t' : Tables}
    (heffect : Effect operator t operation held t') (h : t.Keyed) : t'.Keyed := by
  cases heffect with
  | createWorkspace heffect =>
    obtain ⟨_⟩ := heffect
    exact h.fileWorkspace _
  | edit _ heffect =>
    obtain ⟨_⟩ := heffect
    exact h.fileWorkspace _
  | leave _ heffect =>
    obtain ⟨-, -, -, -, -, hrewrites⟩ := heffect
    refine (h.of_rewrites hrewrites (fun p => ?_) fun p => ?_).fileWorkspace _
    · split <;> rfl
    · split <;> rfl
  | removeWorkspace heffect =>
    obtain ⟨-, -, -, -, hrewrites⟩ := heffect
    exact Tables.Keyed.of_rewrites { h with workspaces := (h.filed.eraseWorkspace _).workspaces }
      hrewrites (fun _ => rfl) fun _ => rfl
  | signup heffect | signupNewSubject heffect =>
    obtain ⟨_⟩ := heffect
    exact (h.fileUser _).fileWorkspace _
  | signupKnownSubject => exact h
  | updateMe heffect =>
    cases heffect with
    | sameName => exact h.fileUser _
    | newName => exact (h.fileWorkspace _).fileUser _
  | removeMe heffect => exact h.of_withdrawal heffect
  | createRole heffect | updateRole heffect => exact h.of_roleFiling heffect
  | removeRole heffect => exact h.of_roleRemoval heffect
  | updatePermittable heffect | addNewRole heffect => exact h.of_grant heffect
  | addKnownRole => exact h

/-! ## Roles that are stored -/

namespace RoleRemoval

variable {t t' : Tables} {id : RoleId}

/-- A role that goes is dropped from every permittable. -/
theorem permittables (h : RoleRemoval id t t') (key : PermittableId) :
    t'.permittables.get? key = (t.permittables.get? key).map fun p => (p.removeRole id).1 := by
  obtain ⟨hrewrites⟩ := h
  exact hrewrites.permittables key

/-- A role that goes is taken away from the others. -/
theorem roles (h : RoleRemoval id t t') : t'.roles = t.roles.erase id := by
  obtain ⟨hrewrites⟩ := h
  exact congrArg (Table.erase · id) hrewrites.roles

end RoleRemoval

/-- Rows are filed under their own ids, no user has two permittables, and permittables mention only
access roles that are stored. -/
structure Tables.Grounded (t : Tables) : Prop extends t.Keyed where
  stored : ∀ {key p role}, t.permittables.get? key = some p → p.hasRole role = true →
    t.roles.contains role = true

namespace Tables.Grounded

variable {t t' : Tables}

/-- Permittables may list less. -/
theorem of_curtails (h : t.Grounded) (hcurtails : t.Curtails t') (hkeyed : t'.Keyed) :
    t'.Grounded :=
  { hkeyed with
    stored := fun hp' hrole => by
      obtain ⟨p, hp, hless⟩ := hcurtails.permittables hp'
      rw [hcurtails.roles]
      exact h.stored hp (hless.hasRole hrole) }

/-- An access role may be filed. -/
theorem of_roleFiling (h : t.Grounded) (hfiling : RoleFiling t t') : t'.Grounded := by
  have hkeyed := h.toKeyed.of_roleFiling hfiling
  obtain ⟨role⟩ := hfiling
  exact { hkeyed with
    stored := fun hp hrole => (Table.contains_insert ..).2 (.inr (h.stored hp hrole)) }

/-- An access role may be taken from everyone and go. -/
theorem of_roleRemoval (h : t.Grounded) {id : RoleId} (hremoval : RoleRemoval id t t') :
    t'.Grounded := by
  have hkeyed := h.toKeyed.of_roleRemoval hremoval
  refine { hkeyed with stored := fun {key p role} hp hrole => ?_ }
  obtain ⟨q, hq, rfl⟩ := Option.map_eq_some_iff.1 ((hremoval.permittables key).symm.trans hp)
  obtain ⟨hother, hrole⟩ := Permittable.hasRole_removeRole.1 hrole
  rw [hremoval.roles]
  exact (Table.contains_erase ..).2 ⟨hother.symm, h.stored hq hrole⟩

/-- A permittable may be filed that lists what is stored or what was listed before. -/
theorem of_grant (h : t.Grounded) (hgrant : Grant t t') : t'.Grounded := by
  have hkeyed := h.toKeyed.of_grant hgrant
  obtain ⟨-, -, hroles, hbindings⟩ := hgrant
  refine { hkeyed with stored := fun {key p role} hp hrole => ?_ }
  obtain ⟨rfl, rfl⟩ | ⟨-, hp⟩ := Table.get?_insert_eq_some.1 hp
  · obtain hlisted | ⟨binding, hbinding, rfl⟩ := Permittable.hasRole_iff.1 hrole
    · obtain hthere | ⟨key, before, hbefore, hlisted⟩ := hroles role hlisted
      · exact hthere
      · exact h.stored hbefore (Permittable.hasRole_iff.2 (.inl hlisted))
    · obtain ⟨-, hthere⟩ | ⟨key, before, hbefore, hbinding⟩ := hbindings binding hbinding
      · exact hthere
      · exact h.stored hbefore (Permittable.hasRole_iff.2 (.inr ⟨binding, hbinding, rfl⟩))
  · exact h.stored hp hrole

end Tables.Grounded

namespace Operation

variable {operation : Operation}

/-- To change a workspace is not to govern access roles. -/
theorem not_governs_of_edited {id : WorkspaceId} (hid : operation.edited? = some id) :
    ¬ operation.Governs := by
  cases operation with
  | createRole | updateRole | removeRole | updatePermittable | addWorkspaceRole => exact nomatch hid
  | _ => exact fun hgoverns => hgoverns

/-- To take users out of a workspace is not to govern access roles. -/
theorem not_governs_of_leaving {id : WorkspaceId} {leaving : List UserId}
    (hleaving : operation.leaving? = some (id, leaving)) : ¬ operation.Governs := by
  cases operation with
  | createRole | updateRole | removeRole | updatePermittable | addWorkspaceRole =>
    exact nomatch hleaving
  | _ => exact fun hgoverns => hgoverns

end Operation

/-- Every operation keeps access roles stored that permittables mention. -/
theorem Operation.Effect.grounded {operator held : Operator} {operation : Operation} {t t' : Tables}
    (heffect : Effect operator t operation held t') (h : t.Grounded) : t'.Grounded := by
  have hkeyed := heffect.keyed h.toKeyed
  by_cases hordinary : ¬ operation.Governs
  · exact h.of_curtails (heffect.curtails hordinary h.toKeyed) hkeyed
  · cases heffect with
    | createRole heffect | updateRole heffect => exact h.of_roleFiling heffect
    | removeRole heffect => exact h.of_roleRemoval heffect
    | updatePermittable heffect | addNewRole heffect => exact h.of_grant heffect
    | addKnownRole => exact h
    | edit hid => exact absurd (Operation.not_governs_of_edited hid) hordinary
    | leave hleaving => exact absurd (Operation.not_governs_of_leaving hleaving) hordinary
    | _ => exact absurd (fun hgoverns => hgoverns) hordinary

/-- Along every run, access roles that permittables mention stay stored. -/
theorem Store.grounded_after {store : Store} (h : store.tables.Grounded) (calls : List Call) :
    (store.after calls).tables.Grounded := by
  induction calls generalizing store with
  | nil => exact h
  | cons call rest ih =>
    have hnext : (call.perform store).2.tables.Grounded := by
      obtain ⟨error, hcall⟩ | ⟨held, store', hcall, heffect⟩ := call.perform_cases h.filed
      · rw [hcall]
        exact h
      · rw [hcall]
        exact heffect.grounded h
    exact ih hnext

/-! ## What checks come to -/

namespace Tables

variable {t t' : Tables} {policy : Policy} {user : UserId} {resource : Resource} {action : String}
  {id : RoleId}

/-- Once an access role has gone, users are permitted what they were permitted by another role. -/
theorem permits_roleRemoval_iff (hremoval : RoleRemoval id t t') :
    t'.Permits policy user resource action ↔
      ∃ key p other role, t.permittables.get? key = some p ∧ p.user = user ∧
        (other ≠ id ∧ p.Holds resource.workspace other) ∧ t.roles.get? other = some role ∧
        policy.Covers role.name resource.kind action := by
  constructor
  · rintro ⟨key, p', other, role, hp', huser, hholds, hrole, hcovers⟩
    obtain ⟨p, hp, rfl⟩ := Option.map_eq_some_iff.1 ((hremoval.permittables key).symm.trans hp')
    rw [hremoval.roles] at hrole
    exact ⟨key, p, other, role, hp, huser, Permittable.holds_removeRole.1 hholds,
      (Table.get?_erase_eq_some.1 hrole).2, hcovers⟩
  · rintro ⟨key, p, other, role, hp, huser, hholds, hrole, hcovers⟩
    refine ⟨key, (p.removeRole id).1, other, role, ?_, huser, Permittable.holds_removeRole.2 hholds,
      ?_, hcovers⟩
    · exact (hremoval.permittables key).trans (congrArg (Option.map _) hp)
    · rw [hremoval.roles]
      exact Table.get?_erase_eq_some.2 ⟨hholds.1.symm, hrole⟩

/-- Once an access role has gone, users are permitted nothing that they were not permitted before. -/
theorem permits_of_roleRemoval (hremoval : RoleRemoval id t t')
    (h : t'.Permits policy user resource action) : t.Permits policy user resource action := by
  obtain ⟨key, p, other, role, hp, huser, ⟨-, hholds⟩, hrole, hcovers⟩ :=
    (permits_roleRemoval_iff hremoval).1 h
  exact ⟨key, p, other, role, hp, huser, hholds, hrole, hcovers⟩

/-- Once an access role has gone, users who did not hold it are permitted what they were before. -/
theorem permits_roleRemoval_iff_of_not_holds (hremoval : RoleRemoval id t t')
    (hnot : ∀ key p, t.permittables.get? key = some p → p.user = user →
      ¬ p.Holds resource.workspace id) :
    t'.Permits policy user resource action ↔ t.Permits policy user resource action := by
  refine ⟨permits_of_roleRemoval hremoval, ?_⟩
  rintro ⟨key, p, other, role, hp, huser, hholds, hrole, hcovers⟩
  refine (permits_roleRemoval_iff hremoval).2
    ⟨key, p, other, role, hp, huser, ⟨?_, hholds⟩, hrole, hcovers⟩
  rintro rfl
  exact hnot key p hp huser hholds

/-- An access role that is new under its id permits nobody anything. -/
theorem permits_newRole_iff (hgrounded : t.Grounded) {role : AccessRole}
    (hfree : t.roles.get? role.id = none) :
    Permits { t with roles := t.roles.insert role.id role } policy user resource action ↔
      t.Permits policy user resource action := by
  refine exists_congr fun key => exists_congr fun p => exists_congr fun held =>
    exists_congr fun stored => and_congr_right fun hp => and_congr_right fun _ =>
      and_congr_right fun hholds => and_congr_left fun _ => ?_
  have hthere := hgrounded.stored hp hholds.hasRole
  rw [Table.get?_insert, if_neg]
  rintro rfl
  exact nomatch hthere.symm.trans (Table.contains_eq_false_iff.2 hfree)

end Tables

/-- A check is answered with yes exactly when something is permitted. -/
theorem Permissions.answer_eq_ok_true {policy : Policy} {user : UserId} {resource : Resource}
    {action : String} {directory : Directory} (hkeyed : directory.store.tables.Keyed)
    {moment : Moment} :
    ((check policy user resource action).perform moment directory).1 = .ok true ↔
      directory.store.tables.Permits policy user resource action := by
  rw [perform_check, Except.ok.injEq, Tables.allows_roleNames_iff hkeyed]

/-- Checks come to the same answer where the same is permitted. -/
theorem Permissions.answer_congr {policy : Policy} {user : UserId} {resource : Resource}
    {action : String} {directory directory' : Directory} (hkeyed : directory.store.tables.Keyed)
    (hkeyed' : directory'.store.tables.Keyed)
    (hsame : directory'.store.tables.Permits policy user resource action ↔
      directory.store.tables.Permits policy user resource action) (moment moment' : Moment) :
    ((check policy user resource action).perform moment' directory').1 =
      ((check policy user resource action).perform moment directory).1 := by
  rw [perform_check, perform_check, Except.ok.injEq, Bool.eq_iff_iff,
    Tables.allows_roleNames_iff hkeyed, Tables.allows_roleNames_iff hkeyed']
  exact hsame

namespace AccessRoles

/-- Where permittables mention only stored access roles, all checks come to the same answer before and
after a role is created under a free id. -/
theorem answer_create {directory created : Directory} (hgrounded : directory.store.tables.Grounded)
    {name : String} {role : AccessRole} {moment : Moment}
    (hcreate : (create name).perform moment directory = (.ok role, created))
    (hfree : directory.store.tables.roles.get? role.id = none) (policy : Policy) (user : UserId)
    (resource : Resource) (action : String) (moment₁ moment₂ : Moment) :
    ((Permissions.check policy user resource action).perform moment₂ created).1 =
      ((Permissions.check policy user resource action).perform moment₁ directory).1 := by
  have hcreated := hgrounded.of_roleFiling (create_effect hcreate)
  obtain ⟨-, -, htables⟩ := create_inversion hcreate
  refine Permissions.answer_congr hgrounded.toKeyed hcreated.toKeyed ?_ moment₁ moment₂
  rw [htables]
  exact Tables.permits_newRole_iff hgrounded hfree

/-- Where rows are filed under their own ids, no user has two permittables and permittables mention
only stored access roles, a role that is removed is revoked for good. No permittable mentions it any
more, and of what permittables list nothing else is touched. Whoever did not hold it within the
workspace of a resource gets the same answers there as before, and nobody may do more than before.
And whatever operations follow, when a role is created under a free id, be it with the same name,
all answers remain the same. -/
theorem revokes_for_good (directory : Directory) (hgrounded : directory.store.tables.Grounded)
    {id : RoleId} {moment : Moment} {directory' : Directory}
    (h : (remove id).perform moment directory = (.ok (), directory')) :
    let t := directory.store.tables
    let t' := directory'.store.tables
    let answer (directory : Directory) (moment : Moment) (policy : Policy) (user : UserId)
        (resource : Resource) (action : String) :=
      ((Permissions.check policy user resource action).perform moment directory).1
    (∀ key p, t'.permittables.get? key = some p → p.hasRole id = false) ∧
    (∀ key, t'.permittables.get? key = (t.permittables.get? key).map fun p =>
      { p with roles := p.roles.filter (· ≠ id), bindings := p.bindings.filter (·.role ≠ id) }) ∧
    (∀ moment moment' policy user resource action,
      (∀ key p, t.permittables.get? key = some p → p.user = user →
        ¬ p.Holds resource.workspace id) →
      answer directory' moment' policy user resource action =
        answer directory moment policy user resource action) ∧
    (∀ moment moment' policy user resource action,
      answer directory' moment' policy user resource action = .ok true →
        answer directory moment policy user resource action = .ok true) ∧
    ∀ calls drawn moment name role created,
      let later : Directory := { store := directory'.store.after calls, drawn }
      (create name).perform moment later = (.ok role, created) →
        later.store.tables.roles.get? role.id = none →
          ∀ moment moment' policy user resource action,
            answer created moment' policy user resource action =
              answer later moment policy user resource action := by
  intro t t' answer
  have hremoval := remove_effect hgrounded.filed h
  have hgrounded' := hgrounded.of_roleRemoval hremoval
  have hrows := hremoval.permittables
  refine ⟨?_, hrows, ?_, ?_, ?_⟩
  · intro key p' hp'
    obtain ⟨p, -, rfl⟩ := Option.map_eq_some_iff.1 ((hrows key).symm.trans hp')
    exact Bool.eq_false_iff.2 fun hmentioned => (Permittable.hasRole_removeRole.1 hmentioned).1 rfl
  · intro moment moment' policy user resource action hnot
    exact Permissions.answer_congr hgrounded.toKeyed hgrounded'.toKeyed
      (Tables.permits_roleRemoval_iff_of_not_holds hremoval hnot) moment moment'
  · intro moment moment' policy user resource action hallowed
    have hpermits := (Permissions.answer_eq_ok_true hgrounded'.toKeyed).1 hallowed
    exact (Permissions.answer_eq_ok_true hgrounded.toKeyed).2
      (Tables.permits_of_roleRemoval hremoval hpermits)
  · intro calls drawn moment name role created later hcreate hfree moment₁ moment₂ policy user
      resource action
    have hlater : later.store.tables.Grounded := Store.grounded_after hgrounded' calls
    exact answer_create hlater hcreate hfree policy user resource action moment₁ moment₂

end AccessRoles

/-! ### A clerk no more

Bob is a clerk in the team until there are no clerks any more.
-/

namespace Permissions.Clerk

open Http (TwoGrants.bob TwoGrants.moment)
open Http.Leaving (directory tables)

/-- A moment at which an id is drawn. -/
def drawing (id : String) : Moment :=
  { TwoGrants.moment with ids := fun _ => id }

/-- Somebody creates the role of an auditor. -/
def auditing : Call where
  moment := drawing "auditor"
  defaultPolicy := none
  operator := {}
  operation := .createRole "auditor"

/-- Without the role of a clerk bob may not approve invoices any more, and that does not change when
there are clerks again. -/
theorem revokes_clerk :
    ∃ gone role created, (AccessRoles.remove ⟨"clerk"⟩).perform TwoGrants.moment directory =
        (.ok (), gone) ∧
      (AccessRoles.create "clerk").perform (drawing "new-clerk")
        { store := gone.store.after [auditing], drawn := 0 } = (.ok role, created) ∧
      ((check policy TwoGrants.bob.id (invoice (some ⟨"team"⟩)) "approve").perform TwoGrants.moment
        directory).1 = .ok true ∧
      ((check policy TwoGrants.bob.id (invoice (some ⟨"team"⟩)) "approve").perform TwoGrants.moment
        created).1 = .ok false := by
  have hgrounded : directory.store.tables.Grounded :=
    { (by decide : directory.store.tables.Keyed) with
      stored := by
        intro key p role hp hrole
        obtain ⟨rfl, rfl⟩ | ⟨-, hnone⟩ := Table.get?_insert_eq_some.1 hp
        · obtain hlisted | ⟨binding, hbinding, rfl⟩ := Permittable.hasRole_iff.1 hrole
          · exact nomatch hlisted
          · obtain rfl := List.mem_singleton.1 hbinding
            decide
        · exact nomatch hnone }
  have hgone : (AccessRoles.remove ⟨"clerk"⟩).perform TwoGrants.moment directory = (.ok (), _) :=
    rfl
  obtain ⟨-, -, -, -, hforgood⟩ := AccessRoles.revokes_for_good directory hgrounded hgone
  have hsame := hforgood [auditing] 0 (drawing "new-clerk") "clerk" _ _ rfl (by decide)
    TwoGrants.moment TwoGrants.moment policy TwoGrants.bob.id (invoice (some ⟨"team"⟩)) "approve"
  exact ⟨_, _, _, hgone, rfl, rfl, hsame.trans rfl⟩

end Permissions.Clerk

end Roster
