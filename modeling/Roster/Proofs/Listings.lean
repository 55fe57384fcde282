import Mathlib.Data.List.Basic
import Roster.Proofs.Actions
import Roster.Proofs.Sweeps
import Roster.Service.Grants

/-!
# Who holds access roles

The listing of those who hold access roles is put together from three tables: the permittables say who
holds what, and the users and the roles are looked up. Every user with a role that holds everywhere is
listed once, with just these roles. Both the users and the roles of each are in the order of their
names, and those of one name in the order in which they are filed, since sorting leaves them so.
-/

namespace Roster

/-! ## Sorting by name -/

section Sorting

variable {α : Type} (name : α → String)

/-- An item may stay before another one unless its name comes later. -/
theorem mayPrecede_iff {a b : α} : (!decide (name b < name a)) = true ↔ name a ≤ name b := by
  rw [Bool.not_eq_true', decide_eq_false_iff_not, String.not_lt]

/-- Who may stay before someone who may stay before a third may stay before the third. -/
theorem mayPrecede_trans (a b c : α) (hab : (!decide (name b < name a)) = true)
    (hbc : (!decide (name c < name b)) = true) : (!decide (name c < name a)) = true := by
  rw [mayPrecede_iff] at hab hbc ⊢
  exact String.le_trans hab hbc

/-- Of two items one may stay before the other. -/
theorem mayPrecede_total (a b : α) :
    (!decide (name b < name a) || !decide (name a < name b)) = true := by
  rw [Bool.or_eq_true, mayPrecede_iff, mayPrecede_iff]
  exact String.le_total ..

/-- Sorting keeps the items of one name as they are. -/
theorem filter_sortByName (items : List α) (n : String) :
    (sortByName name items).filter (fun a => name a = n) = items.filter fun a => name a = n := by
  have hsorted : (items.filter fun a => name a = n).Pairwise fun a b =>
      (!decide (name b < name a)) = true := by
    refine List.pairwise_of_forall_mem_list fun a ha b hb => (mayPrecede_iff name).2 ?_
    have ha : name a = n := of_decide_eq_true (List.mem_filter.1 ha).2
    have hb : name b = n := of_decide_eq_true (List.mem_filter.1 hb).2
    exact ha ▸ hb ▸ String.le_refl n
  -- They are in order already, so they are found among the sorted items as they are, and there are no
  -- more of them.
  have hthere := (List.sublist_mergeSort (mayPrecede_trans name) (mayPrecede_total name) hsorted
    List.filter_sublist).filter fun a => name a = n
  simp only [List.filter_filter, Bool.and_self] at hthere
  exact (hthere.eq_of_length ((List.mergeSort_perm ..).filter _).length_eq.symm).symm

/-- Sorting orders items by their names, and leaves items of one name in the order they were in. -/
theorem pairwise_sortByName {R : α → α → Prop} {items : List α} (h : items.Pairwise R) :
    (sortByName name items).Pairwise fun a b => name a < name b ∨ name a = name b ∧ R a b := by
  have hnames := List.pairwise_mergeSort (mayPrecede_trans name) (mayPrecede_total name) items
  rw [List.pairwise_iff_forall_sublist] at hnames h ⊢
  intro a b hab
  have hle := (mayPrecede_iff name).1 (hnames hab)
  by_cases heq : name a = name b
  · refine .inr ⟨heq, h (.trans ?_ (List.filter_sublist (p := fun c => name c = name b)))⟩
    rw [← filter_sortByName]
    simpa [heq] using hab.filter fun c => name c = name b
  · exact .inl (String.not_le.1 fun hge => heq (String.le_antisymm hle hge))

end Sorting

/-! ## Permittables in the order of their ids -/

/-- Names are in order, and below one name ids are. -/
def InOrder {kind : Entity} (a b : String × Ident kind) : Prop :=
  a.1 < b.1 ∨ a.1 = b.1 ∧ a.2 < b.2

/-- Nothing comes before itself. -/
theorem InOrder.irrefl {kind : Entity} {a : String × Ident kind} : ¬ InOrder a a := by
  rintro (hlt | ⟨-, hlt⟩)
  · exact String.lt_irrefl _ hlt
  · exact Ident.lt_irrefl _ hlt

/-- Rows that are filed under their own ids are listed in the order of these. -/
theorem Table.pairwise_values {kind : Entity} {ρ : Type} {table : Table kind ρ}
    {own : ρ → Ident kind} (h : ∀ {key row}, table.get? key = some row → own row = key) :
    table.values.Pairwise fun a b => own a < own b := by
  rw [Table.values, List.pairwise_map]
  refine table.sorted.imp_of_mem fun ha hb hlt => ?_
  rwa [h (Table.get?_eq_some_iff.2 ha), h (Table.get?_eq_some_iff.2 hb)]

/-- A user has a permittable. -/
structure Tables.HasPermittable (t : Tables) (user : UserId) (p : Permittable) : Prop where
  filed : t.permittables.get? p.id = some p
  user : p.user = user

/-- Access roles are those that a permittable gives everywhere, each once and in the order of their
names. -/
structure Tables.ListsRoles (t : Tables) (p : Permittable) (roles : List AccessRole) : Prop where
  mem : ∀ id, id ∈ roles.map AccessRole.id ↔ id ∈ p.roles
  stored : ∀ role ∈ roles, t.roles.get? role.id = some role
  once : (roles.map AccessRole.id).Nodup
  ordered : roles.Pairwise fun a b => InOrder (a.name, a.id) (b.name, b.id)

namespace Tables.Keyed

variable {t : Tables} {user : UserId} {p q : Permittable}

/-- Every listed permittable is filed under its own id. -/
theorem mem_permittables (h : t.Keyed) :
    p ∈ t.permittables.values ↔ t.HasPermittable p.user p := by
  rw [Table.mem_values_iff]
  constructor
  · rintro ⟨key, hp⟩
    exact ⟨h.permittables hp ▸ hp, rfl⟩
  · rintro ⟨hp, -⟩
    exact ⟨p.id, hp⟩

/-- No user has two permittables. -/
theorem permittable_unique (h : t.Keyed) (hp : t.HasPermittable user p)
    (hq : t.HasPermittable user q) : p = q := by
  have hid := h.onePermittable hp.filed hq.filed (hp.user.trans hq.user.symm)
  exact Option.some.inj (hp.filed.symm.trans (hid ▸ hq.filed))

/-- Whoever looks for the permittable of a user finds it. -/
theorem find?_permittable (h : t.Keyed) (hp : t.HasPermittable user p) :
    t.permittables.values.find? (·.user = user) = some p := by
  refine Table.find?_values_eq_some.2 ⟨p.id, hp.filed, decide_eq_true hp.user, ?_⟩
  intro other r hr hlt
  refine decide_eq_false fun hr_user => ?_
  have hsame := h.onePermittable hr hp.filed (hr_user.trans hp.user.symm)
  exact Ident.lt_irrefl _ (hsame ▸ hlt)

end Tables.Keyed

namespace Grants

variable {t : Tables}

/-- The access roles that a permittable gives everywhere, as they are listed. -/
def rolesOf (t : Tables) (p : Permittable) : List AccessRole :=
  (sortByName AccessRole.name t.roles.values).filter (·.id ∈ p.roles)

/-- The entry of a permittable in the listing, if there is one. -/
def holder? (t : Tables) (p : Permittable) : Option RoleHolder :=
  (t.users.get? p.user).bind fun user =>
    if (rolesOf t p).isEmpty then none else some { user, roles := rolesOf t p }

/-- A user is listed with the roles of their permittable, unless there are none. -/
theorem holder?_eq_some {p : Permittable} {entry : RoleHolder} :
    holder? t p = some entry ↔ t.users.get? p.user = some entry.user ∧ rolesOf t p ≠ [] ∧
      entry.roles = rolesOf t p := by
  obtain ⟨user, roles⟩ := entry
  simp only [holder?, Option.bind_eq_some_iff, Option.ite_none_left_eq_some, Option.some.injEq,
    RoleHolder.mk.injEq, List.isEmpty_iff]
  constructor
  · rintro ⟨_, huser, hsome, rfl, rfl⟩
    exact ⟨huser, hsome, rfl⟩
  · rintro ⟨huser, hsome, rfl⟩
    exact ⟨user, huser, hsome, rfl, rfl⟩

/-- The roles that are listed are those of the permittable, each once and in order. -/
theorem listsRoles_rolesOf (hkeyed : t.Keyed) {p : Permittable}
    (hstored : ∀ role ∈ p.roles, t.roles.contains role = true) : t.ListsRoles p (rolesOf t p) := by
  have hmem {role : AccessRole} :
      role ∈ rolesOf t p ↔ t.roles.get? role.id = some role ∧ role.id ∈ p.roles := by
    rw [rolesOf, List.mem_filter, sortByName, List.mem_mergeSort, Table.mem_values_iff,
      decide_eq_true_iff]
    refine and_congr_left fun _ => ⟨?_, fun hrole => ⟨_, hrole⟩⟩
    rintro ⟨key, hrole⟩
    exact hkeyed.roles hrole ▸ hrole
  have hordered : (rolesOf t p).Pairwise fun a b => InOrder (a.name, a.id) (b.name, b.id) :=
    (pairwise_sortByName AccessRole.name (Table.pairwise_values hkeyed.roles)).filter _
  refine ⟨fun id => ?_, fun role hrole => (hmem.1 hrole).1, ?_, hordered⟩
  · rw [List.mem_map]
    constructor
    · rintro ⟨role, hrole, rfl⟩
      exact (hmem.1 hrole).2
    · intro hid
      obtain ⟨role, hrole⟩ := Table.contains_iff.1 (hstored id hid)
      have hid' := hkeyed.roles hrole
      exact ⟨role, hmem.2 ⟨hid' ▸ hrole, hid' ▸ hid⟩, hid'⟩
  · -- Two roles under one id are one role, and no role comes before itself.
    rw [List.Nodup, List.pairwise_map]
    refine hordered.imp_of_mem fun {a b} ha hb hlt hid => ?_
    have hsame := (hmem.1 ha).1.symm.trans (hid ▸ (hmem.1 hb).1)
    obtain rfl := Option.some.inj hsame
    exact InOrder.irrefl hlt

/-- The entries of all permittables, in the order of the names of the users. -/
def listing (t : Tables) : List RoleHolder :=
  sortByName (·.user.name) (t.permittables.values.filterMap (holder? t))

/-- This is what the operation returns, and it changes nothing. -/
theorem perform_holders (hkeyed : t.Keyed) {moment : Moment} {directory : Directory}
    (ht : directory.store.tables = t) :
    holders.perform moment directory = (.ok (listing t), directory) := by
  have hperform : holders.perform moment directory =
      (.ok (sortByName (·.user.name) ((((t.permittables.values.map Permittable.user).filterMap
        t.users.get?).map fun user =>
          { user, roles := rolesHeld t.permittables.values
              (sortByName AccessRole.name t.roles.values) user : RoleHolder }).filter
                (!·.roles.isEmpty))), directory) := by
    rw [holders, Usecase.perform_runPlain, ← ht]
    rfl
  rw [hperform, listing, List.filterMap_map, List.map_filterMap, List.filter_filterMap]
  congr 3
  refine List.filterMap_congr fun p hp => ?_
  have hpermittable := hkeyed.mem_permittables.1 hp
  cases huser : t.users.get? p.user with
  | none => simp [holder?, huser]
  | some user =>
    have hfound := hkeyed.find?_permittable hpermittable
    rw [← hkeyed.users huser] at hfound
    have hheld : rolesHeld t.permittables.values (sortByName AccessRole.name t.roles.values) user =
        rolesOf t p := by
      simp only [rolesHeld, hfound, rolesOf]
    simp only [holder?, Function.comp_apply, huser, Option.map_some, hheld, Option.bind_some]
    cases rolesOf t p <;> rfl

/-- Users are listed who have a permittable with roles that are found, and with these roles. -/
theorem mem_listing (hkeyed : t.Keyed) {entry : RoleHolder} :
    entry ∈ listing t ↔ t.users.get? entry.user.id = some entry.user ∧
      ∃ p, t.HasPermittable entry.user.id p ∧ rolesOf t p ≠ [] ∧ entry.roles = rolesOf t p := by
  simp only [listing, sortByName, List.mem_mergeSort, List.mem_filterMap, holder?_eq_some]
  constructor
  · rintro ⟨p, hp, huser, hsome, hroles⟩
    rw [hkeyed.users huser]
    exact ⟨huser, p, hkeyed.mem_permittables.1 hp, hsome, hroles⟩
  · rintro ⟨huser, p, hp, hsome, hroles⟩
    exact ⟨p, hkeyed.mem_permittables.2 ⟨hp.filed, rfl⟩, hp.user ▸ huser, hsome, hroles⟩

/-- The users are in the order of their names, and those of one name in the order of the ids of their
permittables. -/
theorem ordered_listing (hkeyed : t.Keyed) :
    (listing t).Pairwise fun a b => ∀ p q, t.HasPermittable a.user.id p →
      t.HasPermittable b.user.id q → InOrder (a.user.name, p.id) (b.user.name, q.id) := by
  have hown {p q : Permittable} {entry : RoleHolder} (hp : p ∈ t.permittables.values)
      (hentry : holder? t p = some entry) (hq : t.HasPermittable entry.user.id q) : q = p := by
    rw [hkeyed.users (holder?_eq_some.1 hentry).1] at hq
    exact hkeyed.permittable_unique hq (hkeyed.mem_permittables.1 hp)
  have hids : (t.permittables.values.filterMap (holder? t)).Pairwise fun a b =>
      ∀ p q, t.HasPermittable a.user.id p → t.HasPermittable b.user.id q → p.id < q.id := by
    rw [List.pairwise_filterMap]
    refine (Table.pairwise_values hkeyed.permittables).imp_of_mem ?_
    intro p q hp hq hlt a ha b hb p' q' hp' hq'
    rwa [hown hp ha hp', hown hq hb hq']
  refine (pairwise_sortByName _ hids).imp ?_
  rintro a b (hname | ⟨hname, hids⟩) p q hp hq
  · exact .inl hname
  · exact .inr ⟨hname, hids p q hp hq⟩

/-- No user is listed twice, since neither of two entries of one user would come before the other. -/
theorem nodup_listing (hkeyed : t.Keyed) : ((listing t).map (·.user.id)).Nodup := by
  rw [List.Nodup, List.pairwise_map]
  refine (ordered_listing hkeyed).imp_of_mem fun {a b} ha hb hlt hid => ?_
  obtain ⟨ha, p, hp, -⟩ := (mem_listing hkeyed).1 ha
  obtain ⟨hb, -⟩ := (mem_listing hkeyed).1 hb
  have hlt := hlt p p hp (hid ▸ hp)
  rw [hid, hb] at ha
  rw [Option.some.inj ha] at hlt
  exact InOrder.irrefl hlt

/-- Where rows are filed under their own ids, no user has two permittables, and permittables give stored
access roles only, the listing of those who hold access roles never fails and changes nothing. A stored
user is listed exactly if their permittable gives them some role everywhere, nobody else is, and nobody
is listed twice; the roles listed are all that it gives them everywhere, each once, in the order of
their names. The users are in the order of their names, and those of one name in the order of the ids
of their permittables. -/
theorem holders_complete (moment : Moment) (directory : Directory)
    (hkeyed : directory.store.tables.Keyed)
    (hroles : ∀ {key p role}, directory.store.tables.permittables.get? key = some p →
      role ∈ p.roles → directory.store.tables.roles.contains role = true) :
    let t := directory.store.tables
    ∃ entries, holders.perform moment directory = (.ok entries, directory) ∧
      (entries.map (·.user.id)).Nodup ∧
      (∀ key user, t.users.get? key = some user →
        ((∃ entry ∈ entries, entry.user = user) ↔
          ∃ p, t.HasPermittable user.id p ∧ p.roles ≠ [])) ∧
      (∀ entry ∈ entries, t.users.get? entry.user.id = some entry.user ∧
        ∃ p, t.HasPermittable entry.user.id p ∧ t.ListsRoles p entry.roles) ∧
      entries.Pairwise fun a b => ∀ p q, t.HasPermittable a.user.id p →
        t.HasPermittable b.user.id q → InOrder (a.user.name, p.id) (b.user.name, q.id) := by
  intro t
  have hlists {user : UserId} {p : Permittable} (hp : t.HasPermittable user p) :
      t.ListsRoles p (rolesOf t p) :=
    listsRoles_rolesOf hkeyed fun _ => hroles hp.filed
  refine ⟨listing t, perform_holders hkeyed rfl, nodup_listing hkeyed, fun key user huser => ?_,
    fun entry hentry => ?_, ordered_listing hkeyed⟩
  · constructor
    · rintro ⟨entry, hentry, rfl⟩
      obtain ⟨-, p, hp, hsome, -⟩ := (mem_listing hkeyed).1 hentry
      obtain ⟨role, hrole⟩ := List.exists_mem_of_ne_nil _ hsome
      exact ⟨p, hp, List.ne_nil_of_mem (((hlists hp).mem role.id).1 (List.mem_map_of_mem hrole))⟩
    · rintro ⟨p, hp, hsome⟩
      obtain ⟨id, hid⟩ := List.exists_mem_of_ne_nil _ hsome
      obtain ⟨role, hrole, -⟩ := List.mem_map.1 (((hlists hp).mem id).2 hid)
      exact ⟨⟨user, rolesOf t p⟩, (mem_listing hkeyed).2
        ⟨hkeyed.users huser ▸ huser, p, hp, List.ne_nil_of_mem hrole, rfl⟩, rfl⟩
  · obtain ⟨huser, p, hp, -, hlisted⟩ := (mem_listing hkeyed).1 hentry
    exact ⟨huser, p, hp, hlisted ▸ hlists hp⟩

end Grants

/-! ### Two users of one name -/

namespace Grants.Office

/-- A user under an id. -/
def account (id name : String) : User where
  id := ⟨id⟩
  name
  email := id ++ "@example.com"
  identities := []
  workspace := ⟨id ++ "-home"⟩
  profile := {}
  updatedAt := .epoch

/-- Sam, whose id comes first. -/
def sam : User :=
  account "a" "Sam"

/-- Another Sam, whose permittable comes first. -/
def otherSam : User :=
  account "b" "Sam"

/-- Al, who holds a role in one workspace only. -/
def al : User :=
  account "c" "Al"

/-- What the other Sam holds. -/
def both : Permittable :=
  { id := ⟨"1"⟩, user := otherSam.id, roles := [⟨"1"⟩, ⟨"2"⟩, ⟨"1"⟩], bindings := [] }

/-- What Sam holds. -/
def single : Permittable :=
  { id := ⟨"2"⟩, user := sam.id, roles := [⟨"2"⟩], bindings := [] }

/-- What Al holds. -/
def bound : Permittable :=
  { id := ⟨"3"⟩, user := al.id, roles := [], bindings := [⟨⟨"team"⟩, ⟨"1"⟩⟩] }

/-- The three users with their permittables, and two roles. -/
def tables : Tables where
  users := ((Table.empty.insert sam.id sam).insert otherSam.id otherSam).insert al.id al
  roles := (Table.empty.insert ⟨"1"⟩ ⟨⟨"1"⟩, "clerk"⟩).insert ⟨"2"⟩ ⟨⟨"2"⟩, "admin"⟩
  permittables := ((Table.empty.insert both.id both).insert single.id single).insert bound.id bound

/-- A directory with these tables. -/
def directory : Directory where
  store := { tables, file := none, attached := false }

/-- Both who are called Sam are listed, one after the other, and the other Sam with two roles; Al is
not listed. -/
theorem holders_office :
    ∃ entries, holders.perform .epoch directory = (.ok entries, directory) ∧
      (∃ entry ∈ entries, entry.user = sam) ∧ (¬ ∃ entry ∈ entries, entry.user = al) ∧
      ∃ entry ∈ entries, entry.user = otherSam ∧
        ∀ id, id ∈ entry.roles.map AccessRole.id ↔ id = ⟨"1"⟩ ∨ id = ⟨"2"⟩ := by
  have hkeyed : tables.Keyed := by decide
  have hstored {key : PermittableId} {p : Permittable} {role : RoleId}
      (hp : tables.permittables.get? key = some p) (hrole : role ∈ p.roles) :
      tables.roles.contains role = true := by
    have hall : ∀ p ∈ tables.permittables.values, ∀ role ∈ p.roles,
        tables.roles.contains role = true := by decide
    exact hall p (Table.mem_values_iff.2 ⟨key, hp⟩) role hrole
  obtain ⟨entries, hperform, -, hlisted, hroles, -⟩ :=
    holders_complete .epoch directory hkeyed hstored
  have hboth : tables.HasPermittable otherSam.id both := ⟨by decide, rfl⟩
  have hsingle : tables.HasPermittable sam.id single := ⟨by decide, rfl⟩
  have hbound : tables.HasPermittable al.id bound := ⟨by decide, rfl⟩
  refine ⟨entries, hperform, (hlisted sam.id sam (by decide)).2 ⟨single, hsingle, by decide⟩, ?_, ?_⟩
  · intro hlisted_al
    obtain ⟨p, hp, hsome⟩ := (hlisted al.id al (by decide)).1 hlisted_al
    exact hsome (hkeyed.permittable_unique hp hbound ▸ rfl)
  · obtain ⟨entry, hentry, huser⟩ :=
      (hlisted otherSam.id otherSam (by decide)).2 ⟨both, hboth, by decide⟩
    obtain ⟨-, p, hp, hlists⟩ := hroles entry hentry
    rw [huser] at hp
    obtain rfl := hkeyed.permittable_unique hp hboth
    refine ⟨entry, hentry, huser, fun id => (hlists.mem id).trans ?_⟩
    simp [both, or_comm]

end Grants.Office

end Roster
