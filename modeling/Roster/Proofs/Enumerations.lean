import Roster.Proofs.Memberships

/-!
# Members in whatever order they come

Members need not be kept in any order: what is looked up among them may come in another order each
time. The lists of their ids are sorted afterwards, and who asks for the only owner takes no more than
two owners as they come. So it is the same whatever the order was.
-/

namespace Roster

variable {kind : Entity}

/-- The last id first. -/
def descending (ids : List (Ident kind)) : List (Ident kind) :=
  ids.mergeSort fun a b => !decide (a < b)

/-- The first item to come that passes a test, if any does, and the items that are still to come. -/
def pull {α : Type} (test : α → Bool) : List α → Option α × List α
  | [] => (none, [])
  | a :: rest => if test a then (some a, rest) else pull test rest

/-- An order in which the users and the integrations may come. -/
structure Members.Enumeration (members : Members) where
  users : List (UserId × Member)
  integrations : List (IntegrationId × Member)
  users_perm : users.Perm members.users.rows
  integrations_perm : integrations.Perm members.integrations.rows

namespace Members.Enumeration

variable {members : Members}

/-- They may come in the order of their ids. -/
instance : Inhabited members.Enumeration :=
  ⟨members.users.rows, members.integrations.rows, .refl _, .refl _⟩

/-- The ids of the users, the last one first. -/
def userIds (order : members.Enumeration) : List UserId :=
  descending (order.users.map (·.1))

/-- The ids of the integrations, the last one first. -/
def integrationIds (order : members.Enumeration) : List IntegrationId :=
  descending (order.integrations.map (·.1))

/-- The ids of the users with a role, the last one first. -/
def usersByRole (order : members.Enumeration) (role : Role) : List UserId :=
  descending ((order.users.filter fun entry => entry.2.role = role).map (·.1))

/-- Whether a user is the first owner to come, and no other one does. -/
def isOnlyOwner (order : members.Enumeration) (user : UserId) : Bool :=
  let (first, rest) := pull (fun entry => entry.2.role = .owner) order.users
  let (second, _) := pull (fun entry => entry.2.role = .owner) rest
  match first, second with
  | some (id, _), none => id = user
  | _, _ => false

end Members.Enumeration

/-! ## Sorting and pulling -/

/-- Ids that come in any order are the last one first when they are sorted. -/
theorem descending_eq_reverse {ids sorted : List (Ident kind)} (hperm : ids.Perm sorted)
    (hsorted : sorted.Pairwise (· < ·)) : descending ids = sorted.reverse := by
  have hmayPrecede {a b : Ident kind} : (!decide (a < b)) = true ↔ b.text ≤ a.text := by
    rw [Bool.not_eq_true', decide_eq_false_iff_not]
    exact String.not_lt
  have hdescends : (descending ids).Pairwise fun a b => (!decide (a < b)) = true := by
    refine List.pairwise_mergeSort (fun a b c hab hbc => ?_) (fun a b => ?_) ids
    · rw [hmayPrecede] at hab hbc ⊢
      exact String.le_trans hbc hab
    · rw [Bool.or_eq_true, hmayPrecede, hmayPrecede]
      exact String.le_total ..
  have hreverse : sorted.reverse.Pairwise fun a b => (!decide (a < b)) = true := by
    refine List.pairwise_reverse.2 (hsorted.imp fun hab => hmayPrecede.2 ?_)
    exact String.not_lt.1 fun hba => Ident.lt_irrefl _ (Ident.lt_trans hab hba)
  refine List.Perm.eq_of_pairwise (fun a b _ _ hab hba => ?_) hdescends hreverse
    ((List.mergeSort_perm ..).trans (hperm.trans (List.reverse_perm sorted).symm))
  exact Ident.eq_of_not_lt (String.not_lt.2 (hmayPrecede.1 hab)) (String.not_lt.2 (hmayPrecede.1 hba))

variable {α : Type}

/-- What is pulled is the first item that passes. -/
theorem pull_fst (test : α → Bool) (items : List α) :
    (pull test items).1 = (items.filter test).head? := by
  induction items with
  | nil => rfl
  | cons a rest ih => cases ha : test a <;> simp [pull, ha, ih]

/-- What passes among the items that are still to come are the other items that pass. -/
theorem filter_pull_snd (test : α → Bool) (items : List α) :
    (pull test items).2.filter test = (items.filter test).tail := by
  induction items with
  | nil => rfl
  | cons a rest ih => cases ha : test a <;> simp [pull, ha, ih]

/-- The keys of a table are in order. -/
theorem Table.pairwise_keys {ρ : Type} (table : Table kind ρ) : table.keys.Pairwise (· < ·) :=
  List.pairwise_map.2 table.sorted

/-! ## Members by id -/

/-- Some ids list the keys of a table: every key, once, and the last one first. -/
structure Table.Lists {ρ : Type} (table : Table kind ρ) (ids : List (Ident kind)) : Prop where
  mem_iff : ∀ id, id ∈ ids ↔ table.contains id = true
  once : ids.Nodup
  descend : ids.Pairwise fun a b => b < a

/-- A table is listed by its keys in reverse. -/
theorem Table.lists_reverse {ρ : Type} (table : Table kind ρ) : table.Lists table.keys.reverse where
  mem_iff id := by
    rw [List.mem_reverse, keys, List.mem_map, contains_iff]
    simp [get?_eq_some_iff]
  once := List.nodup_reverse.2 table.nodup_keys
  descend := List.pairwise_reverse.2 table.pairwise_keys

namespace Members

/-- The users with a role are those among all users. -/
theorem usersByRole_eq_filter (members : Members) (role : Role) :
    members.usersByRole role =
      members.userIds.filter fun user => members.userRole? user = some role := by
  have hrole : ∀ entry ∈ members.users.rows,
      decide (members.userRole? entry.1 = some role) = decide (entry.2.role = role) := by
    intro entry hentry
    simp [userRole?, Table.get?_eq_some_iff.2 hentry]
  rw [usersByRole, userIds, Table.keys, List.filter_reverse, List.filter_map]
  exact congrArg (fun rows => (rows.map (·.1)).reverse) (List.filter_congr hrole).symm

/-- Nobody has two roles. -/
theorem disjoint_usersByRole (members : Members) {role other : Role} (hne : role ≠ other) :
    (members.usersByRole role).Disjoint (members.usersByRole other) := by
  intro user hrole hother
  obtain ⟨member, hmember, rfl⟩ := mem_usersByRole.1 hrole
  obtain ⟨member', hmember', rfl⟩ := mem_usersByRole.1 hother
  obtain rfl := Option.some.inj (hmember.symm.trans hmember')
  exact hne rfl

/-- The users with one role or another are all users. -/
theorem flatMap_usersByRole_perm (members : Members) :
    (Role.all.flatMap members.usersByRole).Perm members.userIds := by
  have hnodup : (Role.all.flatMap members.usersByRole).Nodup := by
    refine List.nodup_flatMap.2 ⟨fun role _ => members.nodup_usersByRole role, ?_⟩
    have hall : Role.all.Pairwise (· ≠ ·) := by decide
    exact hall.imp members.disjoint_usersByRole
  refine (List.perm_ext_iff_of_nodup hnodup members.users.lists_reverse.once).2 fun user => ?_
  rw [members.users.lists_reverse.mem_iff, Table.contains_iff, List.mem_flatMap]
  simp only [mem_usersByRole]
  constructor
  · rintro ⟨role, -, member, hmember, -⟩
    exact ⟨member, hmember⟩
  · rintro ⟨member, hmember⟩
    exact ⟨member.role, member.role.mem_all, member, hmember, rfl⟩

namespace Enumeration

variable {members : Members} (order : members.Enumeration)

/-- The ids of the users are listed alike in whatever order the users come. -/
theorem userIds_eq : order.userIds = members.userIds :=
  descending_eq_reverse (order.users_perm.map _) members.users.pairwise_keys

/-- The ids of the integrations are listed alike in whatever order the integrations come. -/
theorem integrationIds_eq : order.integrationIds = members.integrationIds :=
  descending_eq_reverse (order.integrations_perm.map _) members.integrations.pairwise_keys

/-- The users with a role are listed alike in whatever order the users come. -/
theorem usersByRole_eq (role : Role) : order.usersByRole role = members.usersByRole role :=
  descending_eq_reverse ((order.users_perm.filter _).map _)
    (List.pairwise_map.2 (members.users.sorted.filter _))

/-- The first owner to come is the only one exactly if there is one owner. -/
theorem isOnlyOwner_eq_true {user : UserId} : order.isOnlyOwner user = true ↔
    (order.users.filter fun entry => entry.2.role = .owner).map (·.1) = [user] := by
  simp only [isOnlyOwner, pull_fst, filter_pull_snd]
  generalize order.users.filter (fun entry => entry.2.role = .owner) = owners
  match owners with
  | [] => simp
  | [owner] => simp
  | first :: second :: rest => simp

/-- Who the only owner is does not depend on the order in which the users come. -/
theorem isOnlyOwner_eq (user : UserId) : order.isOnlyOwner user = members.isOnlyOwner user := by
  have hperm : ((order.users.filter fun entry => entry.2.role = .owner).map (·.1)).Perm
      (members.usersByRole .owner) :=
    ((order.users_perm.filter _).map _).trans (List.reverse_perm _).symm
  rw [Bool.eq_iff_iff, isOnlyOwner_eq_true, ← List.perm_singleton, hperm.congr_left,
    List.perm_singleton, Members.isOnlyOwner, decide_eq_true_iff]

/-- In whatever order the users and the integrations come, and be it another one each time: their ids
list all of them, each once, and the last one first. The users with a role are those among all users,
so that the users with one role or another are all users, and nobody is among them twice. A user is the
only owner exactly if they are all that is listed of the owners. All this is what is known of the
members without an order. -/
theorem listings_agree (order order' : members.Enumeration) :
    members.users.Lists order.userIds ∧
    members.integrations.Lists order.integrationIds ∧
    (∀ role, order.usersByRole role =
      order'.userIds.filter fun user => members.userRole? user = some role) ∧
    (Role.all.flatMap order.usersByRole).Perm order'.userIds ∧
    (∀ {role other}, role ≠ other →
      (order.usersByRole role).Disjoint (order'.usersByRole other)) ∧
    (∀ user, order.isOnlyOwner user = true ↔ order'.usersByRole .owner = [user]) ∧
    order.userIds = members.userIds ∧
    order.integrationIds = members.integrationIds ∧
    (∀ role, order.usersByRole role = members.usersByRole role) ∧
    ∀ user, order.isOnlyOwner user = members.isOnlyOwner user := by
  have hrole (order : members.Enumeration) : order.usersByRole = members.usersByRole :=
    funext order.usersByRole_eq
  rw [order.userIds_eq, order'.userIds_eq, order.integrationIds_eq, hrole order, hrole order']
  refine ⟨members.users.lists_reverse, members.integrations.lists_reverse,
    members.usersByRole_eq_filter, members.flatMap_usersByRole_perm, members.disjoint_usersByRole,
    fun user => ?_, rfl, rfl, fun _ => rfl, order.isOnlyOwner_eq⟩
  rw [isOnlyOwner_eq]
  exact decide_eq_true_iff

end Enumeration

end Members

end Roster
