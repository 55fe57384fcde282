import Roster.Proofs.IdentityKeys

/-!
# Who is found by a search

A search goes through the users in the order of their ids and stops at the first who has the given
name or the given address. Addresses are told apart, but names are free and may look like addresses.
So whoever is called by the address of another user, and comes before them, is found in their place.
-/

namespace Roster

/-- The first user with a name or with the address of a stored user is the owner of the address
exactly when nobody who comes before them has the name. -/
theorem Tables.Identifying.find?_name_or_address {t : Tables} (h : t.Identifying) {id : UserId}
    {owner : User} (howner : t.users.get? id = some owner) (name : String) :
    ∃ first found,
      t.users.values.find? (fun user => user.name = name || user.email = owner.email) =
        some found ∧
      t.users.get? first = some found ∧ (found = owner ∨ found.name = name) ∧
      (∀ other user, t.users.get? other = some user → other < first →
        user ≠ owner ∧ user.name ≠ name) ∧
      (found = owner ↔ ∀ other user, t.users.get? other = some user → other < id →
        user.name ≠ name) := by
  let test (user : User) : Bool := user.name = name || user.email = owner.email
  have htest {user : User} : test user = true ↔ user.name = name ∨ user.email = owner.email := by
    simp only [test, Bool.or_eq_true, decide_eq_true_eq]
  -- Nobody but the owner has the address.
  have hmine {other : UserId} {user : User} (huser : t.users.get? other = some user)
      (hemail : user.email = owner.email) : other = id ∧ user = owner := by
    obtain rfl := h.emails huser howner hemail
    exact ⟨rfl, Option.some.inj (huser.symm.trans howner)⟩
  obtain ⟨found, hfind⟩ : ∃ found, t.users.values.find? test = some found := by
    have hpasses : ∃ user ∈ t.users.values, test user = true :=
      ⟨owner, Table.mem_values_iff.2 ⟨id, howner⟩, htest.2 (.inr rfl)⟩
    exact Option.isSome_iff_exists.1 (List.find?_isSome.2 hpasses)
  obtain ⟨first, hfirst, hfound, hearlier⟩ := Table.find?_values_eq_some.1 hfind
  have hnot {other : UserId} {user : User} (huser : t.users.get? other = some user)
      (hlt : other < first) : user.name ≠ name ∧ user.email ≠ owner.email :=
    not_or.1 (mt htest.2 (Bool.eq_false_iff.1 (hearlier other user huser hlt)))
  refine ⟨first, found, hfind, hfirst,
    (htest.1 hfound).symm.imp_left fun hemail => (hmine hfirst hemail).2,
    fun other user huser hlt => ?_, ?_, fun hnobody => ?_⟩
  · refine ⟨?_, (hnot huser hlt).1⟩
    rintro rfl
    exact (hnot huser hlt).2 rfl
  · rintro rfl other user huser hlt
    obtain ⟨rfl, -⟩ := hmine hfirst rfl
    exact (hnot huser hlt).1
  · obtain hname | hemail := htest.1 hfound
    · -- Neither the one who is found nor the owner comes before the other.
      have hbefore : ¬ first < id := fun hlt => hnobody first found hfirst hlt hname
      have hafter : ¬ id < first := fun hlt => (hnot howner hlt).2 rfl
      obtain rfl := Ident.eq_of_not_lt hbefore hafter
      exact Option.some.inj (hfirst.symm.trans howner)
    · exact (hmine hfirst hemail).2

namespace Accounts

variable {operator : Operator} {caller : UserId}

/-- A search by a user comes to the first user with the name or the address, if there is one, and
changes nothing. -/
theorem perform_search (hcaller : operator.user = some caller) (text : String) (moment : Moment)
    (directory : Directory) :
    (search text operator).perform moment directory =
      (.ok (directory.store.tables.users.values.find? fun user =>
        user.name = Text.trim text || user.email = foldEmail text), directory) := by
  rw [search, Action.perform_bind, Action.perform_ofExcept, Operator.actor_eq_ok.2 hcaller]
  dsimp only
  rw [Usecase.perform_runPlain_queryOptional]
  exact congrArg (·, directory) (optional_found _ _)

/-- However an empty store has been used, a search for the address of a stored user, in any
spelling, finds a stored user and changes nothing. It is the first one, in the order of the ids, who
owns the address or is called by the text without its blank ends; so it is the owner of the address
exactly when nobody who comes before them is called so. -/
theorem search_finds_first (label : Nat) (file : Option String) (attached : Bool)
    (calls : List Call) (hcaller : operator.user = some caller) {id : UserId} {owner : User}
    (howner : ((Store.blank label file attached).after calls).tables.users.get? id = some owner)
    {text : String} (htext : foldEmail text = owner.email) (moment : Moment) (drawn : Nat) :
    let directory : Directory := { store := (Store.blank label file attached).after calls, drawn }
    let users := directory.store.tables.users
    ∃ first found, (search text operator).perform moment directory = (.ok (some found), directory) ∧
      users.get? first = some found ∧ (found = owner ∨ found.name = Text.trim text) ∧
      (∀ other user, users.get? other = some user → other < first →
        user ≠ owner ∧ user.name ≠ Text.trim text) ∧
      (found = owner ↔ ∀ other user, users.get? other = some user → other < id →
        user.name ≠ Text.trim text) := by
  intro directory users
  have hidentifying := Store.identifying_after label file attached calls
  obtain ⟨first, found, hfind, hfirst, hfound, hearlier, hiff⟩ :=
    hidentifying.find?_name_or_address howner (Text.trim text)
  rw [← htext] at hfind
  exact ⟨first, found, (perform_search hcaller text moment directory).trans
    (congrArg (fun found => (Except.ok found, directory)) hfind), hfirst, hfound, hearlier, hiff⟩

end Accounts

/-! Adam has signed up under the address of bob as his name, and his id comes first. -/

namespace Accounts.Namesake

/-- A signup under a chosen id, which is that of the home too. -/
def signingUp (name email id : String) : Call where
  moment := .epoch
  defaultPolicy := none
  operator := {}
  operation := .signup { name, email, user := some ⟨id⟩, workspace := some ⟨id⟩ }

/-- Adam has signed up before bob. -/
def calls : List Call :=
  [signingUp "bob@example.com" "adam@example.com" "adam", signingUp "Bob" "bob@example.com" "bob"]

/-- The store in which both have signed up. -/
def directory : Directory :=
  { store := (Store.blank 0 none false).after calls, drawn := 0 }

/-- Bob, who searches for himself. -/
def operator : Operator :=
  { user := some ⟨"bob"⟩ }

/-- The user who has signed up under a chosen id. -/
def account (name email id : String) : User where
  id := ⟨id⟩
  name
  email
  identities := []
  workspace := ⟨id⟩
  profile := {}
  updatedAt := .epoch

/-- Adam, who is called by the address of bob. -/
def adam : User :=
  account "bob@example.com" "adam@example.com" "adam"

/-- Bob, who owns the address. -/
def bob : User :=
  account "Bob" "bob@example.com" "bob"

/-- Both are stored. -/
theorem users_eq : directory.store.tables.users.values = [adam, bob] := by
  decide +kernel

/-- In capitals the address of bob is nobody's name, and bob is found. -/
theorem finds_bob : foldEmail " BOB@example.com" = bob.email ∧
    (search " BOB@example.com" operator).perform .epoch directory =
      (.ok (some bob), directory) := by
  have hbob : directory.store.tables.users.get? ⟨"bob"⟩ = some bob := by decide +kernel
  have hfold : foldEmail " BOB@example.com" = bob.email := by decide +kernel
  have hnames : ∀ user ∈ directory.store.tables.users.values,
      user.name ≠ Text.trim " BOB@example.com" := by
    rw [users_eq]
    decide +kernel
  obtain ⟨first, found, hperform, -, -, -, howner⟩ :=
    search_finds_first 0 none false calls (rfl : operator.user = _) hbob hfold .epoch 0
  obtain rfl := howner.2 fun other user huser _ =>
    hnames user (Table.mem_values_iff.2 ⟨other, huser⟩)
  exact ⟨hfold, hperform⟩

/-- The address as it is stored is the name of adam, and adam is found in the place of bob. -/
theorem not_finds_bob :
    directory.store.tables.users.get? ⟨"bob"⟩ = some bob ∧ foldEmail "bob@example.com" = bob.email ∧
      (search "bob@example.com" operator).perform .epoch directory =
        (.ok (some adam), directory) ∧ adam ≠ bob := by
  have hfirst : directory.store.tables.users.values.find? (fun user =>
      user.name = Text.trim "bob@example.com" || user.email = foldEmail "bob@example.com") =
        some adam := by
    rw [users_eq]
    decide +kernel
  refine ⟨by decide +kernel, by decide +kernel, ?_, by decide⟩
  rw [perform_search (rfl : operator.user = _)]
  exact congrArg (fun o => (Except.ok o, directory)) hfirst

end Accounts.Namesake

end Roster
