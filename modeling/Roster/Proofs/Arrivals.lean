import Roster.Proofs.Integrity

/-!
# What a signup adds

Whoever signs up is taken in with a personal workspace of their own, and nothing else changes. The
workspace never takes the place of another one. The account takes the place of another one exactly
when its id is taken, which nobody checks; an id that is drawn is new, but a chosen one need not be.
-/

namespace Roster

namespace Tables

/-- The tables take in a user with a home: both are filed, the home under an id that was free, and
everything else is as it was. -/
structure TakesIn (user : User) (home : Workspace) (t t' : Tables) : Prop where
  users : t'.users = t.users.insert user.id user
  workspaces : t'.workspaces = t.workspaces.insert home.id home
  newHome : t.workspaces.get? home.id = none
  homed : user.workspace = home.id
  homeOf : home.HomeOf user
  roles : t'.roles = t.roles
  permittables : t'.permittables = t.permittables

/-- The tables gain a user with a home: they take them in, and no account had the id of the user. -/
structure Gains (user : User) (home : Workspace) (t t' : Tables) : Prop
    extends t.TakesIn user home t' where
  newUser : t.users.get? user.id = none

variable {t t' : Tables} {user row : User} {home : Workspace} {id : UserId}

/-- Whoever has another id than the user who is taken in stays as they are. -/
theorem TakesIn.kept (h : t.TakesIn user home t') (hother : user.id ≠ id) :
    t'.users.get? id = t.users.get? id := by
  rw [h.users, Table.get?_insert, if_neg hother]

/-- When a user is gained, everybody who was there stays as they are. -/
theorem Gains.kept (h : t.Gains user home t') (hrow : t.users.get? id = some row) :
    t'.users.get? id = some row := by
  rw [h.toTakesIn.kept, hrow]
  rintro rfl
  exact nomatch hrow.symm.trans h.newUser

end Tables

namespace Accounts

variable {defaultPolicy : Option PolicyId} {request : Signup} {moment : Moment}
  {directory directory' : Directory} {user : User} {home : Workspace}

/-- Whoever signs up is taken in, under the id they chose or else the first one drawn. -/
theorem takesIn_of_signup
    (h : (signup defaultPolicy request).perform moment directory = (.ok (user, home), directory')) :
    directory.store.tables.TakesIn user home directory'.store.tables ∧
      user.id = request.user.getD ⟨moment.ids directory.drawn⟩ := by
  obtain ⟨email, homeId, created, hbuild, hcreate, rfl, -, hfree, -, htables⟩ := signup_inversion h
  obtain ⟨rfl, -, hmembers, hname, -⟩ := Workspace.of_build rfl rfl rfl hbuild
  obtain ⟨hid, hhome, htrimmed, htitled, -⟩ := User.of_create hcreate
  obtain ⟨hid', hhome', hname', -⟩ := created.elim_addIdentity request.identity moment.now
  rw [htrimmed] at htitled
  have hhomeOf : home.HomeOf (request.identity.elim created
      fun identity => (created.addIdentity identity moment.now).1) :=
    { personal := by
        rw [Workspace.isPersonal, hmembers]
        rfl
      sole := ⟨_, by rw [hmembers, hid', hid]; rfl, rfl⟩
      name := hname.trans (htitled.trans (hname'.trans htrimmed).symm) }
  rw [htables]
  exact ⟨⟨rfl, rfl, hfree, hhome'.trans hhome, hhomeOf, rfl, rfl⟩, hid'.trans hid⟩

/-- Whoever signs up is taken in, and nobody loses their account to them exactly when the id that
they chose, or else the one drawn for them, is that of no account. -/
theorem gains_iff
    (h : (signup defaultPolicy request).perform moment directory = (.ok (user, home), directory')) :
    let t := directory.store.tables
    let t' := directory'.store.tables
    t.TakesIn user home t' ∧ (t.Gains user home t' ↔
      t.users.contains (request.user.getD ⟨moment.ids directory.drawn⟩) = false) := by
  obtain ⟨htakes, hid⟩ := takesIn_of_signup h
  refine ⟨htakes, ?_⟩
  rw [Table.contains_eq_false_iff, ← hid]
  exact ⟨Tables.Gains.newUser, fun hnew => { htakes with newUser := hnew }⟩

end Accounts

/-! ### A choice of an id that is taken -/

namespace Accounts.TakenId

/-- A signup with ids of one's own choice. -/
def choosing (name email id home : String) : Signup :=
  { name, email, user := some ⟨id⟩, workspace := some ⟨home⟩ }

/-- The account of somebody who has chosen their ids, and their home. -/
def account (name email id home : String) : User × Workspace :=
  ({ id := ⟨id⟩
     name
     email
     identities := []
     workspace := ⟨home⟩
     profile := {}
     updatedAt := .epoch },
    { id := ⟨home⟩
      name
      aliasName := ""
      email := ""
      profile := {}
      members := .ofOwner ⟨id⟩ true
      policy := none
      updatedAt := .epoch })

/-- Ann has signed up in an empty store. -/
def directory : Directory where
  store := (Store.blank 0 none false).after
    [{ moment := .epoch
       defaultPolicy := none
       operator := {}
       operation := .signup (choosing "Ann" "ann@example.com" "ann" "ann-home") }]

/-- Bob chooses an id that nobody has, and is gained; ann stays as she is. -/
theorem gains_bob :
    let ann := account "Ann" "ann@example.com" "ann" "ann-home"
    let bob := account "Bob" "bob@example.com" "bob" "bob-home"
    ∃ directory', (signup none (choosing "Bob" "bob@example.com" "bob" "bob-home")).perform .epoch
        directory = (.ok bob, directory') ∧
      directory.store.tables.Gains bob.1 bob.2 directory'.store.tables ∧
      directory'.store.tables.users.get? ⟨"ann"⟩ = some ann.1 := by
  have hdone : ((signup none (choosing "Bob" "bob@example.com" "bob" "bob-home")).perform .epoch
      directory).1 = .ok (account "Bob" "bob@example.com" "bob" "bob-home") := by decide +kernel
  have hfree : directory.store.tables.users.contains ⟨"bob"⟩ = false := by decide +kernel
  have hann : directory.store.tables.users.get? ⟨"ann"⟩ =
      some (account "Ann" "ann@example.com" "ann" "ann-home").1 := by decide +kernel
  have hgains := (gains_iff (Prod.ext hdone rfl)).2.2 hfree
  exact ⟨_, Prod.ext hdone rfl, hgains, hgains.kept hann⟩

/-- Eve chooses the id of ann, and takes the place of her account. -/
theorem not_gains_eve :
    let ann := account "Ann" "ann@example.com" "ann" "ann-home"
    let eve := account "Eve" "eve@example.com" "ann" "eve-home"
    ∃ directory', (signup none (choosing "Eve" "eve@example.com" "ann" "eve-home")).perform .epoch
        directory = (.ok eve, directory') ∧
      directory.store.tables.users.get? ⟨"ann"⟩ = some ann.1 ∧
      directory'.store.tables.users.get? ⟨"ann"⟩ = some eve.1 ∧
      ¬ directory.store.tables.Gains eve.1 eve.2 directory'.store.tables := by
  have hdone : ((signup none (choosing "Eve" "eve@example.com" "ann" "eve-home")).perform .epoch
      directory).1 = .ok (account "Eve" "eve@example.com" "ann" "eve-home") := by decide +kernel
  have hann : directory.store.tables.users.get? ⟨"ann"⟩ =
      some (account "Ann" "ann@example.com" "ann" "ann-home").1 := by decide +kernel
  exact ⟨_, Prod.ext hdone rfl, hann, by decide +kernel,
    fun hgains => nomatch hann.symm.trans hgains.newUser⟩

end Accounts.TakenId

end Roster
