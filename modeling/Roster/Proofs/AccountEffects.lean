import Roster.Proofs.Folding
import Roster.Proofs.WorkspaceEffects
import Roster.Service.Accounts

/-!
# What operations on accounts come to

Signing up files a user and their personal workspace; a user who changes their name changes the
name of that workspace; and a user who goes for good is taken out of every table.
-/

namespace Roster

/-- The tables with one user filed under their own id. -/
def Tables.fileUser (t : Tables) (user : User) : Tables :=
  { t with users := t.users.insert user.id user }

/-- No other user than the one with the same id has the address of a user. -/
def Tables.AddressFree (t : Tables) (user : User) : Prop :=
  ∀ key other, t.users.get? key = some other → other.id ≠ user.id → other.email ≠ user.email

/-- No user at all logs in as a subject. -/
def Tables.SubjectFree (t : Tables) (subject : String) : Prop :=
  ∀ key other, t.users.get? key = some other → other.hasSubject subject = false

/-- A new user with a new personal workspace, which bears their name and has no alias. The id of the
workspace was free; the user is filed under their id whether it was free or not, but their address
and their subjects were free. -/
inductive Arrival (t : Tables) : Tables → Prop
  | intro {user : User} {home : Workspace} (hhome : user.workspace = home.id)
    (hname : home.name = user.name) (htitled : Workspace.titled user.name = user.name)
    (hfree : t.workspaces.get? home.id = none) (hid : home.id.text.isEmpty = false)
    (hmembers : home.members = .ofOwner user.id true) (halias : home.aliasName = "")
    (hemail : normalizeEmail user.email = .ok user.email) (haddress : t.AddressFree user)
    (hsubjects : ∀ identity ∈ user.identities, t.SubjectFree identity.subject) :
    Arrival t ((t.fileUser user).fileWorkspace home)

/-- A user changes what is stored about them, but not how they log in, and takes only an address that
is free; their personal workspace keeps bearing their name. -/
inductive SelfChange (operator : Operator) (t : Tables) : Tables → Prop
  | sameName {me : UserId} {user user' : User} (hactor : operator.user = some me)
    (huser : t.users.get? me = some user) (hid : user'.id = user.id)
    (hhome : user'.workspace = user.workspace) (hname : user'.name = user.name)
    (hidentities : user'.identities = user.identities)
    (hemail : user'.email = user.email ∨ normalizeEmail user'.email = .ok user'.email)
    (haddress : t.AddressFree user') :
    SelfChange operator t (t.fileUser user')
  | newName {me : UserId} {user user' : User} {home home' : Workspace}
    (hactor : operator.user = some me) (huser : t.users.get? me = some user)
    (hid : user'.id = user.id) (hhome : user'.workspace = user.workspace)
    (hshows : t.Shows user.workspace home) (hid' : home'.id = home.id)
    (hmembers : home'.members = home.members) (hname : home'.name = user'.name)
    (htitled : Workspace.titled user'.name = user'.name)
    (hidentities : user'.identities = user.identities)
    (hemail : user'.email = user.email ∨ normalizeEmail user'.email = .ok user'.email)
    (haddress : t.AddressFree user') (halias : home'.aliasName = home.aliasName)
    (hrest : home' = { home with name := home'.name, updatedAt := home'.updatedAt }) :
    SelfChange operator t ((t.fileWorkspace home').fileUser user')

namespace User

variable {user user' : User} {now : Time.Instant}

/-- A name that passes the check is the name without blank ends, and is not blank. -/
theorem titled_of_checkName {name checked : String} (h : checkName name = .ok checked) :
    checked = Text.trim name ∧ Workspace.titled checked = checked := by
  unfold checkName at h
  dsimp only at h
  split at h
  · exact nomatch h
  · rename_i hblank
    obtain rfl := ok_eq_ok_comm.1 h
    refine ⟨rfl, ?_⟩
    simp only [Workspace.titled, Text.trim_trim, if_neg hblank]

/-- A new account has the id and the workspace it was given, a checked name, an address in its stored
form, and no identities yet. -/
theorem of_create {id : UserId} {name email : String} {home : WorkspaceId}
    (h : create id name email home now = .ok user) :
    user.id = id ∧ user.workspace = home ∧ user.name = Text.trim name ∧
      Workspace.titled user.name = user.name ∧
      normalizeEmail user.email = .ok user.email ∧ user.identities = [] := by
  simp only [create, bind_eq_ok, pure_eq_ok] at h
  obtain ⟨checked, hchecked, _, hemail, rfl⟩ := h
  obtain ⟨rfl, htitled⟩ := titled_of_checkName hchecked
  exact ⟨rfl, rfl, rfl, htitled, normalizeEmail_of_normalizeEmail hemail, rfl⟩

/-- A user is the same but for their name, their profile and the time, and an address that is new is
in its stored form. -/
structure Revised (user user' : User) : Prop where
  id : user'.id = user.id
  workspace : user'.workspace = user.workspace
  identities : user'.identities = user.identities
  email : user'.email = user.email ∨ normalizeEmail user'.email = .ok user'.email

/-- What has been revised may be revised again. -/
theorem Revised.trans {user'' : User} (h : user.Revised user') (h' : user'.Revised user'') :
    user.Revised user'' where
  id := h'.id.trans h.id
  workspace := h'.workspace.trans h.workspace
  identities := h'.identities.trans h.identities
  email := by
    obtain hsame | hnormal := h'.email
    · rw [hsame]
      exact h.email
    · exact .inr hnormal

/-- A user under another name is otherwise the same, and the name is a checked one. -/
theorem of_rename {name : String} (h : user.rename name now = .ok user') :
    user.Revised user' ∧ Workspace.titled user'.name = user'.name := by
  simp only [rename, bind_eq_ok, pure_eq_ok] at h
  obtain ⟨checked, hchecked, rfl⟩ := h
  exact ⟨⟨rfl, rfl, rfl, .inl rfl⟩, (titled_of_checkName hchecked).2⟩

/-- A user under another name bears the time. -/
theorem updatedAt_of_rename {name : String} (h : user.rename name now = .ok user') :
    user'.updatedAt = now := by
  simp only [rename, bind_eq_ok, pure_eq_ok] at h
  obtain ⟨_, -, rfl⟩ := h
  rfl

/-- A user with another e-mail address is otherwise the same. -/
theorem of_updateEmail {email : String} (h : user.updateEmail email now = .ok user') :
    user.Revised user' ∧ user'.name = user.name := by
  simp only [updateEmail, bind_eq_ok, pure_eq_ok] at h
  obtain ⟨_, hemail, rfl⟩ := h
  exact ⟨⟨rfl, rfl, rfl, .inr (normalizeEmail_of_normalizeEmail hemail)⟩, rfl⟩

/-- A user with another e-mail address bears the time. -/
theorem updatedAt_of_updateEmail {email : String} (h : user.updateEmail email now = .ok user') :
    user'.updatedAt = now := by
  simp only [updateEmail, bind_eq_ok, pure_eq_ok] at h
  obtain ⟨_, -, rfl⟩ := h
  rfl

/-- A user who is given an identity, if any, is otherwise who they were. -/
theorem elim_addIdentity (user : User) (identity : Option Identity) (now : Time.Instant) :
    let user' := identity.elim user fun identity => (user.addIdentity identity now).1
    user'.id = user.id ∧ user'.workspace = user.workspace ∧ user'.name = user.name ∧
      user'.email = user.email ∧
      ∀ other ∈ user'.identities, other ∈ user.identities ∨ identity = some other := by
  cases identity with
  | none => exact ⟨rfl, rfl, rfl, rfl, fun _ => .inl⟩
  | some identity =>
    simp only [Option.elim_some, addIdentity]
    split
    · exact ⟨rfl, rfl, rfl, rfl, fun _ => .inl⟩
    · refine ⟨rfl, rfl, rfl, rfl, fun other hother => ?_⟩
      obtain hbefore | hnew := List.mem_append.1 hother
      · exact .inl hbefore
      · exact .inr (by rw [List.mem_singleton.1 hnew])

end User

namespace Accounts

open Program

variable {ids : Nat → String} {s s' : Draft × Nat} {operator : Operator} {u : Unit}
  {moment : Moment} {directory directory' : Directory}

/-- Making sure of an e-mail address changes nothing. -/
theorem ends_emailFree {email : String} {except : Option UserId}
    (h : (emailFree email except).Ends ids s u s') : s' = s :=
  (ends_refuseTaken.1 h).2

/-- Making sure of a subject changes nothing, and a subject that passes is free. -/
theorem ends_subjectFree {subject : String} (h : (subjectFree subject).Ends ids s u s') :
    s' = s ∧ s.1.tables.SubjectFree subject := by
  obtain ⟨⟨found, hfound, hfree⟩, rfl⟩ := ends_refuseTaken.1 h
  cases found with
  | none =>
    have hnone := Except.ok.inj ((optional_found _ _).symm.trans hfound)
    exact ⟨rfl, fun key other => Table.test_of_find?_values_eq_none hnone⟩
  | some user => exact nomatch hfree user rfl

/-- The id is the chosen one, or else the next one drawn, and no table changes. -/
theorem ends_chosenOrDrawn {kind : Entity} {chosen : Option (Ident kind)} {id : Ident kind}
    (h : (chosenOrDrawn chosen).Ends ids s id s') :
    id = chosen.getD ⟨ids s.2⟩ ∧ s'.1 = s.1 := by
  cases chosen with
  | some chosen =>
    obtain ⟨rfl, rfl⟩ := ends_pure.1 h
    exact ⟨rfl, rfl⟩
  | none =>
    obtain ⟨rfl, rfl⟩ := ends_drawId.1 h
    exact ⟨rfl, rfl⟩

/-- What signing up comes to when it succeeds: an account with the identity it came with and its
personal workspace are filed, the account under the chosen id or else the first one drawn, where the
address, the subject and the id of the workspace are free. -/
theorem signup_inversion {defaultPolicy : Option PolicyId} {request : Signup} {user : User}
    {home : Workspace}
    (h : (signup defaultPolicy request).perform moment directory = (.ok (user, home), directory')) :
    let id := request.user.getD ⟨moment.ids directory.drawn⟩
    ∃ email homeId created,
      (personalPlan homeId id request.name defaultPolicy).build moment.now = .ok home ∧
      User.create id request.name email home.id moment.now = .ok created ∧
      user = request.identity.elim created
        (fun identity => (created.addIdentity identity moment.now).1) ∧
      directory.store.tables.AddressFree user ∧
      directory.store.tables.workspaces.get? home.id = none ∧
      (∀ identity, request.identity = some identity →
        directory.store.tables.SubjectFree identity.subject) ∧
      directory'.store.tables = (directory.store.tables.fileUser user).fileWorkspace home := by
  simp -zeta only [signup, Action.perform_bind_eq_ok, Action.perform_ofExcept, Action.perform_now,
    Prod.mk.injEq, ok_eq_ok_comm,
    Usecase.perform_run_eq_ok (rfl : ({ transactional := true } : Usecase).transactional = true)]
    at h
  obtain ⟨email, _, ⟨-, rfl⟩, now, _, ⟨rfl, rfl⟩, -, draft, drawn, store, hends, hcommit, rfl⟩ := h
  rw [ends_bind] at hends
  obtain ⟨_, _, hemail, hends⟩ := hends
  obtain rfl := ends_emailFree hemail
  extract_lets go at hends
  have hgo : (go ()).Ends moment.ids (Usecase.opening directory) (user, home) (draft, drawn) ∧
      ∀ identity, request.identity = some identity →
        directory.store.tables.SubjectFree identity.subject := by
    split at hends
    · rename_i identity hidentity
      obtain ⟨_, _, hsubject, hends⟩ := ends_bind.1 hends
      obtain ⟨rfl, hfree⟩ := ends_subjectFree hsubject
      exact ⟨hends, fun other hother => Option.some.inj (hidentity.symm.trans hother) ▸ hfree⟩
    · rename_i hnone
      exact ⟨hends, fun identity hidentity => absurd hidentity (hnone identity)⟩
  obtain ⟨hgo, hsubjects⟩ := hgo
  simp only [go, ends_bind, ends_ofExcept, ends_command, ends_pure, Command.apply_saveUser,
    Command.apply_createWorkspace] at hgo
  obtain ⟨id, s₁, hid, homeId, s₂, hhomeId, ws, s₃, ⟨hbuild, rfl⟩, created, s₄, ⟨hcreate, rfl⟩, _, _,
    ⟨_, ⟨haddress, rfl⟩, rfl⟩, _, _, ⟨_, ⟨hfree, rfl⟩, rfl⟩, hvalue, hdraft⟩ := hgo
  obtain ⟨rfl, hafterId⟩ := ends_chosenOrDrawn hid
  have hsame : s₄.1 = (Usecase.opening directory).1 := (ends_chosenOrDrawn hhomeId).2.trans hafterId
  cases hdraft
  cases hvalue
  rw [hsame] at hfree haddress
  refine ⟨email, homeId, created, hbuild, hcreate, rfl, haddress, hfree, hsubjects, ?_⟩
  rw [Store.tables_of_commit hcommit, hsame]
  rfl

/-- A user who signs up arrives with their personal workspace. -/
theorem signup_effect {defaultPolicy : Option PolicyId} {request : Signup} {user : User}
    {home : Workspace}
    (h : (signup defaultPolicy request).perform moment directory = (.ok (user, home), directory')) :
    Arrival directory.store.tables directory'.store.tables := by
  obtain ⟨email, homeId, created, hbuild, hcreate, rfl, haddress, hfree, hsubjects, htables⟩ :=
    signup_inversion h
  obtain ⟨rfl, hempty, hmembers, hname, halias⟩ := Workspace.of_build rfl rfl rfl hbuild
  obtain ⟨huser, hhome, htrimmed, htitled, hnormal, hnew⟩ := User.of_create hcreate
  obtain ⟨huser', hhome', hname', hemail', hidentities⟩ :=
    created.elim_addIdentity request.identity moment.now
  rw [htables]
  refine .intro (hhome'.trans hhome) ?_ ?_ hfree hempty ?_ halias ?_ haddress ?_
  · rw [htrimmed] at htitled
    rw [hname', htrimmed, hname]
    exact htitled
  · rw [hname', htitled]
  · rw [hmembers, huser', huser]
    rfl
  · rw [hemail']
    exact hnormal
  · intro identity hidentity
    refine hsubjects identity ((hidentities identity hidentity).resolve_left ?_)
    rw [hnew]
    exact List.not_mem_nil

/-- A subject that is not blank and that somebody logs in as is answered with this user and their
workspace, and nothing changes; one that nobody logs in as signs up with it as their identity. -/
theorem signupSubject_eq_ok {defaultPolicy : Option PolicyId} {subject email name : String}
    {account : User × Workspace} :
    (signupSubject defaultPolicy subject email name).perform moment directory =
        (.ok account, directory') ↔
      (Text.trim subject).isEmpty = false ∧
        ((directory.store.tables.users.values.find? (·.hasSubject subject) = some account.1 ∧
            directory.store.tables.Shows account.1.workspace account.2 ∧ directory' = directory) ∨
          (directory.store.tables.users.values.find? (·.hasSubject subject) = none ∧
            (signup defaultPolicy { name, email, identity := some (.ofSubject subject) }).perform
              moment directory = (.ok account, directory'))) := by
  have hlook : Roster.optional ((Query.userWithSubject subject).answer directory.store.tables) =
      .ok (directory.store.tables.users.values.find? (·.hasSubject subject)) := optional_found _ _
  unfold signupSubject
  extract_lets go
  cases hblank : (Text.trim subject).isEmpty with
  | true => simp
  | false =>
    rw [if_neg Bool.false_ne_true]
    simp only [go, Action.perform_bind_eq_ok, Usecase.perform_runPlain_queryOptional, Prod.mk.injEq,
      hlook, ok_eq_ok_comm, true_and, and_assoc, exists_and_left, exists_eq_left]
    cases directory.store.tables.users.values.find? (·.hasSubject subject) with
    | none => simp
    | some known =>
      obtain ⟨user, home⟩ := account
      simp only [Action.perform_bind_eq_ok, Usecase.perform_runPlain_query, Action.perform_pure,
        Prod.mk.injEq, Query.answer_workspace, ok_eq_ok_comm, Option.some.injEq, reduceCtorEq,
        false_and, or_false]
      constructor
      · rintro ⟨_, rfl, _, _, ⟨hshows, rfl⟩, ⟨rfl, rfl⟩, rfl⟩
        exact ⟨rfl, hshows, rfl⟩
      · rintro ⟨rfl, hshows, rfl⟩
        exact ⟨_, rfl, _, _, ⟨hshows, rfl⟩, ⟨rfl, rfl⟩, rfl⟩

/-- A subject who logs in changes nothing, unless they are signed up. -/
theorem signupSubject_effect {defaultPolicy : Option PolicyId} {subject email name : String}
    {user : User} {home : Workspace}
    (h : (signupSubject defaultPolicy subject email name).perform moment directory =
      (.ok (user, home), directory')) :
    directory'.store.tables = directory.store.tables ∨
      Arrival directory.store.tables directory'.store.tables := by
  obtain ⟨-, ⟨-, -, rfl⟩ | ⟨-, hsignup⟩⟩ := signupSubject_eq_ok.1 h
  · exact .inl rfl
  · exact .inr (signup_effect hsignup)

/-- A user who changes their name changes that of their personal workspace with it. -/
theorem ends_rename {user user' : User} {name : String} {now : Time.Instant}
    (h : (rename user name now).Ends ids s user' s') :
    ∃ home, user.rename name now = .ok user' ∧ s.1.tables.Shows user.workspace home ∧
      s' = (s.1.putWorkspace (home.rename now user'.name), s.2) := by
  simp only [rename, ends_bind, ends_ofExcept, ends_query, ends_command, ends_pure,
    Command.apply_saveWorkspaces, Query.answer_workspace] at h
  obtain ⟨_, _, ⟨hrename, rfl⟩, home, _, ⟨hshows, rfl⟩, _, _, ⟨_, rfl, rfl⟩, rfl, hs'⟩ := h
  obtain rfl := hs'
  rw [(User.of_rename hrename).1.workspace] at hshows
  exact ⟨home, hrename, hshows, rfl⟩

/-- What a change of the caller comes to when it succeeds: they are filed again, as they were or
with the time, and with a new name their personal workspace is filed under it. -/
theorem updateMe_inversion {change : UserChange} {user' : User}
    (h : (updateMe change operator).perform moment directory = (.ok user', directory')) :
    ∃ me user, operator.user = some me ∧ directory.store.tables.users.get? me = some user ∧
      user.Revised user' ∧ (user' = user ∨ user'.updatedAt = moment.now) ∧
      directory.store.tables.AddressFree user' ∧
      ((user'.name = user.name ∧
          directory'.store.tables = directory.store.tables.fileUser user') ∨
        ∃ home, Workspace.titled user'.name = user'.name ∧
          directory.store.tables.Shows user.workspace home ∧
          directory'.store.tables = (directory.store.tables.fileWorkspace
            (home.rename moment.now user'.name)).fileUser user') := by
  simp -zeta only [updateMe, Action.perform_bind_eq_ok, Action.perform_ofExcept, Action.perform_now,
    Prod.mk.injEq, ok_eq_ok_comm, Operator.actor_eq_ok,
    Usecase.perform_run_eq_ok (rfl : ({ transactional := true } : Usecase).transactional = true)]
    at h
  obtain ⟨me, _, ⟨hactor, rfl⟩, now, _, ⟨rfl, rfl⟩, -, draft, drawn, store, hends, hcommit, rfl⟩ := h
  rw [ends_bind] at hends
  obtain ⟨before, _, hquery, hends⟩ := hends
  obtain ⟨huser, rfl⟩ := ends_query.1 hquery
  extract_lets save profile email at hends
  -- From any user on, the rest saves one that is revised, under the same name and a free address,
  -- and that bears the time unless it is the same one.
  let Fine (next : User → Program User) : Prop := ∀ {w s w' s'},
    (next w).Ends moment.ids s w' s' →
      s'.1 = s.1.putUser w' ∧ w.Revised w' ∧ (w' = w ∨ w'.updatedAt = moment.now) ∧
        w'.name = w.name ∧ s.1.tables.AddressFree w'
  have hsave : Fine (save ()) := by
    intro w s w' s' hends
    simp only [save, ends_bind, ends_command, ends_pure, Command.apply_saveUser] at hends
    obtain ⟨_, _, ⟨_, ⟨haddress, rfl⟩, rfl⟩, rfl, rfl⟩ := hends
    exact ⟨rfl, ⟨rfl, rfl, rfl, .inl rfl⟩, .inl rfl, rfl, haddress⟩
  have hprofile : Fine (profile ()) := by
    intro w s w' s' hends
    simp only [profile] at hends
    split at hends
    · obtain ⟨hdraft, ⟨hid, hhome, hidentities, hemail⟩, hstamp, hkept⟩ := hsave hends
      refine ⟨hdraft, ⟨hid, hhome, hidentities, hemail⟩, .inr ?_, hkept⟩
      obtain rfl | hnow := hstamp
      · rfl
      · exact hnow
    · exact hsave hends
  have hemail : Fine (email ()) := by
    intro w s w' s' hends
    simp only [email] at hends
    split at hends
    · simp only [ends_bind, ends_ofExcept] at hends
      obtain ⟨_, _, ⟨-, rfl⟩, _, _, hfree, w₁, _, ⟨hchanged, rfl⟩, hends⟩ := hends
      obtain rfl := ends_emailFree hfree
      obtain ⟨hrevised, hname⟩ := User.of_updateEmail hchanged
      obtain ⟨hdraft, hrevised', hstamp, hname', haddress⟩ := hprofile hends
      refine ⟨hdraft, hrevised.trans hrevised', .inr ?_, hname'.trans hname, haddress⟩
      obtain rfl | hnow := hstamp
      · exact User.updatedAt_of_updateEmail hchanged
      · exact hnow
    · exact hprofile hends
  rw [Query.answer_user] at huser
  split at hends
  · obtain ⟨w, s₁, hrename, hends⟩ := ends_bind.1 hends
    obtain ⟨home, hrenamed, hshows, rfl⟩ := ends_rename hrename
    obtain ⟨hrevised, htitled⟩ := User.of_rename hrenamed
    obtain ⟨hdraft, hrevised', hstamp, hname', haddress⟩ := hemail hends
    refine ⟨me, before, hactor, huser, hrevised.trans hrevised', .inr ?_, haddress,
      .inr ⟨home, ?_, hshows, ?_⟩⟩
    · obtain rfl | hnow := hstamp
      · exact User.updatedAt_of_rename hrenamed
      · exact hnow
    · rw [hname', htitled]
    · rw [Store.tables_of_commit hcommit, show draft = _ from hdraft, hname']
      rfl
  · obtain ⟨hdraft, hrevised, hstamp, hname, haddress⟩ := hemail hends
    refine ⟨me, before, hactor, huser, hrevised, hstamp, haddress, .inl ⟨hname, ?_⟩⟩
    rw [Store.tables_of_commit hcommit, show draft = _ from hdraft]
    rfl

/-- A user changes what is stored about them. -/
theorem updateMe_effect {change : UserChange} {user : User}
    (h : (updateMe change operator).perform moment directory = (.ok user, directory')) :
    SelfChange operator directory.store.tables directory'.store.tables := by
  obtain ⟨me, before, hactor, huser, ⟨hid, hhome, hidentities, hemail⟩, -, haddress,
    ⟨hname, htables⟩ | ⟨home, htitled, hshows, htables⟩⟩ := updateMe_inversion h
  · rw [htables]
    exact .sameName hactor huser hid hhome hname hidentities hemail haddress
  · rw [htables]
    exact .newName hactor huser hid hhome hshows rfl rfl rfl htitled hidentities hemail haddress rfl
      rfl

end Accounts

end Roster
