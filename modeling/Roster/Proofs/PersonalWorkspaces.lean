import Roster.Proofs.Sequels

/-!
# Personal workspaces

A personal workspace is the place of one user until they go for good. Whoever calls, with whatever
operator, it keeps its user and all that it says about itself; only the user changes its name, along
with their own, and only integrations come and go, with whom a default policy may come.
-/

namespace Roster

/-- The operations on the integrations of a workspace. -/
def Operation.Integrates (id : WorkspaceId) : Operation → Prop
  | addIntegrationMember workspace _ _ => workspace = id
  | updateIntegrationMember workspace _ _ => workspace = id
  | removeIntegration workspace _ => workspace = id
  | removeIntegrations workspace _ => workspace = id
  | _ => False

/-- A workspace has kept its users, whether they are fixed, and what it says about itself, except for
its name. -/
structure Workspace.Endures (ws ws' : Workspace) : Prop where
  id : ws'.id = ws.id
  users : ws'.members.users = ws.members.users
  fixed : ws'.members.fixed = ws.members.fixed
  aliasName : ws'.aliasName = ws.aliasName
  email : ws'.email = ws.email
  profile : ws'.profile = ws.profile

/-- What an operation that succeeds makes of the personal workspace of a user: nothing; another name,
when they change their own; other integrations, under the same policy or, if there was none, the
default policy of the operator; or nothing at all is left, when they go for good. -/
inductive Operation.PersonalStep (operator : Operator) (operation : Operation) (user : UserId)
    (ws : Workspace) : Option Workspace → Prop
  | kept : PersonalStep operator operation user ws (some ws)
  | renamed {change : UserChange} {ws' : Workspace} (hupdate : operation = .updateMe change)
    (hself : operator.user = some user)
    (hrest : ws' = { ws with name := ws'.name, updatedAt := ws'.updatedAt }) :
    PersonalStep operator operation user ws (some ws')
  | integrated {ws' : Workspace} (hintegrates : operation.Integrates ws.id)
    (hendures : ws.Endures ws') (hname : ws'.name = ws.name)
    (hpolicy : ws'.policy = ws.policy.or operator.defaultPolicy) :
    PersonalStep operator operation user ws (some ws')
  | removed (hgoing : operation = .removeMe) (hself : operator.user = some user) :
    PersonalStep operator operation user ws none

/-- Every personal workspace has a name that restoring it does not change. -/
def Tables.PersonalTitled (t : Tables) : Prop :=
  ∀ ⦃id ws⦄, t.workspaces.get? id = some ws → ws.isPersonal = true →
    Workspace.titled ws.name = ws.name

namespace Workspace

variable {ws ws' ws'' : Workspace}

/-- The name of a workspace that has been given one is left as it is when it is given again. -/
theorem titled_titled (name : String) : titled (titled name) = titled name := by
  unfold titled
  dsimp only
  split
  · decide
  · rename_i hblank
    rw [Text.trim_trim, if_neg hblank]

/-- A workspace endures itself. -/
theorem Endures.refl (ws : Workspace) : ws.Endures ws :=
  ⟨rfl, rfl, rfl, rfl, rfl, rfl⟩

/-- What has endured may go on to. -/
theorem Endures.trans (h : ws.Endures ws') (h' : ws'.Endures ws'') : ws.Endures ws'' where
  id := h'.id.trans h.id
  users := h'.users.trans h.users
  fixed := h'.fixed.trans h.fixed
  aliasName := h'.aliasName.trans h.aliasName
  email := h'.email.trans h.email
  profile := h'.profile.trans h.profile

end Workspace

/-! ## Names -/

namespace Tables.PersonalTitled

variable {t t' : Tables} {operator held : Operator} {operation : Operation} {ws : Workspace}

/-- A workspace may be filed that has such a name if it is personal. -/
theorem fileWorkspace (h : t.PersonalTitled)
    (hws : ws.isPersonal = true → Workspace.titled ws.name = ws.name) :
    (t.fileWorkspace ws).PersonalTitled := by
  intro id other hother hpersonal
  obtain ⟨-, rfl⟩ | ⟨-, hother⟩ := get?_fileWorkspace.1 hother
  · exact hws hpersonal
  · exact h hother hpersonal

/-- The names of personal workspaces are a matter of the stored workspaces only. -/
theorem congr (h : t.PersonalTitled) (hworkspaces : t'.workspaces = t.workspaces) :
    t'.PersonalTitled := by
  intro id ws hws
  rw [hworkspaces] at hws
  exact h hws

/-- No operation gives a personal workspace another kind of name. -/
theorem of_effect (h : t.PersonalTitled) (heffect : Operation.Effect operator t operation held t') :
    t'.PersonalTitled := by
  cases heffect with
  | createWorkspace heffect =>
    obtain ⟨-, -, -, -, hmembers⟩ := heffect
    refine h.fileWorkspace fun hpersonal => ?_
    rw [Workspace.isPersonal, hmembers] at hpersonal
    exact absurd hpersonal Bool.false_ne_true
  | edit hedited heffect =>
    obtain ⟨-, -, hshows, hid, hchange⟩ := heffect
    obtain ⟨row, -, -, -, -, hname⟩ := hshows.stored
    have hsucceeds := hchange.succeeds hid
    refine h.fileWorkspace fun hpersonal => ?_
    rw [(hsucceeds.personal (hsucceeds.fixed.symm.trans hpersonal)).2, hname,
      Workspace.titled_titled]
  | leave hleaving heffect =>
    obtain ⟨-, -, -, hleft, -, hrewrites⟩ := heffect
    exact (h.congr hrewrites.workspaces).fileWorkspace fun hpersonal =>
      absurd (hleft.open_after.symm.trans hpersonal) Bool.false_ne_true
  | removeWorkspace heffect =>
    obtain ⟨-, -, -, -, hrewrites⟩ := heffect
    intro id ws hws
    rw [hrewrites.workspaces] at hws
    exact h (Table.get?_erase_eq_some.1 hws).2
  | signup heffect | signupNewSubject heffect =>
    obtain ⟨-, hname, htitled⟩ := heffect
    exact Tables.PersonalTitled.fileWorkspace (h.congr rfl) fun _ => by rw [hname, htitled]
  | updateMe heffect =>
    cases heffect with
    | sameName => exact h.congr rfl
    | newName _ _ _ _ _ _ _ hname htitled =>
      exact Tables.PersonalTitled.congr (h.fileWorkspace fun _ => by rw [hname, htitled]) rfl
  | removeMe heffect =>
    obtain ⟨-, -, hfates, hnothing⟩ := heffect
    intro id ws hws hpersonal
    cases hrow : t.workspaces.get? id with
    | none => exact absurd (hws.symm.trans (hnothing hrow)) (Option.some_ne_none ws)
    | some row =>
      have hfate := hfates hrow
      rw [hws] at hfate
      cases hfate with
      | spared => exact h hrow hpersonal
      | left _ _ _ hleft =>
        exact absurd (hleft.open_after.symm.trans hpersonal) Bool.false_ne_true
  | removeRole heffect =>
    obtain ⟨hrewrites⟩ := heffect
    exact h.congr hrewrites.workspaces
  | createRole heffect | updateRole heffect | updatePermittable heffect | addNewRole heffect =>
    obtain ⟨_⟩ := heffect
    exact h.congr rfl
  | signupKnownSubject | addKnownRole => exact h

/-- No call does so either. -/
theorem of_call {store : Store} (h : store.tables.PersonalTitled) (call : Call)
    (hfiled : store.tables.Filed) : (call.perform store).2.tables.PersonalTitled := by
  obtain ⟨error, hfails⟩ | ⟨held, store', hsucceeds, heffect⟩ := call.perform_cases hfiled
  · rw [hfails]
    exact h
  · rw [hsucceeds]
    exact h.of_effect heffect

/-- Neither does any run of calls. -/
theorem after {store : Store} (h : store.tables.PersonalTitled) (hsound : store.tables.Sound)
    (calls : List Call) : (store.after calls).tables.PersonalTitled := by
  induction calls generalizing store with
  | nil => exact h
  | cons call calls ih => exact ih (h.of_call call hsound.filed) (hsound.of_call call)

end Tables.PersonalTitled

/-! ## Steps -/

namespace Operation

variable {operator : Operator} {operation : Operation} {t : Tables} {id : WorkspaceId}
  {row : Workspace} {user : UserId} {member : Member}

/-- A personal workspace that remains has endured. -/
theorem PersonalStep.endures {ws ws' : Workspace}
    (h : PersonalStep operator operation user ws (some ws')) : ws.Endures ws' := by
  cases h with
  | kept => exact .refl ws
  | renamed _ _ hrest =>
    rw [hrest]
    exact ⟨rfl, rfl, rfl, rfl, rfl, rfl⟩
  | integrated _ hendures => exact hendures

/-- An owner's change of a personal workspace is one of its integrations. -/
theorem PersonalStep.of_revises {ws ws' : Workspace} {owner : UserId}
    (hchange : operation.Revises operator t user ws ws') (hedited : operation.edited? = some ws.id)
    (hpersonal : ws.members.fixed = true) (hid : ws'.id = ws.id) :
    PersonalStep operator operation owner ws (some ws') := by
  have hopen {P : Prop} (hopen : ws.members.fixed = false) : P :=
    nomatch hpersonal.symm.trans hopen
  have hintegrated (hintegrates : operation.Integrates ws.id)
      (hchange : ws.members.SameUsers ws'.members ∧ ws.Settled operator ws') :
      PersonalStep operator operation owner ws (some ws') := by
    obtain ⟨⟨husers, hfixed⟩, hname, halias, hemail, hprofile, hpolicy⟩ := hchange
    exact .integrated hintegrates ⟨hid, husers, hfixed, halias, hemail, hprofile⟩ hname hpolicy
  cases operation with
  | updateWorkspace => exact hopen hchange.1
  | addUserMember => exact hopen hchange.1.open_before
  | updateUserMember => exact hopen hchange.2.2.open_before
  | transferOwnership =>
    obtain ⟨-, between, hpromoted, -⟩ := hchange
    exact hopen hpromoted.open_before
  | addIntegrationMember | updateIntegrationMember | removeIntegration | removeIntegrations =>
    exact hintegrated (Option.some.inj hedited) hchange
  | _ => exact nomatch hedited

/-- What becomes of the personal workspace of a user by an operation that succeeds. -/
theorem Sequel.personalStep {after : Option Workspace} (h : Sequel operator t operation id row after)
    (hsound : t.Sound) (htitled : t.PersonalTitled) (hrow : t.workspaces.get? id = some row)
    (hpersonal : row.isPersonal = true) (hsole : row.members.users.rows = [(user, member)]) :
    PersonalStep operator operation user row after := by
  have hopen {P : Prop} (hopen : row.members.fixed = false) : P :=
    nomatch (hpersonal : row.members.fixed = true).symm.trans hopen
  cases h with
  | kept => exact .kept
  | edited hedited _ _ hid hchange =>
    rw [htitled hrow hpersonal] at hchange
    exact .of_revises hchange (hsound.workspaces hrow ▸ hedited) hpersonal hid
  | departed _ _ _ _ hleft => exact hopen hleft.open_before
  | removed _ _ hteam => exact hopen hteam
  | @renamed me account change ws' hupdate hactor huser hhome hrest =>
    -- The home of the caller has nobody but the caller as a user.
    obtain ⟨home, hstored, hof⟩ := hsound.homes huser
    rw [hhome, hrow] at hstored
    obtain rfl := Option.some.inj hstored
    obtain ⟨seat, hseat, -⟩ := hof.sole
    rw [hsole] at hseat
    obtain rfl : user = me := by
      rw [← hsound.users huser]
      exact (Prod.mk.inj (List.cons.inj hseat).1).1
    exact .renamed hupdate hactor hrest
  | @parted me account _ hgoing hactor huser hfate =>
    cases hfate with
    | spared => exact .kept
    | left _ _ _ hleft => exact hopen hleft.open_before
    | closed hmember =>
      obtain ⟨seat, hseat⟩ := Table.contains_iff.1 hmember
      rw [Table.get?_of_rows_eq_singleton hsole] at hseat
      obtain rfl : user = me := by
        by_contra hother
        rw [if_neg hother] at hseat
        exact nomatch hseat
      exact .removed hgoing hactor

end Operation

/-! ## Runs -/

namespace Store

variable {store : Store} {id : WorkspaceId} {ws : Workspace} {user : UserId} {member : Member}

/-- There is no workspace in a blank store. -/
theorem personalTitled_blank (label : Nat) (file : Option String) (attached : Bool) :
    (blank label file attached).tables.PersonalTitled := by
  intro id ws hws
  exact nomatch (hws : none = some ws)

/-- A call leaves the store as it was, or it succeeds and makes of the personal workspace of a user
what may become of it. -/
theorem personal_call (hsound : store.tables.Sound) (htitled : store.tables.PersonalTitled)
    (hws : store.tables.workspaces.get? id = some ws) (hpersonal : ws.isPersonal = true)
    (hsole : ws.members.users.rows = [(user, member)]) (call : Call) :
    (call.perform store).2 = store ∨ (∃ held, (call.perform store).1 = .ok held) ∧
      call.operation.PersonalStep call.operator user ws
        ((call.perform store).2.tables.workspaces.get? id) := by
  obtain ⟨error, hfails⟩ | ⟨held, store', hsucceeds, heffect⟩ := call.perform_cases hsound.filed
  · exact .inl (by rw [hfails])
  · rw [hsucceeds]
    refine .inr ⟨⟨held, rfl⟩, ?_⟩
    exact (heffect.sequel hsound.filed hws).personalStep hsound htitled hws hpersonal hsole

/-- A personal workspace endures along a run as long as it is there. -/
theorem personal_run (hsound : store.tables.Sound) (htitled : store.tables.PersonalTitled)
    (hws : store.tables.workspaces.get? id = some ws) (hpersonal : ws.isPersonal = true)
    (hsole : ws.members.users.rows = [(user, member)]) (calls : List Call)
    (hstays : ∀ passed, passed <+: calls →
      (store.after passed).tables.workspaces.contains id = true) :
    ∃ ws', (store.after calls).tables.workspaces.get? id = some ws' ∧ ws.Endures ws' := by
  induction calls generalizing store ws with
  | nil => exact ⟨ws, hws, .refl ws⟩
  | cons call rest ih =>
    have hthere : (call.perform store).2.tables.workspaces.contains id = true :=
      hstays [call] ⟨rest, rfl⟩
    obtain ⟨ws₁, hws₁⟩ := Table.contains_iff.1 hthere
    have hendures : ws.Endures ws₁ := by
      obtain hsame | ⟨-, hstep⟩ := personal_call hsound htitled hws hpersonal hsole call
      · rw [hsame, hws] at hws₁
        obtain rfl := Option.some.inj hws₁
        exact .refl ws
      · rw [hws₁] at hstep
        exact hstep.endures
    obtain ⟨ws', hws', hrest⟩ := ih (hsound.of_call call) (htitled.of_call call hsound.filed) hws₁
      (hendures.fixed.trans hpersonal) (hendures.users ▸ hsole) fun passed hpassed =>
        hstays (call :: passed) (List.cons_prefix_cons.2 ⟨rfl, hpassed⟩)
    exact ⟨ws', hws', hendures.trans hrest⟩

/-- However an empty store has been used, a personal workspace in it has one user. From then on,
whoever calls and with whatever operator: as long as the workspace is there, it has kept its user and
what it says about itself but for its name, and every further call leaves the store as it is, or
succeeds and makes of the workspace what may become of the personal workspace of this user. -/
theorem personal_after (label : Nat) (file : Option String) (attached : Bool) (past : List Call)
    (hws : ((blank label file attached).after past).tables.workspaces.get? id = some ws)
    (hpersonal : ws.isPersonal = true) :
    ∃ user member, ws.members.users.rows = [(user, member)] ∧ ∀ future : List Call,
      (∀ passed, passed <+: future → (((blank label file attached).after past).after
        passed).tables.workspaces.contains id = true) →
      let now := ((blank label file attached).after past).after future
      ∃ ws', now.tables.workspaces.get? id = some ws' ∧ ws.Endures ws' ∧ ∀ call : Call,
        (call.perform now).2 = now ∨ (∃ held, (call.perform now).1 = .ok held) ∧
          call.operation.PersonalStep call.operator user ws'
            ((call.perform now).2.tables.workspaces.get? id) := by
  have hsound := sound_after (sound_blank label file attached) past
  have htitled : ((blank label file attached).after past).tables.PersonalTitled :=
    (personalTitled_blank label file attached).after (sound_blank label file attached) past
  have hfit := (Workspace.exists_restore_iff.1 (hsound.restorable hws)).2 hpersonal
  obtain ⟨user, member, hsole, -⟩ := Members.soleOwner_iff.1 hfit
  refine ⟨user, member, hsole, fun future hstays => ?_⟩
  obtain ⟨ws', hws', hendures⟩ := personal_run hsound htitled hws hpersonal hsole future hstays
  refine ⟨ws', hws', hendures, fun call => ?_⟩
  exact personal_call (sound_after hsound future) (htitled.after hsound future) hws'
    (hendures.fixed.trans hpersonal) (hendures.users ▸ hsole) call

/-! ### A claim to a personal workspace -/

namespace ClaimedHome

/-- Ann signs up. -/
def arrival : Call where
  moment := .epoch
  defaultPolicy := none
  operator := {}
  operation := .signup
    { name := "Ann"
      email := "ann@example.com"
      user := some ⟨"ann"⟩
      workspace := some ⟨"ann-home"⟩ }

/-- Eve claims that the home of ann is hers, and installs an integration there. -/
def installation : Call where
  moment := arrival.moment
  defaultPolicy := none
  operator := { user := some ⟨"eve"⟩, owning := [⟨"ann-home"⟩], defaultPolicy := some ⟨"standard"⟩ }
  operation := .addIntegrationMember ⟨"ann-home"⟩ ⟨"bot"⟩ .owner

/-- The home of ann when she has signed up. -/
def home : Workspace where
  id := ⟨"ann-home"⟩
  name := "Ann"
  aliasName := ""
  email := ""
  profile := {}
  members := .ofOwner ⟨"ann"⟩ true
  policy := none
  updatedAt := .epoch

/-- The home of ann endures what eve does, which brings in the integration and a policy. -/
theorem endures_installation :
    ∃ ws', (((blank 0 none false).after [arrival]).after [installation]).tables.workspaces.get?
        ⟨"ann-home"⟩ = some ws' ∧ home.Endures ws' ∧ ws'.policy = some ⟨"standard"⟩ ∧
      ws'.members.integrations.contains ⟨"bot"⟩ = true := by
  have hhome : ((blank 0 none false).after [arrival]).tables.workspaces.get? ⟨"ann-home"⟩ =
      some home := by decide +kernel
  obtain ⟨user, member, -, hafter⟩ := personal_after 0 none false [arrival] hhome rfl
  have hstays : ∀ passed, passed <+: [installation] →
      (((blank 0 none false).after [arrival]).after passed).tables.workspaces.contains
        ⟨"ann-home"⟩ = true := by
    intro passed hpassed
    obtain rfl | ⟨rest, rfl, hrest⟩ := List.prefix_cons_iff.1 hpassed
    · decide +kernel
    · rw [List.prefix_nil.1 hrest]
      decide +kernel
  obtain ⟨ws', hws', hendures, -⟩ := hafter [installation] hstays
  have hsettled : ((((blank 0 none false).after [arrival]).after
      [installation]).tables.workspaces.get? ⟨"ann-home"⟩).map
        (fun ws => (ws.policy, ws.members.integrations.contains ⟨"bot"⟩)) =
      some (some ⟨"standard"⟩, true) := by decide +kernel
  rw [hws', Option.map_some] at hsettled
  obtain ⟨hpolicy, hinstalled⟩ := Prod.mk.inj (Option.some.inj hsettled)
  exact ⟨ws', hws', hendures, hpolicy, hinstalled⟩

end ClaimedHome

end Store

end Roster
