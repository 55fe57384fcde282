import Roster.Proofs.InPlace
import Roster.Proofs.ReadBack
import Roster.Proofs.Uninstallations

/-!
# How a workspace guards itself

Whoever builds a workspace may contradict themselves: they may bring members who are not fixed and
ask for a personal workspace, or the other way round. What they ask for counts. From then on the
workspace is personal or it is not, and the users of a personal one are the same for ever. A change
that is refused leaves a workspace as it was, though it is made in place; one that is made stamps the
workspace and changes what it names.
-/

namespace Roster

open Time (Instant)

/-! ## Tables and members in place -/

namespace Table

variable {kind : Entity} {ρ : Type} (error : Error) (key : Ident kind)

/-- Enter a row under a key that has to be free. -/
def enterInPlace (row : ρ) : InPlace (Table kind ρ) Unit := do
  if (← get).contains key then throw error
  modify (·.insert key row)

/-- Strike the row under a key out, and fail if there was none. -/
def strikeInPlace : InPlace (Table kind ρ) Unit := do
  let there := (← get).contains key
  modify (·.erase key)
  if !there then throw error

/-- Amend the row under a key, which has to be there. -/
def amendInPlace (amend : ρ → ρ) : InPlace (Table kind ρ) Unit := do
  match (← get).get? key with
  | none => throw error
  | some row => modify (·.insert key (amend row))

/-- A row is entered if its key is free. -/
theorem enterInPlace_realizes (row : ρ) :
    (enterInPlace error key row).Realizes fun table => do
      if table.contains key then throw error
      return table.insert key row := by
  have hinsert : (modify (·.insert key row) : InPlace (Table kind ρ) Unit).Realizes fun table =>
      .ok (table.insert key row) := fun _ => rfl
  exact hinsert.refusing (·.contains key) fun _ => error

/-- Though a row is struck out before it is known to have been there, nothing has changed if it was
not. -/
theorem strikeInPlace_realizes :
    (strikeInPlace error key : InPlace (Table kind ρ) Unit).Realizes fun table => do
      if !table.contains key then throw error
      return table.erase key := by
  intro table
  simp only [strikeInPlace, EStateM.run_bind, EStateM.run_get, EStateM.run_modify]
  cases hthere : table.contains key with
  | true => rfl
  | false =>
    rw [erase_of_free hthere]
    rfl

/-- A row is amended if it is there. -/
theorem amendInPlace_realizes (amend : ρ → ρ) :
    (amendInPlace error key amend).Realizes fun table =>
      match table.get? key with
      | none => .error error
      | some row => .ok (table.insert key (amend row)) := by
  intro table
  simp only [amendInPlace, EStateM.run_bind, EStateM.run_get]
  cases table.get? key <;> rfl

end Table

namespace Members

/-- Work on the users in place, unless they are fixed. -/
def onUsers (work : InPlace (Table .user Member) Unit) : InPlace Members Unit := do
  if (← get).fixed then throw .personalWorkspaceImmutable
  work.within Members.users fun members users => { members with users }

/-- Work on the integrations in place. -/
def onIntegrations (work : InPlace (Table .integration Member) Unit) : InPlace Members Unit :=
  work.within Members.integrations fun members integrations => { members with integrations }

/-- Take integrations out one after the other, once it is known that none of them is missing. -/
def deleteIntegrationsInPlace (integrations : List IntegrationId) : InPlace Members Unit := do
  let members ← get
  if !(members.missing integrations).isEmpty then
    throw (.integrationsNotInWorkspace (members.missing integrations))
  onIntegrations ((distinct integrations).forM fun integration => modify (·.erase integration))

/-- Users who are not fixed change as their table does. -/
theorem onUsers_realizes {work : InPlace (Table .user Member) Unit}
    {change : Table .user Member → Except Error (Table .user Member)} (h : work.Realizes change) :
    (onUsers work).Realizes fun members => (do
      if members.fixed then throw .personalWorkspaceImmutable
      (change members.users).map fun users => { members with users }) := by
  have husers : (work.within Members.users fun members users => { members with users }).Realizes
      fun members => (change members.users).map fun users => { members with users } :=
    fun _ => h.run_within rfl
  exact husers.refusing Members.fixed fun _ => .personalWorkspaceImmutable

/-- Integrations change as their table does. -/
theorem onIntegrations_realizes {work : InPlace (Table .integration Member) Unit}
    {change : Table .integration Member → Except Error (Table .integration Member)}
    (h : work.Realizes change) :
    (onIntegrations work).Realizes fun members =>
      (change members.integrations).map fun integrations => { members with integrations } :=
  fun _ => h.run_within rfl

variable (user : UserId) (integration : IntegrationId)

/-- To join is to be entered among the users. -/
theorem join_realizes (role : Option Role) (invitedBy : UserId) :
    (onUsers (Table.enterInPlace .alreadyJoined user (.new (role.getD .reader) invitedBy))).Realizes
      (·.join user role invitedBy) := by
  refine (onUsers_realizes (Table.enterInPlace_realizes _ _ _)).congr fun members => ?_
  unfold join
  cases members.fixed <;> cases members.users.contains user <;> rfl

/-- To leave is to be struck out from among the users. -/
theorem leave_realizes :
    (onUsers (Table.strikeInPlace .userNotInWorkspace user)).Realizes (·.leave user) := by
  refine (onUsers_realizes (Table.strikeInPlace_realizes _ _)).congr fun members => ?_
  unfold leave
  cases members.fixed <;> cases members.users.contains user <;> rfl

/-- To get another role is to have it amended among the users. -/
theorem updateUserRole_realizes (role : Role) :
    (onUsers (Table.amendInPlace .userNotInWorkspace user ({ · with role }))).Realizes
      (·.updateUserRole user role) := by
  refine (onUsers_realizes (Table.amendInPlace_realizes _ _ _)).congr fun members => ?_
  unfold updateUserRole
  cases members.fixed <;> cases members.users.get? user <;> rfl

/-- An integration is installed by being entered among the integrations. -/
theorem addIntegration_realizes (role : Option Role) (invitedBy : UserId) :
    (onIntegrations (Table.enterInPlace .integrationAlreadyJoined integration
      (.new (role.getD .reader) invitedBy))).Realizes
        (·.addIntegration integration role invitedBy) := by
  refine (onIntegrations_realizes (Table.enterInPlace_realizes _ _ _)).congr fun members => ?_
  unfold addIntegration
  cases members.integrations.contains integration <;> rfl

/-- An integration gets another role by having it amended among the integrations. -/
theorem updateIntegrationRole_realizes (role : Role) :
    (onIntegrations (Table.amendInPlace .integrationNotInWorkspace integration
      ({ · with role }))).Realizes (·.updateIntegrationRole integration role) := by
  refine (onIntegrations_realizes (Table.amendInPlace_realizes _ _ _)).congr fun members => ?_
  unfold updateIntegrationRole
  cases members.integrations.get? integration <;> rfl

/-- An integration is taken out by being struck out from among the integrations. -/
theorem deleteIntegration_realizes :
    (onIntegrations (Table.strikeInPlace .integrationNotInWorkspace integration)).Realizes
      (·.deleteIntegration integration) := by
  refine (onIntegrations_realizes (Table.strikeInPlace_realizes _ _)).congr fun members => ?_
  unfold deleteIntegration
  cases members.integrations.contains integration <;> rfl

/-- Integrations are taken out in place if none of them is missing. -/
theorem deleteIntegrationsInPlace_realizes (integrations : List IntegrationId) :
    (deleteIntegrationsInPlace integrations).Realizes (·.deleteIntegrations integrations) := by
  have hloop : ((distinct integrations).forM fun integration => modify (·.erase integration) :
      InPlace (Table .integration Member) Unit).Realizes fun table =>
        .ok ((distinct integrations).foldl Table.erase table) :=
    InPlace.run_forM Table.erase (fun _ _ => rfl) (distinct integrations)
  have hmissing := (onIntegrations_realizes hloop).refusing
    (fun members => !(members.missing integrations).isEmpty) fun members =>
      .integrationsNotInWorkspace (members.missing integrations)
  exact hmissing

end Members

/-! ## Workspaces in place -/

namespace Workspace

variable {now : Instant} {ws ws' ws'' : Workspace}

/-- Stamp the workspace. -/
def touchInPlace (now : Instant) : InPlace Workspace Unit :=
  modify ({ · with updatedAt := now })

/-- Set something of the workspace, and stamp it. -/
def setInPlace (now : Instant) (set : Workspace → Workspace) : InPlace Workspace Unit := do
  modify set
  touchInPlace now

/-- Change the members where they are and, if nothing has failed, stamp the workspace. -/
def regroupInPlace (now : Instant) (work : InPlace Members Unit) : InPlace Workspace Unit := do
  work.within Workspace.members fun ws members => { ws with members }
  touchInPlace now

/-- A workspace whose members do not change is not stamped. -/
theorem regroupInPlace_realizes {work : InPlace Members Unit}
    {change : Members → Except Error Members} (h : work.Realizes change) (now : Instant) :
    (regroupInPlace now work).Realizes (·.changeMembers now change) := by
  intro ws
  dsimp only
  rw [regroupInPlace, EStateM.run_bind, h.run_within rfl, changeMembers]
  cases change ws.members <;> rfl

namespace Mutation

/-- Make the change in place. -/
def inPlace (now : Instant) : Mutation → InPlace Workspace Unit
  | rename name => setInPlace now ({ · with name })
  | updateAlias aliasName => setInPlace now ({ · with aliasName })
  | updateEmail email => setInPlace now ({ · with email })
  | updateProfile profile => setInPlace now ({ · with profile })
  | setPolicy policy => setInPlace now ({ · with policy })
  | join user role invitedBy =>
    regroupInPlace now (Members.onUsers
      (Table.enterInPlace .alreadyJoined user (.new (role.getD .reader) invitedBy)))
  | leave user =>
    regroupInPlace now (Members.onUsers (Table.strikeInPlace .userNotInWorkspace user))
  | updateUserRole user role =>
    regroupInPlace now (Members.onUsers
      (Table.amendInPlace .userNotInWorkspace user ({ · with role })))
  | addIntegration integration role invitedBy =>
    regroupInPlace now (Members.onIntegrations
      (Table.enterInPlace .integrationAlreadyJoined integration
        (.new (role.getD .reader) invitedBy)))
  | updateIntegrationRole integration role =>
    regroupInPlace now (Members.onIntegrations
      (Table.amendInPlace .integrationNotInWorkspace integration ({ · with role })))
  | deleteIntegration integration =>
    regroupInPlace now (Members.onIntegrations
      (Table.strikeInPlace .integrationNotInWorkspace integration))
  | deleteIntegrations integrations =>
    regroupInPlace now (Members.deleteIntegrationsInPlace integrations)

/-- What is done in place is the change, and nothing if the workspace does not allow it. -/
theorem inPlace_realizes (now : Instant) (mutation : Mutation) :
    (mutation.inPlace now).Realizes (mutation.on now) := by
  cases mutation with
  | rename | updateAlias | updateEmail | updateProfile | setPolicy => exact fun _ => rfl
  | join user role invitedBy =>
    exact regroupInPlace_realizes (Members.join_realizes user role invitedBy) now
  | leave user => exact regroupInPlace_realizes (Members.leave_realizes user) now
  | updateUserRole user role =>
    exact regroupInPlace_realizes (Members.updateUserRole_realizes user role) now
  | addIntegration integration role invitedBy =>
    exact regroupInPlace_realizes (Members.addIntegration_realizes integration role invitedBy) now
  | updateIntegrationRole integration role =>
    exact regroupInPlace_realizes (Members.updateIntegrationRole_realizes integration role) now
  | deleteIntegration integration =>
    exact regroupInPlace_realizes (Members.deleteIntegration_realizes integration) now
  | deleteIntegrations integrations =>
    exact regroupInPlace_realizes (Members.deleteIntegrationsInPlace_realizes integrations) now

end Mutation

/-- What some changes leave behind that are made in place, one after the other and each at its time,
be they done or cut short by a failure. -/
def mutatedInPlace (ws : Workspace) (changes : List (Instant × Mutation)) : Workspace :=
  changes.foldl (fun ws change => (change.2.inPlace change.1).left ws) ws

/-- Changes in place leave a workspace behind as it is after the changes that are not refused. -/
theorem mutatedInPlace_eq (ws : Workspace) (changes : List (Instant × Mutation)) :
    ws.mutatedInPlace changes = ws.mutated changes := by
  have hstep : (fun (ws : Workspace) (change : Instant × Mutation) =>
      (change.2.inPlace change.1).left ws) =
        fun ws change => (change.2.on change.1 ws).toOption.getD ws := by
    funext ws change
    exact (change.2.inPlace_realizes change.1).left_eq ws
  rw [mutatedInPlace, mutated, hstep]

/-! ## What a change makes of a workspace -/

namespace Mutation

/-- The membership of a user once a change has been made. -/
def userEntry? (members : Members) (user : UserId) : Mutation → Option Member
  | join joining role invitedBy =>
    if joining = user then
      some { role := role.getD .reader, disabled := false, invitedBy, host := none }
    else members.users.get? user
  | leave leaving => if leaving = user then none else members.users.get? user
  | updateUserRole holder role =>
    if holder = user then (members.users.get? user).map ({ · with role })
    else members.users.get? user
  | _ => members.users.get? user

/-- The membership of an integration once a change has been made. -/
def integrationEntry? (members : Members) (integration : IntegrationId) : Mutation → Option Member
  | addIntegration joining role invitedBy =>
    if joining = integration then
      some { role := role.getD .reader, disabled := false, invitedBy, host := none }
    else members.integrations.get? integration
  | updateIntegrationRole holder role =>
    if holder = integration then (members.integrations.get? integration).map ({ · with role })
    else members.integrations.get? integration
  | deleteIntegration leaving =>
    if leaving = integration then none else members.integrations.get? integration
  | deleteIntegrations leaving =>
    if integration ∈ leaving then none else members.integrations.get? integration
  | _ => members.integrations.get? integration

/-- The alias that a change gives. -/
def aliasName? : Mutation → Option String
  | updateAlias aliasName => some aliasName
  | _ => none

/-- The e-mail address that a change gives. -/
def email? : Mutation → Option String
  | updateEmail email => some email
  | _ => none

/-- What a change has the workspace say about itself. -/
def profile? : Mutation → Option WorkspaceProfile
  | updateProfile profile => some profile
  | _ => none

/-- The policy that a change puts the workspace under, or the lack of one. -/
def policy? : Mutation → Option (Option PolicyId)
  | setPolicy policy => some policy
  | _ => none

/-- A change has been made: the workspace bears the time of it, the field or the memberships that it
names are as it says, and everything else is as before. -/
structure Made (mutation : Mutation) (now : Instant) (ws ws' : Workspace) : Prop where
  updatedAt : ws'.updatedAt = now
  id : ws'.id = ws.id
  name : ws'.name = mutation.name?.getD ws.name
  aliasName : ws'.aliasName = mutation.aliasName?.getD ws.aliasName
  email : ws'.email = mutation.email?.getD ws.email
  profile : ws'.profile = mutation.profile?.getD ws.profile
  policy : ws'.policy = mutation.policy?.getD ws.policy
  fixed : ws'.members.fixed = ws.members.fixed
  users : ∀ user, ws'.members.users.get? user = mutation.userEntry? ws.members user
  integrations : ∀ integration,
    ws'.members.integrations.get? integration = mutation.integrationEntry? ws.members integration

/-- A workspace allows a change: nothing is said about the users of a personal one, nobody joins who
is there already, and nobody leaves or gets another role who is not. -/
def Allowed (ws : Workspace) : Mutation → Prop
  | join user _ _ => ws.isPersonal = false ∧ ws.members.users.get? user = none
  | leave user | updateUserRole user _ =>
    ws.isPersonal = false ∧ ∃ entry, ws.members.users.get? user = some entry
  | addIntegration integration _ _ => ws.members.integrations.get? integration = none
  | updateIntegrationRole integration _ | deleteIntegration integration =>
    ∃ entry, ws.members.integrations.get? integration = some entry
  | deleteIntegrations integrations => ∀ integration ∈ integrations,
    ∃ entry, ws.members.integrations.get? integration = some entry
  | _ => True

variable {mutation : Mutation}

/-- A change makes one workspace of another. -/
theorem Made.unique (h : mutation.Made now ws ws') (h' : mutation.Made now ws ws'') : ws' = ws'' := by
  obtain ⟨id, name, aliasName, email, profile, ⟨users, integrations, fixed⟩, policy, updatedAt⟩ := ws'
  obtain ⟨id', name', aliasName', email', profile', ⟨users', integrations', fixed'⟩, policy',
    updatedAt'⟩ := ws''
  obtain rfl : updatedAt = updatedAt' := h.updatedAt.trans h'.updatedAt.symm
  obtain rfl : id = id' := h.id.trans h'.id.symm
  obtain rfl : name = name' := h.name.trans h'.name.symm
  obtain rfl : aliasName = aliasName' := h.aliasName.trans h'.aliasName.symm
  obtain rfl : email = email' := h.email.trans h'.email.symm
  obtain rfl : profile = profile' := h.profile.trans h'.profile.symm
  obtain rfl : policy = policy' := h.policy.trans h'.policy.symm
  obtain rfl : fixed = fixed' := h.fixed.trans h'.fixed.symm
  obtain rfl : users = users' := Table.ext_get? fun user => (h.users user).trans (h'.users user).symm
  obtain rfl : integrations = integrations' := Table.ext_get? fun integration =>
    (h.integrations integration).trans (h'.integrations integration).symm
  rfl

/-- A change is made only if the workspace allows it, and then it has been made. -/
theorem made_of_on (h : mutation.on now ws = .ok ws') :
    mutation.Allowed ws ∧ mutation.Made now ws ws' := by
  cases mutation with
  | rename | updateAlias | updateEmail | updateProfile | setPolicy =>
    obtain rfl := Except.ok.inj h
    exact ⟨trivial, rfl, rfl, rfl, rfl, rfl, rfl, rfl, rfl, fun _ => rfl, fun _ => rfl⟩
  | join user role invitedBy =>
    rw [on, Workspace.join, changeMembers_eq_ok] at h
    obtain ⟨_, hmembers, rfl⟩ := h
    obtain ⟨hfixed, hfree, rfl⟩ := Members.join_eq_ok.1 hmembers
    exact ⟨⟨hfixed, hfree⟩, rfl, rfl, rfl, rfl, rfl, rfl, rfl, rfl,
      fun _ => Table.get?_insert .., fun _ => rfl⟩
  | leave user =>
    rw [on, Workspace.leave, changeMembers_eq_ok] at h
    obtain ⟨_, hmembers, rfl⟩ := h
    obtain ⟨hfixed, hthere, rfl⟩ := Members.leave_eq_ok.1 hmembers
    exact ⟨⟨hfixed, Table.contains_iff.1 hthere⟩, rfl, rfl, rfl, rfl, rfl, rfl, rfl, rfl,
      fun _ => Table.get?_erase .., fun _ => rfl⟩
  | updateUserRole user role =>
    rw [on, Workspace.updateUserRole, changeMembers_eq_ok] at h
    obtain ⟨_, hmembers, rfl⟩ := h
    obtain ⟨hfixed, entry, hentry, rfl⟩ := Members.updateUserRole_eq_ok.1 hmembers
    exact ⟨⟨hfixed, entry, hentry⟩, rfl, rfl, rfl, rfl, rfl, rfl, rfl, rfl,
      Table.get?_insert_amended ({ · with role }) hentry, fun _ => rfl⟩
  | addIntegration integration role invitedBy =>
    rw [on, Workspace.addIntegration, changeMembers_eq_ok] at h
    obtain ⟨_, hmembers, rfl⟩ := h
    obtain ⟨hfree, rfl⟩ := Members.addIntegration_eq_ok.1 hmembers
    exact ⟨hfree, rfl, rfl, rfl, rfl, rfl, rfl, rfl, rfl, fun _ => rfl,
      fun _ => Table.get?_insert ..⟩
  | updateIntegrationRole integration role =>
    rw [on, Workspace.updateIntegrationRole, changeMembers_eq_ok] at h
    obtain ⟨_, hmembers, rfl⟩ := h
    obtain ⟨entry, hentry, rfl⟩ := Members.updateIntegrationRole_eq_ok.1 hmembers
    exact ⟨⟨entry, hentry⟩, rfl, rfl, rfl, rfl, rfl, rfl, rfl, rfl, fun _ => rfl,
      Table.get?_insert_amended ({ · with role }) hentry⟩
  | deleteIntegration integration =>
    rw [on, Workspace.deleteIntegration, changeMembers_eq_ok] at h
    obtain ⟨_, hmembers, rfl⟩ := h
    obtain ⟨hthere, rfl⟩ := Members.deleteIntegration_eq_ok.1 hmembers
    exact ⟨Table.contains_iff.1 hthere, rfl, rfl, rfl, rfl, rfl, rfl, rfl, rfl, fun _ => rfl,
      fun _ => Table.get?_erase ..⟩
  | deleteIntegrations integrations =>
    rw [on, Workspace.deleteIntegrations, changeMembers_eq_ok] at h
    obtain ⟨_, hmembers, rfl⟩ := h
    obtain ⟨hall, rfl⟩ := Members.deleteIntegrations_eq_ok.1 hmembers
    exact ⟨fun integration hmem => Table.contains_iff.1 (hall integration hmem),
      rfl, rfl, rfl, rfl, rfl, rfl, rfl, rfl, fun _ => rfl,
      Members.get?_uninstalling integrations ws.members⟩

/-- A change that a workspace allows is made. -/
theorem exists_on_of_allowed (h : mutation.Allowed ws) (now : Instant) :
    ∃ ws', mutation.on now ws = .ok ws' := by
  have hmembers (change : Members → Except Error Members) {members : Members}
      (hchange : change ws.members = .ok members) :
      ∃ ws', ws.changeMembers now change = .ok ws' :=
    ⟨_, changeMembers_eq_ok.2 ⟨members, hchange, rfl⟩⟩
  cases mutation with
  | rename | updateAlias | updateEmail | updateProfile | setPolicy => exact ⟨_, rfl⟩
  | join user role invitedBy =>
    exact hmembers (·.join user role invitedBy)
      (Members.join_eq_ok.2 ⟨h.1, h.2, rfl⟩)
  | leave user =>
    exact hmembers (·.leave user)
      (Members.leave_eq_ok.2 ⟨h.1, Table.contains_iff.2 h.2, rfl⟩)
  | updateUserRole user role =>
    obtain ⟨hteam, entry, hentry⟩ := h
    exact hmembers (·.updateUserRole user role)
      (Members.updateUserRole_eq_ok.2 ⟨hteam, entry, hentry, rfl⟩)
  | addIntegration integration role invitedBy =>
    exact hmembers (·.addIntegration integration role invitedBy)
      (Members.addIntegration_eq_ok.2 ⟨h, rfl⟩)
  | updateIntegrationRole integration role =>
    obtain ⟨entry, hentry⟩ := h
    exact hmembers (·.updateIntegrationRole integration role)
      (Members.updateIntegrationRole_eq_ok.2 ⟨entry, hentry, rfl⟩)
  | deleteIntegration integration =>
    exact hmembers (·.deleteIntegration integration)
      (Members.deleteIntegration_eq_ok.2 ⟨Table.contains_iff.2 h, rfl⟩)
  | deleteIntegrations integrations =>
    have hall : ws.members.Installs integrations := fun integration hmem =>
      Table.contains_iff.2 (h integration hmem)
    exact hmembers (·.deleteIntegrations integrations)
      (Members.deleteIntegrations_eq_ok.2 ⟨hall, rfl⟩)

/-- A change is made exactly when the workspace allows it, and in one way. -/
theorem on_eq_ok : mutation.on now ws = .ok ws' ↔
    mutation.Allowed ws ∧ mutation.Made now ws ws' := by
  refine ⟨made_of_on, fun ⟨hallowed, hmade⟩ => ?_⟩
  obtain ⟨made, hon⟩ := exists_on_of_allowed hallowed now
  rwa [hmade.unique (made_of_on hon).2]

end Mutation

/-! ## What is asked for at build time -/

namespace Plan

/-- A call by which something is said about a workspace before it is built. -/
inductive Wish
  | id (id : WorkspaceId)
  | name (name : String)
  | aliasName (aliasName : String)
  | email (email : String)
  | profile (profile : WorkspaceProfile)
  | members (members : Members)
  | owner (owner : UserId)
  | personal (personal : Bool)
  | policy (policy : Option PolicyId)
  | updatedAt (updatedAt : Instant)

/-- What is known of the workspace after one more call. -/
def heeding (plan : Plan) : Wish → Plan
  | .id id => { plan with id := some id }
  | .name name => { plan with name := some name }
  | .aliasName aliasName => { plan with aliasName }
  | .email email => { plan with email }
  | .profile profile => { plan with profile }
  | .members members => { plan with members := some members }
  | .owner owner => { plan with owner := some owner }
  | .personal personal => { plan with personal }
  | .policy policy => { plan with policy }
  | .updatedAt updatedAt => { plan with updatedAt := some updatedAt }

/-- What is known of a workspace after some calls. -/
def ofWishes (wishes : List Wish) : Plan :=
  wishes.foldl heeding {}

/-- The personal flag that a call gives. -/
def Wish.personal? : Wish → Option Bool
  | personal asked => some asked
  | _ => none

/-- The personal flag that some calls ask for: the one given last, and none if none is given. -/
def asksPersonal (wishes : List Wish) : Bool :=
  (wishes.reverse.findSome? Wish.personal?).getD false

/-- The flag of the plan is the one that is asked for. -/
theorem personal_ofWishes (wishes : List Wish) : (ofWishes wishes).personal = asksPersonal wishes := by
  induction wishes using List.reverseRecOn with
  | nil => rfl
  | append_singleton earlier wish ih =>
    rw [ofWishes, List.foldl_concat, asksPersonal, List.reverse_concat, List.findSome?_cons]
    cases wish with
    | personal personal => rfl
    | _ => exact ih

end Plan

/-! ## A workspace guards itself -/

/-- From whatever calls a workspace is built, and whatever changes are made to it or refused
afterwards, each in place: it is personal if this was asked for at build time, and then its users are
those it was built with, one who owns it. Each further change succeeds exactly when the workspace
allows it, and comes to what the change says and nothing else. Made in place it succeeds or fails
alike, and if it fails, the workspace stays as it was, its time included. -/
theorem guarded_of_build {wishes : List Plan.Wish} {start : Instant} {built : Workspace}
    (hbuild : (Plan.ofWishes wishes).build start = .ok built) (changes : List (Instant × Mutation)) :
    let ws := built.mutatedInPlace changes
    ws.isPersonal = Plan.asksPersonal wishes ∧
    (ws.isPersonal = true → ws.members.users = built.members.users ∧
      ∃ owner entry, ws.members.users.rows = [(owner, entry)] ∧ entry.role = .owner) ∧
    ∀ (mutation : Mutation) (now : Instant),
      ((∃ ws', mutation.on now ws = .ok ws') ↔ mutation.Allowed ws) ∧
      ∀ ws', (mutation.on now ws = .ok ws' ↔ mutation.Allowed ws ∧ mutation.Made now ws ws') ∧
        ((mutation.inPlace now).run ws = .ok () ws' ↔ mutation.on now ws = .ok ws') ∧
        ∀ error, (mutation.inPlace now).run ws = .error error ws' ↔
          ws' = ws ∧ mutation.on now ws = .error error := by
  intro ws
  have hretains : built.Retains (lastName? changes) ws := by
    rw [show ws = built.mutated changes from built.mutatedInPlace_eq changes]
    exact built.retains_mutated changes
  have hbuilt : built.isPersonal = Plan.asksPersonal wishes := by
    obtain ⟨id, members, -, -, hmembers, -, rfl⟩ := build_eq_ok.1 hbuild
    exact (fixed_of_chosenMembers hmembers).trans (Plan.personal_ofWishes wishes)
  refine ⟨hretains.fixed.trans hbuilt, fun hpersonal => ⟨?_, ?_⟩, fun mutation now => ⟨⟨?_, ?_⟩, ?_⟩⟩
  · exact hretains.users (hretains.fixed.symm.trans hpersonal)
  · exact Members.soleOwner_iff.1 ((hretains.restorable (restorable_of_build hbuild)).2 hpersonal)
  · rintro ⟨ws', hon⟩
    exact (Mutation.made_of_on hon).1
  · exact fun hallowed => Mutation.exists_on_of_allowed hallowed now
  · exact fun ws' => ⟨Mutation.on_eq_ok, (mutation.inPlace_realizes now).run_eq_ok,
      fun _ => (mutation.inPlace_realizes now).run_eq_error⟩

/-! ### The home of ann -/

namespace AnnsHome

/-- Somebody asks for a team of bob's, then brings ann as the only member of a team, and at last asks
for a personal workspace. -/
def wishes : List Plan.Wish :=
  [.id ⟨"home"⟩, .personal false, .owner ⟨"bob"⟩, .members (.ofOwner ⟨"ann"⟩ false), .personal true]

/-- A workspace of ann alone, under some name, with some integrations, as it was at some time. -/
def home (name : String) (integrations : Table .integration Member) (updatedAt : Instant) :
    Workspace where
  id := ⟨"home"⟩
  name
  aliasName := ""
  email := ""
  profile := {}
  members := { Members.ofOwner ⟨"ann"⟩ true with integrations }
  policy := none
  updatedAt

/-- Some seconds after the epoch. -/
def after (seconds : Nat) : Instant :=
  Instant.epoch.addSeconds seconds

/-- Bob does not join, a bot is installed, the home is renamed, and ann does not leave. -/
def changes : List (Instant × Mutation) :=
  [(after 1, .join ⟨"bob"⟩ none ⟨"ann"⟩), (after 2, .addIntegration ⟨"bot"⟩ none ⟨"ann"⟩),
    (after 3, .rename "Den"), (after 4, .leave ⟨"ann"⟩)]

/-- The one integration, with some role. -/
def bot (role : Role) : Table .integration Member :=
  Table.empty.insert ⟨"bot"⟩ (.new role ⟨"ann"⟩)

/-- It is a personal workspace that is built, and it belongs to ann. -/
theorem build_home :
    (Plan.ofWishes wishes).build .epoch = .ok (home "Untitled Workspace" ∅ .epoch) := by
  rfl

/-- The home stays ann's, who cannot leave it even now; the bot can still get another role. -/
theorem guarded_home :
    (home "Untitled Workspace" ∅ .epoch).mutatedInPlace changes = home "Den" (bot .reader) (after 3) ∧
      (home "Den" (bot .reader) (after 3)).isPersonal = true ∧
      (∃ owner entry, (home "Den" (bot .reader) (after 3)).members.users.rows = [(owner, entry)] ∧
        entry.role = .owner) ∧
      ((Mutation.leave ⟨"ann"⟩).inPlace (after 5)).run (home "Den" (bot .reader) (after 3)) =
        .error .personalWorkspaceImmutable (home "Den" (bot .reader) (after 3)) ∧
      (Mutation.updateIntegrationRole ⟨"bot"⟩ .writer).Made (after 5)
        (home "Den" (bot .reader) (after 3)) (home "Den" (bot .writer) (after 5)) := by
  have hchanges : (home "Untitled Workspace" ∅ .epoch).mutatedInPlace changes =
      home "Den" (bot .reader) (after 3) := rfl
  have hguarded := guarded_of_build build_home changes
  rw [hchanges] at hguarded
  obtain ⟨hpersonal, husers, hnext⟩ := hguarded
  refine ⟨hchanges, hpersonal, (husers hpersonal).2, ?_, ?_⟩
  · exact (((hnext (.leave ⟨"ann"⟩) (after 5)).2 _).2.2 _).2 ⟨rfl, rfl⟩
  · exact (((hnext (.updateIntegrationRole ⟨"bot"⟩ .writer) (after 5)).2 _).1.1 rfl).2

end AnnsHome

end Workspace

end Roster
