import Mathlib.Data.List.Lattice
import Roster.Proofs.Aggregates

/-!
# Changes that are about different members

A change of the members of a workspace is about a user, about an integration, or about several
integrations that go together. Whether it is made depends on nothing but their entries and on whether
the users are fixed, and it touches no entry but theirs. So changes that are about different members
take no notice of each other: it does not matter which of them comes first, even if one of them is
refused, or both.
-/

namespace Roster

/-! ## Work that is observed -/

namespace InPlace

variable {σ : Type}

/-- Do some work and tell how it ended. What it did before it failed remains. -/
def observe (work : InPlace σ Unit) : InPlace σ (Except Error Unit) := fun s =>
  match work.run s with
  | .ok () s' => .ok (.ok ()) s'
  | .error error s' => .ok (.error error) s'

/-- Work that realizes a change ends as the change does and leaves behind what the change leaves. -/
theorem Realizes.run_observe {work : InPlace σ Unit} {change : σ → Except Error σ}
    (h : work.Realizes change) (s : σ) :
    work.observe.run s = .ok ((change s).map fun _ => ()) ((change s).toOption.getD s) := by
  change (match work.run s with | .ok () s' => _ | .error error s' => _) = _
  rw [h s]
  cases change s <;> rfl

end InPlace

namespace Members

/-! ## Entries -/

/-- One whom a change may be about. An id of a user and an id of an integration are never the same,
even if they read the same. -/
inductive Party
  | user (id : UserId)
  | integration (id : IntegrationId)
  deriving DecidableEq

/-- The entry of a user or of an integration. -/
def entryOf (members : Members) : Party → Option Member
  | .user id => members.users.get? id
  | .integration id => members.integrations.get? id

section Changes

variable {members members' : Members}

/-- Members are known by their entries and by whether the users are fixed. -/
theorem ext_entryOf (hfixed : members.fixed = members'.fixed)
    (hentries : ∀ party, members.entryOf party = members'.entryOf party) : members = members' := by
  obtain ⟨users, integrations, fixed⟩ := members
  obtain ⟨users', integrations', fixed'⟩ := members'
  obtain rfl : fixed = fixed' := hfixed
  obtain rfl : users = users' := Table.ext_get? fun id => hentries (.user id)
  obtain rfl : integrations = integrations' := Table.ext_get? fun id => hentries (.integration id)
  rfl

/-- Members who are alike for some parties: their users are fixed or not alike, and the parties have
the same entries. -/
structure AlikeOn (parties : List Party) (members members' : Members) : Prop where
  fixed : members'.fixed = members.fixed
  entries : ∀ party ∈ parties, members'.entryOf party = members.entryOf party

/-! ## Changes -/

/-- A change of the members. -/
inductive Mutation
  | join (user : UserId) (role : Option Role) (invitedBy : UserId)
  | leave (user : UserId)
  | updateUserRole (user : UserId) (role : Role)
  | addIntegration (integration : IntegrationId) (role : Option Role) (invitedBy : UserId)
  | deleteIntegration (integration : IntegrationId)
  | deleteIntegrations (integrations : List IntegrationId)
  | updateIntegrationRole (integration : IntegrationId) (role : Role)

namespace Mutation

/-- Make the change, if it is allowed. -/
def on (members : Members) : Mutation → Except Error Members
  | join user role invitedBy => members.join user role invitedBy
  | leave user => members.leave user
  | updateUserRole user role => members.updateUserRole user role
  | addIntegration integration role invitedBy => members.addIntegration integration role invitedBy
  | deleteIntegration integration => members.deleteIntegration integration
  | deleteIntegrations integrations => members.deleteIntegrations integrations
  | updateIntegrationRole integration role => members.updateIntegrationRole integration role

/-- Make the change in place. -/
def inPlace : Mutation → InPlace Members Unit
  | join user role invitedBy =>
    onUsers (Table.enterInPlace .alreadyJoined user (.new (role.getD .reader) invitedBy))
  | leave user => onUsers (Table.strikeInPlace .userNotInWorkspace user)
  | updateUserRole user role =>
    onUsers (Table.amendInPlace .userNotInWorkspace user ({ · with role }))
  | addIntegration integration role invitedBy =>
    onIntegrations (Table.enterInPlace .integrationAlreadyJoined integration
      (.new (role.getD .reader) invitedBy))
  | deleteIntegration integration =>
    onIntegrations (Table.strikeInPlace .integrationNotInWorkspace integration)
  | deleteIntegrations integrations => deleteIntegrationsInPlace integrations
  | updateIntegrationRole integration role =>
    onIntegrations (Table.amendInPlace .integrationNotInWorkspace integration ({ · with role }))

/-- Those whom the change is about. Who has invited somebody is not one of them. -/
def parties : Mutation → List Party
  | join user _ _ | leave user | updateUserRole user _ => [.user user]
  | addIntegration integration _ _ | deleteIntegration integration
  | updateIntegrationRole integration _ => [.integration integration]
  | deleteIntegrations integrations => integrations.map .integration

/-- What is done in place is the change, and nothing if the change is refused. -/
theorem inPlace_realizes (mutation : Mutation) : mutation.inPlace.Realizes (mutation.on ·) := by
  cases mutation with
  | join user role invitedBy => exact join_realizes user role invitedBy
  | leave user => exact leave_realizes user
  | updateUserRole user role => exact updateUserRole_realizes user role
  | addIntegration integration role invitedBy =>
    exact addIntegration_realizes integration role invitedBy
  | deleteIntegration integration => exact deleteIntegration_realizes integration
  | deleteIntegrations integrations => exact deleteIntegrationsInPlace_realizes integrations
  | updateIntegrationRole integration role => exact updateIntegrationRole_realizes integration role

/-! ## What a change looks at -/

/-- Why the change is refused, if it is. -/
def refusal? (members : Members) : Mutation → Option Error
  | join user _ _ =>
    if members.fixed then some .personalWorkspaceImmutable
    else if members.users.contains user then some .alreadyJoined
    else none
  | leave user | updateUserRole user _ =>
    if members.fixed then some .personalWorkspaceImmutable
    else if members.users.contains user then none
    else some .userNotInWorkspace
  | addIntegration integration _ _ =>
    if members.integrations.contains integration then some .integrationAlreadyJoined else none
  | deleteIntegration integration | updateIntegrationRole integration _ =>
    if members.integrations.contains integration then none else some .integrationNotInWorkspace
  | deleteIntegrations integrations =>
    if (members.missing integrations).isEmpty then none
    else some (.integrationsNotInWorkspace (members.missing integrations))

/-- What the change makes of an entry that it is about. -/
def rewrite (entry : Option Member) : Mutation → Option Member
  | join _ role invitedBy | addIntegration _ role invitedBy =>
    some (.new (role.getD .reader) invitedBy)
  | leave _ | deleteIntegration _ | deleteIntegrations _ => none
  | updateUserRole _ role | updateIntegrationRole _ role => entry.map ({ · with role })

variable {mutation : Mutation}

/-- The change has been made: the entries of those whom it is about are rewritten, and everything
else is as before. -/
structure Made (mutation : Mutation) (members members' : Members) : Prop where
  fixed : members'.fixed = members.fixed
  entries : ∀ party, members'.entryOf party =
    if party ∈ mutation.parties then mutation.rewrite (members.entryOf party)
    else members.entryOf party

/-- The change of a user has been made if no other user has another entry. -/
theorem made_of_users {user : UserId} (hparties : mutation.parties = [.user user])
    (hfixed : members'.fixed = members.fixed)
    (hintegrations : members'.integrations = members.integrations)
    (husers : ∀ id, members'.users.get? id =
      if user = id then mutation.rewrite (members.users.get? id) else members.users.get? id) :
    mutation.Made members members' := by
  refine ⟨hfixed, fun party => ?_⟩
  cases party with
  | user id =>
    simp only [hparties, List.mem_singleton, Party.user.injEq, eq_comm (a := id)]
    exact husers id
  | integration id =>
    rw [hparties, if_neg (by simp)]
    exact congrArg (·.get? id) hintegrations

/-- The change of some integrations has been made if no other integration has another entry. -/
theorem made_of_integrations {ids : List IntegrationId}
    (hparties : mutation.parties = ids.map .integration) (hfixed : members'.fixed = members.fixed)
    (husers : members'.users = members.users)
    (hintegrations : ∀ id, members'.integrations.get? id =
      if id ∈ ids then mutation.rewrite (members.integrations.get? id)
      else members.integrations.get? id) :
    mutation.Made members members' := by
  refine ⟨hfixed, fun party => ?_⟩
  cases party with
  | user id =>
    rw [hparties, if_neg (by simp)]
    exact congrArg (·.get? id) husers
  | integration id =>
    simp only [hparties, List.mem_map, Party.integration.injEq, exists_eq_right]
    exact hintegrations id

/-- The change of one integration has been made if no other integration has another entry. -/
theorem made_of_integration {integration : IntegrationId}
    (hparties : mutation.parties = [.integration integration])
    (hfixed : members'.fixed = members.fixed) (husers : members'.users = members.users)
    (hintegrations : ∀ id, members'.integrations.get? id =
      if integration = id then mutation.rewrite (members.integrations.get? id)
      else members.integrations.get? id) :
    mutation.Made members members' :=
  have hone : mutation.parties = [integration].map .integration := hparties
  made_of_integrations hone hfixed husers fun id => by
    simpa only [List.mem_singleton, eq_comm (a := id)] using hintegrations id

/-- Where the change is not refused, it has been made. -/
theorem made_of_on (h : mutation.on members = .ok members') : mutation.Made members members' := by
  cases mutation with
  | join user role invitedBy =>
    obtain ⟨-, -, rfl⟩ := Members.join_eq_ok.1 h
    exact made_of_users rfl rfl rfl fun _ => Table.get?_insert ..
  | leave user =>
    obtain ⟨-, -, rfl⟩ := Members.leave_eq_ok.1 h
    exact made_of_users rfl rfl rfl fun _ => Table.get?_erase ..
  | updateUserRole user role =>
    obtain ⟨-, entry, hentry, rfl⟩ := Members.updateUserRole_eq_ok.1 h
    exact made_of_users rfl rfl rfl (Table.get?_insert_amended ({ · with role }) hentry)
  | addIntegration integration role invitedBy =>
    obtain ⟨-, rfl⟩ := Members.addIntegration_eq_ok.1 h
    exact made_of_integration rfl rfl rfl fun _ => Table.get?_insert ..
  | deleteIntegration integration =>
    obtain ⟨-, rfl⟩ := Members.deleteIntegration_eq_ok.1 h
    exact made_of_integration rfl rfl rfl fun _ => Table.get?_erase ..
  | deleteIntegrations integrations =>
    obtain ⟨-, rfl⟩ := Members.deleteIntegrations_eq_ok.1 h
    exact made_of_integrations rfl rfl rfl (Members.get?_uninstalling integrations members)
  | updateIntegrationRole integration role =>
    obtain ⟨entry, hentry, rfl⟩ := Members.updateIntegrationRole_eq_ok.1 h
    exact made_of_integration rfl rfl rfl (Table.get?_insert_amended ({ · with role }) hentry)

/-! ## What is left behind -/

/-- How the change ends: it is made, or refused for some reason. -/
def outcome (mutation : Mutation) (members : Members) : Except Error Unit :=
  (mutation.on members).map fun _ => ()

/-- The members after the change, who are as they were if it is refused. -/
def left (mutation : Mutation) (members : Members) : Members :=
  (mutation.on members).toOption.getD members

/-- Made in place, the change ends alike and leaves the same members behind. -/
theorem run_observe_inPlace (mutation : Mutation) (members : Members) :
    mutation.inPlace.observe.run members = .ok (mutation.outcome members) (mutation.left members) :=
  mutation.inPlace_realizes.run_observe members

/-- The change ends as there is a reason to refuse it or not. -/
theorem outcome_eq (mutation : Mutation) (members : Members) :
    mutation.outcome members = (mutation.refusal? members).elim (.ok ()) .error := by
  cases mutation <;> dsimp only [outcome, on, refusal?]
  case join user role invitedBy =>
    unfold Members.join
    cases members.fixed <;> cases members.users.contains user <;> rfl
  case leave user =>
    unfold Members.leave
    cases members.fixed <;> cases members.users.contains user <;> rfl
  case updateUserRole user role =>
    unfold Members.updateUserRole Table.contains
    cases members.fixed <;> cases members.users.get? user <;> rfl
  case addIntegration integration role invitedBy =>
    unfold Members.addIntegration
    cases members.integrations.contains integration <;> rfl
  case deleteIntegration integration =>
    unfold Members.deleteIntegration
    cases members.integrations.contains integration <;> rfl
  case deleteIntegrations integrations =>
    unfold Members.deleteIntegrations
    change Except.map _ (if !(members.missing integrations).isEmpty then _ else _) = _
    cases (members.missing integrations).isEmpty <;> rfl
  case updateIntegrationRole integration role =>
    unfold Members.updateIntegrationRole Table.contains
    cases members.integrations.get? integration <;> rfl

/-- Where there is a reason to refuse the change, the members are left as they were, and otherwise it
has been made. -/
theorem left_cases (mutation : Mutation) (members : Members) :
    (∃ error, mutation.refusal? members = some error ∧ mutation.left members = members) ∨
      mutation.refusal? members = none ∧ mutation.Made members (mutation.left members) := by
  have houtcome := mutation.outcome_eq members
  unfold outcome at houtcome
  unfold left
  cases hon : mutation.on members with
  | ok members' =>
    rw [hon] at houtcome
    cases hrefusal : mutation.refusal? members with
    | none => exact .inr ⟨rfl, made_of_on hon⟩
    | some error =>
      rw [hrefusal] at houtcome
      exact nomatch houtcome
  | error error =>
    rw [hon] at houtcome
    cases hrefusal : mutation.refusal? members with
    | none =>
      rw [hrefusal] at houtcome
      exact nomatch houtcome
    | some reason => exact .inl ⟨reason, rfl, rfl⟩

/-- What the change looks at is the entries of those whom it is about, and whether the users are
fixed. -/
theorem refusal?_congr (h : members.AlikeOn mutation.parties members') :
    mutation.refusal? members' = mutation.refusal? members := by
  have huser {id : UserId} (hmem : .user id ∈ mutation.parties) :
      members'.users.contains id = members.users.contains id :=
    congrArg Option.isSome (h.entries (.user id) hmem)
  have hintegration {id : IntegrationId} (hmem : .integration id ∈ mutation.parties) :
      members'.integrations.contains id = members.integrations.contains id :=
    congrArg Option.isSome (h.entries (.integration id) hmem)
  cases mutation with
  | join | leave | updateUserRole =>
    simp only [refusal?, h.fixed, huser (List.mem_singleton_self _)]
  | addIntegration | deleteIntegration | updateIntegrationRole =>
    simp only [refusal?, hintegration (List.mem_singleton_self _)]
  | deleteIntegrations integrations =>
    have hmissing : members'.missing integrations = members.missing integrations :=
      List.filter_congr fun id hmem => by
        rw [hintegration (List.mem_map_of_mem (mem_distinct.1 hmem))]
    simp only [refusal?, hmissing]

/-- The users are fixed after the change if they were before. -/
theorem fixed_left (mutation : Mutation) (members : Members) :
    (mutation.left members).fixed = members.fixed := by
  obtain ⟨error, -, hleft⟩ | ⟨-, hmade⟩ := mutation.left_cases members
  · rw [hleft]
  · exact hmade.fixed

/-- An entry is rewritten if the change is about it and there is no reason to refuse it. -/
theorem entryOf_left (mutation : Mutation) (members : Members) (party : Party) :
    (mutation.left members).entryOf party =
      if (mutation.refusal? members).isNone ∧ party ∈ mutation.parties then
        mutation.rewrite (members.entryOf party)
      else members.entryOf party := by
  obtain ⟨error, hrefusal, hleft⟩ | ⟨hrefusal, hmade⟩ := mutation.left_cases members
  · simp [hrefusal, hleft]
  · simp [hrefusal, hmade.entries party]

/-- The change touches no entry but those that it is about. -/
theorem entryOf_left_of_notMem {party : Party} (h : party ∉ mutation.parties) :
    (mutation.left members).entryOf party = members.entryOf party := by
  rw [entryOf_left, if_neg fun hmade => h hmade.2]

/-- Where the change finds the same entries of those whom it is about, it ends alike and leaves the
same entries of them. -/
theorem left_congr (h : members.AlikeOn mutation.parties members') :
    mutation.outcome members' = mutation.outcome members ∧
      (mutation.left members).AlikeOn mutation.parties (mutation.left members') := by
  have hrefusal := refusal?_congr h
  refine ⟨by rw [outcome_eq, outcome_eq, hrefusal], ?_, fun party hmem => ?_⟩
  · rw [fixed_left, fixed_left, h.fixed]
  · rw [entryOf_left, entryOf_left, hrefusal, h.entries party hmem]

/-! ## One after the other -/

/-- A change leaves all those alike whom it is not about. -/
theorem alikeOn_left {first second : Mutation} (hapart : first.parties.Disjoint second.parties)
    (members : Members) : members.AlikeOn second.parties (first.left members) where
  fixed := first.fixed_left members
  entries _ hmem := entryOf_left_of_notMem fun hmem' => hapart hmem' hmem

/-- A change ends alike whether or not another one has been tried before that is about others. -/
theorem outcome_left {first second : Mutation} (hapart : first.parties.Disjoint second.parties)
    (members : Members) : second.outcome (first.left members) = second.outcome members :=
  (left_congr (alikeOn_left hapart members)).1

/-- Changes that are about different members leave the same members behind in either order. -/
theorem left_comm {first second : Mutation} (hapart : first.parties.Disjoint second.parties)
    (members : Members) : second.left (first.left members) = first.left (second.left members) := by
  -- Those whom the one change is about are as this change alone would leave them.
  have hsecond := (left_congr (alikeOn_left hapart members)).2
  have hfirst := (left_congr (alikeOn_left hapart.symm members)).2
  refine ext_entryOf (by simp only [fixed_left]) fun party => ?_
  by_cases hmem : party ∈ first.parties
  · rw [hfirst.entries party hmem, entryOf_left_of_notMem (hapart hmem)]
  · rw [entryOf_left_of_notMem hmem]
    by_cases hmem' : party ∈ second.parties
    · exact hsecond.entries party hmem'
    · simp only [entryOf_left_of_notMem hmem, entryOf_left_of_notMem hmem']

/-- The order of two changes that are about different members is of no matter. Whoever the members
are, and whether or not their users are fixed: each change is made, or refused for the same reason, as
if there were no other, and in either order the same members are left behind. So it is when both
changes are made in place, where what is done before a failure remains. -/
theorem either_order {first second : Mutation} (hapart : first.parties.Disjoint second.parties) :
    (∀ members,
      second.outcome (first.left members) = second.outcome members ∧
      first.outcome (second.left members) = first.outcome members ∧
      second.left (first.left members) = first.left (second.left members)) ∧
    (do let a ← first.inPlace.observe; let b ← second.inPlace.observe; return (a, b)) =
      (do let b ← second.inPlace.observe; let a ← first.inPlace.observe; return (a, b)) := by
  refine ⟨fun members => ⟨outcome_left hapart members, outcome_left hapart.symm members,
    left_comm hapart members⟩, ?_⟩
  funext members
  change EStateM.run _ members = EStateM.run _ members
  simp only [EStateM.run_bind, run_observe_inPlace, outcome_left hapart, outcome_left hapart.symm,
    left_comm hapart]

end Mutation

end Changes

/-! ### A user and an integration of one name -/

namespace Namesakes

/-- Ann has a workspace to herself, with an integration that is called mirror. -/
def annsOwn : Members :=
  { Members.ofOwner ⟨"ann"⟩ false with
    integrations := Table.empty.insert ⟨"mirror"⟩ (.new .writer ⟨"ann"⟩) }

/-- A user who is called mirror, too, joins. -/
def mirrorJoins : Mutation :=
  .join ⟨"mirror"⟩ (some .writer) ⟨"ann"⟩

/-- The integration is to be taken out, together with two that are not there. -/
def uninstall : Mutation :=
  .deleteIntegrations [⟨"ghost"⟩, ⟨"mirror"⟩, ⟨"clock"⟩, ⟨"ghost"⟩]

/-- The user joins and the integration stays, whichever comes first. -/
theorem apart_namesakes :
    mirrorJoins.parties.Disjoint uninstall.parties ∧
      mirrorJoins.outcome (uninstall.left annsOwn) = .ok () ∧
      uninstall.outcome (mirrorJoins.left annsOwn) =
        .error (.integrationsNotInWorkspace [⟨"ghost"⟩, ⟨"clock"⟩]) ∧
      uninstall.left (mirrorJoins.left annsOwn) = mirrorJoins.left (uninstall.left annsOwn) ∧
      (uninstall.left (mirrorJoins.left annsOwn)).userIds = [⟨"mirror"⟩, ⟨"ann"⟩] ∧
      (uninstall.left (mirrorJoins.left annsOwn)).integrationIds = [⟨"mirror"⟩] := by
  have hapart : mirrorJoins.parties.Disjoint uninstall.parties := by
    simp [mirrorJoins, uninstall, Mutation.parties]
  obtain ⟨huninstall, hjoins, hleft⟩ := (Mutation.either_order hapart).1 annsOwn
  exact ⟨hapart, hjoins.trans rfl, huninstall.trans rfl, hleft, rfl, rfl⟩

end Namesakes

end Members

end Roster
