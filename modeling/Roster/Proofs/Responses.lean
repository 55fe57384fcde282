import Roster.Http.Endpoints
import Roster.Proofs.Courses
import Roster.Proofs.Grantings

/-!
# Requests that are rejected

A response with a status of 400 or above rejects the request, whether a handler ends early with it or
returns it. Handlers look around, then act once, and then respond with success, so a rejected request
leaves the store as it was. The exception is the handler that grants several roles within a workspace,
which acts once for each of them.
-/

namespace Roster.Http

open Course

namespace Handler

variable {α : Type}

/-- An action in a handler: its error becomes a response. -/
theorem lift_apply (action : Action α) (moment : Moment) (directory : Directory) :
    (liftM action : Handler α) moment directory =
      match action.perform moment directory with
      | (.ok value, directory') => .ok value directory'
      | (.error error, directory') => .error (.ofError error) directory' := by
  change ofAction action moment directory = _
  unfold ofAction Action.perform
  cases action moment directory <;> rfl

/-- A handler carries actions out. -/
theorem carries_lift (action : Action α) :
    Carries (fun directory => directory) action (liftM action : Handler α) where
  ok := fun h => ⟨_, by rw [lift_apply, h], rfl⟩
  error := fun h => ⟨_, _, by rw [lift_apply, h], rfl⟩

/-- An action that only looks around does so in a handler. -/
theorem quiet_lift {action : Action α} (h : action.Looks) :
    Quiet Directory.store (liftM action : Handler α) :=
  (carries_lift action).quiet h

/-- An action that acts once is atomic in a handler. -/
theorem atomic_lift {action : Action α} (h : action.ActsOnce) :
    Atomic Directory.store (liftM action : Handler α) :=
  (carries_lift action).atomic h

/-- An action that carries an operation out is atomic in a handler. -/
theorem atomic_of_carriedOut {operation : Operation} {defaultPolicy : Option PolicyId}
    {operator : Operator} {action : Action α}
    (h : operation.CarriedOutBy defaultPolicy operator action) :
    Atomic Directory.store (liftM action : Handler α) := by
  intro moment directory response directory' hends
  rw [lift_apply] at hends
  match hperform : action.perform moment directory with
  | (.ok value, directory₁) =>
    rw [hperform] at hends
    exact nomatch hends
  | (.error error, directory₁) =>
    rw [hperform] at hends
    cases hends
    exact h.store_of_error hperform

/-- A handler that leaves the store as it was whenever it rejects the request. -/
def Clean (handler : Handler Response) : Prop :=
  ∀ moment directory, 400 ≤ (handler.respond moment directory).1.status →
    (handler.respond moment directory).2.store = directory.store

/-- Looking around is clean, whatever the response. -/
theorem clean_of_quiet {handler : Handler Response} (h : Quiet Directory.store handler) :
    Clean handler := by
  intro moment directory _
  have hsame := h moment directory
  simp only [leaves, respond] at hsame ⊢
  cases hends : handler moment directory <;> simpa only [hends] using hsame

/-- What is clean remains so after looking around. -/
theorem Clean.after {handler : Handler α} {f : α → Handler Response}
    (h : Quiet Directory.store handler) (hf : ∀ value, Clean (f value)) : Clean (handler >>= f) := by
  intro moment directory hstatus
  have hfirst := h moment directory
  simp only [leaves, respond, bind_apply] at hfirst hstatus ⊢
  cases hends : handler moment directory with
  | ok value directory₁ =>
    simp only [hends] at hfirst hstatus ⊢
    exact (hf value moment directory₁ hstatus).trans hfirst
  | error response directory₁ =>
    simp only [hends] at hfirst ⊢
    exact hfirst

/-- Something atomic is clean if its response reports success. -/
theorem clean_of_atomic {handler : Handler α} {f : α → Response}
    (h : Atomic Directory.store handler) (hf : ∀ value, (f value).status < 400) :
    Clean (handler >>= fun value => pure (f value)) := by
  intro moment directory hstatus
  simp only [respond, bind_apply] at hstatus ⊢
  cases hends : handler moment directory with
  | ok value directory₁ =>
    rw [hends] at hstatus
    exact absurd hstatus (Nat.not_le.2 (hf value))
  | error response directory₁ => exact h _ _ _ _ hends

end Handler

open Handler

/-! ## Parts of handlers -/

/-- Reading an id does nothing. -/
theorem quiet_idIn {kind : Entity} (segment : String) :
    Quiet Directory.store (idIn segment : Handler (Ident kind)) := by
  unfold idIn
  split
  · exact quiet_pure _
  · exact quiet_throw _

/-- Passing where nothing is wrong does nothing. -/
theorem quiet_guard {α : Type} {wrong : Prop} [Decidable wrong] {response : Response}
    {go : Unit → Handler α} (h : ∀ u, Quiet Directory.store (go u)) :
    Quiet Directory.store (if wrong then throw response >>= go else go ()) := by
  split
  · exact (quiet_throw _).bind h
  · exact h ()

/-- Reading the body does nothing. -/
theorem quiet_read {α : Type} (request : Request) (record : Json.Record α) :
    Quiet Directory.store (request.read record) := by
  refine quiet_guard fun _ => quiet_guard fun _ => ?_
  split
  · exact quiet_pure _
  · exact quiet_throw _
  · exact quiet_throw _

/-- Finding out whether the caller is a user does nothing. -/
theorem quiet_signedUp (caller : Caller) : Quiet Directory.store caller.signedUp := by
  unfold Caller.signedUp
  split
  · exact quiet_pure _
  · exact quiet_throw _

/-- Finding out who calls does nothing. -/
theorem quiet_authenticate (service : Service) (authorization : Option String) :
    Quiet Directory.store (service.authenticate authorization) := by
  unfold Service.authenticate
  split
  · refine (quiet_lift .now).bind fun now => ?_
    split
    · refine (quiet_lift (.read (Program.reads_queryOptional _))).bind fun found => ?_
      cases found with
      | none => exact quiet_pure _
      | some user =>
        exact (quiet_lift (Accounts.looks_operatorFor _ _)).bind fun _ => quiet_pure _
    · exact quiet_throw _
  · exact quiet_throw _

/-- Finding out whether the caller may manage access roles does nothing. -/
theorem quiet_mayManageRoles (service : Service) (caller : Caller) :
    Quiet Directory.store (mayManageRoles service caller) := by
  refine (quiet_signedUp caller).bind fun user =>
    (quiet_lift (Permissions.looks_check _ _ _ _)).bind fun allowed => ?_
  split
  · exact quiet_throw _
  · exact quiet_pure _

/-! ## What handlers do -/

/-- A handler looks around and then does one thing: it carries an operation out and answers with
success. For the operations on access roles and on who holds them, it first makes sure that the caller
may manage them. -/
inductive Acts (service : Service) (caller : Caller) : Handler Response → Prop
  | looks {handler : Handler Response} (h : Quiet Directory.store handler) :
    Acts service caller handler
  | after {α : Type} {first : Handler α} {rest : α → Handler Response}
    (h : Quiet Directory.store first) (hrest : ∀ value, Acts service caller (rest value)) :
    Acts service caller (first >>= rest)
  | ordinary {α : Type} (operation : Operation) {action : Action α} {view : α → Response}
    (hordinary : ¬ operation.Governs)
    (hcarried : operation.CarriedOutBy service.defaultPolicy caller.operator action)
    (hsuccess : ∀ value, (view value).status < 400) :
    Acts service caller ((liftM action : Handler α) >>= fun value => pure (view value))
  | governing {α : Type} (operation : Operation) {action : Action α} {view : α → Response}
    (hgoverns : operation.Governs)
    (hcarried : operation.CarriedOutBy service.defaultPolicy caller.operator action)
    (hsuccess : ∀ value, (view value).status < 400) :
    Acts service caller (mayManageRoles service caller >>= fun _ =>
      (liftM action : Handler α) >>= fun value => pure (view value))

section Acts

variable {service : Service} {caller : Caller}

/-- An operation that is answered with a workspace. -/
theorem acts_answerWorkspace (operation : Operation) (hordinary : ¬ operation.Governs)
    {action : Action Workspace}
    (hcarried : operation.CarriedOutBy service.defaultPolicy caller.operator action) :
    Acts service caller (answerWorkspace action) :=
  .ordinary operation hordinary hcarried fun _ => (by decide : 200 < 400)

/-- A change of a workspace that the body asks for. -/
theorem acts_change {α : Type} {request : Request} {record : Json.Record α}
    (operation : α → Operation) (hordinary : ∀ value, ¬ (operation value).Governs)
    {action : α → Action Workspace}
    (hcarried : ∀ value,
      (operation value).CarriedOutBy service.defaultPolicy caller.operator (action value)) :
    Acts service caller (request.read record >>= fun value => answerWorkspace (action value)) :=
  .after (quiet_read request record) fun value =>
    acts_answerWorkspace (operation value) (hordinary value) (hcarried value)

/-- Wherever a request is sent, it is dealt with in this way, unless it asks for access roles to be
given to a user. -/
theorem acts_of_endpoint? {request : Request} {route : Route} {method : Method}
    {handler : Handler Response}
    (h : endpoint? service caller request route method = some handler)
    (hother : ∀ user, ¬ (route = .permittable user ∧ method = .put)) :
    Acts service caller handler := by
  have hok : 200 < 400 := by decide
  have hcreated : 201 < 400 := by decide
  have hnoContent : 204 < 400 := by decide
  unfold endpoint? at h
  split at h <;> first | obtain rfl := Option.some.inj h | exact nomatch h
  -- Accounts.
  · exact .ordinary
      (.signupSubject caller.claims.subject caller.claims.email caller.claims.name) (fun h => h)
      ⟨_, rfl⟩ fun _ => hok
  · exact .looks ((quiet_signedUp caller).bind fun _ => quiet_pure _)
  · exact .after (quiet_read _ _) fun change =>
      .ordinary (.updateMe change) (fun h => h) ⟨_, rfl⟩ fun _ => hok
  · exact .ordinary .removeMe (fun h => h) ⟨_, rfl⟩ fun _ => hnoContent
  -- Workspaces.
  · exact .looks ((quiet_signedUp caller).bind fun _ =>
      (quiet_lift (Workspaces.looks_findByUser _ _)).bind fun _ => quiet_pure _)
  · refine .after (quiet_read _ _) fun asked => ?_
    obtain ⟨name, aliasName⟩ := asked
    exact .after (quiet_signedUp caller) fun user =>
      .ordinary (.createWorkspace name aliasName user.id) (fun h => h) ⟨_, rfl⟩ fun _ => hcreated
  · refine .looks ((quiet_idIn _).bind fun id =>
      (quiet_lift (Workspaces.looks_fetch _ _)).bind fun found => ?_)
    cases found with
    | nil => exact quiet_throw _
    | cons ws _ => exact quiet_pure _
  · exact .after (quiet_idIn _) fun id =>
      acts_change (.updateWorkspace id) (fun _ h => h) fun _ => ⟨_, rfl⟩
  · exact .after (quiet_idIn _) fun id =>
      .ordinary (.removeWorkspace id) (fun h => h) ⟨_, rfl⟩ fun _ => hnoContent
  · exact .after (quiet_idIn _) fun id =>
      acts_change (.transferOwnership id) (fun _ h => h) fun _ => ⟨_, rfl⟩
  -- Members.
  · exact .after (quiet_idIn _) fun id =>
      acts_change (.addUserMember id) (fun _ h => h) fun _ => ⟨_, rfl⟩
  · exact .after (quiet_idIn _) fun id =>
      acts_change (.removeMultipleUserMembers id) (fun _ h => h) fun _ => ⟨_, rfl⟩
  · exact .after (quiet_idIn _) fun id => .after (quiet_idIn _) fun user =>
      acts_change (.updateUserMember id user) (fun _ h => h) fun _ => ⟨_, rfl⟩
  · exact .after (quiet_idIn _) fun id => .after (quiet_idIn _) fun user =>
      acts_answerWorkspace (.removeUserMember id user) (fun h => h) ⟨_, rfl⟩
  · refine .after (quiet_idIn _) fun id => .after (quiet_read _ _) fun asked => ?_
    obtain ⟨integration, role⟩ := asked
    exact acts_answerWorkspace (.addIntegrationMember id integration role) (fun h => h) ⟨_, rfl⟩
  · exact .after (quiet_idIn _) fun id =>
      acts_change (.removeIntegrations id) (fun _ h => h) fun _ => ⟨_, rfl⟩
  · exact .after (quiet_idIn _) fun id => .after (quiet_idIn _) fun integration =>
      acts_change (.updateIntegrationMember id integration) (fun _ h => h) fun _ => ⟨_, rfl⟩
  · exact .after (quiet_idIn _) fun id => .after (quiet_idIn _) fun integration =>
      acts_answerWorkspace (.removeIntegration id integration) (fun h => h) ⟨_, rfl⟩
  -- Access roles.
  · exact .looks ((quiet_signedUp caller).bind fun _ =>
      (quiet_lift AccessRoles.looks_all).bind fun _ => quiet_pure _)
  · exact .after (quiet_read _ _) fun name =>
      .governing (.createRole name) trivial ⟨_, rfl⟩ fun _ => hcreated
  · exact .after (quiet_idIn _) fun id => .after (quiet_read _ _) fun name =>
      .governing (.updateRole id name) trivial ⟨_, rfl⟩ fun _ => hok
  · exact .after (quiet_idIn _) fun id =>
      .governing (.removeRole id) trivial ⟨_, rfl⟩ fun _ => hnoContent
  · exact .looks ((quiet_mayManageRoles service caller).bind fun _ =>
      (quiet_lift Grants.looks_holders).bind fun _ => quiet_pure _)
  · exact absurd ⟨rfl, rfl⟩ (hother _)
  · exact .looks ((quiet_read _ _).bind fun _ => (quiet_signedUp caller).bind fun _ =>
      (quiet_lift (Permissions.looks_check _ _ _ _)).bind fun _ => quiet_pure _)

/-- Whoever deals with a request in this way leaves the store as it was whenever they reject it. -/
theorem Acts.clean {handler : Handler Response} (h : Acts service caller handler) : Clean handler := by
  induction h with
  | looks hquiet => exact clean_of_quiet hquiet
  | after hquiet _ ih => exact .after hquiet ih
  | ordinary _ _ hcarried hsuccess => exact clean_of_atomic (atomic_of_carriedOut hcarried) hsuccess
  | governing _ _ hcarried hsuccess =>
    exact .after (quiet_mayManageRoles service caller) fun _ =>
      clean_of_atomic (atomic_of_carriedOut hcarried) hsuccess

end Acts

/-! ## Roles within a workspace -/

section Granting

variable {user : UserId} {workspace : WorkspaceId} {moment : Moment} {directory directory₁ : Directory}
  {roles : List RoleId}

/-- All roles are granted and the last grant is at hand, or there were none to grant, or they are cut
short. -/
theorem grantWithin_cases (latest : Option Permittable) :
    (∃ p directory', grantWithin user workspace roles latest moment directory =
        .ok (some p) directory') ∨
      (latest = none ∧
        grantWithin user workspace roles latest moment directory = .ok none directory) ∨
      ∃ error directory' directory₁,
        grantWithin user workspace roles latest moment directory = .error error directory' ∧
        Grants.CutShort user workspace moment directory roles directory₁ ∧
        directory'.store = directory₁.store := by
  induction roles generalizing latest directory with
  | nil =>
    cases latest with
    | none => exact .inr (.inl ⟨rfl, rfl⟩)
    | some p => exact .inl ⟨p, directory, rfl⟩
  | cons role rest ih =>
    rw [grantWithin, bind_apply, lift_apply]
    cases hfirst : (Grants.addWorkspaceRole user workspace role).perform moment directory with
    | mk outcome directory₁ =>
      cases outcome with
      | error error =>
        exact .inr (.inr ⟨_, _, _, rfl, .refused hfirst,
          Grants.store_of_refused hfirst⟩)
      | ok p =>
        obtain hall | ⟨hnone, -⟩ | ⟨error, directory', directory₂, hends, hcut, hstore⟩ :=
          @ih directory₁ (some p)
        · exact .inl hall
        · exact nomatch hnone
        · exact .inr (.inr ⟨error, directory', directory₂, hends, .granted hfirst hcut, hstore⟩)

/-- Grants that are cut short are answered with the error of the role that is refused. -/
theorem grantWithin_of_cutShort
    (h : Grants.CutShort user workspace moment directory roles directory₁)
    (latest : Option Permittable) :
    ∃ error directory', grantWithin user workspace roles latest moment directory =
      .error (.ofError error) directory' ∧ directory'.store = directory₁.store := by
  induction h generalizing latest with
  | @refused _ directory' _ _ error hrefused =>
    refine ⟨error, directory', ?_, Grants.store_of_refused hrefused⟩
    rw [grantWithin, bind_apply, lift_apply, hrefused]
  | granted hgranted _ ih =>
    rw [grantWithin, bind_apply, lift_apply, hgranted]
    exact ih (some _)

end Granting

/-- What a request asks to be granted, once it has been let in: the user, the roles, and the
workspace if they are to hold in one only. -/
def grantsAsked (service : Service) (request : Request) (segment : String) :
    Handler (UserId × List RoleId × Option WorkspaceId) := do
  let caller ← service.authenticate request.authorization
  let user ← idIn segment
  let grants ← request.read newGrants
  mayManageRoles service caller
  return (user, grants)

/-- Grant what is asked for. -/
def grant : UserId × List RoleId × Option WorkspaceId → Handler Response
  | (user, roles, some workspace) => do
    match ← grantWithin user workspace roles none with
    | some p => return .ok p.json
    | none => throw (.failure 400 "invalid_parameter" "role_ids must not be empty")
  | (user, roles, none) => do return .ok (← Grants.updatePermittable user roles).json

variable {service : Service} {request : Request} {segment : String} {moment : Moment}
  {directory : Directory} {store : Store}

/-- Finding out what is asked for does nothing. -/
theorem quiet_grantsAsked (service : Service) (request : Request) (segment : String) :
    Quiet Directory.store (grantsAsked service request segment) :=
  (quiet_authenticate _ _).bind fun caller => (quiet_idIn _).bind fun _ =>
    (quiet_read _ _).bind fun _ => (quiet_mayManageRoles service caller).bind fun _ => quiet_pure _

/-- A request for grants is let in first and granted afterwards. -/
theorem dispatch_permittable (hmethod : Method.ofName request.method = .put) :
    service.dispatch request (.permittable segment) =
      grantsAsked service request segment >>= grant := by
  simp only [Service.dispatch, hmethod, Method.carriedOut, endpoint?, updatePermittable, grantsAsked,
    bind_assoc, pure_bind]
  refine bind_congr fun caller => bind_congr fun user => bind_congr fun grants =>
    bind_congr fun _ => ?_
  obtain ⟨roles, _ | workspace⟩ := grants <;> rfl

/-- A request asks for roles within a workspace and is let in, but the grants are cut short: what is
left is the store as the roles before the refused one have made it. -/
inductive GrantsCutShort (service : Service) (request : Request) (moment : Moment)
    (directory : Directory) : Store → Prop
  | intro {segment : String} {user : UserId} {roles : List RoleId} {workspace : WorkspaceId}
    {directory₀ directory₁ : Directory} (hmethod : Method.ofName request.method = .put)
    (hpath : Target.ofPath? request.path = some (.route (.permittable segment)))
    (hasked : grantsAsked service request segment moment directory =
      .ok (user, roles, some workspace) directory₀)
    (hcut : Grants.CutShort user workspace moment directory₀ roles directory₁) :
    GrantsCutShort service request moment directory directory₁.store

/-! ## Answers -/

/-- Every error is answered with a status for errors. -/
theorem le_status_ofError (error : Error) : 400 ≤ (Response.ofError error).status := by
  change 400 ≤ Response.statusOf error.kind
  cases error.kind <;> decide

/-- A request for the head is answered like one for the content, but for the content. -/
theorem answer_eq (service : Service) (request : Request) (moment : Moment) (directory : Directory) :
    let answer := service.answerAt request moment directory (Target.ofPath? request.path)
    (service.answer request moment directory).1.status = answer.1.status ∧
      (service.answer request moment directory).2 = answer.2 := by
  simp only [Service.answer]
  cases Method.ofName request.method <;> exact ⟨rfl, rfl⟩

/-- Grants that are cut short are rejected, and what was granted before stays granted. -/
theorem GrantsCutShort.answer (h : GrantsCutShort service request moment directory store) :
    400 ≤ (service.answer request moment directory).1.status ∧
      (service.answer request moment directory).2.store = store := by
  obtain ⟨hmethod, hpath, hasked, hcut⟩ := h
  obtain ⟨error, directory', hends, hstore⟩ := grantWithin_of_cutShort hcut none
  obtain ⟨hstatus, hleaves⟩ := answer_eq service request moment directory
  rw [hstatus, hleaves, hpath]
  simp only [Service.answerAt, respond, dispatch_permittable hmethod, bind_apply, hasked, grant, hends]
  exact ⟨le_status_ofError error, hstore⟩

/-- A route where nobody asks for roles leaves the store as it was whenever it rejects a request. -/
theorem clean_dispatch {route : Route}
    (hother : ∀ user, ¬ (route = .permittable user ∧ Method.ofName request.method = .put)) :
    Clean (service.dispatch request route) := by
  refine .after (quiet_authenticate service _) fun caller => ?_
  cases hendpoint : endpoint? service caller request route (Method.ofName request.method).carriedOut with
  | none => exact clean_of_quiet (quiet_throw _)
  | some handler =>
    refine (acts_of_endpoint? hendpoint fun user hroute => hother user ⟨hroute.1, ?_⟩).clean
    -- Only asking for the head is carried out by another method.
    cases hmethod : Method.ofName request.method <;> rw [hmethod] at hroute <;>
      first | rfl | exact nomatch hroute.2

/-- Grants that are rejected leave the store as it was, or are cut short. -/
theorem respond_grant_cases {user : UserId} {roles : List RoleId} {workspace : Option WorkspaceId}
    (h : 400 ≤ ((grant (user, roles, workspace)).respond moment directory).1.status) :
    ((grant (user, roles, workspace)).respond moment directory).2.store = directory.store ∨
      ∃ id directory₁, workspace = some id ∧
        Grants.CutShort user id moment directory roles directory₁ ∧
        ((grant (user, roles, workspace)).respond moment directory).2.store = directory₁.store := by
  cases workspace with
  | none =>
    exact .inl (clean_of_atomic (atomic_lift (.run rfl _ _))
      (fun _ => (by decide : 200 < 400)) moment directory h)
  | some id =>
    simp only [grant, respond, bind_apply] at h ⊢
    obtain ⟨p, directory', hall⟩ | ⟨-, hnone⟩ | ⟨response, directory', directory₁, hends, hcut, hstore⟩ :=
      @grantWithin_cases user id moment directory roles none
    · rw [hall] at h
      exact absurd (show 400 ≤ 200 from h) (by decide)
    · rw [hnone]
      exact .inl rfl
    · rw [hends]
      exact .inr ⟨id, directory₁, rfl, hcut, hstore⟩

/-- A request for roles that is rejected leaves the store as it was, or its grants are cut short. -/
theorem respond_dispatch_cases (hmethod : Method.ofName request.method = .put)
    (hpath : Target.ofPath? request.path = some (.route (.permittable segment)))
    (h : 400 ≤ ((service.dispatch request (.permittable segment)).respond moment directory).1.status) :
    ((service.dispatch request (.permittable segment)).respond moment directory).2.store =
        directory.store ∨
      GrantsCutShort service request moment directory
        ((service.dispatch request (.permittable segment)).respond moment directory).2.store := by
  have hquiet := quiet_grantsAsked service request segment moment directory
  simp only [leaves] at hquiet
  simp only [dispatch_permittable hmethod, respond, bind_apply] at h ⊢
  cases hasked : grantsAsked service request segment moment directory with
  | error response directory₀ =>
    simp only [hasked] at hquiet ⊢
    exact .inl hquiet
  | ok asked directory₀ =>
    simp only [hasked] at hquiet h ⊢
    obtain ⟨user, roles, workspace⟩ := asked
    obtain hsame | ⟨id, directory₁, rfl, hcut, hstore⟩ := respond_grant_cases h
    · exact .inl (hsame.trans hquiet)
    · simp only [respond] at hstore
      rw [hstore]
      exact .inr (.intro hmethod hpath hasked hcut)

/-- A request that is rejected leaves the store as it was, or its grants are cut short. -/
theorem answer_cases (h : 400 ≤ (service.answer request moment directory).1.status) :
    (service.answer request moment directory).2.store = directory.store ∨
      GrantsCutShort service request moment directory
        (service.answer request moment directory).2.store := by
  obtain ⟨hstatus, hleaves⟩ := answer_eq service request moment directory
  rw [hstatus] at h
  rw [hleaves]
  match hpath : Target.ofPath? request.path with
  | none => exact .inl rfl
  | some .health =>
    simp only [Service.answerAt]
    split <;> exact .inl rfl
  | some (.route route) =>
    rw [hpath] at h
    by_cases hgrants : ∃ user, route = .permittable user ∧ Method.ofName request.method = .put
    · obtain ⟨segment, rfl, hmethod⟩ := hgrants
      exact respond_dispatch_cases hmethod hpath h
    · exact .inl (clean_dispatch (fun user hroute => hgrants ⟨user, hroute⟩) moment directory h)

end Roster.Http
