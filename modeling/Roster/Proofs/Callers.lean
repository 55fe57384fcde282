import Mathlib.Logic.Relation
import Roster.Proofs.Ownership
import Roster.Proofs.Responses

/-!
# What a request can do

A caller is known by their token, and acts with an operator who has just been looked up. Wherever
their request is sent, it does one of three things to the tables: nothing, one operation on workspaces
or accounts, or, if the policy lets them manage access roles, some operations on these roles and on
who holds them.
-/

namespace Roster

/-- The names of the access roles that count for a user, everywhere or in a workspace. -/
def Tables.roleNames (t : Tables) (user : UserId) (workspace : Option WorkspaceId) : List String :=
  match t.permittables.values.find? (·.user = user) with
  | none => []
  | some p => ((p.effectiveRoles workspace).filterMap t.roles.get?).map AccessRole.name

/-- A check of permissions reads the names of the roles off the tables and never fails. -/
theorem Permissions.perform_check (policy : Policy) (user : UserId) (resource : Resource)
    (action : String) (moment : Moment) (directory : Directory) :
    (check policy user resource action).perform moment directory =
      (.ok (policy.allows (directory.store.tables.roleNames user resource.workspace) resource.kind
        action), directory) := by
  have hresolve : (resolveRoles user resource).perform moment directory =
      (.ok (directory.store.tables.roleNames user resource.workspace), directory) := by
    have hholder : optional ((Query.permittableOf user).answer directory.store.tables) =
        .ok (directory.store.tables.permittables.values.find? (·.user = user)) :=
      optional_found _ _
    simp only [resolveRoles, Usecase.perform_runPlain, Program.queryOptional, Program.query, bind,
      Program.andThen, Program.onStore, hholder, Tables.roleNames]
    cases directory.store.tables.permittables.values.find? (·.user = user) <;> rfl
  rw [check, Action.perform_bind, hresolve]
  rfl

/-! ## Operations of callers -/

namespace Operation

variable {α : Type} {operation : Operation} {operator held : Operator} {t t' : Tables}
  {defaultPolicy : Option PolicyId} {action : Action α} {directory : Directory}

/-- An operation on access roles or on who holds them succeeds. -/
def Governing (operator : Operator) (t t' : Tables) : Prop :=
  ∃ operation held, Governs operation ∧ Effect operator t operation held t'

/-- Operations on access roles and on who holds them leave workspaces and users alone. -/
theorem Effect.same_of_governs (h : Effect operator t operation held t')
    (hgoverns : operation.Governs) : t'.workspaces = t.workspaces ∧ t'.users = t.users := by
  cases h with
  | removeRole heffect =>
    obtain ⟨hrewrites⟩ := heffect
    exact ⟨hrewrites.workspaces, hrewrites.users⟩
  | createRole heffect | updateRole heffect | updatePermittable heffect | addNewRole heffect =>
    obtain ⟨_⟩ := heffect
    exact ⟨rfl, rfl⟩
  | addKnownRole => exact ⟨rfl, rfl⟩
  | edit hedited | leave hleaving => cases operation <;> first | exact hgoverns.elim | contradiction
  | _ => exact hgoverns.elim

/-- However many of them there are. -/
theorem same_of_governing (h : Relation.ReflTransGen (Governing operator) t t') :
    t'.workspaces = t.workspaces ∧ t'.users = t.users := by
  induction h with
  | refl => exact ⟨rfl, rfl⟩
  | tail _ hstep ih =>
    obtain ⟨operation, held, hgoverns, heffect⟩ := hstep
    obtain ⟨hworkspaces, husers⟩ := heffect.same_of_governs hgoverns
    exact ⟨hworkspaces.trans ih.1, husers.trans ih.2⟩

/-- An action that carries an operation out fails and leaves the store as it was, or has the effect of
the operation. -/
theorem CarriedOutBy.cases (h : operation.CarriedOutBy defaultPolicy operator action) (moment : Moment)
    (hfiled : directory.store.tables.Filed) :
    (∃ error directory', action.perform moment directory = (.error error, directory') ∧
      directory'.store = directory.store) ∨
    ∃ value directory' held, action.perform moment directory = (.ok value, directory') ∧
      Effect operator directory.store.tables operation held directory'.store.tables := by
  match hperform : action.perform moment directory with
  | (.error error, directory') => exact .inl ⟨error, directory', rfl, h.store_of_error hperform⟩
  | (.ok value, directory') =>
    obtain ⟨held, hact⟩ := h
    have hact : (operation.act defaultPolicy operator).perform moment directory =
        (.ok (held value), directory') := by
      rw [hact]
      exact Action.perform_bind_pure_eq_ok.2 ⟨value, hperform, rfl⟩
    exact .inr ⟨value, directory', held value, rfl, effect_of_perform hfiled hact⟩

end Operation

namespace Http

open Course Handler Operation

variable {α β : Type} {service : Service} {caller : Caller} {request : Request} {moment : Moment}
  {directory directory' : Directory}

/-- The policy lets a caller manage access roles. -/
def Caller.MayManage (service : Service) (caller : Caller) (t : Tables) : Prop :=
  ∃ user, caller.user = some user ∧
    service.policy.allows (t.roleNames user.id none) "role" "manage" = true

/-- What a request of a caller may do to the tables. -/
inductive Caller.Deed (service : Service) (caller : Caller) (t t' : Tables) : Prop
  | nothing (hsame : t' = t)
  | operation {operation : Operation} {held : Operator} (hordinary : ¬ operation.Governs)
    (heffect : Effect caller.operator t operation held t')
  | governing (hmay : caller.MayManage service t)
    (hsteps : Relation.ReflTransGen (Governing caller.operator) t t')

/-! ## Who calls -/

/-- A caller who is let in is known by their token; if they have signed up, their operator has been
looked up, and otherwise there is nothing to it. -/
theorem authenticate_eq_ok {authorization : Option String}
    (h : service.authenticate authorization moment directory = .ok caller directory') :
    directory' = directory ∧ (caller.user = none ∧ caller.operator = {} ∨
      ∃ user workspaces, caller.user = some user ∧
        (Query.workspacesOf .none user.id).answer directory.store.tables = .ok workspaces ∧
        caller.operator = .ofWorkspaces user.id workspaces service.defaultPolicy) := by
  unfold Service.authenticate at h
  cases hbearer : bearerToken? authorization with
  | none =>
    simp only [hbearer] at h
    exact nomatch h
  | some token =>
    simp only [hbearer, bind_apply, lift_apply, Action.perform_now] at h
    cases hverify : Token.Claims.verify service.secret moment.now.secondsSinceEpoch.toNat token with
    | error error =>
      simp only [hverify] at h
      exact nomatch h
    | ok claims =>
      simp only [hverify, bind_apply, lift_apply, Usecase.perform_runPlain_queryOptional] at h
      cases hfound : optional
          ((Query.userWithSubject claims.subject).answer directory.store.tables) with
      | error error =>
        simp only [hfound] at h
        exact nomatch h
      | ok found =>
        simp only [hfound] at h
        cases found with
        | none =>
          cases h
          exact ⟨rfl, .inl ⟨rfl, rfl⟩⟩
        | some user =>
          simp only [bind_apply, lift_apply] at h
          match hlookup : (Accounts.operatorFor service.defaultPolicy user.id).perform moment
              directory with
          | (.error error, directory₁) =>
            simp only [hlookup] at h
            exact nomatch h
          | (.ok operator, directory₁) =>
            simp only [hlookup] at h
            cases h
            obtain ⟨workspaces, hanswer, hoperator, rfl⟩ :=
              Accounts.perform_operatorFor_eq_ok.1 hlookup
            exact ⟨rfl, .inr ⟨user, workspaces, rfl, hanswer, hoperator⟩⟩

/-- A caller passes as one who may manage access roles exactly when the policy lets them. -/
theorem mayManageRoles_eq_ok :
    mayManageRoles service caller moment directory = .ok () directory' ↔
      directory' = directory ∧ caller.MayManage service directory.store.tables := by
  unfold Caller.MayManage
  cases huser : caller.user with
  | none =>
    have hunknown : mayManageRoles service caller moment directory =
        .error (.unauthorized "user has not signed up") directory := by
      rw [mayManageRoles, bind_apply, Caller.signedUp, huser]
      rfl
    simp [hunknown]
  | some user =>
    have hsigned : caller.signedUp moment directory = .ok user directory := by
      rw [Caller.signedUp, huser]
      rfl
    simp only [mayManageRoles, bind_apply, hsigned, lift_apply, Permissions.perform_check]
    cases hallowed : service.policy.allows (directory.store.tables.roleNames user.id none) "role"
        "manage" with
    | false =>
      refine iff_of_false (fun hpassed => nomatch hpassed) ?_
      rintro ⟨-, other, hother, hmay⟩
      obtain rfl := Option.some.inj hother
      exact nomatch hallowed.symm.trans hmay
    | true =>
      refine ⟨?_, ?_⟩
      · intro hpassed
        cases hpassed
        exact ⟨rfl, user, rfl, hallowed⟩
      · rintro ⟨rfl, -⟩
        rfl

/-! ## What handlers come to -/

namespace Handler

/-- The tables that a handler leaves, however it ends, are related to those that it found. -/
def Comes (R : Tables → Tables → Prop) (handler : Handler α) : Prop :=
  ∀ moment directory, directory.store.tables.Filed →
    R directory.store.tables (leaves handler moment directory).store.tables

variable {R : Tables → Tables → Prop} {handler : Handler α} {f : α → Handler β}

/-- Looking around changes nothing. -/
theorem comes_of_quiet (hrefl : ∀ t, R t t) (h : Quiet Directory.store handler) :
    Comes R handler := by
  intro moment directory _
  rw [h moment directory]
  exact hrefl _

/-- What comes after looking around decides. -/
theorem Comes.after (hrefl : ∀ t, R t t) (h : Quiet Directory.store handler)
    (hf : ∀ value, Comes R (f value)) : Comes R (handler >>= f) := by
  intro moment directory hfiled
  have hfirst := h moment directory
  simp only [leaves, bind_apply] at hfirst ⊢
  cases hends : handler moment directory with
  | ok value directory₁ =>
    simp only [hends] at hfirst ⊢
    rw [← hfirst] at hfiled ⊢
    exact hf value moment directory₁ hfiled
  | error response directory₁ =>
    simp only [hends] at hfirst ⊢
    rw [hfirst]
    exact hrefl _

/-- What comes before looking around decides. -/
theorem Comes.before (h : Comes R handler) (hf : ∀ value, Quiet Directory.store (f value)) :
    Comes R (handler >>= f) := by
  intro moment directory hfiled
  have hfirst := h moment directory hfiled
  simp only [leaves, bind_apply] at hfirst ⊢
  cases hends : handler moment directory with
  | ok value directory₁ =>
    simp only [hends] at hfirst ⊢
    have hsame := hf value moment directory₁
    simp only [leaves] at hsame
    rw [hsame]
    exact hfirst
  | error response directory₁ =>
    simp only [hends] at hfirst ⊢
    exact hfirst

/-- A handler that carries an operation out leaves what the operation does. -/
theorem comes_lift {operation : Operation} {operator : Operator} {defaultPolicy : Option PolicyId}
    {action : Action α} (hcarried : operation.CarriedOutBy defaultPolicy operator action)
    (hrefl : ∀ t, R t t) (heffect : ∀ {t held t'}, Effect operator t operation held t' → R t t') :
    Comes R (liftM action : Handler α) := by
  intro moment directory hfiled
  simp only [leaves, lift_apply]
  obtain ⟨error, directory', hfails, hstore⟩ | ⟨value, directory', held, hsucceeds, hdone⟩ :=
    hcarried.cases moment hfiled
  · simp only [hfails]
    rw [hstore]
    exact hrefl _
  · simp only [hsucceeds]
    exact heffect hdone

end Handler

/-- An operation on access roles or on who holds them is a step of governing. -/
theorem comes_governing {operation : Operation} {operator : Operator}
    {defaultPolicy : Option PolicyId} {action : Action α} (hgoverns : operation.Governs)
    (hcarried : operation.CarriedOutBy defaultPolicy operator action) :
    Comes (Relation.ReflTransGen (Governing operator)) (liftM action : Handler α) :=
  comes_lift hcarried (fun _ => .refl) fun heffect => .single ⟨_, _, hgoverns, heffect⟩

/-- Governing is a deed of callers who pass the check. -/
theorem comes_guarded {f : Unit → Handler α}
    (hf : ∀ u, Comes (Relation.ReflTransGen (Governing caller.operator)) (f u)) :
    Comes (caller.Deed service) (mayManageRoles service caller >>= f) := by
  intro moment directory hfiled
  have hquiet := quiet_mayManageRoles service caller moment directory
  simp only [leaves, bind_apply] at hquiet ⊢
  cases hends : mayManageRoles service caller moment directory with
  | ok value directory₁ =>
    obtain ⟨rfl, hmay⟩ := mayManageRoles_eq_ok.1 hends
    exact .governing hmay (hf value moment directory₁ hfiled)
  | error response directory₁ =>
    simp only [hends] at hquiet ⊢
    exact .nothing (by rw [hquiet])

/-- Grants within a workspace are steps of governing, whether they are cut short or not. -/
theorem comes_grantWithin (operator : Operator) (user : UserId) (workspace : WorkspaceId)
    (roles : List RoleId) (latest : Option Permittable) :
    Comes (Relation.ReflTransGen (Governing operator)) (grantWithin user workspace roles latest) := by
  suffices hsteps : ∀ moment directory, Relation.ReflTransGen (Governing operator)
      directory.store.tables
      (leaves (grantWithin user workspace roles latest) moment directory).store.tables from
    fun moment directory _ => hsteps moment directory
  induction roles generalizing latest with
  | nil => exact fun _ _ => .refl
  | cons role rest ih =>
    intro moment directory
    simp only [leaves, grantWithin, bind_apply, lift_apply]
    obtain ⟨outcome, directory₁, hfirst⟩ : ∃ outcome directory₁,
        (Grants.addWorkspaceRole user workspace role).perform moment directory =
          (outcome, directory₁) := ⟨_, _, rfl⟩
    rw [hfirst]
    cases outcome with
    | error error =>
      have hstore := Grants.store_of_refused hfirst
      dsimp only
      rw [hstore]
    | ok p =>
      dsimp only
      refine .trans ?_ (ih (some p) moment directory₁)
      obtain hsame | hgrant := Grants.addWorkspaceRole_effect hfirst
      · rw [hsame]
      · exact .single ⟨.addWorkspaceRole user workspace role, operator, trivial, .addNewRole hgrant⟩

/-- A handler that looks around and then does one thing does a deed of the caller. -/
theorem Acts.comes {handler : Handler Response} (h : Acts service caller handler) :
    Comes (caller.Deed service) handler := by
  induction h with
  | looks hquiet => exact comes_of_quiet (fun _ => .nothing rfl) hquiet
  | after hquiet _ ih => exact .after (fun _ => .nothing rfl) hquiet ih
  | ordinary _ hordinary hcarried =>
    exact (comes_lift hcarried (fun _ => .nothing rfl) (.operation hordinary)).before
      fun _ => quiet_pure _
  | governing _ hgoverns hcarried =>
    exact comes_guarded fun _ => (comes_governing hgoverns hcarried).before fun _ => quiet_pure _

/-- Whatever a method does at a route is a deed of the caller. -/
theorem comes_of_endpoint? {route : Route} {method : Method} {handler : Handler Response}
    (h : endpoint? service caller request route method = some handler) :
    Comes (caller.Deed service) handler := by
  have hrefl (t : Tables) : caller.Deed service t t := .nothing rfl
  by_cases hgrants : ∃ user, route = .permittable user ∧ method = .put
  · obtain ⟨segment, rfl, rfl⟩ := hgrants
    obtain rfl := Option.some.inj h
    refine .after hrefl (quiet_idIn _) fun user => .after hrefl (quiet_read _ _) fun grants => ?_
    obtain ⟨roles, workspace⟩ := grants
    refine comes_guarded fun _ => ?_
    cases workspace with
    | none =>
      have hcarried : (Operation.updatePermittable user roles).CarriedOutBy none caller.operator
          (Grants.updatePermittable user roles) := ⟨_, rfl⟩
      have hgoverns : (Operation.updatePermittable user roles).Governs := trivial
      exact (comes_governing hgoverns hcarried).before fun _ => quiet_pure _
    | some workspace =>
      refine (comes_grantWithin caller.operator user workspace roles none).before fun latest => ?_
      cases latest with
      | none => exact quiet_throw _
      | some p => exact quiet_pure _
  · exact (acts_of_endpoint? h fun user hroute => hgrants ⟨user, hroute⟩).comes

/-- A request that is let in does to the tables what its caller may do, wherever it is sent; one that
is not does nothing. -/
theorem answer_deed (hfiled : directory.store.tables.Filed) :
    (service.answer request moment directory).2.store.tables = directory.store.tables ∨
      ∃ caller, service.authenticate request.authorization moment directory = .ok caller directory ∧
        caller.Deed service directory.store.tables
          (service.answer request moment directory).2.store.tables := by
  rw [(answer_eq service request moment directory).2]
  match Target.ofPath? request.path with
  | none => exact .inl rfl
  | some .health =>
    simp only [Service.answerAt]
    split <;> exact .inl rfl
  | some (.route route) =>
    have hquiet := quiet_authenticate service request.authorization moment directory
    simp only [Service.answerAt, respond, Service.dispatch, bind_apply, leaves] at hquiet ⊢
    cases hcaller : service.authenticate request.authorization moment directory with
    | error response directory' =>
      simp only [hcaller] at hquiet ⊢
      exact .inl (congrArg Store.tables hquiet)
    | ok caller directory' =>
      obtain ⟨rfl, -⟩ := authenticate_eq_ok hcaller
      refine .inr ⟨caller, rfl, ?_⟩
      dsimp only
      cases hendpoint : endpoint? service caller request route
          (Method.ofName request.method).carriedOut with
      | none => exact .nothing rfl
      | some handler =>
        have hdeed := comes_of_endpoint? hendpoint moment directory' hfiled
        simp only [leaves] at hdeed
        cases hends : handler moment directory' <;> simpa only [hends] using hdeed

end Http

end Roster
