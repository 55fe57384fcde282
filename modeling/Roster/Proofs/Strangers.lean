import Roster.Proofs.Callers
import Roster.Proofs.Rejections

/-!
# Strangers

A request whose token is missing, or is not to be trusted, is rejected before anything is looked up. A
token that is trusted may still belong to nobody: such a caller can sign up, and can do nothing else.
No single check sees to that. Some handlers ask who the caller is, some leave it to the operation to
ask who acts, and some ask when they look up what the policy allows; but all of them do so before
anything else than reading the request. Hence a stranger's request is answered with 401 if it can be
read, and else for what cannot be read of it.
-/

namespace Roster.Http

open Course Handler

section Strangers

variable {α β : Type} {service : Service} {request : Request} {route : Route} {method : Method}
  {moment : Moment} {directory : Directory}

/-! ## What a request must be for a route to read it -/

/-- The methods that a route answers. -/
def Route.methods : Route → List Method
  | signup | transfer _ | members _ | membersRemove _ | integrations _ | integrationsRemove _
  | authorize => [.post]
  | me | workspace _ => [.get, .patch, .delete]
  | workspaces | roles => [.get, .post]
  | member _ _ | integration _ _ => [.put, .delete]
  | role _ => [.patch, .delete]
  | permittables => [.get]
  | permittable _ => [.put]

/-- The segments of a route's path that may be anything. -/
@[simp]
def Route.segments : Route → List String
  | workspace id | transfer id | members id | membersRemove id | integrations id
  | integrationsRemove id | role id => [id]
  | member id user => [id, user]
  | integration id name => [id, name]
  | permittable user => [user]
  | signup | me | workspaces | roles | permittables | authorize => []

/-- The body of a request says what a record asks for. -/
structure Request.Decodes (request : Request) (record : Json.Record α) : Prop where
  json : request.hasJson = true
  short : (request.body.getD "").utf8ByteSize ≤ bodyLimit
  reads : ∃ value, record.shape.readFirst (request.body.getD "") = .ok value

/-- The body of a request says what a method needs to know at a route; most of them need nothing. -/
@[simp]
def Request.BodyDecodes (request : Request) : Route → Method → Prop
  | .me, .patch => request.Decodes UserChange.record
  | .workspaces, .post => request.Decodes newWorkspace
  | .workspace _, .patch => request.Decodes WorkspaceChange.record
  | .transfer _, .post => request.Decodes userField
  | .members _, .post => request.Decodes newMembers
  | .membersRemove _, .post => request.Decodes usersField
  | .member _ _, .put => request.Decodes roleField
  | .integrations _, .post => request.Decodes newIntegration
  | .integrationsRemove _, .post => request.Decodes integrationsField
  | .integration _ _, .put => request.Decodes roleField
  | .roles, .post => request.Decodes nameField
  | .role _, .patch => request.Decodes nameField
  | .permittable _, .put => request.Decodes newGrants
  | .authorize, .post => request.Decodes permissionRequest
  | _, _ => True

/-- The path and the body of a request decode at a route. -/
@[simp]
def Request.Readable (request : Request) (route : Route) (method : Method) : Prop :=
  (∀ segment ∈ route.segments, (Percent.decode? segment).isSome) ∧ request.BodyDecodes route method

/-- A route does something for exactly the methods it answers. -/
theorem isSome_endpoint?_iff (caller : Caller) :
    (endpoint? service caller request route method).isSome ↔ method ∈ route.methods := by
  cases route <;> cases method <;> simp [endpoint?, Route.methods]

/-! ## Who sends it -/

/-- The header of a request holds a token that stands for some claims. -/
def Service.Trusts (service : Service) (authorization : Option String) (now : Time.Instant)
    (claims : Token.Claims) : Prop :=
  ∃ token, bearerToken? authorization = some token ∧
    Token.Claims.verify service.secret now.secondsSinceEpoch.toNat token = .ok claims

/-- The caller whom some claims stand for if nobody logs in as their subject. -/
def Caller.stranger (claims : Token.Claims) : Caller :=
  { claims, user := none, operator := {} }

/-- Nobody gets in without a token that is to be trusted. -/
theorem authenticate_of_distrusted {authorization : Option String}
    (h : ∀ claims, ¬ service.Trusts authorization moment.now claims) (directory : Directory) :
    ∃ message, service.authenticate authorization moment directory =
      .error (.unauthorized message) directory := by
  unfold Service.authenticate
  cases hbearer : bearerToken? authorization with
  | none => exact ⟨_, rfl⟩
  | some token =>
    simp only [bind_apply, lift_apply, Action.perform_now]
    cases hverify :
        Token.Claims.verify service.secret moment.now.secondsSinceEpoch.toNat token with
    | error error => exact ⟨_, rfl⟩
    | ok claims => exact absurd ⟨token, hbearer, hverify⟩ (h claims)

/-- Whoever has such a token gets in, even if nobody logs in as its subject. -/
theorem authenticate_of_subjectFree {authorization : Option String} {claims : Token.Claims}
    (htrusts : service.Trusts authorization moment.now claims)
    (hfree : directory.store.tables.SubjectFree claims.subject) :
    service.authenticate authorization moment directory = .ok (.stranger claims) directory := by
  obtain ⟨token, hbearer, hverify⟩ := htrusts
  have hnobody : directory.store.tables.users.values.find? (·.hasSubject claims.subject) = none := by
    refine List.find?_eq_none.2 fun user hstored => ?_
    obtain ⟨key, hget⟩ := Table.mem_values_iff.1 hstored
    rw [hfree key user hget]
    exact Bool.false_ne_true
  have hanswer : optional ((Query.userWithSubject claims.subject).answer directory.store.tables) =
      .ok none :=
    (optional_found _ _).trans (congrArg Except.ok hnobody)
  simp only [Service.authenticate, hbearer, bind_apply, lift_apply, Action.perform_now, hverify,
    Usecase.perform_runPlain_queryOptional, hanswer]
  rfl

/-! ## Turning strangers away -/

namespace Handler

variable {readable readable' : Prop} {handler : Handler α} {f : α → Handler β}

/-- A part of a handler that reads something in the request: it goes on if that is readable, and it
ends early if not, though not because of the caller. -/
def Parses (readable : Prop) (handler : Handler α) : Prop :=
  ∀ moment directory,
    (readable → ∃ value, handler moment directory = .ok value directory) ∧
    (¬ readable → ∃ response, handler moment directory = .error response directory ∧
      response.status ≠ 401)

/-- A handler that ends early and does nothing, because of the caller if the request is readable and
else for another reason. -/
def TurnsAway (readable : Prop) (handler : Handler α) : Prop :=
  ∀ moment directory, ∃ response, handler moment directory = .error response directory ∧
    (response.status = 401 ↔ readable)

/-- What would come after turning the caller away does not matter. -/
theorem TurnsAway.bind (h : TurnsAway readable handler) (f : α → Handler β) :
    TurnsAway readable (handler >>= f) := by
  intro moment directory
  obtain ⟨response, hends, hstatus⟩ := h moment directory
  exact ⟨response, by rw [bind_apply, hends], hstatus⟩

/-- To read something and then turn the caller away is to turn them away. -/
theorem Parses.turnsAway (h : Parses readable handler)
    (hf : ∀ value, TurnsAway readable' (f value)) :
    TurnsAway (readable ∧ readable') (handler >>= f) := by
  intro moment directory
  obtain ⟨hgoes, hstops⟩ := h moment directory
  by_cases hreadable : readable
  · obtain ⟨value, hvalue⟩ := hgoes hreadable
    obtain ⟨response, hends, hstatus⟩ := hf value moment directory
    refine ⟨response, ?_, by rw [hstatus, and_iff_right hreadable]⟩
    rw [bind_apply, hvalue]
    exact hends
  · obtain ⟨response, hends, hstatus⟩ := hstops hreadable
    refine ⟨response, ?_, iff_of_false hstatus fun hboth => hreadable hboth.1⟩
    rw [bind_apply, hends]

/-- What has to be readable may be put in other words. -/
theorem TurnsAway.of_iff (h : TurnsAway readable handler) (hiff : readable ↔ readable') :
    TurnsAway readable' handler :=
  propext hiff ▸ h

end Handler

/-- Segments of the path are read. -/
theorem parses_idIn {kind : Entity} (segment : String) :
    Parses (Percent.decode? segment).isSome (idIn segment : Handler (Ident kind)) := by
  intro moment directory
  unfold idIn
  cases Percent.decode? segment with
  | none => exact ⟨(nomatch ·), fun _ => ⟨_, rfl, by decide⟩⟩
  | some s => exact ⟨fun _ => ⟨_, rfl⟩, fun h => absurd rfl h⟩

/-- The body is read. -/
theorem parses_read (request : Request) (record : Json.Record α) :
    Parses (request.Decodes record) (request.read record) := by
  intro moment directory
  refine ⟨?_, fun hunreadable => ?_⟩
  · rintro ⟨hjson, hshort, value, hreads⟩
    refine ⟨value, ?_⟩
    simp only [Request.read, hjson, Nat.not_lt.2 hshort, hreads]
    rfl
  · unfold Request.read
    by_cases hjson : request.hasJson = true
    · by_cases hshort : (request.body.getD "").utf8ByteSize ≤ bodyLimit
      · simp only [hjson, Nat.not_lt.2 hshort]
        cases hreads : record.shape.readFirst (request.body.getD "") with
        | ok value => exact absurd ⟨hjson, hshort, value, hreads⟩ hunreadable
        | error failure => cases failure <;> exact ⟨_, rfl, by decide⟩
      · simp only [hjson, Nat.not_le.1 hshort]
        exact ⟨_, rfl, by decide⟩
    · simp only [hjson]
      exact ⟨_, rfl, by decide⟩

section Claims

variable (claims : Token.Claims)

/-- Strangers are no users of the directory. -/
theorem turnsAway_signedUp : TurnsAway True (Caller.stranger claims).signedUp :=
  fun _ _ => ⟨_, rfl, iff_of_true rfl trivial⟩

/-- Hence they may not manage access roles. -/
theorem turnsAway_mayManageRoles (service : Service) :
    TurnsAway True (mayManageRoles service (.stranger claims)) :=
  (turnsAway_signedUp claims).bind _

/-- An operation that begins with the question who acts is none for strangers. -/
theorem turnsAway_actor (f : UserId → Action α) (g : α → Handler β) :
    TurnsAway True
      (liftM (Action.ofExcept (Caller.stranger claims).operator.actor >>= f) >>= g) := by
  refine .bind (fun moment directory => ?_) g
  have hnobody : (Action.ofExcept (Caller.stranger claims).operator.actor).perform moment directory =
      (.error .invalidOperator, directory) := rfl
  refine ⟨.ofError .invalidOperator, ?_, iff_of_true rfl trivial⟩
  rw [lift_apply, Action.perform_bind_of_error hnobody]

/-- Wherever a stranger's request is sent, except to sign up, it is turned away. -/
theorem turnsAway_of_endpoint? {handler : Handler Response}
    (h : endpoint? service (.stranger claims) request route method = some handler)
    (hother : ¬ (route = .signup ∧ method = .post)) :
    TurnsAway (request.Readable route method) handler := by
  have hsigned := turnsAway_signedUp claims
  have hmay := turnsAway_mayManageRoles claims service
  unfold endpoint? at h
  split at h <;> first | obtain rfl := Option.some.inj h | exact nomatch h
  -- Accounts.
  · exact absurd ⟨rfl, rfl⟩ hother
  · exact (hsigned.bind _).of_iff (by simp)
  · exact ((parses_read _ _).turnsAway fun change =>
      turnsAway_actor claims _ _).of_iff (by simp)
  · exact (turnsAway_actor claims _ _).of_iff (by simp)
  -- Workspaces.
  · exact (hsigned.bind _).of_iff (by simp)
  · exact ((parses_read _ _).turnsAway fun asked => hsigned.bind _).of_iff (by simp)
  · exact ((parses_idIn _).turnsAway fun id =>
      turnsAway_actor claims _ _).of_iff (by simp)
  · exact ((parses_idIn _).turnsAway fun id => (parses_read _ _).turnsAway fun change =>
      turnsAway_actor claims _ _).of_iff (by simp)
  · exact ((parses_idIn _).turnsAway fun id =>
      turnsAway_actor claims _ _).of_iff (by simp)
  · exact ((parses_idIn _).turnsAway fun id => (parses_read _ _).turnsAway fun newOwner =>
      turnsAway_actor claims _ _).of_iff (by simp)
  -- Members.
  · exact ((parses_idIn _).turnsAway fun id => (parses_read _ _).turnsAway fun users =>
      turnsAway_actor claims _ _).of_iff (by simp)
  · exact ((parses_idIn _).turnsAway fun id => (parses_read _ _).turnsAway fun users =>
      turnsAway_actor claims _ _).of_iff (by simp)
  · exact ((parses_idIn _).turnsAway fun id => (parses_idIn _).turnsAway fun user =>
      (parses_read _ _).turnsAway fun role => turnsAway_actor claims _ _).of_iff (by simp [and_assoc])
  · exact ((parses_idIn _).turnsAway fun id => (parses_idIn _).turnsAway fun user =>
      turnsAway_actor claims _ _).of_iff (by simp)
  · exact ((parses_idIn _).turnsAway fun id => (parses_read _ _).turnsAway fun asked =>
      turnsAway_actor claims _ _).of_iff (by simp)
  · exact ((parses_idIn _).turnsAway fun id => (parses_read _ _).turnsAway fun integrations =>
      turnsAway_actor claims _ _).of_iff (by simp)
  · exact ((parses_idIn _).turnsAway fun id => (parses_idIn _).turnsAway fun integration =>
      (parses_read _ _).turnsAway fun role => turnsAway_actor claims _ _).of_iff (by simp [and_assoc])
  · exact ((parses_idIn _).turnsAway fun id => (parses_idIn _).turnsAway fun integration =>
      turnsAway_actor claims _ _).of_iff (by simp)
  -- Access roles.
  · exact (hsigned.bind _).of_iff (by simp)
  · exact ((parses_read _ _).turnsAway fun name => hmay.bind _).of_iff (by simp)
  · exact ((parses_idIn _).turnsAway fun id => (parses_read _ _).turnsAway fun name =>
      hmay.bind _).of_iff (by simp)
  · exact ((parses_idIn _).turnsAway fun id => hmay.bind _).of_iff (by simp)
  · exact (hmay.bind _).of_iff (by simp)
  · exact ((parses_idIn _).turnsAway fun user => (parses_read _ _).turnsAway fun asked =>
      hmay.bind _).of_iff (by simp)
  · exact ((parses_read _ _).turnsAway fun asked => hsigned.bind _).of_iff (by simp)

end Claims

/-! ## Nothing without an account -/

/-- Whatever is stored, a request to a route whose token is missing or not to be trusted is answered
with 401 and changes nothing. If the token is to be trusted but nobody logs in as its subject, the
request changes nothing either, unless it is to sign up; and if the route answers its method, it is
answered with 401 exactly when it can be read. -/
theorem strangers_turned_away (service : Service) (request : Request) (moment : Moment)
    (directory : Directory) {route : Route} {method : Method}
    (hpath : Target.ofPath? request.path = some (.route route))
    (hmethod : (Method.ofName request.method).carriedOut = method) :
    ((∀ claims, ¬ service.Trusts request.authorization moment.now claims) →
      (service.answer request moment directory).1.status = 401 ∧
        (service.answer request moment directory).2 = directory) ∧
    ∀ claims, service.Trusts request.authorization moment.now claims →
      directory.store.tables.SubjectFree claims.subject →
      ¬ (route = .signup ∧ method = .post) →
        (service.answer request moment directory).2 = directory ∧
        (method ∈ route.methods →
          ((service.answer request moment directory).1.status = 401 ↔
            request.Readable route method)) := by
  obtain ⟨hstatus, hleaves⟩ := answer_eq service request moment directory
  rw [hstatus, hleaves, hpath]
  simp only [Service.answerAt, respond, Service.dispatch, bind_apply, hmethod]
  refine ⟨fun hdistrusts => ?_, fun claims htrusts hfree hother => ?_⟩
  · obtain ⟨message, hends⟩ := authenticate_of_distrusted hdistrusts directory
    rw [hends]
    exact ⟨rfl, rfl⟩
  · rw [authenticate_of_subjectFree htrusts hfree]
    dsimp only
    cases hendpoint : endpoint? service (.stranger claims) request route method with
    | none =>
      refine ⟨rfl, fun hanswers => ?_⟩
      rw [← isSome_endpoint?_iff (.stranger claims), hendpoint] at hanswers
      cases hanswers
    | some handler =>
      obtain ⟨response, hends, hreadable⟩ :=
        turnsAway_of_endpoint? claims hendpoint hother moment directory
      dsimp only
      rw [hends]
      exact ⟨rfl, fun _ => hreadable⟩

end Strangers

/-! ### Bob, whom nobody knows

Bob's account has lost its only identity. His token is as good as ever, but it is nobody's.
-/

namespace TwoGrants

/-- The directory in which nobody logs in under bob's name. -/
def unknown : Directory where
  store := { directory.store with
    tables := { tables with users := Table.empty.insert bob.id { bob with identities := [] } } }

/-- What bob asks for in a request without a token. -/
def anonymous : Request :=
  { request with authorization := none }

/-- The token stands for bob's claims. -/
theorem trusts_request : service.Trusts request.authorization moment.now claims := by
  have hnow : moment.now.secondsSinceEpoch.toNat = 3600 := by decide +kernel
  refine ⟨token, by decide +kernel, ?_⟩
  rw [hnow]
  exact verify_token

/-- No account has bob's subject. -/
theorem subjectFree_unknown : unknown.store.tables.SubjectFree claims.subject := by
  intro key user hget
  obtain ⟨rfl, rfl⟩ | ⟨-, hget⟩ := Table.get?_insert_eq_some.1 hget
  · rfl
  · exact nomatch hget

/-- Bob's request decodes. -/
theorem readable_request : request.Readable (.permittable "bob") .put := by
  refine ⟨?_, ?_⟩
  · decide +kernel
  · by_contra hunreadable
    obtain ⟨response, hends, -⟩ := (parses_read request newGrants moment directory).2 hunreadable
    exact nomatch read_request.symm.trans hends

/-- Bob is turned away with and without his token. -/
theorem bob_turned_away :
    ((service.answer anonymous moment unknown).1.status = 401 ∧
      (service.answer anonymous moment unknown).2 = unknown) ∧
    (service.answer request moment unknown).1.status = 401 ∧
    (service.answer request moment unknown).2 = unknown := by
  refine ⟨(strangers_turned_away service anonymous moment unknown target_request rfl).1 ?_, ?_⟩
  · rintro claims ⟨token, hbearer, -⟩
    exact nomatch hbearer
  · obtain ⟨hsame, hstatus⟩ :=
      (strangers_turned_away service request moment unknown target_request rfl).2 claims
        trusts_request subjectFree_unknown (fun h => nomatch h.1)
    exact ⟨(hstatus (by decide)).2 readable_request, hsame⟩

end TwoGrants

end Roster.Http
