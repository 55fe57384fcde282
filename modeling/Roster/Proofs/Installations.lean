import Roster.Proofs.Addresses
import Roster.Proofs.Strangers
import Roster.Proofs.Uninstallations

/-!
# Integrations at their places

An integration that has been added to a workspace can be given another role, and be taken out, at a
place of its own, where its id is a segment of the path. There is no such place for an integration
without an id, nor for one whose id is the word that names another route.
-/

namespace Roster

open Time (Instant)

/-! ## Owners who stay -/

/-- A stored user logs in as a subject, has an operator, and owns a workspace that is filed under its
own id and can be given out. -/
structure Tables.Opens (t : Tables) (subject : String) (user : User) (id : WorkspaceId)
    (row : Workspace) : Prop where
  logsIn : t.users.values.find? (·.hasSubject subject) = some user
  owns : ∃ workspaces, (Query.workspacesOf .none user.id).answer t = .ok workspaces ∧
    id ∈ Operator.bucket user.id workspaces .owner
  stored : t.workspaces.get? id = some row
  filed : row.id = id
  fit : row.Restorable

namespace Tables.Opens

variable {t : Tables} {subject : String} {user : User} {id : WorkspaceId} {row : Workspace}
  {members : Members}

/-- An owner remains one when the workspace gets other integrations. -/
theorem fileWorkspace (h : t.Opens subject user id row) (hsame : row.members.SameUsers members)
    (operator : Operator) (now : Instant) :
    (t.fileWorkspace (row.withMembers operator now members)).Opens subject user id
      (row.withMembers operator now members) := by
  obtain ⟨hlogsIn, ⟨workspaces, hanswer, howns⟩, hstored, rfl, hfit⟩ := h
  have hid : (row.withMembers operator now members).id = row.id := row.withMembers_id ..
  have husers : (row.withMembers operator now members).members.users = row.members.users := hsame.1
  have hfit' : (row.withMembers operator now members).Restorable :=
    hfit.withMembers (.inl hsame) operator now
  have hfits := Accounts.exists_answer_workspacesOf_iff.1 ⟨workspaces, hanswer⟩
  obtain ⟨workspaces', hanswer'⟩ : ∃ workspaces', (Query.workspacesOf .none user.id).answer
      (t.fileWorkspace (row.withMembers operator now members)) = .ok workspaces' := by
    refine Accounts.exists_answer_workspacesOf_iff.2 fun key other hother hmember => ?_
    obtain ⟨-, rfl⟩ | ⟨-, hother⟩ := get?_fileWorkspace.1 hother
    · exact hfit'
    · exact hfits key other hother hmember
  refine ⟨hlogsIn, ⟨workspaces', hanswer', ?_⟩, get?_fileWorkspace_withMembers .., hid, hfit'⟩
  obtain ⟨key, other, member, hother, hsameId, hseat, hrole⟩ :=
    (Accounts.mem_bucket_iff hanswer).1 howns
  refine (Accounts.mem_bucket_iff hanswer').2 ?_
  by_cases hkey : row.id = key
  · -- It is the row itself that makes them an owner, and its users stay.
    obtain rfl := Option.some.inj (hother.symm.trans (hkey ▸ hstored))
    exact ⟨key, _, member, get?_fileWorkspace.2 (.inl ⟨hid.trans hkey, rfl⟩), hid, husers ▸ hseat,
      hrole⟩
  · exact ⟨key, other, member, get?_fileWorkspace.2 (.inr ⟨fun h => hkey (hid.symm.trans h), hother⟩),
      hsameId, hseat, hrole⟩

end Tables.Opens

namespace Http

open Course Handler

/-! ## Requests that are let in -/

section Requests

variable {service : Service} {request : Request} {moment : Moment} {directory directory' : Directory}
  {subject method path segment name : String} {claims : Token.Claims} {caller : Caller}
  {action : Action Workspace} {response : Response} {α : Type} {record : Json.Record α} {value : α}
  {user : User} {id : WorkspaceId} {row : Workspace} {integration : IntegrationId} {role : Role}

/-- A request is for a method at a path, and comes with a token that stands for a subject. -/
structure Request.Asks (request : Request) (service : Service) (moment : Moment)
    (subject method path : String) : Prop where
  method : request.method = method
  path : request.path = path
  trusted : ∃ claims, service.Trusts request.authorization moment.now claims ∧
    claims.subject = subject

/-- The body of a request says something. -/
structure Request.Says (request : Request) (record : Json.Record α) (value : α) : Prop where
  json : request.hasJson = true
  short : (request.body.getD "").utf8ByteSize ≤ bodyLimit
  reads : record.shape.readFirst (request.body.getD "") = .ok value

/-- What the body says is read. -/
theorem Request.Says.read (h : request.Says record value) (moment : Moment)
    (directory : Directory) : request.read record moment directory = .ok value directory := by
  simp only [Request.read, h.json, Nat.not_lt.2 h.short, h.reads]
  rfl

/-- A segment that stands for an id is read. -/
theorem idIn_apply {kind : Entity} {id : Ident kind} (h : Percent.decode? segment = some id.text)
    (moment : Moment) (directory : Directory) :
    (idIn segment : Handler (Ident kind)) moment directory = .ok id directory := by
  simp only [idIn, h]
  rfl

/-- Whoever bears a token to be trusted is let in: as a stranger if nobody logs in as its subject, and
otherwise as this user, if their operator can be looked up. -/
theorem authenticate_of_trusts {authorization : Option String}
    (h : service.Trusts authorization moment.now claims) :
    service.authenticate authorization moment directory =
      match directory.store.tables.users.values.find? (·.hasSubject claims.subject) with
      | none => .ok (.stranger claims) directory
      | some user =>
        match (Accounts.operatorFor service.defaultPolicy user.id).perform moment directory with
        | (.ok operator, directory) => .ok { claims, user, operator } directory
        | (.error error, directory) => .error (.ofError error) directory := by
  obtain ⟨token, hbearer, hverify⟩ := h
  have hanswer : optional ((Query.userWithSubject claims.subject).answer directory.store.tables) =
      .ok (directory.store.tables.users.values.find? (·.hasSubject claims.subject)) :=
    optional_found _ _
  simp only [Service.authenticate, hbearer, bind_apply, lift_apply, Action.perform_now, hverify,
    Usecase.perform_runPlain_queryOptional, hanswer]
  cases directory.store.tables.users.values.find? (·.hasSubject claims.subject) with
  | none => rfl
  | some user =>
    simp only [bind_apply, lift_apply]
    obtain ⟨_ | operator, directory'⟩ :=
      (Accounts.operatorFor service.defaultPolicy user.id).perform moment directory <;> rfl

/-- An owner is let in as the operator who owns the workspace. -/
theorem authenticate_of_opens (h : directory.store.tables.Opens subject user id row)
    (hasks : request.Asks service moment subject method path) :
    ∃ caller, service.authenticate request.authorization moment directory = .ok caller directory ∧
      caller.operator.user = some user.id ∧ id ∈ caller.operator.owning := by
  obtain ⟨claims, htrusts, rfl⟩ := hasks.trusted
  obtain ⟨workspaces, hanswer, howns⟩ := h.owns
  have hoperator : (Accounts.operatorFor service.defaultPolicy user.id).perform moment directory =
      (.ok (.ofWorkspaces user.id workspaces service.defaultPolicy), directory) :=
    Accounts.perform_operatorFor_eq_ok.2 ⟨workspaces, hanswer, rfl, rfl⟩
  refine ⟨{ claims, user, operator := .ofWorkspaces user.id workspaces service.defaultPolicy }, ?_,
    rfl, howns⟩
  rw [authenticate_of_trusts htrusts, h.logsIn]
  dsimp only
  rw [hoperator]

/-! ## Answers with a workspace -/

/-- A request is let in, an action of its caller succeeds, and the answer shows the workspace that
comes of it. -/
def Service.CarriesOut (service : Service) (request : Request) (moment : Moment)
    (directory : Directory) (action : Operator → Action Workspace) (directory' : Directory) : Prop :=
  ∃ caller ws, service.authenticate request.authorization moment directory = .ok caller directory ∧
    (action caller.operator).perform moment directory = (.ok ws, directory') ∧
    service.answer request moment directory = (.ok (workspaceView ws), directory')

/-- What an action comes to as an answer that shows a workspace. -/
def workspaceAnswer (outcome : Except Error Workspace × Directory) : Response × Directory :=
  match outcome with
  | (.ok ws, directory) => (.ok (workspaceView ws), directory)
  | (.error error, directory) => (.ofError error, directory)

/-- An answer that is no error shows the workspace that comes of the action. -/
theorem workspaceAnswer_of_succeeds {outcome : Except Error Workspace × Directory}
    (h : workspaceAnswer outcome = (response, directory')) (hsucceeds : response.status < 400) :
    ∃ ws, outcome = (.ok ws, directory') := by
  obtain ⟨error | ws, directory⟩ := outcome
  · obtain ⟨rfl, -⟩ := Prod.mk.inj h
    exact absurd (le_status_ofError error) (Nat.not_le.2 hsucceeds)
  · obtain ⟨-, rfl⟩ := Prod.mk.inj h
    exact ⟨ws, rfl⟩

/-- A request that is not let in is answered by that. -/
theorem answer_of_refused {route : Route} (hpath : Target.ofPath? request.path = some (.route route))
    (hmethod : Method.ofName request.method ≠ .head)
    (hrefused : service.authenticate request.authorization moment directory =
      .error response directory') :
    service.answer request moment directory = (response, directory') := by
  simp only [Service.answer, hpath, Service.answerAt, Service.dispatch, respond, bind_apply, hrefused]

/-- A request that is let in where its method does something is answered by what the handler does. -/
theorem answer_of_endpoint? {route : Route} {method : Method} {handler : Handler Response}
    (hpath : Target.ofPath? request.path = some (.route route))
    (hmethod : Method.ofName request.method = method) (hhead : method ≠ .head)
    (hcaller : service.authenticate request.authorization moment directory = .ok caller directory)
    (hendpoint : endpoint? service caller request route method = some handler) :
    service.answer request moment directory = handler.respond moment directory := by
  have hcarried : method.carriedOut = method := by
    cases method <;> first | rfl | exact absurd rfl hhead
  simp only [Service.answer, hpath, Service.answerAt, Service.dispatch, respond, bind_apply, hcaller,
    hmethod, hcarried, hendpoint]

/-- A handler that ends with an action on a workspace answers with what comes of the action. -/
theorem respond_of_answerWorkspace {handler : Handler Response}
    (h : handler moment directory = answerWorkspace action moment directory) :
    handler.respond moment directory = workspaceAnswer (action.perform moment directory) := by
  simp only [respond, h, answerWorkspace, bind_apply, lift_apply]
  obtain ⟨_ | ws, directory'⟩ := action.perform moment directory <;> rfl

/-- Whoever adds an integration is answered by what the directory makes of it. -/
theorem answer_addIntegration
    (hpath : Target.ofPath? request.path = some (.route (.integrations segment)))
    (hmethod : request.method = "POST") (hid : Percent.decode? segment = some id.text)
    (hbody : request.Says newIntegration (integration, role))
    (hcaller : service.authenticate request.authorization moment directory = .ok caller directory) :
    service.answer request moment directory = workspaceAnswer
      ((Workspaces.addIntegrationMember id integration role caller.operator).perform
        moment directory) := by
  have hpost : Method.ofName request.method = .post := by rw [hmethod]; rfl
  refine (answer_of_endpoint? hpath hpost (by decide) hcaller rfl).trans
    (respond_of_answerWorkspace ?_)
  simp only [addIntegration, bind_apply, idIn_apply hid, hbody.read]

/-- Whoever gives an integration another role is answered by what the directory makes of it. -/
theorem answer_updateIntegration
    (hpath : Target.ofPath? request.path = some (.route (.integration segment name)))
    (hmethod : request.method = "PUT") (hid : Percent.decode? segment = some id.text)
    (hname : Percent.decode? name = some integration.text) (hbody : request.Says roleField role)
    (hcaller : service.authenticate request.authorization moment directory = .ok caller directory) :
    service.answer request moment directory = workspaceAnswer
      ((Workspaces.updateIntegrationMember id integration role caller.operator).perform
        moment directory) := by
  have hput : Method.ofName request.method = .put := by rw [hmethod]; rfl
  refine (answer_of_endpoint? hpath hput (by decide) hcaller rfl).trans
    (respond_of_answerWorkspace ?_)
  simp only [updateIntegration, bind_apply, idIn_apply hid, idIn_apply hname, hbody.read]

/-- Whoever takes an integration out is answered by what the directory makes of it. -/
theorem answer_removeIntegration
    (hpath : Target.ofPath? request.path = some (.route (.integration segment name)))
    (hmethod : request.method = "DELETE") (hid : Percent.decode? segment = some id.text)
    (hname : Percent.decode? name = some integration.text)
    (hcaller : service.authenticate request.authorization moment directory = .ok caller directory) :
    service.answer request moment directory = workspaceAnswer
      ((Workspaces.removeIntegration id integration caller.operator).perform moment directory) := by
  have hdelete : Method.ofName request.method = .delete := by rw [hmethod]; rfl
  refine (answer_of_endpoint? hpath hdelete (by decide) hcaller rfl).trans
    (respond_of_answerWorkspace ?_)
  simp only [removeIntegration, bind_apply, idIn_apply hid, idIn_apply hname]

/-- An answer that shows what comes of an action carries it out if the action succeeds. -/
theorem carriesOut_of_answer {action : Operator → Action Workspace} {ws : Workspace}
    (hcaller : service.authenticate request.authorization moment directory = .ok caller directory)
    (hanswer : service.answer request moment directory =
      workspaceAnswer ((action caller.operator).perform moment directory))
    (hperform : (action caller.operator).perform moment directory = (.ok ws, directory')) :
    service.CarriesOut request moment directory action directory' :=
  ⟨caller, ws, hcaller, hperform, by rw [hanswer, hperform, workspaceAnswer]⟩

/-- An integration that has been added over the service was added by an owner of the workspace. -/
theorem installed_of_succeeds
    (hpath : Target.ofPath? path = some (.route (.integrations segment)))
    (hid : Percent.decode? segment = some id.text)
    (hasks : request.Asks service moment subject "POST" path)
    (hbody : request.Says newIntegration (integration, role))
    (hanswer : service.answer request moment directory = (response, directory'))
    (hsucceeds : response.status < 400) :
    ∃ user workspaces row members,
      directory.store.tables.users.values.find? (·.hasSubject subject) = some user ∧
      (Query.workspacesOf .none user.id).answer directory.store.tables = .ok workspaces ∧
      id ∈ Operator.bucket user.id workspaces .owner ∧
      directory.store.tables.workspaces.get? id = some row ∧ row.Restorable ∧
      row.members.addIntegration integration (some role) user.id = .ok members ∧
      directory' = directory.withMembers
        (.ofWorkspaces user.id workspaces service.defaultPolicy) moment.now members row := by
  obtain ⟨claims, htrusts, rfl⟩ := hasks.trusted
  rw [← hasks.path] at hpath
  have hcaller : service.authenticate request.authorization moment directory = _ :=
    authenticate_of_trusts htrusts
  cases huser : directory.store.tables.users.values.find? (·.hasSubject claims.subject) with
  | none =>
    -- Strangers are let in, but own nothing.
    rw [huser] at hcaller
    rw [answer_addIntegration hpath hasks.method hid hbody hcaller] at hanswer
    obtain ⟨ws, hperform⟩ := workspaceAnswer_of_succeeds hanswer hsucceeds
    obtain ⟨user, -, -, hstranger, -⟩ := Workspaces.perform_changeMembers_eq_ok.1 hperform
    exact nomatch hstranger
  | some user =>
    rw [huser] at hcaller
    dsimp only at hcaller
    rcases hlookup : (Accounts.operatorFor service.defaultPolicy user.id).perform moment directory
      with ⟨error | operator, directory₁⟩
    · rw [hlookup] at hcaller
      have hhead : Method.ofName request.method ≠ .head := by rw [hasks.method]; decide
      obtain ⟨rfl, -⟩ := Prod.mk.inj ((answer_of_refused hpath hhead hcaller).symm.trans hanswer)
      exact absurd (le_status_ofError error) (Nat.not_le.2 hsucceeds)
    · rw [hlookup] at hcaller
      obtain ⟨workspaces, hlisted, rfl, rfl⟩ := Accounts.perform_operatorFor_eq_ok.1 hlookup
      rw [answer_addIntegration hpath hasks.method hid hbody hcaller] at hanswer
      obtain ⟨ws, hperform⟩ := workspaceAnswer_of_succeeds hanswer hsucceeds
      obtain ⟨_, row, members, hactor, howns, -, hrow, hfit, hmembers, -, hleft⟩ :=
        Workspaces.perform_changeMembers_eq_ok.1 hperform
      obtain rfl := Option.some.inj hactor
      exact ⟨user, workspaces, row, members, rfl, hlisted, howns, hrow, hfit, hmembers, hleft⟩

/-- An owner who asks for a change of the members that is allowed gets it, and remains an owner. -/
theorem carriesOut_of_opens {change : UserId → Members → Except Error Members} {members : Members}
    {action : Operator → Action Workspace}
    (h : directory.store.tables.Opens subject user id row)
    (hasks : request.Asks service moment subject method path)
    (hwritable : directory.store.Writable moment)
    (haction : ∀ operator, action operator =
      Workspaces.edit (Workspaces.ownership id) id operator Workspaces.unchecked fun user now ws =>
        Workspaces.settled operator now (ws.changeMembers now (change user)))
    (hanswer : ∀ caller,
      service.authenticate request.authorization moment directory = .ok caller directory →
        service.answer request moment directory =
          workspaceAnswer ((action caller.operator).perform moment directory))
    (hmembers : change user.id row.members = .ok members)
    (hsame : row.members.SameUsers members) :
    ∃ directory' row', service.CarriesOut request moment directory action directory' ∧
      directory'.store.tables.Opens subject user id row' ∧ row'.members = members ∧
      directory'.store.attached = directory.store.attached := by
  obtain ⟨caller, hcaller, hactor, howns⟩ := authenticate_of_opens h hasks
  have hperform := Workspaces.perform_changeMembers_eq_ok.2
    ⟨user.id, row, members, hactor, howns, hwritable, h.stored, h.fit, hmembers, rfl, rfl⟩
  rw [← haction] at hperform
  exact ⟨_, _, carriesOut_of_answer hcaller (hanswer caller hcaller) hperform,
    h.fileWorkspace hsame caller.operator moment.now, rfl, rfl⟩

/-! ## The place of an integration -/

/-- The path of an integration of a workspace, with its id written as one segment. -/
def integrationPath (segment : String) (integration : IntegrationId) : String :=
  pathOf ["workspaces", segment, "integrations", Percent.encode integration.text]

/-- The path of an integration leads to it, unless its id is empty or the name of another route. -/
theorem ofPath?_integrationPath (hsegment : Unbroken segment) :
    Target.ofPath? (integrationPath segment integration) =
      if integration.text = "" then none
      else if integration.text = "remove" then some (.route (.integrationsRemove segment))
      else some (.route (.integration segment (Percent.encode integration.text))) := by
  have hpath : Target.ofPath? (integrationPath segment integration) = (Route.ofSegments?
      ["workspaces", segment, "integrations", Percent.encode integration.text]).map .route := by
    refine ofPath?_pathOf fun s hs => ?_
    obtain rfl | rfl | rfl | rfl : s = "workspaces" ∨ s = segment ∨ s = "integrations" ∨
        s = Percent.encode integration.text := by simpa using hs
    · decide
    · exact hsegment
    · decide
    · exact Percent.unbroken_encode _
  rw [hpath]
  have hempty : Percent.encode integration.text = "" ↔ integration.text = "" :=
    Percent.encode_injective.eq_iff' (by decide)
  have hremove : Percent.encode integration.text = "remove" ↔ integration.text = "remove" :=
    Percent.encode_injective.eq_iff' (by decide)
  split_ifs with hnone hother
  · rw [hempty.2 hnone]
    rfl
  · rw [hremove.2 hother]
    rfl
  · have hname : Route.ofSegments?
        ["workspaces", segment, "integrations", Percent.encode integration.text] =
          Route.endingWith (Percent.encode integration.text) (.integration segment) := by
      rw [Route.ofSegments?]
      exact fun hsame => hother (hremove.1 hsame)
    rw [hname, Route.endingWith, if_neg]
    · rfl
    · simpa using mt hempty.1 hnone

/-- A request is answered with 404 if its path leads nowhere. -/
theorem status_of_nowhere (hpath : Target.ofPath? request.path = none) :
    (service.answer request moment directory).1.status = 404 := by
  rw [(answer_eq service request moment directory).1, hpath]
  rfl

/-- A caller is answered with 405 if the method does nothing at the route. -/
theorem status_of_methods {route : Route} {method : Method}
    (hpath : Target.ofPath? request.path = some (.route route))
    (hmethod : (Method.ofName request.method).carriedOut = method) (hnot : method ∉ route.methods)
    (hcaller : service.authenticate request.authorization moment directory = .ok caller directory') :
    (service.answer request moment directory).1.status = 405 := by
  have hnone : endpoint? service caller request route method = none := by
    rw [← Option.not_isSome_iff_eq_none, isSome_endpoint?_iff]
    exact hnot
  rw [(answer_eq service request moment directory).1, hpath]
  simp only [Service.answerAt, Service.dispatch, respond, bind_apply, hcaller, hmethod, hnone]
  rfl

/-- A request that carries something out is answered with 200. -/
theorem Service.CarriesOut.status {action : Operator → Action Workspace}
    (h : service.CarriesOut request moment directory action directory') :
    (service.answer request moment directory).1.status = 200 := by
  obtain ⟨caller, ws, -, -, hanswer⟩ := h
  rw [hanswer]
  rfl

/-- An owner can give an integration of the workspace another role and then take it out, if it has a
place. -/
theorem exists_carriesOut_of_opens {put delete : Request} {moment₁ moment₂ : Moment}
    (hopens : directory.store.tables.Opens subject user id row)
    (hthere : row.members.integrations.contains integration = true)
    (hplace : Target.ofPath? path = some (.route (.integration segment name)))
    (hid : Percent.decode? segment = some id.text)
    (hname : Percent.decode? name = some integration.text)
    (hput : put.Asks service moment₁ subject "PUT" path) (hrole : put.Says roleField role)
    (hdelete : delete.Asks service moment₂ subject "DELETE" path)
    (hwritable₁ : directory.store.Writable moment₁)
    (hwritable₂ : directory.store.Writable moment₂) :
    ∃ directory₁ directory₂,
      service.CarriesOut put moment₁ directory
        (Workspaces.updateIntegrationMember id integration role) directory₁ ∧
      service.CarriesOut delete moment₂ directory₁
        (Workspaces.removeIntegration id integration) directory₂ := by
  obtain ⟨entry, hentry⟩ := Table.contains_iff.1 hthere
  have hupdates : row.members.updateIntegrationRole integration role = .ok _ :=
    Members.updateIntegrationRole_eq_ok.2 ⟨entry, hentry, rfl⟩
  obtain ⟨directory₁, row₁, hcarried₁, hopens₁, hmembers₁, hattached⟩ :=
    carriesOut_of_opens hopens hput hwritable₁ (fun _ => rfl)
      (fun _ => answer_updateIntegration (hput.path ▸ hplace) hput.method hid hname hrole)
      hupdates (Members.sameUsers_of_updateIntegrationRole hupdates)
  have hstays : row₁.members.integrations.contains integration = true := by
    rw [hmembers₁, Table.contains_iff]
    exact ⟨_, (Table.get?_insert ..).trans (if_pos rfl)⟩
  have hremoves := Members.deleteIntegration_eq_ok.2 ⟨hstays, rfl⟩
  obtain ⟨directory₂, -, hcarried₂, -⟩ :=
    carriesOut_of_opens hopens₁ hdelete (fun h => hwritable₂ (hattached ▸ h)) (fun _ => rfl)
      (fun _ => answer_removeIntegration (hdelete.path ▸ hplace) hdelete.method hid hname)
      hremoves (Members.sameUsers_of_deleteIntegration hremoves)
  exact ⟨directory₁, directory₂, hcarried₁, hcarried₂⟩

/-- An integration that an owner has added over the service can be given another role and then be
taken out over the service exactly if its id is neither empty nor the name of another route and the
workspace is filed under its own id. -/
theorem manageable_iff {post put delete : Request} {moment₁ moment₂ : Moment}
    {directory₁ : Directory} {role₀ : Role}
    (hpath : Target.ofPath? path = some (.route (.integrations segment)))
    (hid : Percent.decode? segment = some id.text)
    (hpost : post.Asks service moment subject "POST" path)
    (hadds : post.Says newIntegration (integration, role₀))
    (hanswer : service.answer post moment directory = (response, directory₁))
    (hsucceeds : response.status < 400)
    (hput : put.Asks service moment₁ subject "PUT" (integrationPath segment integration))
    (hrole : put.Says roleField role)
    (hdelete : delete.Asks service moment₂ subject "DELETE" (integrationPath segment integration))
    (hwritable₁ : directory₁.store.Writable moment₁)
    (hwritable₂ : directory₁.store.Writable moment₂) :
    (∃ directory₂ directory₃,
      service.CarriesOut put moment₁ directory₁
        (Workspaces.updateIntegrationMember id integration role) directory₂ ∧
      service.CarriesOut delete moment₂ directory₂
        (Workspaces.removeIntegration id integration) directory₃) ↔
      integration.text ≠ "" ∧ integration.text ≠ "remove" ∧
        ∃ row, directory.store.tables.workspaces.get? id = some row ∧ row.id = id := by
  have hplace := @ofPath?_integrationPath segment integration (unbroken_of_ofPath? hpath)
  obtain ⟨user, workspaces, row, members, huser, hlisted, howns, hrow, hfit, hmembers, rfl⟩ :=
    installed_of_succeeds hpath hid hpost hadds hanswer hsucceeds
  obtain ⟨hfree, hadded⟩ := Members.addIntegration_eq_ok.1 hmembers
  constructor
  · rintro ⟨directory₂, -, hcarried, -⟩
    refine ⟨fun hnone => ?_, fun hother => ?_, row, hrow, ?_⟩
    · rw [if_pos hnone, ← hput.path] at hplace
      cases hcarried.status.symm.trans (status_of_nowhere hplace)
    · rw [if_neg (hother ▸ by decide), if_pos hother, ← hput.path] at hplace
      have hdone := hcarried.status
      obtain ⟨caller, -, hcaller, -⟩ := hcarried
      have hmethod : (Method.ofName put.method).carriedOut = .put := by rw [hput.method]; rfl
      have hnot : Method.put ∉ (Route.integrationsRemove segment).methods := by simp [Route.methods]
      cases hdone.symm.trans (status_of_methods hplace hmethod hnot hcaller)
    · -- Filed elsewhere, the integration would not be found under the id of the workspace.
      by_contra hstray
      obtain ⟨caller, ws, -, hperform, -⟩ := hcarried
      obtain ⟨_, row₁, _, -, -, -, hrow₁, -, hupdate, -⟩ :=
        Workspaces.perform_changeMembers_eq_ok.1 hperform
      obtain ⟨entry, hthere, -⟩ := Members.updateIntegrationRole_eq_ok.1 hupdate
      have hkept := (Tables.get?_fileWorkspace_withMembers_of_ne (Ne.symm hstray) _ _ _ _).symm.trans
        hrow₁
      obtain rfl := Option.some.inj (hrow.symm.trans hkept)
      cases hfree.symm.trans hthere
  · rintro ⟨hsome, hother, row', hrow', hfiled⟩
    obtain rfl := Option.some.inj (hrow.symm.trans hrow')
    rw [if_neg hsome, if_neg hother] at hplace
    have hopens : directory.store.tables.Opens subject user id row :=
      ⟨huser, ⟨workspaces, hlisted, howns⟩, hrow, hfiled, hfit⟩
    have hthere : members.integrations.contains integration = true := by
      rw [hadded, Table.contains_iff]
      exact ⟨_, (Table.get?_insert ..).trans (if_pos rfl)⟩
    exact exists_carriesOut_of_opens
      (hopens.fileWorkspace (Members.sameUsers_of_addIntegration hmembers) _ _) hthere hplace hid
      (Percent.decode?_encode _) hput hrole hdelete hwritable₁ hwritable₂

end Requests

/-! ### Integrations of bob's team -/

namespace Installing

open TwoGrants

/-- Bob's request for a method at a path, with some text as its body. -/
def asking (method path body : String) : Request where
  method := method
  path := path
  authorization := some ("Bearer " ++ token)
  contentType := some "application/json"
  body := some body

/-- The body that names an integration with a word for its id. -/
def naming (word : String) : String :=
  "\x7b\"integration_id\":\"" ++ word ++ "\"\x7d"

/-- Bob adds an integration with a word for its id to the team. -/
def adding (word : String) : Request :=
  asking "POST" (pathOf ["workspaces", "team", "integrations"]) (naming word)

/-- Bob makes it a writer. -/
def promoting (word : String) : Request :=
  asking "PUT" (integrationPath "team" ⟨word⟩) "\x7b\"role\":\"writer\"\x7d"

/-- Bob takes it out. -/
def dropping (word : String) : Request :=
  asking "DELETE" (integrationPath "team" ⟨word⟩) ""

/-- The directory once bob has asked for the integration. -/
def added (word : String) : Directory :=
  (service.answer (adding word) moment directory).2

/-- Bob's token comes with whatever he asks for. -/
theorem asks_asking (method path body : String) :
    (asking method path body).Asks service moment "bob" method path :=
  ⟨rfl, rfl, claims, trusts_request, rfl⟩

/-- Bob asks at the integrations of the team. -/
theorem target_adding (word : String) :
    Target.ofPath? (adding word).path = some (.route (.integrations "team")) :=
  ofPath?_pathOf (by decide)

/-- Bob can make the integration a writer and then take it out. -/
theorem manageable_bot :
    ∃ directory₂ directory₃,
      service.CarriesOut (promoting "bot") moment (added "bot")
        (Workspaces.updateIntegrationMember ⟨"team"⟩ ⟨"bot"⟩ .writer) directory₂ ∧
      service.CarriesOut (dropping "bot") moment directory₂
        (Workspaces.removeIntegration ⟨"team"⟩ ⟨"bot"⟩) directory₃ := by
  have hadds : (adding "bot").Says newIntegration (⟨"bot"⟩, .reader) :=
    ⟨by decide +kernel, by decide +kernel, by decide +kernel⟩
  have hrole : (promoting "bot").Says roleField .writer :=
    ⟨by decide +kernel, by decide +kernel, by decide +kernel⟩
  have hteam : Percent.decode? "team" = some "team" := by decide +kernel
  have hstatus : (service.answer (adding "bot") moment directory).1.status < 400 := by
    rw [answer_addIntegration (target_adding "bot") rfl hteam hadds (authenticate_token rfl rfl)]
    decide +kernel
  exact (manageable_iff (target_adding "bot") hteam (asks_asking ..) hadds rfl hstatus
    (asks_asking ..) hrole (asks_asking ..) (fun _ => rfl) (fun _ => rfl)).2
      ⟨by decide, by decide, _, rfl, rfl⟩

/-- An integration whose id is the name of another route is added, but whatever bob then asks for at
its place is answered with 405. -/
theorem not_manageable_remove :
    (service.answer (adding "remove") moment directory).1.status = 200 ∧
    (service.answer (promoting "remove") moment (added "remove")).1.status = 405 ∧
    (service.answer (dropping "remove") moment (added "remove")).1.status = 405 := by
  have hadds : (adding "remove").Says newIntegration (⟨"remove"⟩, .reader) :=
    ⟨by decide +kernel, by decide +kernel, by decide +kernel⟩
  have hteam : Percent.decode? "team" = some "team" := by decide +kernel
  have hbob : service.authenticate (some ("Bearer " ++ token)) moment directory =
      .ok caller directory := authenticate_token rfl rfl
  have hanswer := answer_addIntegration (target_adding "remove") rfl hteam hadds hbob
  have hadded : added "remove" = (workspaceAnswer ((Workspaces.addIntegrationMember ⟨"team"⟩
      ⟨"remove"⟩ .reader caller.operator).perform moment directory)).2 := congrArg Prod.snd hanswer
  have hplace : Target.ofPath? (integrationPath "team" ⟨"remove"⟩) =
      some (.route (.integrationsRemove "team")) := ofPath?_integrationPath (by decide)
  have hcaller : service.authenticate (some ("Bearer " ++ token)) moment (added "remove") =
      .ok caller (added "remove") := by
    rw [hadded]
    exact authenticate_token rfl rfl
  refine ⟨?_, status_of_methods hplace rfl (by decide) hcaller,
    status_of_methods hplace rfl (by decide) hcaller⟩
  rw [hanswer]
  decide +kernel

end Installing

end Http

end Roster
