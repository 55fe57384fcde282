import Mathlib.Data.Option.Basic
import Roster.Proofs.CommandLines
import Roster.Proofs.Responses
import Roster.Proofs.Texts

/-!
# What is left of what is rejected

A request that is answered with an error, and a command line that fails, leave everything as it was,
with one exception: where several access roles are asked for within one workspace, they are granted
one by one, and when one is refused those before it stay granted.
-/

namespace Roster

/-- A request that is rejected leaves the store as it was, and a command line that fails leaves every
path of the host as it was, exactly when no grants are cut short that have changed it before. -/
theorem unchanged_by_rejected_iff (service : Http.Service) (request : Http.Request) (moment : Moment)
    (directory : Directory) (host : CommandLine.Host) (words : List String) :
    ((400 ≤ (service.answer request moment directory).1.status →
        (service.answer request moment directory).2.store = directory.store) ↔
      ∀ store, Http.GrantsCutShort service request moment directory store →
        store = directory.store) ∧
    (((CommandLine.run host moment words).1.exitCode ≠ 0 →
        ¬ host.Differs (CommandLine.run host moment words).2) ↔
      ∀ host', CommandLine.GrantsCutShort host moment words host' → ¬ host.Differs host') := by
  refine ⟨⟨?_, ?_⟩, ⟨?_, ?_⟩⟩
  · intro hunchanged store hcut
    obtain ⟨hstatus, rfl⟩ := hcut.answer
    exact hunchanged hstatus
  · intro hcut hstatus
    obtain hsame | hleft := Http.answer_cases hstatus
    · exact hsame
    · exact hcut _ hleft
  · intro hunchanged host' hcut
    obtain ⟨hfails, rfl⟩ := hcut.run
    exact hunchanged hfails
  · intro hcut hfails
    obtain hsame | hleft := CommandLine.run_cases hfails
    · exact hsame
    · exact hcut _ hleft

/-! ## Two roles, one of which does not exist

Bob may manage access roles, since he holds the role `admin`. He asks for two roles within his team;
the second one is refused, since it does not exist, and the first one stays granted.
-/

namespace Http.TwoGrants

/-- Whoever holds the role `admin` may manage access roles. -/
def service : Service where
  secret := "secret"
  policy := [{ role := "admin", resource := "role", actions := ["manage"] }]

/-- Bob logs in under his name. -/
def bob : User where
  id := ⟨"bob"⟩
  name := "Bob"
  email := "bob@example.com"
  identities := [{ provider := "oidc", subject := "bob" }]
  workspace := ⟨"home"⟩
  profile := {}
  updatedAt := .epoch

/-- A workspace of bob's. -/
def workspace (id : WorkspaceId) (personal : Bool) : Workspace where
  id := id
  name := "Bob"
  aliasName := ""
  email := ""
  profile := {}
  members := .ofOwner bob.id personal
  policy := none
  updatedAt := .epoch

/-- Bob with a team, and with the only access role there is. -/
def tables : Tables where
  workspaces :=
    (Table.empty.insert ⟨"home"⟩ (workspace ⟨"home"⟩ true)).insert ⟨"team"⟩ (workspace ⟨"team"⟩ false)
  users := Table.empty.insert bob.id bob
  roles := Table.empty.insert ⟨"admin"⟩ ⟨⟨"admin"⟩, "admin"⟩
  permittables := Table.empty.insert ⟨"holder"⟩ (.create ⟨"holder"⟩ bob.id [⟨"admin"⟩])

/-- The store is kept in a file. -/
def directory : Directory where
  store := { tables, file := some tables.toSnapshot, attached := true }

/-- An hour after the epoch, with room on the disk. -/
def moment : Moment where
  now := Time.Instant.epoch.addSeconds 3600
  ids := fun _ => ""
  writeFault := none

/-- Bob's claims, which count for another hour. -/
def claims : Token.Claims where
  subject := "bob"
  email := ""
  name := ""
  expiry := 7200
  issuedAt := 0

/-- The header of bob's token. -/
def head : String :=
  "eyJhbGciOiJIUzI1NiJ9"

/-- The claims in bob's token. -/
def payload : String :=
  "eyJzdWIiOiJib2IiLCJleHAiOjcyMDAsImlhdCI6MH0"

/-- The signature of bob's token. -/
def signature : String :=
  "IYrD0NkKwju0owRIJzxhoLLj9L9IbJzdCQLcBCLItk8"

/-- Bob's token. -/
def token : String :=
  head ++ "." ++ payload ++ "." ++ signature

/-- Bob asks for the role he holds and for another one, both within the team. -/
def request : Request where
  method := "PUT"
  path := "/api/v1/permittables/bob"
  authorization := some ("Bearer " ++ token)
  contentType := some "application/json"
  body := some "\x7b\"role_ids\":[\"admin\",\"ghost\"],\"workspace_id\":\"team\"\x7d"

/-- What bob asks for. -/
def asked : List RoleId × Option WorkspaceId :=
  ([⟨"admin"⟩, ⟨"ghost"⟩], some ⟨"team"⟩)

/-- The directory after the first role. -/
def granted : Directory :=
  ((Grants.addWorkspaceRole bob.id ⟨"team"⟩ ⟨"admin"⟩).perform moment directory).2

/-- The path leads to bob's roles. -/
theorem target_request : Target.ofPath? request.path = some (.route (.permittable "bob")) := by
  have hbare : String.ofList ((localPath request.path.toList).takeWhile (!endsPath ·)) =
      request.path := by
    decide +kernel
  have hsplit : request.path.splitOn "/" = ["", "api", "v1", "permittables", "bob"] := by
    rw [splitOn_slash]
    decide +kernel
  simp only [Target.ofPath?, hbare, hsplit]
  decide

/-- The token is to be trusted. -/
theorem verify_token : Token.Claims.verify service.secret 3600 token = .ok claims := by
  have hsplit : token.splitOn "." = [head, payload, signature] := by
    rw [show "." = String.ofList ['.'] from rfl, splitOn_singleton]
    decide +kernel
  have hread : Token.Claims.read? payload = some (claims, false) := by
    decide +kernel
  simp only [Token.Claims.verify, Token.Claims.trusted?, hsplit, hread]
  decide +kernel

/-- The body is what bob asks for. -/
theorem read_request : request.read newGrants moment directory = .ok asked directory := by
  have hjson : request.hasJson = true := by decide +kernel
  have hshort : ¬ bodyLimit < (request.body.getD "").utf8ByteSize := by decide +kernel
  have hbody : newGrants.shape.readFirst (request.body.getD "") = .ok asked := by decide +kernel
  simp only [Request.read, hjson, hshort, hbody]
  rfl

/-- Bob as a caller. -/
def callerWith (operator : Operator) : Caller where
  claims := claims
  user := bob
  operator := operator

/-- The token stands for bob wherever he has signed up. -/
theorem authenticate_token {directory : Directory} {operator : Operator}
    (hfound : (Query.userWithSubject claims.subject).answer directory.store.tables = .ok bob)
    (hoperator : (Accounts.operatorFor service.defaultPolicy bob.id).perform moment directory =
      (.ok operator, directory)) :
    service.authenticate (some ("Bearer " ++ token)) moment directory =
      .ok (callerWith operator) directory := by
  have hbearer : bearerToken? (some ("Bearer " ++ token)) = some token := by decide +kernel
  have hnow : moment.now.secondsSinceEpoch.toNat = 3600 := by decide +kernel
  simp only [Service.authenticate, hbearer, Course.bind_apply, Handler.lift_apply,
    Action.perform_now, hnow, verify_token, Usecase.perform_runPlain_queryOptional, hfound,
    Roster.optional, hoperator]
  rfl

/-- Bob as the caller who owns his home and the team. -/
def caller : Caller :=
  callerWith { user := bob.id, owning := [⟨"home"⟩, ⟨"team"⟩] }

/-- The token stands for bob. -/
theorem authenticate_request :
    service.authenticate request.authorization moment directory = .ok caller directory :=
  authenticate_token rfl rfl

/-- Bob's request is let in. -/
theorem grantsAsked_request :
    grantsAsked service request "bob" moment directory = .ok (bob.id, asked) directory := by
  have hsegment : (idIn "bob" : Handler UserId) moment directory = .ok bob.id directory := by
    have hdecoded : Percent.decode? "bob" = some "bob" := by decide +kernel
    simp only [idIn, hdecoded]
    rfl
  have hallowed : mayManageRoles service caller moment directory = .ok () directory := rfl
  simp only [grantsAsked, Course.bind_apply, authenticate_request, hsegment, read_request, hallowed]
  rfl

/-- The first role is granted, and the second one is refused. -/
theorem cutShort_request : GrantsCutShort service request moment directory granted.store := by
  have hrefused : (Grants.addWorkspaceRole bob.id ⟨"team"⟩ ⟨"ghost"⟩).perform moment granted =
      (.error (.notFound "role ghost"), granted) := rfl
  exact .intro rfl target_request grantsAsked_request (.granted rfl (.refused hrefused))

/-- A request may be rejected and change the store nevertheless. -/
theorem changed_after_rejection :
    ¬ ∀ (service : Service) (request : Request) (moment : Moment) (directory : Directory),
      400 ≤ (service.answer request moment directory).1.status →
        (service.answer request moment directory).2.store = directory.store := by
  intro h
  obtain ⟨hstatus, hstore⟩ := cutShort_request.answer
  have hsame := hstore.symm.trans (h service request moment directory hstatus)
  have hchanged : granted.store.tables ≠ directory.store.tables := by decide +kernel
  exact hchanged (congrArg Store.tables hsame)

end Http.TwoGrants

end Roster
