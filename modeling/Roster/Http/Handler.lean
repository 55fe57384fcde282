import Roster.Http.MediaType
import Roster.Http.Percent
import Roster.Http.Response
import Roster.Service.Accounts
import Roster.Token.Claims

/-!
# Answering one request

A handler acts on the directory and ends with a response. Before a handler runs, the bearer of the
request's token becomes its caller.
-/

namespace Roster.Http

open Json (Record)

/-- A course of actions that can end early, with the response that a client gets. -/
abbrev Handler := ReaderT Moment (EStateM Response Directory)

/-- How the service is set up. -/
structure Service where
  /-- The secret with which tokens are signed. -/
  secret : String
  defaultPolicy : Option PolicyId := none
  policy : Policy := []

/-- Who sends a request. -/
structure Caller where
  claims : Token.Claims
  /-- The user who logs in as the token's subject, if there is one. -/
  user : Option User
  operator : Operator

namespace Handler

variable {α : Type}

/-- An action whose error becomes a response. -/
def ofAction (action : Action α) : Handler α := fun moment directory =>
  match action moment directory with
  | .ok value directory => .ok value directory
  | .error error directory => .error (.ofError error) directory

instance : MonadLift Action Handler := ⟨ofAction⟩

/-- The response that a handler ends with, and what it leaves behind. -/
def respond (handler : Handler Response) (moment : Moment) (directory : Directory) :
    Response × Directory :=
  match handler moment directory with
  | .ok response directory | .error response directory => (response, directory)

end Handler

/-- Whether the value of a header consists of printable ASCII characters and tabs. -/
def isPlain (value : String) : Bool :=
  value.toList.all fun c => c = '\t' || (' ' ≤ c && c ≤ '~')

/-- The token in the value of a header. -/
def bearerToken? (authorization : Option String) : Option String := do
  let value ← authorization
  guard (isPlain value)
  match value.toList with
  | 'B' :: 'e' :: 'a' :: 'r' :: 'e' :: 'r' :: ' ' :: token => return String.ofList token
  | _ => none

/-- The caller that a request's token stands for. -/
def Service.authenticate (service : Service) (authorization : Option String) : Handler Caller := do
  let some token := bearerToken? authorization
    | throw (.unauthorized "missing bearer token")
  let now ← Action.now
  let .ok claims := Token.Claims.verify service.secret now.secondsSinceEpoch.toNat token
    | throw (.unauthorized "invalid token")
  match ← Usecase.runPlain (Program.queryOptional (.userWithSubject claims.subject)) with
  | some user =>
    return { claims, user, operator := ← Accounts.operatorFor service.defaultPolicy user.id }
  | none => return { claims, user := none, operator := {} }

/-- The caller as a user of the directory. -/
def Caller.signedUp (caller : Caller) : Handler User :=
  match caller.user with
  | some user => return user
  | none => throw (.unauthorized "user has not signed up")

/-- The id in a segment of the path. -/
def idIn {kind : Entity} (segment : String) : Handler (Ident kind) :=
  match Percent.decode? segment with
  | some s => return ⟨s⟩
  | none => throw ⟨400, .nothing⟩

/-- Whether the body of a request says that it is JSON. -/
def Request.hasJson (request : Request) : Bool :=
  request.contentType.any fun value =>
    isPlain value && (MediaType.ofText? value).any MediaType.isJson

/-- The number of bytes that the body of a request may have. -/
def bodyLimit : Nat := 0x200000

/-- What the body of a request says, read as a record. -/
def Request.read {α : Type} (request : Request) (record : Record α) : Handler α := do
  if !request.hasJson then throw ⟨415, .nothing⟩
  let body := request.body.getD ""
  if bodyLimit < body.utf8ByteSize then throw ⟨413, .nothing⟩
  match record.shape.readFirst body with
  | .ok value => return value
  | .error .malformed => throw ⟨400, .nothing⟩
  | .error .mismatched => throw ⟨422, .nothing⟩

end Roster.Http
