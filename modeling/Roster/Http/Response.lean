import Roster.Error
import Roster.Json.Basic

/-!
# Requests and responses

A response has a status and content. An error of the directory is answered with a status that
depends on its kind alone; what went wrong inside the store is not told.
-/

namespace Roster.Http

/-- What a client sends, as far as it matters. -/
structure Request where
  method : String
  path : String
  authorization : Option String := none
  contentType : Option String := none
  body : Option String := none
  deriving DecidableEq, Repr

/-- What a response holds. -/
inductive Content
  | nothing
  | text (s : String)
  | json (value : Json)
  deriving Inhabited

/-- What a client gets back. -/
structure Response where
  status : Nat
  content : Content := .nothing
  deriving Inhabited

namespace Response

/-- A response that reports success. -/
def ok (value : Json) : Response :=
  ⟨200, .json value⟩

/-- A response that reports something new. -/
def created (value : Json) : Response :=
  ⟨201, .json value⟩

/-- A response that reports success and has nothing to say. -/
def noContent : Response :=
  ⟨204, .nothing⟩

/-- A response that reports an error with its code and message. -/
def failure (status : Nat) (code message : String) : Response :=
  ⟨status, .json (.record [("code", .text code), ("message", .text message)])⟩

/-- The caller is not known. -/
def unauthorized (message : String) : Response :=
  failure 401 "unauthorized" message

/-- The status that stands for a kind of error. -/
def statusOf : ErrorKind → Nat
  | .invariant => 400
  | .authorization => 403
  | .unauthenticated => 401
  | .notFound => 404
  | .conflict => 409
  | .storage => 500

/-- What a client is told of an error. -/
def publicMessage (error : Error) : String :=
  match error.kind with
  | .storage => "internal error"
  | _ => error.message

/-- The response to a request that failed with an error. -/
def ofError (error : Error) : Response :=
  failure (statusOf error.kind) error.code (publicMessage error)

/-- The response without its content. -/
def headOnly (response : Response) : Response :=
  { response with content := .nothing }

end Response

end Roster.Http
