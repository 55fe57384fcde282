/-!
# Routes

A route is a place that requests can be sent to. Where a segment of the path may be anything, it
is kept as it is written, with its percent signs; it may be empty unless it is the last one. A
word that a route is named for wins over anything.
-/

namespace Roster.Http

/-- What a request wants done at a place. -/
inductive Method
  | get
  | head
  | post
  | put
  | patch
  | delete
  | other
  deriving DecidableEq, Repr

namespace Method

/-- The method a word names exactly. -/
def ofName : String → Method
  | "GET" => get
  | "HEAD" => head
  | "POST" => post
  | "PUT" => put
  | "PATCH" => patch
  | "DELETE" => delete
  | _ => other

/-- The method by which a request is carried out: asking for the head is getting. -/
def carriedOut : Method → Method
  | head => get
  | method => method

end Method

/-- The places below the root of the interface. -/
inductive Route
  | signup
  | me
  | workspaces
  | workspace (id : String)
  | transfer (id : String)
  | members (id : String)
  | membersRemove (id : String)
  | member (id user : String)
  | integrations (id : String)
  | integrationsRemove (id : String)
  | integration (id integration : String)
  | roles
  | role (id : String)
  | permittables
  | permittable (user : String)
  | authorize
  deriving DecidableEq, Repr

namespace Route

/-- A route that ends with a segment which is not empty. -/
def endingWith (segment : String) (route : String → Route) : Option Route :=
  if segment.isEmpty then none else some (route segment)

/-- The route with these segments. -/
def ofSegments? : List String → Option Route
  | ["signup"] => some signup
  | ["me"] => some me
  | ["workspaces"] => some workspaces
  | ["workspaces", id] => endingWith id workspace
  | ["workspaces", id, "transfer"] => some (transfer id)
  | ["workspaces", id, "members"] => some (members id)
  | ["workspaces", id, "members", "remove"] => some (membersRemove id)
  | ["workspaces", id, "members", user] => endingWith user (member id)
  | ["workspaces", id, "integrations"] => some (integrations id)
  | ["workspaces", id, "integrations", "remove"] => some (integrationsRemove id)
  | ["workspaces", id, "integrations", name] => endingWith name (integration id)
  | ["roles"] => some roles
  | ["roles", id] => endingWith id role
  | ["permittables"] => some permittables
  | ["permittables", user] => endingWith user permittable
  | ["authorize"] => some authorize
  | _ => none

end Route

/-- What a path leads to. -/
inductive Target
  /-- The question whether the service is alive. -/
  | health
  | route (route : Route)
  deriving DecidableEq, Repr

/-- Whether a character ends a path. -/
def endsPath (c : Char) : Bool :=
  c = '?' || c = '#'

/-- Whether a character may stand in the name of a scheme. -/
def isSchemeChar (c : Char) : Bool :=
  c.isAlphanum || c = '+' || c = '-' || c = '.' || c = '~'

/-- A path without the scheme, which may be empty, and the authority that may stand before it. -/
def localPath (path : List Char) : List Char :=
  match path.span isSchemeChar with
  | (_, ':' :: '/' :: '/' :: rest) => rest.dropWhile fun c => c ≠ '/' && !endsPath c
  | _ => path

/-- What a path leads to, if anything; a query behind it does not matter. -/
def Target.ofPath? (path : String) : Option Target :=
  let bare := String.ofList ((localPath path.toList).takeWhile (!endsPath ·))
  match bare.splitOn "/" with
  | ["", "health"] => some health
  | "" :: "api" :: "v1" :: segments => (Route.ofSegments? segments).map route
  | _ => none

end Roster.Http
