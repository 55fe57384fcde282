import Roster.Error
import Roster.Text.LowerCase
import Roster.Time.Instant

/-!
# Users

A user has a name, an e-mail address, the identities under which they log in, and a personal
workspace. Names have no blank ends and e-mail addresses are in lower case.
-/

namespace Roster

open Time (Instant)

/-- An identity vouched for by a provider. -/
structure Identity where
  provider : String
  subject : String
  deriving DecidableEq, Repr

/-- The identity of a subject: the provider is named before the first bar. -/
def Identity.ofSubject (subject : String) : Identity :=
  let cs := subject.toList
  { provider := if '|' ∈ cs then String.ofList (cs.takeWhile (· ≠ '|')) else "oidc"
    subject }

/-- How a user wants to see things. -/
inductive Theme
  | default
  | light
  | dark
  deriving DecidableEq, Repr, Inhabited

namespace Theme

/-- The word for a theme. -/
def name : Theme → String
  | default => "default"
  | light => "light"
  | dark => "dark"

/-- The theme a word names exactly. -/
def ofName? : String → Option Theme
  | "default" => some default
  | "light" => some light
  | "dark" => some dark
  | _ => none

/-- The theme named by a text in any case; no text at all names the default. -/
def parse (s : String) : Except Error Theme :=
  if s.isEmpty then .ok default
  else
    match ofName? (Text.lower s) with
    | some theme => .ok theme
    | none => .error (.invalidParameter ("invalid theme: " ++ s))

@[simp]
theorem ofName?_name (theme : Theme) : ofName? theme.name = some theme := by
  cases theme <;> rfl

end Theme

/-- What users say about themselves. -/
structure UserProfile where
  lang : String := ""
  theme : Theme := .default
  description : String := ""
  website : String := ""
  photoUrl : String := ""
  deriving DecidableEq, Repr, Inhabited

/-- An account. -/
structure User where
  id : UserId
  name : String
  email : String
  identities : List Identity
  /-- The personal workspace. -/
  workspace : WorkspaceId
  profile : UserProfile
  updatedAt : Instant
  deriving DecidableEq, Repr

/-- The form in which e-mail addresses are compared. -/
def foldEmail (email : String) : String :=
  Text.lower (Text.trim email)

/-- The e-mail address in its stored form; it needs something before the first `@` and a point
after it. -/
def normalizeEmail (email : String) : Except Error String :=
  let folded := foldEmail email
  match folded.toList.span (· ≠ '@') with
  | (_ :: _, '@' :: domain) =>
    if '.' ∈ domain then .ok folded else .error (.invalidParameter ("invalid email: " ++ folded))
  | _ => .error (.invalidParameter ("invalid email: " ++ folded))

namespace User

/-- The name without blank ends; a blank name is refused. -/
def checkName (name : String) : Except Error String :=
  let trimmed := Text.trim name
  if trimmed.isEmpty then .error (.invalidParameter "user name is required") else .ok trimmed

/-- A new account without identities. -/
def create (id : UserId) (name email : String) (workspace : WorkspaceId) (now : Instant) :
    Except Error User := do
  let name ← checkName name
  let email ← normalizeEmail email
  return { id, name, email, identities := [], workspace, profile := {}, updatedAt := now }

/-- Whether the user logs in as a subject. -/
def hasSubject (user : User) (subject : String) : Bool :=
  user.identities.any fun identity => identity.subject = subject

/-- Add an identity unless its subject is there already; tells whether it was added. -/
def addIdentity (user : User) (identity : Identity) (now : Instant) : User × Bool :=
  if user.hasSubject identity.subject then (user, false)
  else ({ user with identities := user.identities ++ [identity], updatedAt := now }, true)

/-- Give the user another name. -/
def rename (user : User) (name : String) (now : Instant) : Except Error User := do
  return { user with name := ← checkName name, updatedAt := now }

/-- Give the user another e-mail address. -/
def updateEmail (user : User) (email : String) (now : Instant) : Except Error User := do
  return { user with email := ← normalizeEmail email, updatedAt := now }

/-- Replace what the user says about themselves. -/
def updateProfile (user : User) (profile : UserProfile) (now : Instant) : User :=
  { user with profile, updatedAt := now }

end User

end Roster
