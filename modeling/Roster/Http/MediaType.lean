/-!
# Media types

A media type is a type and a subtype with a slash between them, and may have parameters behind a
semicolon. The last plus sign within the subtype sets off a suffix. Names may be written in any
case.
-/

namespace Roster.Http

/-- What a media type says about content, in lower case. -/
structure MediaType where
  kind : String
  subkind : String
  /-- What follows the last plus sign of the subtype. -/
  suffix : Option String
  deriving DecidableEq, Repr

namespace MediaType

/-- Whether a character may stand in a name. -/
def isToken (c : Char) : Bool :=
  c.isAlphanum || c ∈ "!#$%&'*+-.^_`|~".toList

/-- Whether a character may stand between quotes. -/
def isQuotable (c : Char) : Bool :=
  ' ' ≤ c && c ≠ '\x7f'

/-- What follows a quoted value, of which the first character may be a quote itself. -/
def skipQuoted? : List Char → Option (List Char)
  | [] => none
  | first :: rest => do
    guard (isQuotable first)
    match rest.dropWhile fun c => isQuotable c && c ≠ '"' with
    | '"' :: rest =>
      match rest.dropWhile (· = ' ') with
      | [] => some []
      | ';' :: rest => some rest
      | _ => none
    | _ => none

/-- What follows the value of a parameter and its semicolon. -/
def skipValue? : List Char → Option (List Char)
  | '"' :: rest => skipQuoted? rest
  | s =>
    match s.span isToken with
    | (_, []) => some []
    | (_ :: _, ';' :: rest) => some rest
    | _ => none

/-- Whether a text is a list of parameters, of which there are at most so many. -/
def areParameters : Nat → List Char → Bool
  | 0, _ => false
  | fuel + 1, s =>
    match (s.dropWhile (· = ' ')).span isToken with
    | ([], []) => true
    | (_ :: _, '=' :: rest) =>
      match skipValue? rest with
      | some [] => true
      | some rest => areParameters fuel rest
      | none => false
    | _ => false

/-- A subtype and its suffix. -/
def splitSuffix (subtype : List Char) : String × Option String :=
  match subtype.reverse.span (· ≠ '+') with
  | (suffix, '+' :: (base@(_ :: _))) =>
    (String.ofList base.reverse, some (String.ofList suffix.reverse))
  | _ => (String.ofList subtype, none)

/-- The media type written in a text. -/
def ofText? (s : String) : Option MediaType := do
  let (kind@(_ :: _), '/' :: rest) := (s.toList.map Char.toLower).span isToken | none
  let (subtype@(_ :: _), rest) := rest.span isToken | none
  match rest with
  | [] => pure ()
  | separator :: parameters =>
    guard (separator = ';')
    guard (areParameters (parameters.length + 1) parameters)
  let (subkind, suffix) := splitSuffix subtype
  return { kind := String.ofList kind, subkind, suffix }

/-- Whether content of this type is JSON. -/
def isJson (type : MediaType) : Bool :=
  type.kind = "application" && (type.subkind = "json" || type.suffix = some "json")

end MediaType

end Roster.Http
