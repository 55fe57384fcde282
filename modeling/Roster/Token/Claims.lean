import Roster.Json.Writer
import Roster.Text.Blank
import Roster.Token.Base64
import Roster.Token.Header
import Roster.Token.Sha256

/-!
# Signed claims

A token is a header, a payload of claims and a signature, each as base64url text, with points
between them. It is trusted when the signature is the keyed digest of the other two parts, when
it has not expired, and when it names no audience, since it would be meant for someone else.

The claims that this service has no use for may be of any shape. The three of them that have a
meaning for all services are read nevertheless, and reading has to come to their end.
-/

namespace Roster.Token

open Json (Record Shape Reach)

/-- What a token says about its bearer. -/
structure Claims where
  subject : String
  email : String
  name : String
  /-- The second from which the token counts as expired. -/
  expiry : Nat
  /-- The second at which the token was issued. -/
  issuedAt : Nat
  deriving DecidableEq, Repr

/-- Why a token is refused. -/
inductive Refusal
  /-- It is no token, is not signed with the secret, or is out of date. -/
  | untrusted
  /-- It is to be trusted, but its subject is blank. -/
  | noSubject
  deriving DecidableEq, Repr

/-- The sentence people read. -/
def Refusal.message : Refusal → String
  | untrusted => "token is not valid"
  | noSubject => "token has no subject"

/-- The seconds for which an expired token is still accepted. -/
def leeway : Nat := 60

/-- The signature of a text. -/
def sign (secret message : String) : String :=
  String.ofList (Base64.encode (Sha256.keyedDigest (Text.utf8 secret) (Text.utf8 message)))

/-- The least expiry that counts at some second. Seconds are 64-bit words, so shortly after second
zero hardly a token counts. -/
def leastExpiry (now : Nat) : Nat :=
  (UInt64.ofNat now - UInt64.ofNat leeway).toNat

/-- The header in a part of a token. -/
def readHeader? (part : String) : Option Unit := do
  (header.shape.readWholeBytes (← Base64.decode? part.toList)).toOption

/-! ## Claims without use -/

/-- How deep brackets may be nested in a claim. -/
def claimDepth : Nat := 126

/-- A claim that is passed over if reading gets behind it. -/
def passable (reach : Reach) : Except Json.Fault Unit :=
  match reach with
  | .whole | .behind => .ok ()
  | .within => .error .malformed

/-- The second before which a token does not count, which is not heeded. No bracket is read
beyond its opening. -/
def notBefore : Shape Unit
  | .array [] | .object [] true => .ok ()
  | .array _ | .object _ _ => .error .malformed
  | value => passable (value.reach claimDepth)

/-- The issuer, who may be anyone. -/
def issuer : Shape Unit := fun value =>
  passable (value.reach claimDepth)

/-- The audience: a text or an array of texts. A value of another kind names none. -/
def audience : Shape Bool := fun value => do
  passable (value.reach claimDepth)
  match value with
  | .text _ => return true
  | .array items => return items.all fun item => (Shape.text item).isOk
  | _ => return false

namespace Claims

/-- The claims, and whether an audience is named. -/
def record : Record (Claims × Bool) :=
  (fun subject email name expiry issuedAt _ _ audience =>
    ({ subject, email, name, expiry, issuedAt }, audience)) <$>
    Record.required "sub" Shape.text <*>
    Record.defaulted "email" Shape.text "" <*>
    Record.defaulted "name" Shape.text "" <*>
    Record.required "exp" Shape.natural <*>
    Record.required "iat" Shape.natural <*>
    Record.defaulted "nbf" notBefore () <*>
    Record.defaulted "iss" issuer () <*>
    Record.defaulted "aud" audience false

/-- The claims in a part of a token, which must be an object, and whether an audience is named. -/
def read? (part : String) : Option (Claims × Bool) := do
  let reading := Json.readBytes (← Base64.decode? part.toList)
  let .object _ _ := reading.1 | none
  (record.shape.takeWhole reading).toOption

/-- The token for a payload of claims. -/
def issue (secret : String) (payload : Json) : String :=
  let part (value : Json) := String.ofList (Base64.encode (Text.utf8 value.compact))
  let message := part (.record [("alg", .text algorithm)]) ++ "." ++ part payload
  message ++ "." ++ sign secret message

/-- The claims of a token that is to be trusted at some second. -/
def trusted? (secret : String) (now : Nat) (token : String) : Option Claims := do
  let [head, payload, signature] := token.splitOn "." | none
  readHeader? head
  guard (signature = sign secret (head ++ "." ++ payload))
  let (claims, audience) ← read? payload
  guard (leastExpiry now ≤ claims.expiry && !audience)
  return claims

/-- Trust a token if it is valid and has a subject. -/
def verify (secret : String) (now : Nat) (token : String) : Except Refusal Claims :=
  match trusted? secret now token with
  | none => .error .untrusted
  | some claims =>
    if (Text.trim claims.subject).isEmpty then .error .noSubject else .ok claims

end Claims

end Roster.Token
