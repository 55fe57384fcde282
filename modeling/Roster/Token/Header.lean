import Roster.Json.Reach
import Roster.Json.Shape

/-!
# The header of a token

The header names the way of signing. It may say more, about the kind of token and about the key,
which is of no consequence but must be well-formed.
-/

namespace Roster.Token

open Json (Record Shape Reach)

/-- The only way of signing that is accepted. -/
def algorithm : String := "HS256"

/-! ## Keys -/

namespace Key

/-- How deep brackets may be nested in the values of a key. -/
def depth : Nat := 125

/-- A text that may be left out. -/
def text (name : String) : Record Unit :=
  (fun _ => ()) <$> Record.optional name Shape.text

/-- Texts that may be left out. -/
def texts (name : String) : Record Unit :=
  (fun _ => ()) <$> Record.optional name (Shape.list Shape.text)

/-- A word among some. -/
def oneOf (words : List String) : Shape Unit :=
  Shape.word fun name => if name ∈ words then some () else none

/-- The ways of using keys. -/
def algorithms : List String :=
  ["HS256", "HS384", "HS512", "ES256", "ES384", "RS256", "RS384", "RS512", "PS256", "PS384",
    "PS512", "EdDSA", "RSA1_5", "RSA-OAEP", "RSA-OAEP-256"]

/-- A way of using a key, which may also be the only name of an object that holds nothing. -/
def usage : Shape Unit
  | .object [(some name, .object [] true)] true => oneOf algorithms (.text name)
  | value => oneOf algorithms value

/-- What any key may say. -/
def details : Record Unit :=
  (fun _ _ _ _ _ _ _ _ => ()) <$> text "use" <*> texts "key_ops" <*>
    Record.optional "alg" usage <*> text "kid" <*> text "x5u" <*> texts "x5c" <*> text "x5t" <*>
    text "x5t#S256"

/-- The curves on which keys may lie. -/
def curves : List String :=
  ["P-256", "P-384", "P-521", "Ed25519"]

/-- A key of some type with coordinates on a curve. -/
def onCurve (type : String) (coordinates : List String) : List (Record Unit) :=
  Record.required "kty" (oneOf [type]) :: Record.required "crv" (oneOf curves) ::
    coordinates.map fun name => (fun _ => ()) <$> Record.required name Shape.text

/-- A key of some type with numbers. -/
def ofNumbers (type : String) (names : List String) : List (Record Unit) :=
  Record.required "kty" (oneOf [type]) ::
    names.map fun name => (fun _ => ()) <$> Record.required name Shape.text

/-- The types of keys, each with the records that describe it. -/
def types : List (List (Record Unit)) :=
  [onCurve "EC" ["x", "y"], ofNumbers "RSA" ["n", "e"], ofNumbers "oct" ["k"], onCurve "OKP" ["x"]]

/-- Whether a value fits all of some records. -/
def fits (value : Json) (records : List (Record Unit)) : Bool :=
  records.all fun record => (record.shape value).isOk

/-- A key: an object that can be read as a whole, with the details of a key and with what one of
the types of keys asks for. -/
def shape : Shape Unit
  | value@(.object _ _) =>
    let isKey := fits value [details] && types.any (fits value)
    if value.reach (depth + 1) = .whole && isKey then .ok () else .error .mismatched
  | value => .error value.refusal

end Key

/-- The header of a token that is signed in the accepted way. -/
def header : Record Unit :=
  (fun _ _ _ _ _ _ _ _ _ _ => ()) <$> Key.text "typ" <*>
    Record.required "alg" (Shape.word fun name => if name = algorithm then some () else none) <*>
    Key.text "cty" <*> Key.text "jku" <*> Record.optional "jwk" Key.shape <*> Key.text "kid" <*>
    Key.text "x5u" <*> Key.texts "x5c" <*> Key.text "x5t" <*> Key.text "x5t#S256"

end Roster.Token
