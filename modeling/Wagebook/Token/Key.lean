import Wagebook.Json.Free
import Wagebook.Json.Record

/-!
Keys in the header of a token. None is ever used, but what stands there has to be one.
-/

namespace Wagebook.Token.Key

/-- A kind of key, and what a key of this kind consists of. -/
structure Family where
  kind : String
  onCurve : Bool
  parts : List String

def families : List Family :=
  [⟨"EC", true, ["x", "y"]⟩, ⟨"RSA", false, ["n", "e"]⟩, ⟨"oct", false, ["k"]⟩,
    ⟨"OKP", true, ["x"]⟩]

def curves : List String := ["P-256", "P-384", "P-521", "Ed25519"]

def algorithms : List String :=
  ["HS256", "HS384", "HS512", "ES256", "ES384", "RS256", "RS384", "RS512", "PS256", "PS384",
    "PS512", "EdDSA", "RSA1_5", "RSA-OAEP", "RSA-OAEP-256"]

/-- Whether the members of an object are those of a key of this kind; it may have others too. -/
def Family.admits (family : Family) (members : List (String × Json)) : Bool :=
  let part? {α : Type} (decode : Json → Option α) (name : String) : Option α :=
    (Json.field? false members name).bind decode
  part? Json.name? "kty" == some family.kind
    && (!family.onCurve || ((part? Json.name? "crv").map curves.contains).getD false)
    && family.parts.all fun name => (part? Json.str? name).isSome

/-- A name on its own, or as the only key of an object that holds nothing. -/
def algorithmName? : Json → Option String
  | .obj [(s, .obj [])] => some s
  | v => v.name?

/-- Whether what a key says besides its parts can be read. -/
def hasUsage (members : List (String × Json)) : Bool :=
  let admits {α : Type} (decode : Json → Option α) (name : String) : Bool :=
    ((Json.field? true members name).bind fun v => v.option? decode).isSome
  ["use", "kid", "x5u", "x5t", "x5t#S256"].all (admits Json.str?)
    && ["key_ops", "x5c"].all (admits (Json.list? Json.str?))
    && admits (fun v => (algorithmName? v).filter algorithms.contains) "alg"

/-- Whether a value is a key. The header around it is one level of nesting, and it is the next. -/
def isKey : Json → Bool
  | .obj members =>
    Json.membersArePlain (Json.depthLimit - 2) members && hasUsage members
      && families.any (·.admits members)
  | _ => false

end Wagebook.Token.Key
