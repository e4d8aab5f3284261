import Wagebook.Calendar.Stamp
import Wagebook.Digest.Sha256
import Wagebook.Json.Bytes
import Wagebook.Json.Writer
import Wagebook.Role
import Wagebook.Text.Base64
import Wagebook.Token.Key
import Wagebook.Token.Registered

/-!
Bearer tokens: a header and claims as JSON in base64, signed with a secret. A token is taken when
its signature fits, its claims can be read, and it has not expired for more than a minute.
-/

namespace Wagebook

structure Claims where
  user : Nat
  username : String
  /-- The id of a role, which need not be one that exists. -/
  role : Nat
  /-- Seconds since the start of 1970, as is `issuedAt`. -/
  expires : Nat
  issuedAt : Nat
  tokenId : String
  deriving DecidableEq, Repr

namespace Claims

def fieldNames : List String := ["user_id", "sub", "role", "exp", "iat", "jti"]

def toJson (c : Claims) : Json :=
  .record fieldNames [.nat c.user, .str c.username, .nat c.role, .nat c.expires, .nat c.issuedAt,
    .str c.tokenId]

def ofFields? : List Json → Option Claims
  | [user, username, role, expires, issuedAt, tokenId] => do
    return { user := ← user.nat64?, username := ← username.str?, role := ← role.nat8?
             expires := ← expires.nat64?, issuedAt := ← issuedAt.nat64?
             tokenId := ← tokenId.str? }
  | _ => none

def ofJson? (v : Json) : Option Claims := do ofFields? (← v.fields? fieldNames [])

end Claims

inductive TokenFault
  /-- There are not three parts. -/
  | parts
  | base64
  | json
  | algorithm
  | signature
  | expired
  /-- It is meant for somebody. -/
  | audience
  deriving DecidableEq, Repr

namespace Token

def algorithm : String := "HS256"

def header : Json := .obj [("typ", .str "JWT"), ("alg", .str algorithm)]

def segment (v : Json) : List Char := Text.Base64.url.encode (Text.utf8 v.render)

def signature (secret : String) (message : List Char) : List Char :=
  Text.Base64.url.encode
    (Digest.hmac (Text.utf8 secret) (Text.utf8 (String.ofList message)))

def sign (secret : String) (claims : Claims) : String :=
  let message := segment header ++ '.' :: segment claims.toJson
  String.ofList (message ++ '.' :: signature secret message)

/-- A token for `ttl` seconds from now on. -/
def issue (now : Stamp) (tokenId : String) (user : Nat) (username : String) (role : Role)
    (secret : String) (ttl : Nat) : String :=
  let issuedAt := now.unixSeconds.toNat
  sign secret { user, username, role := role.id, expires := issuedAt + ttl, issuedAt, tokenId }

/-- The texts before and after the last dot. -/
def splitLast (cs : List Char) : Option (List Char × List Char) :=
  match cs.reverse.dropWhile (· ≠ '.') with
  | _ :: before => some (before.reverse, (cs.reverse.takeWhile (· ≠ '.')).reverse)
  | [] => none

/-- The text in a part of a token. -/
def readSegment (cs : List Char) : Except TokenFault (List Char) :=
  match Text.Base64.url.decode? cs with
  | none => .error .base64
  | some bytes =>
    match Json.charsOf? bytes with
    | none => .error .json
    | some text => .ok text

def algorithms : List String :=
  ["HS256", "HS384", "HS512", "ES256", "ES384", "RS256", "RS384", "RS512", "PS256", "PS384",
    "PS512", "EdDSA"]

def headerFields : List String :=
  ["typ", "alg", "cty", "jku", "jwk", "kid", "x5u", "x5c", "x5t", "x5t#S256"]

/-- The algorithm that a header names, if the rest of the header can be read. -/
def algorithm? (header : Json) : Option String := do
  match ← header.fields? headerFields (headerFields.filter (· ≠ "alg")) with
  | [typ, alg, cty, jku, jwk, kid, x5u, x5c, x5t, x5t256] =>
    let _ ← [typ, cty, jku, kid, x5u, x5t, x5t256].mapM fun v => v.option? Json.str?
    let _ ← x5c.option? fun v => v.list? Json.str?
    let _ ← jwk.option? fun v => if Key.isKey v then some v else none
    let alg ← alg.name?
    if algorithms.contains alg then some alg else none
  | _ => none

/-- For so many seconds after its end a token is still taken. -/
def leeway : Nat := 60

def verify (now : Stamp) (secret token : String) : Except TokenFault Claims := do
  let some (message, given) := splitLast token.toList | throw .parts
  let some (head, payload) := splitLast message | throw .parts
  let some alg := (Json.read? (← readSegment head)).bind algorithm? | throw .json
  if alg ≠ algorithm then throw .algorithm
  if given ≠ signature secret message then throw .signature
  let body ← readSegment payload
  let some claims := (Json.read? body).bind Claims.ofJson? | throw .json
  let some audience := Registered.hasAudience? body | throw .json
  if (claims.expires : Int) < now.unixSeconds - leeway then throw .expired
  if audience then throw .audience
  return claims

end Token
end Wagebook
