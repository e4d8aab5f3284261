import Wagebook.Text.Blank
import Wagebook.Text.Decimal
import Wagebook.Text.Quoted

/-!
Settings, read from the variables of the environment. The first variable that is missing or cannot
be read is reported.
-/

namespace Wagebook

structure Settings where
  serverAddress : String
  databaseUrl : String
  databaseMaxConnections : Nat
  tokenSecret : String
  tokenSeconds : Nat
  timeoutSeconds : Nat
  loginsPerMinute : Nat
  guardedPerMinute : Nat
  sharedPath : String
  logDirectory : String
  logLevel : String
  deriving DecidableEq, Repr

inductive SettingsFault
  | missing (name : String)
  | unreadable (name value : String) (fault : Text.NumberFault)
  deriving DecidableEq, Repr

/-- What went wrong, and why. -/
def SettingsFault.messages : SettingsFault → List String
  | .missing name => [name ++ " must be set", "environment variable not found"]
  | .unreadable name value fault =>
    [name ++ " has an invalid value: " ++ Text.quoted value, fault.message]

abbrev Environment := List (String × String)

namespace Environment

def text? (env : Environment) (name : String) : Option String :=
  (env.find? (·.1 = name)).map (·.2)

def required (env : Environment) (name : String) : Except SettingsFault String :=
  match env.text? name with
  | some value => .ok value
  | none => .error (.missing name)

def textOr (env : Environment) (name fallback : String) : String :=
  (env.text? name).getD fallback

/-- A whole number of so many bits, with white space around it at most. -/
def natOr (env : Environment) (bits : Nat) (name : String) (fallback : Nat) :
    Except SettingsFault Nat :=
  match env.text? name with
  | none => .ok fallback
  | some value =>
    (Text.readNat (Nat.pow 2 bits) (Text.trim value.toList)).mapError (.unreadable name value)

end Environment

def Settings.ofEnvironment (env : Environment) : Except SettingsFault Settings := do
  let serverAddress ← env.required "SERVER_ADDR"
  let databaseUrl ← env.required "DATABASE_URL"
  let databaseMaxConnections ← env.natOr 32 "DATABASE_MAX_CONNECTIONS" 10
  let tokenSecret ← env.required "JWT_SECRET"
  let tokenSeconds ← env.natOr 64 "ACCESS_TOKEN_TTL" 86400
  let timeoutSeconds ← env.natOr 64 "REQUEST_TIMEOUT_SECS" 10
  let loginsPerMinute ← env.natOr 32 "RATE_LOGIN_PER_MIN" 60
  let guardedPerMinute ← env.natOr 32 "RATE_PROTECTED_PER_MIN" 1000
  return {
    serverAddress, databaseUrl, databaseMaxConnections, tokenSecret, tokenSeconds, timeoutSeconds
    loginsPerMinute, guardedPerMinute
    sharedPath := env.textOr "API_PREFIX" "/v1"
    logDirectory := env.textOr "LOG_DIR" "logs"
    logLevel := env.textOr "LOG_LEVEL" "debug" }

end Wagebook
