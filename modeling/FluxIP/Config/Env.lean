import FluxIP.Domain.Text

/-!
# The configuration the application reads

Variables are read as they are; whatever cannot be read is a problem, and all of
them are reported together.
-/

namespace FluxIP

/-! ## Numbers -/

/-- An integral number of JavaScript. -/
inductive JsNumber where
  | finite (value : Int)
  | infinite (negative : Bool)
  deriving DecidableEq, Repr

namespace JsNumber

/-- The nearest natural number with 53 significant bits, ties to even. -/
def roundNat (value : Nat) : Nat :=
  let unit := 2 ^ (value.log2 - 52)
  let quotient := value / unit
  let rest := value % unit
  if unit < 2 * rest ∨ unit = 2 * rest ∧ quotient % 2 = 1 then
    (quotient + 1) * unit
  else quotient * unit

/-- The number an integer literal stands for. -/
def ofInt (value : Int) : JsNumber :=
  let magnitude := roundNat value.natAbs
  if 2 ^ 1024 ≤ magnitude then .infinite (decide (value < 0))
  else .finite (value.sign * magnitude)

def atLeast (bound : Int) : JsNumber → Bool
  | .finite value => decide (bound ≤ value)
  | .infinite negative => !negative

def atMost (bound : Int) : JsNumber → Bool
  | .finite value => decide (value ≤ bound)
  | .infinite negative => negative

end JsNumber

/-- `/^-?\d+$/`, and the integer that is written. -/
def integerOf (text : List Char) : Option Int :=
  match text with
  | '-' :: digits =>
      if digits ≠ [] ∧ digits.all Char.isDigit then
        some (-(Nat.ofDigitChars 10 digits 0))
      else none
  | digits =>
      if digits ≠ [] ∧ digits.all Char.isDigit then
        some (Nat.ofDigitChars 10 digits 0)
      else none

/-- The digits at the front of a text. -/
def leadingDigits (text : List Char) : Option Nat :=
  match text.takeWhile Char.isDigit with
  | [] => none
  | digits => some (Nat.ofDigitChars 10 digits 0)

def signedDigits : List Char → Option Int
  | '-' :: rest => (leadingDigits rest).map fun value => -Int.ofNat value
  | '+' :: rest => (leadingDigits rest).map Int.ofNat
  | rest => (leadingDigits rest).map Int.ofNat

/-- `Number.parseInt(text, 10)`; `NaN` is `none`. -/
def parseInt (text : String) : Option JsNumber :=
  (signedDigits (text.toList.dropWhile isTrimmed)).map .ofInt

/-! ## Reading variables -/

/-- The variables that are set. -/
abbrev ProcessEnv := String → Option String

inductive ProblemKind where
  | missing
  | notInteger
  deriving DecidableEq, Repr

/-- It never has the value of the variable. -/
structure ConfigProblem where
  name : String
  kind : ProblemKind
  deriving DecidableEq, Repr

/-- What a variable is read as, and the problems on the way. -/
structure EnvReading (α : Type) where
  value : α
  problems : List ConfigProblem := []
  deriving DecidableEq, Repr

namespace EnvReader

def requireString (env : ProcessEnv) (key : String) : EnvReading String :=
  match env key with
  | some value =>
      if trim value = "" then ⟨"", [⟨key, .missing⟩]⟩ else ⟨value, []⟩
  | none => ⟨"", [⟨key, .missing⟩]⟩

def optionalString (env : ProcessEnv) (key : String) (fallback : String := "") :
    String :=
  (env key).getD fallback

def optionalInt (env : ProcessEnv) (key : String) (fallback : Int) :
    EnvReading JsNumber :=
  match env key with
  | none | some "" => ⟨.finite fallback, []⟩
  | some raw =>
      match parseInt raw with
      | some parsed => ⟨parsed, []⟩
      | none => ⟨.finite fallback, [⟨key, .notInteger⟩]⟩

def optionalBool (env : ProcessEnv) (key : String) (fallback : Bool) : Bool :=
  match env key with
  | none | some "" => fallback
  | some raw => decide (raw = "true")

end EnvReader

/-- `text || fallback` -/
def textOr (text fallback : String) : String :=
  if text = "" then fallback else text

/-- `text.replace(/\/+$/, "")` -/
def withoutTrailingSlashes (text : String) : String :=
  String.ofList (text.toList.reverse.dropWhile (· = '/')).reverse

structure Config where
  cloudEventsSource : String
  cloudEventsTypePrefix : String
  defaultIpClientLimit : JsNumber
  actionRetryAttempts : JsNumber
  actionRetryBaseDelayMs : JsNumber
  ipClientDebounceMs : JsNumber
  databaseUrl : String
  redisUrl : String
  logtoEndpoint : String
  logtoAppId : String
  logtoAppSecret : String
  logtoManagementClientId : String
  logtoManagementClientSecret : String
  logtoManagementApiBaseUrl : String
  port : JsNumber
  bindAddress : String
  credentialEncryptionKey : String
  smtpHost : String
  smtpPort : JsNumber
  smtpUser : String
  smtpPassword : String
  smtpSecure : Bool
  notificationFromAddress : String
  appLogLevel : String
  accessLogFilePath : String
  accessLogMaxSizeBytes : JsNumber
  accessLogMaxFiles : JsNumber
  agentPort : JsNumber
  agentPublicUrl : String
  agentSnapshotMaxBytes : JsNumber
  agentSnapshotCoalesceMs : JsNumber
  agentResyncMs : JsNumber
  agentHeartbeatSeconds : JsNumber
  version : String
  deriving DecidableEq, Repr

open EnvReader

/-- The variables that are read with problems, in the order they are read. -/
structure CheckedReadings where
  cloudEventsSource : EnvReading String
  cloudEventsTypePrefix : EnvReading String
  defaultIpClientLimit : EnvReading JsNumber
  actionRetryAttempts : EnvReading JsNumber
  actionRetryBaseDelayMs : EnvReading JsNumber
  ipClientDebounceMs : EnvReading JsNumber
  databaseUrl : EnvReading String
  redisUrl : EnvReading String
  logtoEndpoint : EnvReading String
  port : EnvReading JsNumber
  credentialEncryptionKey : EnvReading String
  smtpPort : EnvReading JsNumber
  accessLogMaxSizeBytes : EnvReading JsNumber
  accessLogMaxFiles : EnvReading JsNumber
  agentPort : EnvReading JsNumber
  agentSnapshotMaxBytes : EnvReading JsNumber
  agentSnapshotCoalesceMs : EnvReading JsNumber
  agentResyncMs : EnvReading JsNumber
  agentHeartbeatSeconds : EnvReading JsNumber

def checkedReadings (env : ProcessEnv) : CheckedReadings where
  cloudEventsSource := requireString env "BACKEND_CLOUDEVENTS_SOURCE"
  cloudEventsTypePrefix := requireString env "BACKEND_CLOUDEVENTS_TYPE_PREFIX"
  defaultIpClientLimit := optionalInt env "BACKEND_DEFAULT_IP_CLIENT_LIMIT" 5
  actionRetryAttempts := optionalInt env "BACKEND_ACTION_RETRY_ATTEMPTS" 5
  actionRetryBaseDelayMs :=
    optionalInt env "BACKEND_ACTION_RETRY_BASE_DELAY_MS" 30000
  ipClientDebounceMs := optionalInt env "BACKEND_IP_CLIENT_DEBOUNCE_MS" 30000
  databaseUrl := requireString env "BACKEND_DATABASE_URL"
  redisUrl := requireString env "BACKEND_REDIS_URL"
  logtoEndpoint := requireString env "BACKEND_LOGTO_ENDPOINT"
  port := optionalInt env "BACKEND_PORT" 8080
  credentialEncryptionKey := requireString env "BACKEND_CREDENTIAL_ENCRYPTION_KEY"
  smtpPort := optionalInt env "BACKEND_SMTP_PORT" 1025
  accessLogMaxSizeBytes :=
    optionalInt env "BACKEND_ACCESS_LOG_MAX_SIZE_BYTES" 10485760
  accessLogMaxFiles := optionalInt env "BACKEND_ACCESS_LOG_MAX_FILES" 5
  agentPort := optionalInt env "BACKEND_AGENT_PORT" 8081
  agentSnapshotMaxBytes :=
    optionalInt env "BACKEND_AGENT_SNAPSHOT_MAX_BYTES" 1048576
  agentSnapshotCoalesceMs :=
    optionalInt env "BACKEND_AGENT_SNAPSHOT_COALESCE_MS" 1000
  agentResyncMs := optionalInt env "BACKEND_AGENT_RESYNC_MS" 900000
  agentHeartbeatSeconds := optionalInt env "BACKEND_AGENT_HEARTBEAT_SECONDS" 30

def CheckedReadings.problems (readings : CheckedReadings) : List ConfigProblem :=
  [readings.cloudEventsSource.problems,
    readings.cloudEventsTypePrefix.problems,
    readings.defaultIpClientLimit.problems,
    readings.actionRetryAttempts.problems,
    readings.actionRetryBaseDelayMs.problems,
    readings.ipClientDebounceMs.problems, readings.databaseUrl.problems,
    readings.redisUrl.problems, readings.logtoEndpoint.problems,
    readings.port.problems, readings.credentialEncryptionKey.problems,
    readings.smtpPort.problems, readings.accessLogMaxSizeBytes.problems,
    readings.accessLogMaxFiles.problems, readings.agentPort.problems,
    readings.agentSnapshotMaxBytes.problems,
    readings.agentSnapshotCoalesceMs.problems, readings.agentResyncMs.problems,
    readings.agentHeartbeatSeconds.problems].flatten

def readConfig (env : ProcessEnv) : Config × List ConfigProblem :=
  let readings := checkedReadings env
  ({ cloudEventsSource := readings.cloudEventsSource.value
     cloudEventsTypePrefix := readings.cloudEventsTypePrefix.value
     defaultIpClientLimit := readings.defaultIpClientLimit.value
     actionRetryAttempts := readings.actionRetryAttempts.value
     actionRetryBaseDelayMs := readings.actionRetryBaseDelayMs.value
     ipClientDebounceMs := readings.ipClientDebounceMs.value
     databaseUrl := readings.databaseUrl.value
     redisUrl := readings.redisUrl.value
     logtoEndpoint := readings.logtoEndpoint.value
     logtoAppId := optionalString env "BACKEND_LOGTO_APP_ID"
     logtoAppSecret := optionalString env "BACKEND_LOGTO_APP_SECRET"
     logtoManagementClientId :=
       optionalString env "BACKEND_LOGTO_MANAGEMENT_CLIENT_ID"
     logtoManagementClientSecret :=
       optionalString env "BACKEND_LOGTO_MANAGEMENT_CLIENT_SECRET"
     logtoManagementApiBaseUrl :=
       optionalString env "BACKEND_LOGTO_MANAGEMENT_API_BASE_URL"
     port := readings.port.value
     bindAddress := textOr
       (trim (optionalString env "BACKEND_BIND_ADDRESS" "0.0.0.0")) "0.0.0.0"
     credentialEncryptionKey := readings.credentialEncryptionKey.value
     smtpHost := optionalString env "BACKEND_SMTP_HOST" "localhost"
     smtpPort := readings.smtpPort.value
     smtpUser := optionalString env "BACKEND_SMTP_USER"
     smtpPassword := optionalString env "BACKEND_SMTP_PASSWORD"
     smtpSecure := optionalBool env "BACKEND_SMTP_SECURE" false
     notificationFromAddress := optionalString env
       "BACKEND_NOTIFICATION_FROM_ADDRESS" "fluxip@localhost"
     appLogLevel := optionalString env "BACKEND_APP_LOG_LEVEL" "info"
     accessLogFilePath :=
       optionalString env "BACKEND_ACCESS_LOG_FILE_PATH" "logs/access.log"
     accessLogMaxSizeBytes := readings.accessLogMaxSizeBytes.value
     accessLogMaxFiles := readings.accessLogMaxFiles.value
     agentPort := readings.agentPort.value
     agentPublicUrl := withoutTrailingSlashes
       (optionalString env "BACKEND_AGENT_PUBLIC_URL")
     agentSnapshotMaxBytes := readings.agentSnapshotMaxBytes.value
     agentSnapshotCoalesceMs := readings.agentSnapshotCoalesceMs.value
     agentResyncMs := readings.agentResyncMs.value
     agentHeartbeatSeconds := readings.agentHeartbeatSeconds.value
     version := textOr (trim (optionalString env "FLUXIP_VERSION" "dev")) "dev" },
   readings.problems)

def collectConfigProblems (env : ProcessEnv) : List ConfigProblem :=
  (readConfig env).2

def loadConfig (env : ProcessEnv) : Except (List ConfigProblem) Config :=
  match readConfig env with
  | (config, []) => .ok config
  | (_, problems) => .error problems

end FluxIP
