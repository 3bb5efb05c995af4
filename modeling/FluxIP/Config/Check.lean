import FluxIP.Config.Env

/-!
# The configuration check

Everything that is wrong with the variables is reported at once, without their
values.  `newUrl` is the parser of URLs: it gives the protocol of what it takes.
-/

namespace FluxIP

inductive FindingLevel where
  | error
  | warning
  deriving DecidableEq, Repr

structure ConfigFinding where
  name : String
  level : FindingLevel
  reason : String
  feature : Option String := none
  deriving DecidableEq, Repr

structure IntegerRange where
  min : Int
  max : Option Int := none
  deriving DecidableEq, Repr

def INTEGERS : List (String × IntegerRange) :=
  [("BACKEND_DEFAULT_IP_CLIENT_LIMIT", { min := 0 }),
    ("BACKEND_ACTION_RETRY_ATTEMPTS", { min := 0 }),
    ("BACKEND_ACTION_RETRY_BASE_DELAY_MS", { min := 0 }),
    ("BACKEND_IP_CLIENT_DEBOUNCE_MS", { min := 0 }),
    ("BACKEND_PORT", { min := 1, max := some 65535 }),
    ("BACKEND_SMTP_PORT", { min := 1, max := some 65535 }),
    ("BACKEND_ACCESS_LOG_MAX_SIZE_BYTES", { min := 0 }),
    ("BACKEND_ACCESS_LOG_MAX_FILES", { min := 0 }),
    ("BACKEND_AGENT_PORT", { min := 1, max := some 65535 }),
    ("BACKEND_AGENT_SNAPSHOT_MAX_BYTES", { min := 0 }),
    ("BACKEND_AGENT_SNAPSHOT_COALESCE_MS", { min := 0 }),
    ("BACKEND_AGENT_RESYNC_MS", { min := 0 }),
    ("BACKEND_AGENT_HEARTBEAT_SECONDS", { min := 0 })]

structure UrlRule where
  protocols : List String
  required : Bool
  deriving DecidableEq, Repr

def URLS : List (String × UrlRule) :=
  [("BACKEND_DATABASE_URL", ⟨["postgres:", "postgresql:"], true⟩),
    ("BACKEND_REDIS_URL", ⟨["redis:", "rediss:"], true⟩),
    ("BACKEND_LOGTO_ENDPOINT", ⟨["http:", "https:"], true⟩),
    ("BACKEND_LOGTO_MANAGEMENT_API_BASE_URL", ⟨["http:", "https:"], false⟩),
    ("BACKEND_AGENT_PUBLIC_URL", ⟨["http:", "https:"], false⟩)]

def LOG_LEVELS : List String :=
  ["trace", "debug", "info", "warning", "error", "fatal"]

def isBlank : Option String → Bool
  | none => true
  | some value => decide (trim value = "")

/-! ## The checks of values -/

namespace IntegerRange

def admits (range : IntegerRange) (number : JsNumber) : Bool :=
  number.atLeast range.min && range.max.all fun max => number.atMost max

def reason (range : IntegerRange) : String :=
  match range.max with
  | none => "must be at least " ++ toString range.min
  | some max =>
      "must be between " ++ toString range.min ++ " and " ++ toString max

end IntegerRange

def integerProblem (range : IntegerRange) (text : String) : Option String :=
  match integerOf text.toList with
  | none => some "not an integer"
  | some value =>
      if range.admits (.ofInt value) then none else some range.reason

def isKeyChar (char : Char) : Bool :=
  char.isAlphanum || char = '+' || char = '/'

/-- `/^[A-Za-z0-9+/]+={0,2}$/`, and three bytes for every four characters. -/
def isValidKey (value : String) : Bool :=
  let chars := value.toList.takeWhile isKeyChar
  let padding := value.toList.dropWhile isKeyChar
  decide (chars ≠ []) && padding.all (· = '=') && decide (padding.length ≤ 2) &&
    decide (chars.length * 3 / 4 = 32)

def keyProblem (text : String) : Option String :=
  if isValidKey text then none
  else some
    "not a base64-encoded 32-byte key (generate one with: openssl rand -base64 32)"

/-- `p.slice(0, -1)` -/
def scheme (protocol : String) : String :=
  String.ofList protocol.toList.dropLast

def urlProblem (newUrl : String → Option String) (value : String)
    (protocols : List String) : Option String :=
  match newUrl value with
  | some protocol =>
      if protocol ∈ protocols then none
      else some ("unexpected scheme (expected " ++
        " or ".intercalate (protocols.map scheme) ++ ")")
  | none => some "not a valid URL"

def memberProblem (members : List String) (reason text : String) :
    Option String :=
  if text ∈ members then none else some reason

/-! ## The check -/

/-- A name that has an error is not looked at again. -/
def failed (errors : List ConfigFinding) (name : String) : Bool :=
  errors.any (·.name = name)

def errorOf (name : String) (reason : Option String) : List ConfigFinding :=
  reason.toList.map fun reason => { name, level := .error, reason }

def problemFindings (env : ProcessEnv) : List ConfigFinding :=
  (collectConfigProblems env).map fun problem =>
    { name := problem.name
      level := .error
      reason := match problem.kind with
        | .missing => "missing"
        | .notInteger => "not an integer" }

def unlessFailed (errors : List ConfigFinding) (name : String)
    (findings : List ConfigFinding) : List ConfigFinding :=
  if failed errors name then [] else findings

/-- The error of a variable that has a text. -/
def textError (env : ProcessEnv) (name : String)
    (problem : String → Option String) : List ConfigFinding :=
  if isBlank (env name) then []
  else errorOf name ((env name).bind fun value => problem (trim value))

def integerErrors (env : ProcessEnv) (errors : List ConfigFinding) :
    String × IntegerRange → List ConfigFinding
  | (name, range) =>
      unlessFailed errors name (textError env name (integerProblem range))

/-- A required variable that is blank has an error already. -/
def urlErrors (newUrl : String → Option String) (env : ProcessEnv)
    (errors : List ConfigFinding) : String × UrlRule → List ConfigFinding
  | (name, rule) =>
      unlessFailed errors name
        (if isBlank (env name) && !rule.required then []
        else errorOf name
          (urlProblem newUrl (trim ((env name).getD "")) rule.protocols))

/-- Errors are added entry by entry. -/
def addErrors {α : Type} (entries : List α)
    (check : List ConfigFinding → α → List ConfigFinding)
    (errors : List ConfigFinding) : List ConfigFinding :=
  entries.foldl (fun errors entry => errors ++ check errors entry) errors

def keyErrors (env : ProcessEnv) (errors : List ConfigFinding) :
    List ConfigFinding :=
  unlessFailed errors "BACKEND_CREDENTIAL_ENCRYPTION_KEY"
    (textError env "BACKEND_CREDENTIAL_ENCRYPTION_KEY" keyProblem)

def secureErrors (env : ProcessEnv) : List ConfigFinding :=
  textError env "BACKEND_SMTP_SECURE"
    (memberProblem ["true", "false"] "must be true or false")

def levelErrors (env : ProcessEnv) : List ConfigFinding :=
  textError env "BACKEND_APP_LOG_LEVEL" (memberProblem LOG_LEVELS
    ("must be one of " ++ ", ".intercalate LOG_LEVELS))

def checkErrors (newUrl : String → Option String) (env : ProcessEnv) :
    List ConfigFinding :=
  let errors := addErrors URLS (urlErrors newUrl env)
    (addErrors INTEGERS (integerErrors env) (problemFindings env))
  errors ++ keyErrors env errors ++ secureErrors env ++ levelErrors env

/-- The texts are compared with ASCII ones, so only ASCII letters matter. -/
def toLowerCase (text : String) : String :=
  String.ofList (text.toList.map Char.toLower)

def warningOf (name reason feature : String) (warned : Bool) :
    List ConfigFinding :=
  if warned then [{ name, level := .warning, reason, feature := some feature }]
  else []

def isLocalhost (value : Option String) : Bool :=
  isBlank value || value.any fun text =>
    decide (toLowerCase (trim text) = "localhost")

def isLocalAddress (value : Option String) : Bool :=
  isBlank value || value.any fun text =>
    ("@localhost".toList).isSuffixOf (toLowerCase (trim text)).toList

def checkWarnings (env : ProcessEnv) : List ConfigFinding :=
  warningOf "BACKEND_SMTP_HOST" "empty or localhost (development default)"
    "email notifications" (isLocalhost (env "BACKEND_SMTP_HOST")) ++
  warningOf "BACKEND_NOTIFICATION_FROM_ADDRESS"
    "empty or @localhost (development default)" "email notifications"
    (isLocalAddress (env "BACKEND_NOTIFICATION_FROM_ADDRESS")) ++
  ["BACKEND_LOGTO_MANAGEMENT_CLIENT_ID",
    "BACKEND_LOGTO_MANAGEMENT_CLIENT_SECRET",
    "BACKEND_LOGTO_MANAGEMENT_API_BASE_URL"].flatMap (fun name =>
      warningOf name "empty" "changing the password in the app"
        (isBlank (env name))) ++
  warningOf "BACKEND_AGENT_PUBLIC_URL" "empty" "creating Traefik agents"
    (isBlank (env "BACKEND_AGENT_PUBLIC_URL"))

def checkConfig (newUrl : String → Option String) (env : ProcessEnv) :
    List ConfigFinding :=
  checkErrors newUrl env ++ checkWarnings env

end FluxIP
