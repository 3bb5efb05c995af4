import FluxIP.Config.Check
import Mathlib.Data.List.TakeWhile

/-!
# What the check accepts and what is read

A configuration without errors can be loaded, and its integers are read as the
numbers that were checked.  Other values are read as they are, the check looks
at them without the white space around them.
-/

namespace FluxIP

/-! ## White space around an integer -/

theorem not_isDigit_of_isTrimmed {char : Char} (space : isTrimmed char) :
    char.isDigit = false := by
  unfold isTrimmed at space
  rw [Bool.eq_false_iff]
  intro digit
  have bounds : 48 ≤ char.toNat ∧ char.toNat ≤ 57 := by
    unfold Char.isDigit at digit
    rw [Bool.and_eq_true, decide_eq_true_eq, decide_eq_true_eq] at digit
    exact digit
  simp only [List.mem_cons, List.not_mem_nil, or_false, decide_eq_true_eq] at space
  omega

/-- Without the white space in front, a text is its trimmed text and white
space. -/
theorem dropWhile_trim (text : String) : ∃ after : List Char,
    text.toList.dropWhile isTrimmed = (trim text).toList ++ after ∧
      ∀ char ∈ after, isTrimmed char := by
  unfold trim
  rw [String.toList_ofList]
  refine ⟨((text.toList.dropWhile isTrimmed).reverse.takeWhile isTrimmed).reverse,
    ?_, fun char member => ?_⟩
  · rw [← List.reverse_append, List.takeWhile_append_dropWhile,
      List.reverse_reverse]
  · exact List.mem_takeWhile_imp (List.mem_reverse.mp member)

theorem leadingDigits_append {digits after : List Char} (some' : digits ≠ [])
    (all : digits.all Char.isDigit) (spaces : ∀ char ∈ after, isTrimmed char) :
    leadingDigits (digits ++ after) = some (Nat.ofDigitChars 10 digits 0) := by
  have none : after.takeWhile Char.isDigit = [] := by
    cases after with
    | nil => rfl
    | cons char after =>
        have space := spaces char List.mem_cons_self
        rw [List.takeWhile_cons, not_isDigit_of_isTrimmed space]
        rfl
  unfold leadingDigits
  rw [List.takeWhile_append_of_pos (List.all_eq_true.mp all), none,
    List.append_nil]
  cases digits with
  | nil => exact absurd rfl some'
  | cons char digits => rfl

/-- A sign is no digit. -/
theorem digits_head {digits after rest : List Char} {sign : Char}
    (some' : digits ≠ []) (all : digits.all Char.isDigit)
    (same : digits ++ after = sign :: rest) : sign.isDigit := by
  cases digits with
  | nil => exact absurd rfl some'
  | cons char digits =>
      cases same
      exact List.all_eq_true.mp all sign List.mem_cons_self

theorem signedDigits_append {core after : List Char} {value : Int}
    (written : integerOf core = some value)
    (spaces : ∀ char ∈ after, isTrimmed char) :
    signedDigits (core ++ after) = some value := by
  unfold integerOf at written
  split at written
  · split at written
    · rename_i digits isInteger
      cases written
      change (leadingDigits (digits ++ after)).map (fun value => -Int.ofNat value) = _
      rw [leadingDigits_append isInteger.1 isInteger.2 spaces]
      rfl
    · cases written
  · split at written
    · rename_i isInteger
      cases written
      have read := leadingDigits_append isInteger.1 isInteger.2 spaces
      unfold signedDigits
      split
      · rename_i same
        cases digits_head isInteger.1 isInteger.2 same
      · rename_i same
        cases digits_head isInteger.1 isInteger.2 same
      · rw [read]
        rfl
    · cases written

/-- The number of a trimmed integer is what `parseInt` reads. -/
theorem parseInt_of_integerOf {text : String} {value : Int}
    (written : integerOf (trim text).toList = some value) :
    parseInt text = some (.ofInt value) := by
  obtain ⟨after, parts, spaces⟩ := dropWhile_trim text
  unfold parseInt
  rw [parts, signedDigits_append written spaces]
  rfl

/-! ## A check without errors -/

theorem addErrors_eq_nil {α : Type} {entries : List α}
    {check : List ConfigFinding → α → List ConfigFinding}
    {errors : List ConfigFinding} (none : addErrors entries check errors = []) :
    errors = [] ∧ ∀ entry ∈ entries, check [] entry = [] := by
  induction entries generalizing errors with
  | nil => exact ⟨none, fun _ member => by cases member⟩
  | cons entry entries ih =>
      obtain ⟨grown, rest⟩ := ih none
      obtain ⟨rfl, first⟩ := List.append_eq_nil_iff.mp grown
      exact ⟨rfl, List.forall_mem_cons.mpr ⟨first, rest⟩⟩

/-- All findings of a list are errors. -/
def AllErrors (findings : List ConfigFinding) : Prop :=
  ∀ finding ∈ findings, finding.level = .error

theorem AllErrors.append {first second : List ConfigFinding}
    (left : AllErrors first) (right : AllErrors second) :
    AllErrors (first ++ second) :=
  List.forall_mem_append.mpr ⟨left, right⟩

theorem allErrors_errorOf {name : String} {reason : Option String} :
    AllErrors (errorOf name reason) := by
  intro finding member
  obtain ⟨reason, -, rfl⟩ := List.mem_map.mp member
  rfl

theorem allErrors_unlessFailed {errors findings : List ConfigFinding}
    {name : String} (all : AllErrors findings) :
    AllErrors (unlessFailed errors name findings) := by
  unfold unlessFailed
  split
  · exact fun _ member => by cases member
  · exact all

theorem allErrors_textError {env : ProcessEnv} {name : String}
    {problem : String → Option String} : AllErrors (textError env name problem) := by
  unfold textError
  split
  · exact fun _ member => by cases member
  · exact allErrors_errorOf

theorem AllErrors.add {α : Type} {entries : List α}
    {check : List ConfigFinding → α → List ConfigFinding}
    {errors : List ConfigFinding} (all : AllErrors errors)
    (checks : ∀ errors entry, AllErrors (check errors entry)) :
    AllErrors (addErrors entries check errors) := by
  induction entries generalizing errors with
  | nil => exact all
  | cons entry entries ih => exact ih (all.append (checks errors entry))

theorem allErrors_checkErrors {newUrl : String → Option String}
    {env : ProcessEnv} : AllErrors (checkErrors newUrl env) := by
  have problems : AllErrors (problemFindings env) := by
    intro finding member
    obtain ⟨problem, -, rfl⟩ := List.mem_map.mp member
    rfl
  have integers : AllErrors (addErrors INTEGERS (integerErrors env)
      (problemFindings env)) :=
    problems.add fun _ _ => allErrors_unlessFailed allErrors_textError
  have urls : AllErrors (addErrors URLS (urlErrors newUrl env)
      (addErrors INTEGERS (integerErrors env) (problemFindings env))) := by
    refine integers.add fun errors entry => allErrors_unlessFailed ?_
    split
    · exact fun _ member => by cases member
    · exact allErrors_errorOf
  exact ((urls.append (allErrors_unlessFailed allErrors_textError)).append
    allErrors_textError).append allErrors_textError

/-- The check reports no error. -/
def Accepted (newUrl : String → Option String) (env : ProcessEnv) : Prop :=
  ∀ finding ∈ checkConfig newUrl env, finding.level ≠ .error

/-- What the check has found out when it reports no error. -/
structure Passed (newUrl : String → Option String) (env : ProcessEnv) : Prop where
  problems : collectConfigProblems env = []
  integers : ∀ entry ∈ INTEGERS, integerErrors env [] entry = []
  urls : ∀ entry ∈ URLS, urlErrors newUrl env [] entry = []
  key : keyErrors env [] = []
  secure : secureErrors env = []
  level : levelErrors env = []

theorem Accepted.passed {newUrl : String → Option String} {env : ProcessEnv}
    (accepted : Accepted newUrl env) : Passed newUrl env := by
  have none : checkErrors newUrl env = [] := by
    apply List.eq_nil_iff_forall_not_mem.mpr
    intro finding member
    exact accepted finding (List.mem_append_left _ member)
      (allErrors_checkErrors finding member)
  simp only [checkErrors, List.append_eq_nil_iff] at none
  obtain ⟨⟨⟨noErrors, key⟩, secure⟩, level⟩ := none
  rw [noErrors] at key
  obtain ⟨noErrors, urls⟩ := addErrors_eq_nil noErrors
  obtain ⟨noErrors, integers⟩ := addErrors_eq_nil noErrors
  unfold problemFindings at noErrors
  rw [List.map_eq_nil_iff] at noErrors
  exact ⟨noErrors, integers, urls, key, secure, level⟩

/-! ## What is read of a checked variable -/

theorem errorOf_eq_nil {name : String} {reason : Option String}
    (none : errorOf name reason = []) : reason = Option.none := by
  cases reason with
  | none => rfl
  | some reason => cases none

/-- A text that has no error has passed its check. -/
theorem textError_eq_nil {env : ProcessEnv} {name value : String}
    {problem : String → Option String}
    (noError : textError env name problem = []) (isSet : env name = some value)
    (text : isBlank (some value) = false) : problem (trim value) = none := by
  unfold textError at noError
  rw [isSet, text] at noError
  exact errorOf_eq_nil noError

theorem memberProblem_eq_none {members : List String} {reason text : String}
    (none : memberProblem members reason text = Option.none) : text ∈ members := by
  unfold memberProblem at none
  split at none
  · assumption
  · cases none

theorem integerProblem_eq_none {range : IntegerRange} {text : String}
    (none : integerProblem range text = Option.none) :
    ∃ value, integerOf text.toList = some value ∧
      range.admits (.ofInt value) = true := by
  unfold integerProblem at none
  split at none
  · cases none
  · rename_i value written
    split at none
    · rename_i admitted
      exact ⟨value, written, admitted⟩
    · cases none

theorem ne_empty_of_text {value : String} (text : isBlank (some value) = false) :
    value ≠ "" := by
  rintro rfl
  unfold isBlank trim at text
  cases text

/-- A checked integer is read as its number. -/
theorem optionalInt_of_integer {env : ProcessEnv} {name value : String}
    {fallback number : Int} (isSet : env name = some value)
    (text : isBlank (some value) = false)
    (written : integerOf (trim value).toList = some number) :
    (EnvReader.optionalInt env name fallback).value = .ofInt number := by
  unfold EnvReader.optionalInt
  rw [isSet]
  split
  · rename_i unset
    cases unset
  · rename_i empty
    cases empty
    exact absurd rfl (ne_empty_of_text text)
  · rename_i same
    cases same
    rw [parseInt_of_integerOf written]

theorem requireString_of_text {env : ProcessEnv} {name value : String}
    (isSet : env name = some value) (text : isBlank (some value) = false) :
    (EnvReader.requireString env name).value = value := by
  unfold EnvReader.requireString
  rw [isSet]
  have notBlank : trim value ≠ "" := of_decide_eq_false text
  change (if trim value = "" then _ else _ : EnvReading String).value = value
  rw [if_neg notBlank]

theorem loadConfig_of_problems {env : ProcessEnv}
    (none : collectConfigProblems env = []) :
    loadConfig env = .ok (readConfig env).1 := by
  unfold collectConfigProblems at none
  unfold loadConfig
  generalize readConfig env = read at none
  obtain ⟨config, problems⟩ := read
  cases none
  rfl

/-- The integers of the configuration under the names of their variables. -/
def Config.integers (config : Config) : List (String × JsNumber) :=
  [("BACKEND_DEFAULT_IP_CLIENT_LIMIT", config.defaultIpClientLimit),
    ("BACKEND_ACTION_RETRY_ATTEMPTS", config.actionRetryAttempts),
    ("BACKEND_ACTION_RETRY_BASE_DELAY_MS", config.actionRetryBaseDelayMs),
    ("BACKEND_IP_CLIENT_DEBOUNCE_MS", config.ipClientDebounceMs),
    ("BACKEND_PORT", config.port),
    ("BACKEND_SMTP_PORT", config.smtpPort),
    ("BACKEND_ACCESS_LOG_MAX_SIZE_BYTES", config.accessLogMaxSizeBytes),
    ("BACKEND_ACCESS_LOG_MAX_FILES", config.accessLogMaxFiles),
    ("BACKEND_AGENT_PORT", config.agentPort),
    ("BACKEND_AGENT_SNAPSHOT_MAX_BYTES", config.agentSnapshotMaxBytes),
    ("BACKEND_AGENT_SNAPSHOT_COALESCE_MS", config.agentSnapshotCoalesceMs),
    ("BACKEND_AGENT_RESYNC_MS", config.agentResyncMs),
    ("BACKEND_AGENT_HEARTBEAT_SECONDS", config.agentHeartbeatSeconds)]

/-- The URLs of the configuration under the names of their variables. -/
def Config.urls (config : Config) : List (String × String) :=
  [("BACKEND_DATABASE_URL", config.databaseUrl),
    ("BACKEND_REDIS_URL", config.redisUrl),
    ("BACKEND_LOGTO_ENDPOINT", config.logtoEndpoint),
    ("BACKEND_LOGTO_MANAGEMENT_API_BASE_URL",
      config.logtoManagementApiBaseUrl),
    ("BACKEND_AGENT_PUBLIC_URL", config.agentPublicUrl)]

/-- Every checked integer has its field. -/
theorem integers_names (config : Config) :
    config.integers.map Prod.fst = INTEGERS.map Prod.fst := rfl

theorem urls_names (config : Config) :
    config.urls.map Prod.fst = URLS.map Prod.fst := rfl

theorem readConfig_integers (env : ProcessEnv) :
    ∀ entry ∈ (readConfig env).1.integers, ∃ fallback,
      entry.2 = (EnvReader.optionalInt env entry.1 fallback).value := by
  unfold Config.integers
  simp only [List.forall_mem_cons]
  exact ⟨⟨_, rfl⟩, ⟨_, rfl⟩, ⟨_, rfl⟩, ⟨_, rfl⟩, ⟨_, rfl⟩, ⟨_, rfl⟩, ⟨_, rfl⟩,
    ⟨_, rfl⟩, ⟨_, rfl⟩, ⟨_, rfl⟩, ⟨_, rfl⟩, ⟨_, rfl⟩, ⟨_, rfl⟩,
    fun _ member => (by cases member)⟩

/-- A URL is read as it is; the one of the agents loses its last slashes. -/
def urlRead (name value : String) : String :=
  if name = "BACKEND_AGENT_PUBLIC_URL" then withoutTrailingSlashes value
  else value

theorem readConfig_urls {env : ProcessEnv} {value : String} :
    ∀ entry ∈ (readConfig env).1.urls, env entry.1 = some value →
      isBlank (some value) = false → entry.2 = urlRead entry.1 value := by
  unfold Config.urls
  simp only [List.forall_mem_cons]
  refine ⟨?_, ?_, ?_, ?_, ?_, fun _ member => (by cases member)⟩
  · exact fun isSet text => requireString_of_text isSet text
  · exact fun isSet text => requireString_of_text isSet text
  · exact fun isSet text => requireString_of_text isSet text
  · intro isSet _
    change (env "BACKEND_LOGTO_MANAGEMENT_API_BASE_URL").getD "" = _
    rw [isSet]
    rfl
  · intro isSet _
    change withoutTrailingSlashes ((env "BACKEND_AGENT_PUBLIC_URL").getD "") = _
    rw [isSet]
    rfl

/-- The variable has no white space around its text. -/
def Unpadded (env : ProcessEnv) (name : String) : Prop :=
  ∀ value, env name = some value → trim value = value

theorem requireString_of_problems {env : ProcessEnv} {name : String}
    (none : (EnvReader.requireString env name).problems = []) :
    env name = some (EnvReader.requireString env name).value ∧
      trim (EnvReader.requireString env name).value ≠ "" := by
  unfold EnvReader.requireString at none ⊢
  cases isSet : env name with
  | none =>
      rw [isSet] at none
      cases none
  | some value =>
      rw [isSet] at none
      change (if trim value = "" then _ else _ : EnvReading String).problems = [] at none
      change some value = some (if trim value = "" then _ else _ :
        EnvReading String).value ∧ trim (if trim value = "" then _ else _ :
          EnvReading String).value ≠ ""
      by_cases blank : trim value = ""
      · rw [if_pos blank] at none
        cases none
      · rw [if_neg blank]
        exact ⟨rfl, blank⟩

/-- The strings that must be set are read as they are, and are not blank. -/
theorem Passed.required {newUrl : String → Option String} {env : ProcessEnv}
    (passed : Passed newUrl env) :
    (env "BACKEND_CLOUDEVENTS_SOURCE" =
        some (readConfig env).1.cloudEventsSource ∧
      trim (readConfig env).1.cloudEventsSource ≠ "") ∧
    (env "BACKEND_CLOUDEVENTS_TYPE_PREFIX" =
        some (readConfig env).1.cloudEventsTypePrefix ∧
      trim (readConfig env).1.cloudEventsTypePrefix ≠ "") ∧
    env "BACKEND_CREDENTIAL_ENCRYPTION_KEY" =
        some (readConfig env).1.credentialEncryptionKey ∧
      trim (readConfig env).1.credentialEncryptionKey ≠ "" := by
  have problems : (checkedReadings env).problems = [] := passed.problems
  unfold CheckedReadings.problems at problems
  simp only [List.flatten_eq_nil_iff, List.forall_mem_cons] at problems
  obtain ⟨source, typePrefix, -, -, -, -, -, -, -, -, key, -⟩ := problems
  exact ⟨requireString_of_problems source, requireString_of_problems typePrefix,
    requireString_of_problems key⟩

theorem Passed.key_valid {newUrl : String → Option String} {env : ProcessEnv}
    (passed : Passed newUrl env) {value : String}
    (isSet : env "BACKEND_CREDENTIAL_ENCRYPTION_KEY" = some value)
    (text : isBlank (some value) = false) : isValidKey (trim value) = true := by
  have noError : textError env "BACKEND_CREDENTIAL_ENCRYPTION_KEY" keyProblem =
      [] := passed.key
  have valid := textError_eq_nil noError isSet text
  unfold keyProblem at valid
  split at valid
  · assumption
  · cases valid

theorem Passed.integer {newUrl : String → Option String} {env : ProcessEnv}
    (passed : Passed newUrl env) {name value : String} {number : JsNumber}
    {range : IntegerRange} (read : (name, number) ∈ (readConfig env).1.integers)
    (checked : (name, range) ∈ INTEGERS) (isSet : env name = some value)
    (text : isBlank (some value) = false) :
    ∃ written, integerOf (trim value).toList = some written ∧
      number = .ofInt written ∧ range.admits number = true := by
  have noError : textError env name (integerProblem range) = [] :=
    passed.integers _ checked
  obtain ⟨written, isInteger, admitted⟩ :=
    integerProblem_eq_none (textError_eq_nil noError isSet text)
  obtain ⟨fallback, same⟩ := readConfig_integers env _ read
  have number_eq : number = .ofInt written :=
    same.trans (optionalInt_of_integer isSet text isInteger)
  exact ⟨written, isInteger, number_eq, number_eq ▸ admitted⟩

theorem Passed.url {newUrl : String → Option String} {env : ProcessEnv}
    (passed : Passed newUrl env) {name value : String} {rule : UrlRule}
    (checked : (name, rule) ∈ URLS) (isSet : env name = some value)
    (text : isBlank (some value) = false) :
    ∃ protocol ∈ rule.protocols, newUrl (trim value) = some protocol := by
  have noError : (if isBlank (env name) && !rule.required then []
      else errorOf name (urlProblem newUrl (trim ((env name).getD ""))
        rule.protocols)) = [] := passed.urls _ checked
  rw [isSet, text] at noError
  have none : urlProblem newUrl (trim value) rule.protocols = none :=
    errorOf_eq_nil noError
  unfold urlProblem at none
  split at none
  · rename_i protocol parsed
    split at none
    · rename_i allowed
      exact ⟨protocol, allowed, parsed⟩
    · cases none
  · cases none

theorem smtpSecure_of_unpadded {env : ProcessEnv}
    (unpadded : Unpadded env "BACKEND_SMTP_SECURE") :
    (readConfig env).1.smtpSecure = true ↔
      ∃ value, env "BACKEND_SMTP_SECURE" = some value ∧ trim value = "true" := by
  change EnvReader.optionalBool env "BACKEND_SMTP_SECURE" false = true ↔ _
  unfold EnvReader.optionalBool
  split
  · rename_i unset
    refine ⟨fun no => (by cases no), ?_⟩
    rintro ⟨value, isSet, -⟩
    cases unset.symm.trans isSet
  · rename_i empty
    refine ⟨fun no => (by cases no), ?_⟩
    rintro ⟨value, isSet, secure⟩
    have trimmed := unpadded value isSet
    cases empty.symm.trans isSet
    exact absurd (trimmed.symm.trans secure) (by decide)
  · rename_i raw _ isSet
    rw [decide_eq_true_eq]
    constructor
    · rintro rfl
      exact ⟨"true", isSet, unpadded _ isSet⟩
    · rintro ⟨value, same, secure⟩
      cases isSet.symm.trans same
      exact (unpadded _ isSet).symm.trans secure

theorem Passed.appLogLevel {newUrl : String → Option String} {env : ProcessEnv}
    (passed : Passed newUrl env)
    (unpadded : Unpadded env "BACKEND_APP_LOG_LEVEL")
    (text : env "BACKEND_APP_LOG_LEVEL" ≠ some "") :
    (readConfig env).1.appLogLevel ∈ LOG_LEVELS ∧
      ∀ value, env "BACKEND_APP_LOG_LEVEL" = some value →
        (readConfig env).1.appLogLevel = trim value := by
  change (env "BACKEND_APP_LOG_LEVEL").getD "info" ∈ LOG_LEVELS ∧
    ∀ value, env "BACKEND_APP_LOG_LEVEL" = some value →
      (env "BACKEND_APP_LOG_LEVEL").getD "info" = trim value
  cases isSet : env "BACKEND_APP_LOG_LEVEL" with
  | none => exact ⟨by decide, fun _ other => by cases other⟩
  | some value =>
      have trimmed := unpadded value isSet
      have notBlank : isBlank (some value) = false := by
        refine decide_eq_false fun blank => text ?_
        rw [isSet, ← trimmed, blank]
      have member : trim value ∈ LOG_LEVELS :=
        memberProblem_eq_none (textError_eq_nil passed.level isSet notBlank)
      rw [trimmed] at member
      refine ⟨member, fun other same => ?_⟩
      cases same
      exact trimmed.symm

/-- A configuration that is checked without errors is loaded.  Each checked
integer that is set is read as the number of its trimmed text, in its range;
what is without white space around it is read as the text that passed: whether
mail is sent securely, the log level, the key and the URLs, the agents' one
without its last slashes. -/
theorem checked_config_is_read (newUrl : String → Option String)
    (env : ProcessEnv) (accepted : Accepted newUrl env) :
    ∃ config, loadConfig env = .ok config ∧
      (∀ name number range value, (name, number) ∈ config.integers →
        (name, range) ∈ INTEGERS → env name = some value →
        isBlank (some value) = false →
        ∃ written, integerOf (trim value).toList = some written ∧
          number = .ofInt written ∧ range.admits number = true) ∧
      (Unpadded env "BACKEND_SMTP_SECURE" → (config.smtpSecure = true ↔
        ∃ value, env "BACKEND_SMTP_SECURE" = some value ∧
          trim value = "true")) ∧
      (Unpadded env "BACKEND_APP_LOG_LEVEL" →
        env "BACKEND_APP_LOG_LEVEL" ≠ some "" →
        config.appLogLevel ∈ LOG_LEVELS ∧
          ∀ value, env "BACKEND_APP_LOG_LEVEL" = some value →
            config.appLogLevel = trim value) ∧
      (∀ name read rule value, (name, read) ∈ config.urls →
        (name, rule) ∈ URLS → env name = some value →
        isBlank (some value) = false →
        (∃ protocol ∈ rule.protocols, newUrl (trim value) = some protocol) ∧
          (Unpadded env name → read = urlRead name (trim value))) ∧
      env "BACKEND_CLOUDEVENTS_SOURCE" = some config.cloudEventsSource ∧
      env "BACKEND_CLOUDEVENTS_TYPE_PREFIX" =
        some config.cloudEventsTypePrefix ∧
      ∃ key, env "BACKEND_CREDENTIAL_ENCRYPTION_KEY" = some key ∧
        isValidKey (trim key) = true ∧
        (Unpadded env "BACKEND_CREDENTIAL_ENCRYPTION_KEY" →
          config.credentialEncryptionKey = trim key) := by
  have passed := accepted.passed
  obtain ⟨source, typePrefix, key⟩ := passed.required
  refine ⟨(readConfig env).1, loadConfig_of_problems passed.problems,
    fun name number range value => passed.integer, smtpSecure_of_unpadded,
    passed.appLogLevel, ?_, source.1, typePrefix.1, _, key.1,
    passed.key_valid key.1 (decide_eq_false key.2),
    fun unpadded => (unpadded _ key.1).symm⟩
  intro name read rule value isRead checked isSet text
  refine ⟨passed.url checked isSet text, fun unpadded => ?_⟩
  rw [unpadded value isSet]
  exact readConfig_urls _ isRead isSet text

/-! ## An example -/

/-- The protocol of the URLs in the example. -/
def exampleUrl (text : String) : Option String :=
  ["postgres:", "postgresql:", "redis:", "rediss:", "http:", "https:"].find?
    fun protocol => (protocol ++ "//").toList.isPrefixOf text.toList

def exampleEnv (changed : List (String × String)) : ProcessEnv := fun name =>
  (changed ++ [("BACKEND_CLOUDEVENTS_SOURCE", "https://fluxip.example.com"),
    ("BACKEND_CLOUDEVENTS_TYPE_PREFIX", "space.example.fluxip"),
    ("BACKEND_DATABASE_URL", "postgresql://db.example.com:5432/fluxip"),
    ("BACKEND_REDIS_URL", "redis://redis.example.com:6379"),
    ("BACKEND_LOGTO_ENDPOINT", "https://auth.example.com"),
    ("BACKEND_CREDENTIAL_ENCRYPTION_KEY",
      "BwcHBwcHBwcHBwcHBwcHBwcHBwcHBwcHBwcHBwcHBwc="),
    ("BACKEND_PORT", " 8090 ")]).lookup name

theorem checked_config_is_read_port : ∃ config,
    loadConfig (exampleEnv []) = .ok config ∧ config.port = .finite 8090 := by
  have accepted : Accepted exampleUrl (exampleEnv []) := by
    unfold Accepted
    decide +kernel
  obtain ⟨config, loaded, integers, -⟩ :=
    checked_config_is_read exampleUrl (exampleEnv []) accepted
  refine ⟨config, loaded, ?_⟩
  obtain ⟨written, text, number, -⟩ := integers "BACKEND_PORT" config.port
    ⟨1, some 65535⟩ " 8090 " (by simp [Config.integers]) (by decide) rfl (by decide +kernel)
  have isNumber : integerOf (trim " 8090 ").toList = some 8090 := by decide +kernel
  cases isNumber.symm.trans text
  exact number.trans (by decide +kernel)

/-- The agents' URL loses its last slash. -/
theorem last_slash_not_read :
    ¬ ∀ (newUrl : String → Option String) (env : ProcessEnv),
      Accepted newUrl env → ∃ config, loadConfig env = .ok config ∧
        ∀ name read rule value, (name, read) ∈ config.urls →
          (name, rule) ∈ URLS → env name = some value →
          isBlank (some value) = false → read = trim value := by
  intro always
  let env := exampleEnv [("BACKEND_AGENT_PUBLIC_URL", "https://agents.example.com/")]
  have accepted : Accepted exampleUrl env := by
    unfold Accepted
    decide +kernel
  obtain ⟨config, loaded, urls⟩ := always exampleUrl env accepted
  have read := urls "BACKEND_AGENT_PUBLIC_URL" config.agentPublicUrl
    ⟨["http:", "https:"], false⟩ "https://agents.example.com/"
    (by simp [Config.urls]) (by decide) rfl (by decide +kernel)
  have config_eq : (loadConfig env).map (·.agentPublicUrl) =
      .ok "https://agents.example.com" := by decide +kernel
  rw [loaded] at config_eq
  have stripped : config.agentPublicUrl = "https://agents.example.com" :=
    Except.ok.inj config_eq
  rw [stripped] at read
  revert read
  decide +kernel

end FluxIP
