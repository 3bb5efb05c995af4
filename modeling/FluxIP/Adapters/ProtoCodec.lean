import FluxIP.Adapters.GrpcAgentServer
import FluxIP.Text.Slices

/-!
# Wire messages of an agent and what is recorded of them

A string is a list of UTF-16 code units once it is decoded, and a slice of it
need not be a text.  The wire has texts.
-/

namespace FluxIP

/-- A string of JavaScript. -/
abbrev JsString := List Nat

/-- What `@grpc/proto-loader` may have put into a field. -/
inductive WireValue where
  | undefined
  | null
  | boolean (value : Bool)
  | number (value : Int)
  | string (value : String)
  | array (items : List WireValue)
  | object (fields : List (String × WireValue))

/-- `value.name`, where `value` is not `null`. -/
def WireValue.field (value : WireValue) (name : String) : WireValue :=
  match value with
  | .object fields => (fields.lookup name).getD .undefined
  | _ => .undefined

/-- `oneofs` puts the name of the set field into `body`. -/
structure WireEnvelope where
  body : Option String
  fields : List (String × WireValue)

def WireEnvelope.field (envelope : WireEnvelope) (name : String) : WireValue :=
  (envelope.fields.lookup name).getD .undefined

/-! ## Decoding -/

namespace ProtoCodec

def MAX_TEXT : Nat := 2000
def MAX_FILES : Nat := 500

def str (value : WireValue) (max : Nat) : JsString :=
  match value with
  | .string text => (Utf16.units text).take max
  | _ => []

def num : WireValue → Nat
  | .number value => value.toNat
  | _ => 0

/-- The items of an array that are looked at. -/
def firstItems : WireValue → List WireValue
  | .array items => items.take MAX_FILES
  | _ => []

end ProtoCodec

structure DecodedFile where
  name : JsString
  sha256 : JsString
  deriving DecidableEq, Repr

structure DecodedCheck where
  status : TraefikCheckStatus
  loaded : List JsString
  missing : List JsString
  deriving DecidableEq, Repr

structure DecodedHello where
  protocolVersion : Nat
  agentVersion : JsString
  maxOfflineSeconds : Nat
  heartbeatSeconds : Nat
  maxSnapshotBytes : Nat
  providerName : JsString
  acceptedVersion : Nat
  deriving DecidableEq, Repr

structure DecodedReport where
  version : Nat
  correlationId : JsString
  result : ReportResult
  error : JsString
  agentVersion : JsString
  stale : Bool
  files : List DecodedFile
  templates : List DecodedFile
  traefikCheck : Option DecodedCheck
  deriving DecidableEq, Repr

inductive DecodedMessage where
  | hello (message : DecodedHello)
  | report (message : DecodedReport)
  | heartbeat (nonce : Nat)
  | syncRequest
  | bye (reason : JsString)
  deriving DecidableEq, Repr

namespace ProtoCodec

def sums (value : WireValue) : List DecodedFile :=
  (firstItems value).map fun item =>
    { name := str (item.field "name") 256
      sha256 := str (item.field "sha256") 64 }

def strings (value : WireValue) : List JsString :=
  (firstItems value).map (str · 256)

def checkStatus : WireValue → Option TraefikCheckStatus
  | .string "STATUS_OK" => some .ok
  | .string "STATUS_MISSING" => some .missing
  | .string "STATUS_UNREACHABLE" => some .unreachable
  | _ => none

def checkFrom (value : WireValue) : Option DecodedCheck :=
  (checkStatus (value.field "status")).map fun status =>
    { status
      loaded := strings (value.field "loaded")
      missing := strings (value.field "missing") }

def reportResult : WireValue → Option ReportResult
  | .string "RESULT_OK" => some .ok
  | .string "RESULT_ERROR" => some .error
  | .string "RESULT_IGNORED_STALE" => some .ignoredStale
  | _ => none

def isTrue : WireValue → Bool
  | .boolean value => value
  | _ => false

def decodeHello (hello : WireValue) : DecodedHello where
  protocolVersion := num (hello.field "protocolVersion")
  agentVersion := str (hello.field "agentVersion") 64
  maxOfflineSeconds := num (hello.field "maxOfflineSeconds")
  heartbeatSeconds := num (hello.field "heartbeatSeconds")
  maxSnapshotBytes := num (hello.field "maxSnapshotBytes")
  providerName := str (hello.field "providerName") 256
  acceptedVersion := num (hello.field "acceptedVersion")

def decodeReport (report : WireValue) : Option DecodedReport :=
  (reportResult (report.field "result")).map fun result =>
    { version := num (report.field "version")
      correlationId := str (report.field "correlationId") 128
      result
      error := str (report.field "error") MAX_TEXT
      agentVersion := str (report.field "agentVersion") 64
      stale := isTrue (report.field "stale")
      files := sums (report.field "files")
      templates := sums (report.field "templates")
      traefikCheck := checkFrom (report.field "traefikCheck") }

/-- Unknown or malformed messages are `none`. -/
def decodeEnvelope (envelope : WireEnvelope) : Option DecodedMessage :=
  match envelope.body with
  | some "hello" => some (.hello (decodeHello (envelope.field "hello")))
  | some "report" => (decodeReport (envelope.field "report")).map .report
  | some "heartbeat" =>
      some (.heartbeat (num ((envelope.field "heartbeat").field "nonce")))
  | some "syncRequest" => some .syncRequest
  | some "bye" => some (.bye (str ((envelope.field "bye").field "reason") 256))
  | _ => none

end ProtoCodec

/-! ## What is recorded -/

/-- A text the server has made: a ULID or an ISO instant. -/
structure ServerText where
  text : String
  printable : 0 ∉ Utf16.units text

def ServerText.units (made : ServerText) : JsString :=
  Utf16.units made.text

/-- The data of the events a hello and a report become. -/
inductive RecordedData where
  | agentConnected (sessionId tokenId agentVersion : JsString)
      (protocolVersion maxOfflineSeconds : Nat) (replacedPrevious : Bool)
      (connectedAt : JsString)
  | snapshotApplied (version : Nat) (correlationId agentVersion : JsString)
      (stale : Bool) (files templates : List DecodedFile)
      (traefikCheck : Option DecodedCheck) (appliedAt : JsString)
  | snapshotApplyFailed (version : Nat) (correlationId reason appliedAt : JsString)
  deriving DecidableEq, Repr

def TraefikCheckStatus.text : TraefikCheckStatus → String
  | .ok => "ok"
  | .missing => "missing"
  | .unreachable => "unreachable"

namespace RecordedData

def fileTexts (files : List DecodedFile) : List JsString :=
  files.flatMap fun file => [file.name, file.sha256]

def checkTexts : Option DecodedCheck → List JsString
  | some check => Utf16.units check.status.text :: check.loaded ++ check.missing
  | none => []

/-- The strings of `JSON.stringify(data)`. -/
def texts : RecordedData → List JsString
  | .agentConnected sessionId tokenId agentVersion _ _ _ connectedAt =>
      [sessionId, tokenId, agentVersion, connectedAt]
  | .snapshotApplied _ correlationId agentVersion _ files templates traefikCheck
      appliedAt =>
      correlationId :: agentVersion :: fileTexts files ++ fileTexts templates ++
        checkTexts traefikCheck ++ [appliedAt]
  | .snapshotApplyFailed _ correlationId reason appliedAt =>
      [correlationId, reason, appliedAt]

end RecordedData

/-- JSONB takes a string unless it has U+0000 or an unpaired surrogate. -/
def JsString.Storable (text : JsString) : Prop :=
  0 ∉ text ∧ Utf16.isWellFormed text = true

instance (text : JsString) : Decidable text.Storable :=
  inferInstanceAs (Decidable (_ ∧ _))

/-! ## The session -/

/-- A session when a message is handled; `replaced` tells whether a hello takes
the place of another session, `now` is the clock. -/
structure ReportingSession where
  sessionId : ServerText
  tokenId : ServerText
  closed : Bool
  helloSeen : Bool
  replaced : Bool
  now : ServerText

/-- What comes of a message: nothing that is recorded, an event, or the end of
the session. -/
inductive MessageOutcome where
  | unrecorded
  | recorded (data : RecordedData)
  | terminated (reason : CloseReason)

namespace ReportingSession

def connectedData (session : ReportingSession) (hello : DecodedHello) :
    RecordedData :=
  .agentConnected session.sessionId.units session.tokenId.units
    hello.agentVersion (min hello.protocolVersion PROTOCOL_MAX_VERSION)
    hello.maxOfflineSeconds session.replaced session.now.units

/-- `report.error || "unknown error"` -/
def reasonOf (error : JsString) : JsString :=
  if error = [] then Utf16.units "unknown error" else error

def reportData (session : ReportingSession) (report : DecodedReport) :
    Option RecordedData :=
  match report.result with
  | .ignoredStale => none
  | .ok => some (.snapshotApplied report.version report.correlationId
      report.agentVersion report.stale report.files report.templates
      report.traefikCheck session.now.units)
  | .error => some (.snapshotApplyFailed report.version report.correlationId
      (reasonOf report.error) session.now.units)

/-- The event that is appended for a message. -/
def eventOf (session : ReportingSession) (message : DecodedMessage) :
    Option RecordedData :=
  if session.closed then none
  else match session.helloSeen, message with
    | false, .hello hello =>
        if min hello.protocolVersion PROTOCOL_MAX_VERSION < PROTOCOL_MIN_VERSION
        then none
        else some (session.connectedData hello)
    | true, .report report => session.reportData report
    | _, _ => none

/-- The insert: an error of it ends the session. -/
def append (data : RecordedData) : MessageOutcome :=
  if ∀ text ∈ data.texts, JsString.Storable text then .recorded data
  else .terminated AgentSessionHandler.internalError

/-- `handle`, where nothing but the insert may fail. -/
def handle (session : ReportingSession) (message : DecodedMessage) : MessageOutcome :=
  match session.eventOf message with
  | some data => append data
  | none => .unrecorded

end ReportingSession

/-! ## Messages that are texts -/

section Texts

variable (ident : Id → String) (instant : Timestamp → String)

def DecodedFile.ofText (file : FileChecksum) : DecodedFile :=
  ⟨Utf16.units file.name, Utf16.units file.sha256⟩

def DecodedCheck.ofText (check : TraefikCheckResult) : DecodedCheck :=
  ⟨check.status, check.loaded.map Utf16.units, check.missing.map Utf16.units⟩

def DecodedReport.ofText (report : ReportMessage) : DecodedReport where
  version := report.version
  correlationId := Utf16.units (ident report.correlationId)
  result := report.result
  error := Utf16.units report.error
  agentVersion := Utf16.units report.agentVersion
  stale := report.stale
  files := report.files.map .ofText
  templates := report.templates.map .ofText
  traefikCheck := report.traefikCheck.map .ofText

def RecordedData.ofText : TraefikProviderEvent → Option RecordedData
  | .snapshotApplied data => some (.snapshotApplied data.version
      (Utf16.units (ident data.correlationId)) (Utf16.units data.agentVersion)
      data.stale (data.files.map .ofText) (data.templates.map .ofText)
      (data.traefikCheck.map .ofText) (Utf16.units (instant data.appliedAt)))
  | .snapshotApplyFailed data => some (.snapshotApplyFailed data.version
      (Utf16.units (ident data.correlationId)) (Utf16.units data.reason)
      (Utf16.units (instant data.appliedAt)))
  | _ => none

theorem reasonOf_units (error : String) :
    ReportingSession.reasonOf (Utf16.units error) =
      Utf16.units ((truthy (some error)).getD "unknown error") := by
  unfold ReportingSession.reasonOf
  by_cases empty : error = ""
  · subst empty
    rfl
  · have notEmpty : Utf16.units error ≠ [] := fun same =>
      empty (Utf16.units_injective same)
    have isTruthy : truthy (some error) = some error :=
      truthy_eq_some.mpr ⟨rfl, empty⟩
    rw [if_neg notEmpty, isTruthy]
    rfl

/-- A report whose strings are texts is recorded as the sessions record it. -/
theorem reportData_ofText (session : ReportingSession) (report : ReportMessage)
    {now : Timestamp} (clock : session.now.text = instant now) :
    session.reportData (.ofText ident report) =
      (AgentSessionHandler.reportEvent report now).bind
        (RecordedData.ofText ident instant) := by
  have at' : session.now.units = Utf16.units (instant now) :=
    congrArg Utf16.units clock
  unfold ReportingSession.reportData AgentSessionHandler.reportEvent
  cases result : report.result with
  | ok =>
      change (match report.result with | .ignoredStale => _ | .ok => _ | .error => _) = _
      rw [result, at']
      rfl
  | error =>
      change (match report.result with | .ignoredStale => _ | .ok => _ | .error => _) = _
      rw [result, at']
      change some (RecordedData.snapshotApplyFailed _ _
        (ReportingSession.reasonOf (Utf16.units report.error)) _) = _
      rw [reasonOf_units]
      rfl
  | ignoredStale =>
      change (match report.result with | .ignoredStale => _ | .ok => _ | .error => _) = _
      rw [result]
      rfl

end Texts

end FluxIP
