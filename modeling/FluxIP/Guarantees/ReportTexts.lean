import FluxIP.Adapters.ProtoCodec

/-!
# Reports that can be stored

What an agent sends is cut by code units and then inserted as JSON.  The insert
takes it unless one of the kept strings has U+0000 or ends in half a pair.
-/

namespace FluxIP

open ProtoCodec

/-- A string of a message with the number of units that are kept of it. -/
abbrev KeptText := WireValue × Nat

/-- U+0000 is not among the kept units, and the cut is not inside a pair. -/
def KeptText.CutsWell : KeptText → Prop
  | (.string text, max) => 0 ∉ (Utf16.units text).take max ∧
      Utf16.cutsPair (Utf16.units text) max = false
  | _ => True

instance (text : KeptText) : Decidable text.CutsWell :=
  match text with
  | (.string _, _) => inferInstanceAs (Decidable (_ ∧ _))
  | (.undefined, _) | (.null, _) | (.boolean _, _) | (.number _, _)
  | (.array _, _) | (.object _, _) => inferInstanceAs (Decidable True)

namespace WireEnvelope

def keptFiles (files : WireValue) : List KeptText :=
  (firstItems files).flatMap fun file =>
    [(file.field "name", 256), (file.field "sha256", 64)]

def keptNames (names : WireValue) : List KeptText :=
  (firstItems names).map fun name => (name, 256)

def keptCheck (check : WireValue) : List KeptText :=
  match checkStatus (check.field "status") with
  | some _ => keptNames (check.field "loaded") ++ keptNames (check.field "missing")
  | none => []

def keptReport (report : WireValue) : List KeptText :=
  match reportResult (report.field "result") with
  | some .ok =>
      (report.field "correlationId", 128) :: (report.field "agentVersion", 64) ::
        keptFiles (report.field "files") ++ keptFiles (report.field "templates") ++
        keptCheck (report.field "traefikCheck")
  | some .error => [(report.field "correlationId", 128),
      (report.field "error", MAX_TEXT)]
  | _ => []

/-- The strings of a hello or a report that go into its event. -/
def kept (envelope : WireEnvelope) : List KeptText :=
  match envelope.body with
  | some "hello" => [((envelope.field "hello").field "agentVersion", 64)]
  | some "report" => keptReport (envelope.field "report")
  | _ => []

end WireEnvelope

/-! ## The kept part of a string -/

theorem storable_str {value : WireValue} {max : Nat} :
    (str value max).Storable ↔ KeptText.CutsWell (value, max) := by
  unfold JsString.Storable str
  cases value with
  | string text =>
      change _ ∧ Utf16.isWellFormed ((Utf16.encode text.toList).take max) = true ↔ _
      rw [Utf16.isWellFormed_take, Bool.not_eq_true']
      rfl
  | _ => exact ⟨fun _ => trivial, fun _ => ⟨List.not_mem_nil, rfl⟩⟩

theorem storable_made (made : ServerText) : JsString.Storable made.units :=
  ⟨made.printable, Utf16.isWellFormed_encode _⟩

theorem storable_reason {error : JsString} :
    (ReportingSession.reasonOf error).Storable ↔ error.Storable := by
  unfold ReportingSession.reasonOf
  split
  · rename_i empty
    subst empty
    decide
  · rfl

theorem storable_status (status : TraefikCheckStatus) :
    JsString.Storable (Utf16.units status.text) := by
  cases status <;> decide

/-- All texts of a list may be stored. -/
def AllStorable (texts : List JsString) : Prop :=
  ∀ text ∈ texts, text.Storable

theorem allStorable_append {first second : List JsString} :
    AllStorable (first ++ second) ↔ AllStorable first ∧ AllStorable second :=
  List.forall_mem_append

theorem allStorable_cons {text : JsString} {texts : List JsString} :
    AllStorable (text :: texts) ↔ text.Storable ∧ AllStorable texts :=
  List.forall_mem_cons

/-! ## The strings of an event -/

/-- The texts of a list are cuts of the kept strings. -/
theorem storable_names {value : WireValue} :
    AllStorable (strings value) ↔
      ∀ name ∈ WireEnvelope.keptNames value, name.CutsWell := by
  unfold AllStorable strings WireEnvelope.keptNames
  rw [List.forall_mem_map, List.forall_mem_map]
  exact forall₂_congr fun _ _ => storable_str

theorem storable_files {value : WireValue} :
    AllStorable (RecordedData.fileTexts (sums value)) ↔
      ∀ file ∈ WireEnvelope.keptFiles value, file.CutsWell := by
  unfold RecordedData.fileTexts sums WireEnvelope.keptFiles
  induction firstItems value with
  | nil => exact ⟨fun _ _ member => (by cases member), fun _ _ member => (by cases member)⟩
  | cons item items ih =>
      rw [List.map_cons, List.flatMap_cons, List.flatMap_cons, allStorable_append,
        List.forall_mem_append, ih, List.forall_mem_cons,
        List.forall_mem_singleton, allStorable_cons, allStorable_cons,
        storable_str, storable_str]
      refine and_congr_left fun _ => and_congr_right fun _ => ?_
      exact and_iff_left fun _ member => (by cases member)

theorem storable_check {value : WireValue} :
    AllStorable (RecordedData.checkTexts (checkFrom value)) ↔
      ∀ name ∈ WireEnvelope.keptCheck value, name.CutsWell := by
  unfold checkFrom WireEnvelope.keptCheck
  cases checkStatus (value.field "status") with
  | none => exact ⟨fun _ _ member => (by cases member), fun _ _ member => (by cases member)⟩
  | some status =>
      change AllStorable (Utf16.units status.text :: strings _ ++ strings _) ↔ _
      rw [allStorable_append, allStorable_cons, storable_names, storable_names,
        List.forall_mem_append, and_iff_right (storable_status status)]

theorem storable_connected {session : ReportingSession} {hello : WireValue} :
    AllStorable (session.connectedData (decodeHello hello)).texts ↔
      KeptText.CutsWell (hello.field "agentVersion", 64) := by
  unfold ReportingSession.connectedData RecordedData.texts
  rw [allStorable_cons, allStorable_cons, allStorable_cons, allStorable_cons,
    and_iff_right (storable_made _), and_iff_right (storable_made _)]
  refine (and_iff_left ⟨storable_made _, fun _ member => (by cases member)⟩).trans ?_
  exact storable_str

/-- An event of a report can be stored when its strings are cut well. -/
theorem storable_reported {session : ReportingSession} {wire : WireValue}
    {report : DecodedReport} {data : RecordedData}
    (decoded : decodeReport wire = some report)
    (event : session.reportData report = some data) :
    AllStorable data.texts ↔
      ∀ text ∈ WireEnvelope.keptReport wire, text.CutsWell := by
  unfold decodeReport at decoded
  obtain ⟨result, known, rfl⟩ := Option.map_eq_some_iff.mp decoded
  unfold WireEnvelope.keptReport
  rw [known]
  cases result with
  | ok =>
      cases event
      change AllStorable (_ :: _ :: _ ++ _ ++ _ ++ [_]) ↔ _
      rw [allStorable_append, allStorable_append, allStorable_append,
        allStorable_cons, allStorable_cons, storable_str, storable_str,
        storable_files, storable_files, storable_check]
      rw [List.forall_mem_append, List.forall_mem_append, List.forall_mem_cons,
        List.forall_mem_cons]
      exact and_iff_left fun text member =>
        List.mem_singleton.mp member ▸ storable_made _
  | error =>
      cases event
      change AllStorable [_, _, _] ↔ _
      rw [allStorable_cons, allStorable_cons, storable_str, storable_reason,
        storable_str, List.forall_mem_cons, List.forall_mem_singleton]
      refine and_congr_right fun _ => and_iff_left fun text member => ?_
      exact List.mem_singleton.mp member ▸ storable_made _
  | ignoredStale => cases event

/-- Only a hello and a report become an event. -/
theorem eventOf_cases {session : ReportingSession} {message : DecodedMessage}
    {data : RecordedData} (event : session.eventOf message = some data) :
    (∃ hello, message = .hello hello ∧ data = session.connectedData hello) ∨
      ∃ report, message = .report report ∧
        session.reportData report = some data := by
  unfold ReportingSession.eventOf at event
  split at event
  · cases event
  · split at event
    · rename_i hello _
      split at event
      · cases event
      · cases event
        exact .inl ⟨hello, rfl, rfl⟩
    · exact .inr ⟨_, rfl, event⟩
    · cases event

theorem decodeEnvelope_hello {envelope : WireEnvelope} {hello : DecodedHello}
    (decoded : decodeEnvelope envelope = some (.hello hello)) :
    envelope.body = some "hello" ∧
      hello = decodeHello (envelope.field "hello") := by
  unfold decodeEnvelope at decoded
  split at decoded
  · rename_i body
    cases decoded
    exact ⟨body, rfl⟩
  · obtain ⟨_, _, other⟩ := Option.map_eq_some_iff.mp decoded
    cases other
  all_goals cases decoded

theorem decodeEnvelope_report {envelope : WireEnvelope} {report : DecodedReport}
    (decoded : decodeEnvelope envelope = some (.report report)) :
    envelope.body = some "report" ∧
      decodeReport (envelope.field "report") = some report := by
  unfold decodeEnvelope at decoded
  split at decoded
  · cases decoded
  · rename_i body
    obtain ⟨_, known, same⟩ := Option.map_eq_some_iff.mp decoded
    cases same
    exact ⟨body, known⟩
  all_goals cases decoded

/-- The event of a message can be stored when its kept strings are cut well. -/
theorem storable_event {session : ReportingSession} {envelope : WireEnvelope}
    {message : DecodedMessage} {data : RecordedData}
    (decoded : decodeEnvelope envelope = some message)
    (event : session.eventOf message = some data) :
    AllStorable data.texts ↔ ∀ text ∈ envelope.kept, text.CutsWell := by
  unfold WireEnvelope.kept
  rcases eventOf_cases event with
    ⟨hello, rfl, rfl⟩ | ⟨report, rfl, reported⟩
  · obtain ⟨body, rfl⟩ := decodeEnvelope_hello decoded
    rw [body]
    exact storable_connected.trans List.forall_mem_singleton.symm
  · obtain ⟨body, known⟩ := decodeEnvelope_report decoded
    rw [body]
    exact storable_reported known reported

/-- The event of a hello or a report has only strings that can be stored, and is
recorded, exactly when no string that is kept has U+0000 among its kept units or
is cut inside a pair of surrogates; else the session is terminated. -/
theorem report_storable_iff (session : ReportingSession)
    (envelope : WireEnvelope) (message : DecodedMessage) (data : RecordedData)
    (decoded : decodeEnvelope envelope = some message)
    (event : session.eventOf message = some data) :
    ((∀ text ∈ data.texts, JsString.Storable text) ∧
      session.handle message = .recorded data ∧
      session.handle message ≠
        .terminated AgentSessionHandler.internalError) ↔
      ∀ text ∈ envelope.kept, text.CutsWell := by
  refine Iff.trans ⟨fun all => all.1, fun all => ?_⟩ (storable_event decoded event)
  have recorded : session.handle message = .recorded data := by
    unfold ReportingSession.handle ReportingSession.append
    rw [event]
    exact if_pos all
  refine ⟨all, recorded, ?_⟩
  rw [recorded]
  exact fun same => by cases same

def exampleSession : ReportingSession where
  sessionId := ⟨"01JSESSION", by decide⟩
  tokenId := ⟨"01JTOKEN", by decide⟩
  closed := false
  helloSeen := true
  replaced := false
  now := ⟨"2025-01-01T00:00:00.000Z", by decide⟩

def exampleReport (error : String) : WireEnvelope where
  body := some "report"
  fields := [("report", .object [("version", .number 3),
    ("correlationId", .string "01JCAUSE"), ("result", .string "RESULT_ERROR"),
    ("error", .string error), ("agentVersion", .string "1.0.0")])]

/-- The event has the kept part of the error. -/
theorem exampleReport_event (error : String) : ∃ message data,
    decodeEnvelope (exampleReport error) = some message ∧
      exampleSession.eventOf message = some data ∧
      ReportingSession.reasonOf (str (.string error) MAX_TEXT) ∈ data.texts :=
  ⟨_, _, rfl, rfl, List.mem_cons_of_mem _ List.mem_cons_self⟩

theorem report_storable_plain : ∃ message data,
    decodeEnvelope (exampleReport "template failed") = some message ∧
      exampleSession.eventOf message = some data ∧
      exampleSession.handle message = .recorded data := by
  refine ⟨_, _, rfl, rfl, ?_⟩
  exact ((report_storable_iff exampleSession (exampleReport "template failed")
    _ _ rfl rfl).mpr (by decide)).2.1

/-- An error whose last kept unit is the first half of a pair. -/
def longError : String :=
  String.ofList (List.replicate 1999 'e' ++ ['😀'])

theorem cutsPair_longError :
    Utf16.cutsPair (Utf16.units longError) MAX_TEXT = true := by
  unfold Utf16.units longError
  rw [String.toList_ofList, Utf16.encode_append,
    Utf16.encode_replicate 1999 (show Utf16.encodeChar 'e' = [101] from rfl)]
  have cuts := Utf16.cutsPair_append (List.replicate 1999 101) 0xD83D 0xDE00
  rw [List.length_replicate] at cuts
  exact cuts.trans rfl

theorem cut_error_ends_session :
    ¬ ∀ (session : ReportingSession) (envelope : WireEnvelope)
      (message : DecodedMessage) (data : RecordedData),
      decodeEnvelope envelope = some message →
      session.eventOf message = some data →
      (∀ text ∈ data.texts, JsString.Storable text) ∧
        session.handle message = .recorded data ∧
        session.handle message ≠
          .terminated AgentSessionHandler.internalError := by
  intro always
  obtain ⟨message, data, decoded, event, reason⟩ := exampleReport_event longError
  obtain ⟨storable, -⟩ := always exampleSession _ message data decoded event
  have cutsWell := storable_str.mp (storable_reason.mp (storable _ reason))
  exact Bool.false_ne_true (cutsWell.2.symm.trans cutsPair_longError)

end FluxIP
