import Onramp.Library.Codes
import Onramp.Library.Runs
import Onramp.ReadRoutes
import Onramp.SlackSigning

/-!
The webhook for commands and mentions. Whoever sends the requests, the handlers see only bodies
that were signed for their timestamps, close to these timestamps; every other request is refused,
and its body is not read.
-/
namespace Onramp.SlackWebhook
open Onramp.Python
open Onramp.Values
open Onramp.Models
open Onramp.Classifier (Bytes ascii)
open Onramp.ReadRoutes (RouteError raising)
open Onramp.SlackSigning
open Onramp.LaneAccounting (samplePlatform)
open Onramp.Library.Keyed (Table find keys)
open Onramp.Library.Runs
open Onramp.Library.Codes (SelfDelimiting selfDelimiting_of_class)

structure SlackSlashCommand where
  token : String
  teamId : String
  channelId : String
  userId : String
  text : String
  responseUrl : String
  triggerId : String

def SlackSlashCommand.Valid (cmd : SlackSlashCommand) : Prop := cmd.text.length ≤ 512 ∧ lengthWithin 8 512 cmd.responseUrl

instance : DecidablePred SlackSlashCommand.Valid := fun cmd =>
  inferInstanceAs (Decidable (cmd.text.length ≤ 512 ∧ lengthWithin 8 512 cmd.responseUrl))

/-- `SlackSlashCommand.model_validate`. -/
def SlackSlashCommand.modelValidate (form : Table String String) : Raises SlackSlashCommand :=
  let fields := ["token", "team_id", "channel_id", "user_id", "command", "text", "response_url", "trigger_id"]
  match find "token" form, find "team_id" form, find "channel_id" form, find "user_id" form, find "command" form,
    find "response_url" form, find "trigger_id" form with
  | some token, some teamId, some channelId, some userId, some "/solvo-onramp", some responseUrl, some triggerId =>
    if ∀ key ∈ keys form, key ∈ fields then
      checked "SlackSlashCommand" SlackSlashCommand.Valid
        { token, teamId, channelId, userId, text := (find "text" form).getD "", responseUrl, triggerId }
    else .error (validationError "SlackSlashCommand")
  | _, _, _, _, _, _, _ => .error (validationError "SlackSlashCommand")

inductive EnvelopeType
  | eventCallback | urlVerification
  deriving DecidableEq

structure SlackEventEnvelope where
  token : String
  teamId : Option String
  apiAppId : Option String
  type : EnvelopeType
  challenge : Option String
  event : Option (List (String × Json))

/-- An optional field of texts. -/
def optionalText (name : String) (members : List (String × Json)) : Raises (Option String) :=
  match find name members with
  | none | some .null => .ok none
  | some (.str text) => .ok (some text)
  | some _ => .error (validationError "SlackEventEnvelope")

/-- `SlackEventEnvelope.model_validate`. -/
def SlackEventEnvelope.modelValidate : Json → Raises SlackEventEnvelope
  | .obj members => do
    let fields := ["token", "team_id", "api_app_id", "type", "challenge", "event"]
    let some (.str token) := find "token" members | .error (validationError "SlackEventEnvelope")
    let teamId ← optionalText "team_id" members
    let apiAppId ← optionalText "api_app_id" members
    let type ← match find "type" members with
      | some (.str "event_callback") => .ok EnvelopeType.eventCallback
      | some (.str "url_verification") => .ok EnvelopeType.urlVerification
      | _ => .error (validationError "SlackEventEnvelope")
    let challenge ← optionalText "challenge" members
    let event ← match find "event" members with
      | none | some .null => .ok none
      | some (.obj event) => .ok (some event)
      | some _ => .error (validationError "SlackEventEnvelope")
    if ∀ member ∈ members, member.1 ∈ fields then return { token, teamId, apiAppId, type, challenge, event }
    else .error (validationError "SlackEventEnvelope")
  | _ => .error (validationError "SlackEventEnvelope")

/-- What the route takes from the library besides the verification. -/
structure Web where
  platform : Platform
  /-- `parse_qs(text)` -/
  parseQs : String → Table String (List String)
  /-- `json.loads(body)` -/
  jsonLoads : Bytes → Raises Json

private def tick (text : String) : String := String.ofList [Char.ofNat 96] ++ text ++ String.ofList [Char.ofNat 96]

def helpText : String :=
  "Solvo Onramp commands:\n" ++
  "• " ++ tick "/solvo-onramp status <job_id>" ++ " — query a job's pipeline status.\n" ++
  "• " ++ tick "/solvo-onramp upload" ++ " — instructions for submitting a ratesheet.\n" ++
  "Mention " ++ tick "@solvo-onramp help" ++ " for this message in-channel."

def uploadInstructions : String :=
  "Submit ratesheets via POST " ++ tick "/v1/intake/jobs" ++ " with multipart/form-data. " ++
  "Slack file uploads are not yet supported."

def usageText : String := "Usage: " ++ tick "/solvo-onramp status <job_id>"

def lookupText (jobId : String) : String := "Looking up job " ++ tick jobId ++ ". Result will arrive in this channel."

def payload (responseType text : String) : Json := .obj [("response_type", .str responseType), ("text", .str text)]

/-- `text.split()`. -/
def words (text : String) : List String := ((text.toList.splitOnP isSpace).filter (· ≠ [])).map String.ofList

def handleSlash (platform : Platform) (cmd : SlackSlashCommand) : Json :=
  match words cmd.text with
  | [] => payload "ephemeral" helpText
  | first :: args =>
    let sub := platform.lower first
    if sub = "status" then
      match args with
      | [] => payload "ephemeral" usageText
      | jobId :: _ => payload "ephemeral" (lookupText jobId)
    else if sub = "upload" then payload "ephemeral" uploadInstructions
    else payload "ephemeral" helpText

/-- The two branches of the source answer alike; a text that is none is not lowered. -/
def handleMention (event : SlackEventEnvelope) : Raises Json :=
  match find "text" (event.event.getD []) with
  | some (.str _) => .ok (payload "in_channel" helpText)
  | some value =>
    if value.truthy then .error (PyExc.mk' .attributeError s!"'{value.typeName}' object has no attribute 'lower'")
    else .ok (payload "in_channel" helpText)
  | none => .ok (payload "in_channel" helpText)

structure Request where
  xSlackSignature : Option String
  xSlackRequestTimestamp : Option String
  contentType : String
  body : Bytes

/-- `body.decode("utf-8")`. -/
def decodeUtf8 (body : Bytes) : Raises String :=
  match String.fromUTF8? ⟨body.toArray⟩ with
  | some text => .ok text
  | none => .error (PyExc.mk' (.other "UnicodeDecodeError") "'utf-8' codec can't decode bytes")

/-- A validation whose exception becomes a response with status 422. -/
def validated {α : Type} (result : Raises α) : Except RouteError α :=
  result.mapError fun exc => .httpException 422 (.str exc.message)

/-- What happens to a request once it is verified. -/
def dispatch (web : Web) (contentType : String) (body : Bytes) : Except RouteError Json :=
  if "application/x-www-form-urlencoded".toList <+: contentType.toList then do
    let text ← raising (decodeUtf8 body)
    let form := (web.parseQs text).filterMap fun entry => entry.2.head?.map fun value => (entry.1, value)
    let cmd ← validated (SlackSlashCommand.modelValidate form)
    return handleSlash web.platform cmd
  else if "application/json".toList <+: contentType.toList then do
    let envelopeRaw ← raising (web.jsonLoads body)
    let envelope ← validated (SlackEventEnvelope.modelValidate envelopeRaw)
    match envelope.type with
    | .urlVerification => return .obj [("challenge", .str (envelope.challenge.getD ""))]
    | .eventCallback => raising (handleMention envelope)
  else .error (.httpException 422 (.str "unsupported content-type or body"))

/-- What the verification that raised makes of a request. -/
def refusal (exc : PyExc) : RouteError :=
  if exc.cls = slackSignatureErrorClass then
    .httpException (if "replay window".toList <:+: exc.message.toList then 403 else 401) (.str exc.message)
  else .raised exc

def slackWebhook (library : Library) (web : Web) (secret : String) (now : ℚ) (request : Request) : Except RouteError Json :=
  match request.xSlackSignature, request.xSlackRequestTimestamp with
  | some signature, some timestamp =>
    match verifySignature library now secret request.body timestamp signature with
    | .error exc => .error (refusal exc)
    | .ok _ => dispatch web request.contentType request.body
  | _, _ => .error (.httpException 422 (.str "validation_error"))

def statusCode : RouteError → Nat
  | .httpException code _ => code
  | .raised _ => 500

structure Answer where
  now : ℚ
  request : Request
  answer : Except RouteError Json

/-- What Slack has signed, each body for its timestamp, and what the route has answered. -/
structure State where
  signed : List (String × Bytes)
  answered : List Answer

def initial : State := ⟨[], []⟩

/-- Slack signs a body, or anyone sends a request. -/
inductive Event
  | sign (timestamp : String) (body : Bytes)
  | request (now : ℚ) (request : Request)

def step (library : Library) (web : Web) (secret : String) (s : State) : Event → Option State
  | .sign timestamp body => some { s with signed := s.signed ++ [(timestamp, body)] }
  | .request now request =>
    some { s with answered := s.answered ++ [⟨now, request, slackWebhook library web secret now request⟩] }

/-- What is signed for a body. -/
def basestring (timestamp : String) (body : Bytes) : Bytes := ascii "v0:" ++ ascii timestamp ++ ascii ":" ++ body

/-- The timestamps of Slack are numbers, the clock is one of our time, and a request that carries the digest of its own
    timestamp and body has it from Slack, which has signed these bytes: without the secret nobody computes it. -/
def Honest (library : Library) (secret : String) (s : State) : Event → Prop
  | .sign timestamp _ => Ascii timestamp ∧ library.int timestamp ≠ none
  | .request now request => Clock now ∧
    ∀ timestamp, request.xSlackRequestTimestamp = some timestamp →
      request.xSlackSignature = some ("v0=" ++ library.hmacSha256 (utf8 secret) (basestring timestamp request.body)) →
      ∃ entry ∈ s.signed, basestring timestamp request.body = basestring entry.1 entry.2

/-- `int` raises on a colon. -/
def Colonless (library : Library) : Prop := ∀ text n, library.int text = some n → ':' ∉ text.toList

/-! ### The verification -/

section
variable {library : Library} {now : ℚ} {secret : String} {body : Bytes} {timestamp signature : String}

/-- The request is recent and signed. -/
structure Accepted (library : Library) (now : ℚ) (secret : String) (body : Bytes) (timestamp signature : String) : Prop where
  configured : secret ≠ ""
  plain : Ascii timestamp
  recent : ∃ seconds, library.int timestamp = some seconds ∧ |now - seconds| ≤ 300
  signed : signature = "v0=" ++ library.hmacSha256 (utf8 secret) (basestring timestamp body)

theorem expectedFor_eq : expectedFor library secret body (ascii timestamp) =
    "v0=" ++ library.hmacSha256 (utf8 secret) (basestring timestamp body) := rfl

/-- A number near the clock converts to a float. -/
theorem converts_of_recent (clock : Clock now) {seconds : ℤ} (recent : |now - seconds| ≤ replayWindowSeconds) :
    |double seconds| < 2 ^ 1024 := by
  have low := clock.low
  have high := clock.high
  obtain ⟨after, before⟩ := abs_le.mp recent
  rw [replayWindowSeconds] at after before
  have short : |(seconds : ℚ)| < 2 ^ 53 := by
    rw [abs_lt]
    norm_num at high ⊢
    constructor <;> linarith
  rw [double_intCast short]
  exact short.trans (pow_lt_pow_right₀ (by norm_num) (by norm_num))

theorem verify_iff (clock : Clock now) :
    (∃ result, verifySignature library now secret body timestamp signature = .ok result) ↔
      Accepted library now secret body timestamp signature := by
  by_cases configured : secret = ""
  · refine iff_of_false ?_ fun accepted => accepted.configured configured
    simp [verifySignature, configured]
  cases parsed : library.int timestamp with
  | none =>
    refine iff_of_false ?_ fun accepted => ?_
    · simp [verifySignature, configured, parsed]
    · obtain ⟨_, known, -⟩ := accepted.recent
      rw [parsed] at known
      cases known
  | some seconds =>
    have window := inWindow_iff clock seconds
    by_cases inside : InWindow now seconds
    swap
    · refine iff_of_false ?_ fun accepted => ?_
      · by_cases converts : |double seconds| < 2 ^ 1024
        · simp [verify_stale configured parsed converts inside]
        · simp [verify_overflow configured parsed converts]
      · obtain ⟨_, known, recent⟩ := accepted.recent
        rw [parsed] at known
        cases known
        exact inside (window.mpr recent)
    have recent := window.mp inside
    have converts : |double seconds| < 2 ^ 1024 := converts_of_recent clock recent
    by_cases plain : Ascii timestamp ∧ Ascii signature
    swap
    · obtain ⟨exc, raised, -⟩ : ∃ exc, verifySignature library now secret body timestamp signature = .error exc ∧ _ :=
        verify_not_ascii configured parsed converts inside plain
      refine iff_of_false (by simp [raised]) fun accepted => plain ⟨accepted.plain, ?_⟩
      rw [accepted.signed, ← expectedFor_eq]
      exact expectedFor_ascii _
    have decided : verifySignature library now secret body timestamp signature = _ :=
      verify_ascii configured parsed converts inside plain.1 plain.2
    rw [decided]
    by_cases signed : signature = expectedFor library secret body (ascii timestamp)
    · rw [if_pos signed]
      exact iff_of_true ⟨true, rfl⟩ ⟨configured, plain.1, ⟨seconds, parsed, recent⟩, signed⟩
    · rw [if_neg signed]
      exact iff_of_false (by simp) fun accepted => signed accepted.signed

end

/-- A text of a timestamp as it stands before the colon. -/
def Stamp : Type := { text : String // Ascii text ∧ ':' ∉ text.toList }

theorem byte_injective {c d : Char} (small : c.toNat < 128) (small' : d.toNat < 128)
    (same : UInt8.ofNat c.toNat = UInt8.ofNat d.toNat) : c = d := by
  have bytes := congrArg UInt8.toNat same
  simp only [UInt8.toNat_ofNat'] at bytes
  exact Char.toNat_inj.mp (by omega)

theorem ascii_injective {s t : String} (plain : Ascii s) (plain' : Ascii t) (same : ascii s = ascii t) : s = t := by
  have chars : ∀ cs ds : List Char, (∀ c ∈ cs, c.toNat < 128) → (∀ d ∈ ds, d.toNat < 128) →
      cs.map (fun c => UInt8.ofNat c.toNat) = ds.map (fun c => UInt8.ofNat c.toNat) → cs = ds := by
    intro cs
    induction cs with
    | nil =>
      intro ds _ _ same
      exact (List.map_eq_nil_iff.mp same.symm).symm
    | cons c cs ih =>
      intro ds small small' same
      cases ds with
      | nil => cases same
      | cons d ds =>
        obtain ⟨byte, rest⟩ := List.cons.inj same
        obtain ⟨first, others⟩ := List.forall_mem_cons.mp small
        obtain ⟨first', others'⟩ := List.forall_mem_cons.mp small'
        rw [byte_injective first first' byte, ih ds others others' rest]
  exact String.toList_injective (chars _ _ plain plain' same)

theorem stamp_delimited : SelfDelimiting fun stamp : Stamp => ascii stamp.1 ++ [58] := by
  refine selfDelimiting_of_class (fun byte => byte ≠ 58) (by simp) ?_ ?_
  · intro a b same
    exact Subtype.ext (ascii_injective a.2.1 b.2.1 same)
  · intro stamp byte inside colon
    obtain ⟨c, among, rfl⟩ := List.mem_map.mp inside
    have small := stamp.2.1 c among
    have same : c = ':' := byte_injective small (by decide) colon
    exact stamp.2.2 (same ▸ among)

/-- What is signed tells the timestamp and the body. -/
theorem basestring_injective {s t : String} {body other : Bytes} (plain : Ascii s ∧ ':' ∉ s.toList)
    (plain' : Ascii t ∧ ':' ∉ t.toList) (same : basestring s body = basestring t other) : s = t ∧ body = other := by
  have rest : (ascii s ++ [58]) ++ body = (ascii t ++ [58]) ++ other := by
    have colon : ascii ":" = [58] := by decide
    simp only [basestring, List.append_assoc, colon] at same
    have texts := List.append_cancel_left same
    simpa using texts
  obtain ⟨stamps, bodies⟩ := stamp_delimited ⟨s, plain⟩ ⟨t, plain'⟩ body other rest
  exact ⟨congrArg Subtype.val stamps, bodies⟩

/-- What the handlers answer: fixed texts, a look-up of a word of the command, or the challenge. -/
inductive Reply : Json → Prop
  | help (responseType : String) : Reply (payload responseType helpText)
  | usage : Reply (payload "ephemeral" usageText)
  | upload : Reply (payload "ephemeral" uploadInstructions)
  | lookup {text jobId : String} (named : jobId ∈ words text) : Reply (payload "ephemeral" (lookupText jobId))
  | challenge (text : String) : Reply (.obj [("challenge", .str text)])

theorem handleSlash_reply (platform : Platform) (cmd : SlackSlashCommand) : Reply (handleSlash platform cmd) := by
  unfold handleSlash
  split
  · exact .help _
  · next first args listed =>
    simp only
    split_ifs
    · cases args with
      | nil => exact .usage
      | cons jobId others =>
        have named : jobId ∈ words cmd.text := by simp [listed]
        exact .lookup named
    · exact .upload
    · exact .help _

theorem handleMention_reply {event : SlackEventEnvelope} {content : Json} (answered : handleMention event = .ok content) :
    Reply content := by
  unfold handleMention at answered
  split at answered
  · cases answered
    exact .help _
  · split_ifs at answered
    cases answered
    exact .help _
  · cases answered
    exact .help _

theorem raising_statusCode {α : Type} {result : Raises α} {error : RouteError} (raised : raising result = .error error) :
    statusCode error = 500 := by
  cases result with
  | ok value => cases raised
  | error exc =>
    cases raised
    rfl

theorem validated_statusCode {α : Type} {result : Raises α} {error : RouteError} (raised : validated result = .error error) :
    statusCode error = 422 := by
  cases result with
  | ok value => cases raised
  | error exc =>
    cases raised
    rfl

theorem dispatch_replies (web : Web) (contentType : String) (body : Bytes) :
    (∀ content, dispatch web contentType body = .ok content → Reply content) ∧
      ∀ error, dispatch web contentType body = .error error → statusCode error ∈ [422, 500] := by
  unfold dispatch
  split_ifs
  · cases decoded : raising (decodeUtf8 body) with
    | error error =>
      refine ⟨by rintro _ ⟨⟩, ?_⟩
      rintro _ ⟨⟩
      simp [raising_statusCode decoded]
    | ok text =>
      simp only [bind, Except.bind]
      cases parsed : validated (SlackSlashCommand.modelValidate
          ((web.parseQs text).filterMap fun entry => entry.2.head?.map fun value => (entry.1, value))) with
      | error error =>
        refine ⟨by rintro _ ⟨⟩, ?_⟩
        rintro _ ⟨⟩
        simp [validated_statusCode parsed]
      | ok cmd =>
        refine ⟨?_, by rintro _ ⟨⟩⟩
        rintro _ ⟨⟩
        exact handleSlash_reply _ _
  · cases loaded : raising (web.jsonLoads body) with
    | error error =>
      refine ⟨by rintro _ ⟨⟩, ?_⟩
      rintro _ ⟨⟩
      simp [raising_statusCode loaded]
    | ok envelopeRaw =>
      simp only [bind, Except.bind]
      cases parsed : validated (SlackEventEnvelope.modelValidate envelopeRaw) with
      | error error =>
        refine ⟨by rintro _ ⟨⟩, ?_⟩
        rintro _ ⟨⟩
        simp [validated_statusCode parsed]
      | ok envelope =>
        cases kind : envelope.type with
        | urlVerification =>
          simp only [kind]
          refine ⟨?_, by rintro _ ⟨⟩⟩
          rintro _ ⟨⟩
          exact .challenge _
        | eventCallback =>
          simp only [kind]
          cases handled : handleMention envelope with
          | error exc =>
            refine ⟨by rintro _ ⟨⟩, ?_⟩
            rintro _ ⟨⟩
            simp [statusCode]
          | ok content =>
            refine ⟨?_, by rintro _ ⟨⟩⟩
            rintro _ ⟨⟩
            exact handleMention_reply handled
  · refine ⟨by rintro _ ⟨⟩, ?_⟩
    rintro _ ⟨⟩
    simp [statusCode]

/-- A refusal has the status of the webhook for what the verification raised. -/
theorem refusal_statusCode (exc : PyExc) : slackWebhookStatus (.error exc) = some (statusCode (refusal exc)) ∧
    statusCode (refusal exc) ∈ [401, 403, 500] := by
  simp only [slackWebhookStatus, refusal]
  by_cases own : exc.cls = slackSignatureErrorClass
  · rw [if_pos own, if_pos own]
    by_cases window : "replay window".toList <:+: exc.message.toList
    · rw [if_pos window]
      simp [statusCode]
    · rw [if_neg window]
      simp [statusCode]
  · rw [if_neg own, if_neg own]
    simp [statusCode]

/-! ### Requests -/

section
variable {library : Library} {web : Web} {secret : String}

/-- The request carries a recent signature of its body. -/
def Authentic (library : Library) (secret : String) (now : ℚ) (request : Request) : Prop :=
  ∃ signature timestamp, request.xSlackSignature = some signature ∧ request.xSlackRequestTimestamp = some timestamp ∧
    Accepted library now secret request.body timestamp signature

/-- The request is refused, whatever its content type and whatever the decoders are. -/
def Refused (library : Library) (secret : String) (now : ℚ) (request : Request) (answer : Except RouteError Json) : Prop :=
  ∃ error, answer = .error error ∧ statusCode error ∈ [401, 403, 422, 500] ∧
    ∀ web contentType, slackWebhook library web secret now { request with contentType } = .error error

theorem slackWebhook_authentic {now : ℚ} (clock : Clock now) {request : Request}
    (authentic : Authentic library secret now request) :
    slackWebhook library web secret now request = dispatch web request.contentType request.body := by
  obtain ⟨signature, timestamp, header, stamp, accepted⟩ := authentic
  obtain ⟨result, verified⟩ := (verify_iff clock).mpr accepted
  simp only [slackWebhook, header, stamp, verified]

theorem slackWebhook_refused {now : ℚ} (clock : Clock now) {request : Request}
    (forged : ¬ Authentic library secret now request) :
    Refused library secret now request (slackWebhook library web secret now request) := by
  cases header : request.xSlackSignature with
  | none =>
    refine ⟨.httpException 422 (.str "validation_error"), ?_, by simp [statusCode], fun web contentType => ?_⟩
    · simp only [slackWebhook, header]
    · simp only [slackWebhook, header]
  | some signature =>
    cases stamp : request.xSlackRequestTimestamp with
    | none =>
      refine ⟨.httpException 422 (.str "validation_error"), ?_, by simp [statusCode], fun web contentType => ?_⟩
      · simp only [slackWebhook, header, stamp]
      · simp only [slackWebhook, header, stamp]
    | some timestamp =>
      cases verified : verifySignature library now secret request.body timestamp signature with
      | ok result => exact absurd ⟨_, _, header, stamp, (verify_iff clock).mp ⟨result, verified⟩⟩ forged
      | error exc =>
        refine ⟨refusal exc, ?_, ?_, fun web contentType => ?_⟩
        · simp only [slackWebhook, header, stamp, verified]
        · have codes := (refusal_statusCode exc).2
          simp only [List.mem_cons, List.not_mem_nil, or_false] at codes ⊢
          tauto
        · simp only [slackWebhook, header, stamp, verified]

/-- The answer is that of the handlers, to a body that was signed for the timestamp of the request, close to it. -/
structure Handled (library : Library) (web : Web) (signed : List (String × Bytes)) (entry : Answer) : Prop where
  dispatched : entry.answer = dispatch web entry.request.contentType entry.request.body
  signed : ∃ timestamp seconds, entry.request.xSlackRequestTimestamp = some timestamp ∧
    (timestamp, entry.request.body) ∈ signed ∧ library.int timestamp = some seconds ∧ |entry.now - seconds| ≤ 300
  replies : ∀ content, entry.answer = .ok content → Reply content
  errors : ∀ error, entry.answer = .error error → statusCode error ∈ [422, 500]

/-- What holds of every state of a run. -/
structure Kept (library : Library) (web : Web) (secret : String) (s : State) : Prop where
  stamps : ∀ entry ∈ s.signed, Ascii entry.1 ∧ ':' ∉ entry.1.toList
  clocks : ∀ entry ∈ s.answered, Clock entry.now
  answers : ∀ entry ∈ s.answered, entry.answer = slackWebhook library web secret entry.now entry.request
  handled : ∀ entry ∈ s.answered, Authentic library secret entry.now entry.request → Handled library web s.signed entry

/-- A request with a recent signature of its body brings what Slack has signed. -/
theorem handled_of_authentic (colonless : Colonless library) {s : State} {now : ℚ} {request : Request}
    (stamps : ∀ entry ∈ s.signed, Ascii entry.1 ∧ ':' ∉ entry.1.toList) (honest : Honest library secret s (.request now request))
    (authentic : Authentic library secret now request) :
    Handled library web s.signed ⟨now, request, slackWebhook library web secret now request⟩ := by
  obtain ⟨clock, unforged⟩ := honest
  have dispatched : slackWebhook library web secret now request = dispatch web request.contentType request.body :=
    slackWebhook_authentic clock authentic
  obtain ⟨replies, errors⟩ := dispatch_replies web request.contentType request.body
  rw [← dispatched] at replies errors
  refine ⟨dispatched, ?_, replies, errors⟩
  obtain ⟨signature, timestamp, header, stamp, accepted⟩ := authentic
  obtain ⟨seconds, parsed, recent⟩ := accepted.recent
  obtain ⟨⟨text, body⟩, inside, same⟩ := unforged timestamp stamp (header.trans (congrArg some accepted.signed))
  -- Slack has signed these bytes, and they are those of no other timestamp and body.
  obtain ⟨rfl, rfl⟩ := basestring_injective ⟨accepted.plain, colonless _ _ parsed⟩ (stamps _ inside) same
  exact ⟨timestamp, seconds, stamp, inside, parsed, recent⟩

theorem Kept.step (colonless : Colonless library) {s next : State} {event : Event} (kept : Kept library web secret s)
    (honest : Honest library secret s event) (stepped : step library web secret s event = some next) :
    Kept library web secret next := by
  cases event with
  | sign timestamp body =>
    cases stepped
    refine ⟨?_, kept.clocks, kept.answers, fun entry inside authentic => ?_⟩
    · rw [List.forall_mem_append, List.forall_mem_singleton]
      refine ⟨kept.stamps, honest.1, ?_⟩
      obtain ⟨n, parsed⟩ := Option.ne_none_iff_exists'.mp honest.2
      exact colonless _ _ parsed
    · have before := kept.handled entry inside authentic
      obtain ⟨text, seconds, stamp, among, parsed, recent⟩ := before.signed
      exact { before with signed := ⟨text, seconds, stamp, List.mem_append_left _ among, parsed, recent⟩ }
  | request now request =>
    cases stepped
    refine ⟨kept.stamps, ?_, ?_, ?_⟩ <;> rw [List.forall_mem_append, List.forall_mem_singleton]
    · exact ⟨kept.clocks, honest.1⟩
    · exact ⟨kept.answers, rfl⟩
    · exact ⟨kept.handled, handled_of_authentic colonless kept.stamps honest⟩

end

/-- Whoever sends which requests, and whenever: what the handlers answer was signed for the timestamp of its request, within
    300 seconds, so that no timestamp serves for more than 600 seconds; everything else is refused unread; and
    what carries a recent signature is handled. -/
theorem handled_as_signed (library : Library) (web : Web) (secret : String) (colonless : Colonless library) (events : List Event)
    (honest : ∀ before event after, Takes (step library web secret) initial events before event after →
      Honest library secret before event)
    (s : State) (reached : run (step library web secret) initial events = some s) :
    (∀ entry ∈ s.answered, Handled library web s.signed entry ∨
      Refused library secret entry.now entry.request entry.answer) ∧
    (∀ a ∈ s.answered, ∀ b ∈ s.answered, Handled library web s.signed a → Handled library web s.signed b →
      a.request.xSlackRequestTimestamp = b.request.xSlackRequestTimestamp → |a.now - b.now| ≤ 600) ∧
    ∀ entry ∈ s.answered, Authentic library secret entry.now entry.request → Handled library web s.signed entry := by
  have start : Kept library web secret initial := ⟨by rintro _ ⟨⟩, by rintro _ ⟨⟩, by rintro _ ⟨⟩, by rintro _ ⟨⟩⟩
  have kept : Kept library web secret s := (invariant_of_run (Kept library web secret) (Honest library secret)
    (fun _ _ _ kept honest stepped => kept.step colonless honest stepped) events initial start honest).1 s reached
  refine ⟨fun entry inside => ?_, ?_, kept.handled⟩
  · by_cases authentic : Authentic library secret entry.now entry.request
    · exact .inl (kept.handled entry inside authentic)
    · rw [kept.answers entry inside]
      exact .inr (slackWebhook_refused (kept.clocks entry inside) authentic)
  · rintro a - b - first second same
    obtain ⟨timestamp, seconds, stamp, -, parsed, recent⟩ := first.signed
    obtain ⟨timestamp', seconds', stamp', -, parsed', recent'⟩ := second.signed
    rw [stamp, stamp'] at same
    cases same
    rw [parsed] at parsed'
    cases parsed'
    rw [abs_le] at recent recent' ⊢
    constructor <;> linarith [recent.1, recent.2, recent'.1, recent'.2]

def commandBody : Bytes := ascii "command=/solvo-onramp&text=status+abc"

/-- The digest of one message, which is no digest of another. -/
def commandLibrary : Library where
  int := sampleLibrary.int
  hmacSha256 key message := if message = basestring "1000" commandBody then sampleLibrary.hmacSha256 key message else ""
  hmacSha256_ascii := by
    intro key message
    by_cases here : message = basestring "1000" commandBody
    · rw [if_pos here]
      exact sampleLibrary.hmacSha256_ascii key message
    · rw [if_neg here]
      rintro c ⟨⟩

def commandWeb : Web where
  platform := samplePlatform
  parseQs _ := [("command", ["/solvo-onramp"]), ("text", ["status abc"])]
  jsonLoads _ := .error (PyExc.mk' .jsonDecodeError "Expecting value: line 1 column 1 (char 0)")

def commandRequest : Request where
  xSlackSignature := some "v0=0a5638b22ddd69dbbbb38e83e2b7da8769d1e44a99c7524e17ba497065f2a783"
  xSlackRequestTimestamp := some "1000"
  contentType := "application/x-www-form-urlencoded"
  body := commandBody

/-- Somebody else puts another body under the signature. -/
def tamperedRequest : Request := { commandRequest with body := ascii "command=/solvo-onramp&text=status+xyz" }

/-- Slack signs a command, and it is sent after a hundred seconds, and then with another body. -/
def commandEvents : List Event := [.sign "1000" commandBody, .request 1100 commandRequest, .request 1100 tamperedRequest]

theorem commandLibrary_colonless : Colonless commandLibrary := by
  intro text n parsed colon
  change (digitsValue text.toList).map Int.ofNat = some n at parsed
  unfold digitsValue at parsed
  split_ifs at parsed with digits
  · exact absurd (List.all_eq_true.mp digits.2 ':' colon) (by decide)
  · cases parsed

theorem command_honest : ∀ before event after,
    Takes (step commandLibrary commandWeb "test-signing-secret") initial commandEvents before event after →
      Honest commandLibrary "test-signing-secret" before event := by
  have clock : Clock 1100 := ⟨by norm_num, by norm_num, 1100 * 2 ^ 44, by norm_num⟩
  intro before event after taken
  cases taken with
  | here stepped => exact ⟨by decide, by decide⟩
  | later stepped taken =>
    cases stepped
    cases taken with
    | here stepped =>
      refine ⟨clock, fun timestamp stamp _ => ?_⟩
      cases stamp
      exact ⟨("1000", commandBody), by simp [initial], rfl⟩
    | later stepped taken =>
      cases stepped
      cases taken with
      | here stepped =>
        refine ⟨clock, fun timestamp stamp digest => ?_⟩
        cases stamp
        -- What is signed for the other body has no digest of this length.
        exact absurd digest (by decide)
      | later stepped taken => cases taken

theorem handled_as_signed_command : ∃ s first second,
    run (step commandLibrary commandWeb "test-signing-secret") initial commandEvents = some s ∧ s.answered = [first, second] ∧
      Handled commandLibrary commandWeb s.signed first ∧
      Refused commandLibrary "test-signing-secret" second.now second.request second.answer := by
  refine ⟨_, _, _, rfl, rfl, ?_, ?_⟩
  · have result := handled_as_signed commandLibrary commandWeb "test-signing-secret" commandLibrary_colonless commandEvents
      command_honest _ rfl
    refine result.2.2 _ (by simp [initial]) ?_
    refine ⟨_, _, rfl, rfl, by decide, by decide, ⟨1000, by decide, ?_⟩, ?_⟩
    · norm_num
    · decide
  · have result := handled_as_signed commandLibrary commandWeb "test-signing-secret" commandLibrary_colonless commandEvents
      command_honest _ rfl
    refine (result.1 _ (by simp [initial])).resolve_left fun handled => ?_
    obtain ⟨timestamp, -, -, signed, -, -⟩ := handled.signed
    have same : tamperedRequest.body = commandBody := by simpa [initial] using (Prod.mk.inj (List.mem_singleton.mp signed)).2
    exact absurd same (by decide)

end Onramp.SlackWebhook
