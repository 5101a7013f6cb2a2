import Mathlib.Algebra.Order.Ring.Abs
import Onramp.Classifier
import Onramp.Library.BinaryFloat

/-!
The verification of Slack's signature and what the webhook answers when it fails. The
headers are texts of any kind: the timestamp goes through `int`, a difference of floats and
an ASCII encoding, the signature through `compare_digest`.
-/
namespace Onramp.SlackSigning
open Onramp.Python
open Onramp.Values
open Onramp.Classifier (Bytes ascii)
open Onramp.Library.BinaryFloat

/-- What the verification takes from the library. -/
structure Library where
  /-- `int(text)`, nothing when it raises `ValueError` -/
  int : String → Option Int
  /-- `hmac.new(key, message, hashlib.sha256).hexdigest()` -/
  hmacSha256 : Bytes → Bytes → String
  hmacSha256_ascii : ∀ key message, Ascii (hmacSha256 key message)

def replayWindowSeconds : ℚ := 300

def slackSignatureErrorClass : ExcClass := .other "SlackSignatureError"

def slackSignatureError (message : String) : PyExc := PyExc.mk' slackSignatureErrorClass message

/-- The double that a result is rounded to. -/
def double (x : ℚ) : ℚ := round 53 (-1074) x

/-- An integer as an operand of a float. -/
def floatOfInt (n : Int) : Raises ℚ :=
  if |double n| < 2 ^ 1024 then .ok (double n)
  else .error (PyExc.mk' (.other "OverflowError") "int too large to convert to float")

instance : DecidablePred Ascii := fun s => List.decidableBAll (fun c : Char => c.toNat < 128) s.toList

/-- `s.encode("utf-8")`. -/
def utf8 (s : String) : Bytes := s.toUTF8.toList

/-- `s.encode("ascii")`. -/
def encodeAscii (s : String) : Raises Bytes :=
  if Ascii s then .ok (ascii s) else .error (PyExc.mk' (.other "UnicodeEncodeError") "ordinal not in range(128)")

/-- `hmac.compare_digest(a, b)`, of two strings. -/
def compareDigest (a b : String) : Raises Bool :=
  if Ascii a ∧ Ascii b then .ok (a = b)
  else .error (PyExc.mk' .typeError "comparing strings with non-ASCII characters is not supported")

variable (library : Library) (now : ℚ) (secret : String) (body : Bytes) (timestamp signature : String)

/-- The signature of a body, from the bytes of its timestamp. -/
def expectedFor (encoded : Bytes) : String :=
  "v0=" ++ library.hmacSha256 (utf8 secret) (ascii "v0:" ++ encoded ++ ascii ":" ++ body)

def verifySignature : Raises Bool :=
  if secret = "" then .error (slackSignatureError "slack signing secret not configured")
  else
    match library.int timestamp with
    | none => .error (slackSignatureError "invalid timestamp header")
    | some tsInt => do
      let seconds ← floatOfInt tsInt
      if replayWindowSeconds < |double (now - seconds)| then
        .error (slackSignatureError "timestamp outside replay window")
      else do
        let encoded ← encodeAscii timestamp
        let same ← compareDigest (expectedFor library secret body encoded) signature
        if same then return true else .error (slackSignatureError "signature mismatch")

/-- The status with which `slack_webhook` refuses a request, if it does. What is not a
    `SlackSignatureError` goes through. -/
def slackWebhookStatus : Raises Bool → Option Nat
  | .ok _ => none
  | .error exc =>
    if exc.cls = slackSignatureErrorClass then
      some (if "replay window".toList <:+: exc.message.toList then 403 else 401)
    else some 500

/-- The request is recent and signed with the secret. -/
structure Genuine : Prop where
  configured : secret ≠ ""
  recent : ∃ tsInt, library.int timestamp = some tsInt ∧ |now - tsInt| ≤ replayWindowSeconds
  signed : signature = expectedFor library secret body (ascii timestamp)

/-- Genuine requests are accepted, and every other one is answered 401 or 403 through a
    `SlackSignatureError`. -/
structure Verifies : Prop where
  accepts : verifySignature library now secret body timestamp signature = .ok true ↔
    Genuine library now secret body timestamp signature
  refuses : ¬ Genuine library now secret body timestamp signature →
    ∃ exc, verifySignature library now secret body timestamp signature = .error exc ∧
      exc.cls = slackSignatureErrorClass ∧
      slackWebhookStatus (verifySignature library now secret body timestamp signature) ∈ [some 401, some 403]

/-- The difference of the floats is within the window. -/
def InWindow (now : ℚ) (tsInt : Int) : Prop := |double (now - double tsInt)| ≤ replayWindowSeconds

/-- What the verification relies on once the timestamp is a number: it converts to a float,
    inside the window both headers are ASCII, and for the right signature the floats decide
    the window as the numbers do. -/
structure Regular (tsInt : Int) : Prop where
  converts : |double tsInt| < 2 ^ 1024
  plain : InWindow now tsInt → Ascii timestamp ∧ Ascii signature
  window : signature = expectedFor library secret body (ascii timestamp) →
    (InWindow now tsInt ↔ |now - tsInt| ≤ replayWindowSeconds)

variable {library now secret body timestamp signature}

theorem expectedFor_ascii (encoded : Bytes) : Ascii (expectedFor library secret body encoded) := by
  intro c inside
  rw [expectedFor, String.toList_append] at inside
  rcases List.mem_append.mp inside with version | digest
  · have small : Ascii "v0=" := by decide
    exact small c version
  · exact library.hmacSha256_ascii _ _ c digest

section
variable {tsInt : Int}

theorem verify_overflow (configured : secret ≠ "") (parsed : library.int timestamp = some tsInt)
    (large : ¬ |double tsInt| < 2 ^ 1024) :
    verifySignature library now secret body timestamp signature =
      .error (PyExc.mk' (.other "OverflowError") "int too large to convert to float") := by
  simp only [verifySignature, configured, if_false, parsed, floatOfInt, large]
  rfl

theorem verify_stale (configured : secret ≠ "") (parsed : library.int timestamp = some tsInt)
    (converts : |double tsInt| < 2 ^ 1024) (outside : ¬ InWindow now tsInt) :
    verifySignature library now secret body timestamp signature =
      .error (slackSignatureError "timestamp outside replay window") := by
  have late : replayWindowSeconds < |double (now - double tsInt)| := not_le.mp outside
  simp only [verifySignature, configured, if_false, parsed, floatOfInt, converts, if_true, bind, Except.bind, late]

theorem verify_recent (configured : secret ≠ "") (parsed : library.int timestamp = some tsInt)
    (converts : |double tsInt| < 2 ^ 1024) (inside : InWindow now tsInt) :
    verifySignature library now secret body timestamp signature = (do
      let encoded ← encodeAscii timestamp
      let same ← compareDigest (expectedFor library secret body encoded) signature
      if same then return true else .error (slackSignatureError "signature mismatch")) := by
  have recent : ¬ replayWindowSeconds < |double (now - double tsInt)| := not_lt.mpr inside
  simp only [verifySignature, configured, if_false, parsed, floatOfInt, converts, if_true, bind, Except.bind, recent]

/-- A header outside ASCII, in time. -/
theorem verify_not_ascii (configured : secret ≠ "") (parsed : library.int timestamp = some tsInt)
    (converts : |double tsInt| < 2 ^ 1024) (inside : InWindow now tsInt) (other : ¬ (Ascii timestamp ∧ Ascii signature)) :
    ∃ exc, verifySignature library now secret body timestamp signature = .error exc ∧
      exc.cls ≠ slackSignatureErrorClass := by
  rw [verify_recent configured parsed converts inside, encodeAscii]
  by_cases encodable : Ascii timestamp
  · have unsigned : ¬ Ascii signature := fun plain => other ⟨encodable, plain⟩
    simp only [encodable, if_true, bind, Except.bind, compareDigest, unsigned, and_false, if_false]
    exact ⟨_, rfl, by decide⟩
  · simp only [encodable, if_false, bind, Except.bind]
    exact ⟨_, rfl, by decide⟩

/-- Two ASCII headers, in time. -/
theorem verify_ascii (configured : secret ≠ "") (parsed : library.int timestamp = some tsInt)
    (converts : |double tsInt| < 2 ^ 1024) (inside : InWindow now tsInt) (encodable : Ascii timestamp)
    (plain : Ascii signature) :
    verifySignature library now secret body timestamp signature =
      if signature = expectedFor library secret body (ascii timestamp) then .ok true
      else .error (slackSignatureError "signature mismatch") := by
  rw [verify_recent configured parsed converts inside, encodeAscii]
  simp only [encodable, if_true, bind, Except.bind, compareDigest, expectedFor_ascii, plain, and_self]
  by_cases signed : signature = expectedFor library secret body (ascii timestamp)
  · simp [signed, pure, Except.pure]
  · simp [signed, Ne.symm signed]

end

/-- A refusal with a `SlackSignatureError` is what every request that is not genuine gets. -/
theorem verifies_of_refused {message : String}
    (refused : verifySignature library now secret body timestamp signature = .error (slackSignatureError message))
    (forged : ¬ Genuine library now secret body timestamp signature) :
    Verifies library now secret body timestamp signature := by
  refine ⟨?_, fun _ => ⟨_, refused, rfl, ?_⟩⟩
  · rw [refused]
    exact iff_of_false (by simp) forged
  · rw [refused, slackWebhookStatus, slackSignatureError, PyExc.mk', if_pos rfl]
    split <;> simp

/-- Another exception is never right. -/
theorem not_verifies_of_raised {exc : PyExc}
    (raised : verifySignature library now secret body timestamp signature = .error exc)
    (other : exc.cls ≠ slackSignatureErrorClass) : ¬ Verifies library now secret body timestamp signature := by
  intro verifies
  by_cases genuine : Genuine library now secret body timestamp signature
  · have accepted := verifies.accepts.mpr genuine
    rw [raised] at accepted
    cases accepted
  · obtain ⟨exc', raised', same, _⟩ := verifies.refuses genuine
    rw [raised] at raised'
    cases raised'
    exact other same

theorem genuine_iff {tsInt : Int} (configured : secret ≠ "") (parsed : library.int timestamp = some tsInt) :
    Genuine library now secret body timestamp signature ↔
      |now - tsInt| ≤ replayWindowSeconds ∧ signature = expectedFor library secret body (ascii timestamp) := by
  constructor
  · rintro ⟨_, ⟨tsInt', parsed', recent⟩, signed⟩
    rw [parsed] at parsed'
    cases parsed'
    exact ⟨recent, signed⟩
  · rintro ⟨recent, signed⟩
    exact ⟨configured, ⟨tsInt, parsed, recent⟩, signed⟩

theorem verifies_unparsed (missing : secret ≠ "" → library.int timestamp = none) :
    Verifies library now secret body timestamp signature := by
  by_cases configured : secret = ""
  · have refused : verifySignature library now secret body timestamp signature =
        .error (slackSignatureError "slack signing secret not configured") := by
      rw [verifySignature, if_pos configured]
    exact verifies_of_refused refused (fun genuine => genuine.configured configured)
  · have unparsed := missing configured
    have refused : verifySignature library now secret body timestamp signature =
        .error (slackSignatureError "invalid timestamp header") := by
      rw [verifySignature, if_neg configured, unparsed]
    refine verifies_of_refused refused ?_
    rintro ⟨_, ⟨tsInt, parsed, _⟩, _⟩
    rw [unparsed] at parsed
    cases parsed

/-- With a number for a timestamp the verification ends as it should exactly where the number
    and the headers are regular. -/
theorem verifies_parsed_iff {tsInt : Int} (configured : secret ≠ "") (parsed : library.int timestamp = some tsInt) :
    Verifies library now secret body timestamp signature ↔
      Regular library now secret body timestamp signature tsInt := by
  have genuine : Genuine library now secret body timestamp signature ↔ _ := genuine_iff configured parsed
  by_cases converts : |double tsInt| < 2 ^ 1024
  swap
  · refine iff_of_false ?_ (fun regular => converts regular.converts)
    exact not_verifies_of_raised (verify_overflow configured parsed converts) (by decide)
  by_cases inside : InWindow now tsInt
  swap
  · have refused : verifySignature library now secret body timestamp signature = _ :=
      verify_stale configured parsed converts inside
    constructor
    · intro verifies
      refine ⟨converts, fun within => absurd within inside, fun signed => iff_of_false inside ?_⟩
      intro recent
      have accepted := verifies.accepts.mpr (genuine.mpr ⟨recent, signed⟩)
      rw [refused] at accepted
      cases accepted
    · intro regular
      refine verifies_of_refused refused (fun forged => ?_)
      obtain ⟨recent, signed⟩ := genuine.mp forged
      exact inside ((regular.window signed).mpr recent)
  by_cases plain : Ascii timestamp ∧ Ascii signature
  swap
  · refine iff_of_false ?_ (fun regular => plain (regular.plain inside))
    obtain ⟨exc, raised, other⟩ : ∃ exc, verifySignature library now secret body timestamp signature = .error exc ∧ _ :=
      verify_not_ascii configured parsed converts inside plain
    exact not_verifies_of_raised raised other
  have decided : verifySignature library now secret body timestamp signature = _ :=
    verify_ascii configured parsed converts inside plain.1 plain.2
  by_cases signed : signature = expectedFor library secret body (ascii timestamp)
  · rw [if_pos signed] at decided
    constructor
    · intro verifies
      obtain ⟨recent, _⟩ := genuine.mp (verifies.accepts.mp decided)
      exact ⟨converts, fun _ => plain, fun _ => iff_of_true inside recent⟩
    · intro regular
      have authentic := genuine.mpr ⟨(regular.window signed).mp inside, signed⟩
      exact ⟨iff_of_true decided authentic, fun forged => absurd authentic forged⟩
  · rw [if_neg signed] at decided
    refine iff_of_true ?_ ⟨converts, fun _ => plain, fun same => absurd same signed⟩
    exact verifies_of_refused decided (fun forged => signed (genuine.mp forged).2)

/-- For every request and every clock, the verification is sound and refuses with a
    `SlackSignatureError` exactly where a timestamp that is a number is regular. -/
theorem verifySignature_verifies_iff (library : Library) (now : ℚ) (secret : String) (body : Bytes)
    (timestamp signature : String) :
    Verifies library now secret body timestamp signature ↔
      (secret ≠ "" → ∀ tsInt, library.int timestamp = some tsInt →
        Regular library now secret body timestamp signature tsInt) := by
  by_cases configured : secret = ""
  · exact iff_of_true (verifies_unparsed (fun set => absurd configured set)) (fun set => absurd configured set)
  · cases parsed : library.int timestamp with
    | none => exact iff_of_true (verifies_unparsed (fun _ => parsed)) (by simp)
    | some tsInt =>
      rw [verifies_parsed_iff configured parsed]
      constructor
      · rintro regular _ _ ⟨⟩
        exact regular
      · intro all
        exact all configured tsInt rfl

/-- A double from 256 seconds to `2 ^ 52` seconds after the epoch. -/
structure Clock (now : ℚ) : Prop where
  low : 256 ≤ now
  high : now ≤ 2 ^ 52
  places : ∃ k : ℤ, now = k * 2 ^ (-44 : ℤ)

theorem double_intCast {n : ℤ} (short : |(n : ℚ)| < 2 ^ 53) : double n = n := by
  have kept : round 53 (-1074) ((n : ℚ) * 2 ^ (0 : ℤ)) = n * 2 ^ (0 : ℤ) := round_exact (by norm_num) short
  rw [zpow_zero, mul_one] at kept
  exact kept

/-- Far from zero the difference stays outside the window. -/
theorem far_of_far {x : ℚ} (far : 512 ≤ |x|) : ¬ |double x| ≤ replayWindowSeconds := by
  have rounded : (2 : ℚ) ^ (9 : ℤ) ≤ |round 53 (-1074) x| := le_abs_round (by norm_num) (by norm_num) (by norm_num; exact far)
  norm_num at rounded
  rw [replayWindowSeconds, double, not_le]
  linarith

/-- An integer beyond the clock, as a double. -/
theorem double_far {now : ℚ} (clock : Clock now) {n : ℤ} (large : ¬ |(n : ℚ)| < 2 ^ 53) :
    512 ≤ |now - n| ∧ 512 ≤ |now - double n| := by
  have low := clock.low
  have high := clock.high
  rcases le_total 0 n with positive | negative
  · have size : (2 : ℚ) ^ (53 : ℤ) ≤ n := by
      rw [abs_of_nonneg (by exact_mod_cast positive), not_lt] at large
      exact_mod_cast large
    have rounded : (2 : ℚ) ^ (53 : ℤ) ≤ double n := le_round (by norm_num) (by norm_num) size
    norm_num at size rounded high
    constructor <;> rw [le_abs] <;> right <;> linarith
  · have size : (2 : ℚ) ^ (53 : ℤ) ≤ -n := by
      rw [abs_of_nonpos (by exact_mod_cast negative), not_lt] at large
      exact_mod_cast large
    have rounded : (2 : ℚ) ^ (53 : ℤ) ≤ -double n := by
      rw [double, ← round_neg]
      exact le_round (by norm_num) (by norm_num) size
    norm_num at size rounded
    constructor <;> rw [le_abs] <;> left <;> linarith

/-- Such a clock decides the window as the numbers do, for every timestamp. -/
theorem inWindow_iff {now : ℚ} (clock : Clock now) (tsInt : ℤ) :
    InWindow now tsInt ↔ |now - tsInt| ≤ replayWindowSeconds := by
  unfold InWindow
  have outside : ∀ x : ℚ, 512 ≤ |x| → ¬ |x| ≤ replayWindowSeconds := by
    intro x far near
    rw [replayWindowSeconds] at near
    linarith
  by_cases short : |(tsInt : ℚ)| < 2 ^ 53
  swap
  · obtain ⟨far, far'⟩ := double_far clock short
    exact iff_of_false (far_of_far far') (outside _ far)
  rw [double_intCast short]
  by_cases near : |now - tsInt| < 512
  swap
  · exact iff_of_false (far_of_far (not_lt.mp near)) (outside _ (not_lt.mp near))
  obtain ⟨k, places⟩ := clock.places
  have difference : now - tsInt = ((k - tsInt * 2 ^ 44 : ℤ) : ℚ) * 2 ^ (-44 : ℤ) := by
    rw [places]
    push_cast
    norm_num
    ring
  have few : |((k - tsInt * 2 ^ 44 : ℤ) : ℚ)| < 2 ^ 53 := by
    rw [difference, abs_mul, abs_of_pos (by positivity : (0 : ℚ) < 2 ^ (-44 : ℤ))] at near
    norm_num at near ⊢
    linarith
  rw [difference, double, round_exact (by norm_num) few]

/-- `int` of plain digits, and the digest of one message. -/
def sampleLibrary : Library where
  int text := (digitsValue text.toList).map Int.ofNat
  hmacSha256 _ _ := "0a5638b22ddd69dbbbb38e83e2b7da8769d1e44a99c7524e17ba497065f2a783"
  hmacSha256_ascii := by
    intro _ _
    decide

/-- A request in time whose signature has an accented letter. -/
theorem verifySignature_not_sound :
    ¬ ∀ (library : Library) (now : ℚ) (secret : String) (body : Bytes) (timestamp signature : String),
      Verifies library now secret body timestamp signature := by
  intro always
  have verifies := always sampleLibrary 1000 "test-signing-secret" (ascii "command=/solvo-onramp&text=status+abc") "1000" "v0=é"
  have clock : Clock 1000 := ⟨by norm_num, by norm_num, 1000 * 2 ^ 44, by norm_num⟩
  have parsed : sampleLibrary.int "1000" = some 1000 := by decide
  have inside : InWindow 1000 1000 := (inWindow_iff clock 1000).mpr (by norm_num [replayWindowSeconds])
  have regular := (verifies_parsed_iff (by decide) parsed).mp verifies
  exact absurd (regular.plain inside).2 (by decide)

end Onramp.SlackSigning
