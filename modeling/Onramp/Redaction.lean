import Mathlib.Data.List.TakeWhile
import Mathlib.Data.Set.Defs
import Onramp.Staging
import Onramp.Tasks

/-!
What the record of a failure shows of a staged file. The redaction takes a staging path up
to the next whitespace or quote, so a name without either disappears whole, whatever stands
around the path; a name with one is recorded from there on.
-/
namespace Onramp.Redaction
open Onramp.Python
open Onramp.Values
open Onramp.Database
open Onramp.Tasks

/-- The text `/tmp/onramp/<job_id>/<name>`. -/
def stagingPath (jobId filename : String) : String := "/tmp/onramp/" ++ jobId ++ "/" ++ filename

/-- `str(job_dir / filename)` is this text when the filename is a single name; a filename with slashes or dots is joined
    by its parts, which this text does not follow. -/
theorem str_stagingPath {jobId filename : String} (job : Staging.PlainName jobId) (name : Staging.PlainName filename) :
    (Staging.stagingPath jobId (some filename)).str = stagingPath jobId filename := by
  have named : Staging.uploadName (some filename) = filename := if_neg name.1
  have parts : Staging.stagingPath jobId (some filename) = ⟨true, ["tmp", "onramp", jobId, filename]⟩ := by
    rw [Staging.stagingPath, named, Staging.jobDir_eq job, Staging.parse_plain name]
    rfl
  rw [parts, stagingPath, Staging.PurePosixPath.str]
  apply String.toList_injective
  simp

/-- No whitespace and no quote. -/
def PathOnly (text : String) : Prop := ∀ c ∈ text.toList, pathChar c = true

instance : DecidablePred PathOnly := fun text => List.decidableBAll (fun c : Char => pathChar c = true) text.toList

/-- The record of every failure whose message has the path of the one file is that of the same
    failure with the path of the other. The id of a job is all hexadecimal digits. -/
def Alike (filename other : String) : Prop :=
  ∀ (stage : Stage) (cls : ExcClass) (status : Option Int) (jobId front back : String), PathOnly jobId →
    failurePayload stage ⟨cls, front ++ stagingPath jobId filename ++ back, status⟩ =
      failurePayload stage ⟨cls, front ++ stagingPath jobId other ++ back, status⟩

/-- A match starts here. -/
def opens (text : List Char) : Bool :=
  tmpPath.isPrefixOf text && ((text.drop tmpPath.length).head?.map pathChar).getD false

/-- The redaction with as much fuel as there are characters. -/
def redacted (text : List Char) : List Char := redact text.length text

/-- What is left behind a match is shorter than the text. -/
theorem length_behind (c : Char) (rest : List Char) :
    (((c :: rest).drop tmpPath.length).dropWhile pathChar).length ≤ rest.length := by
  have twelve : tmpPath.length = 12 := by decide
  refine (List.length_dropWhile_le pathChar _).trans ?_
  rw [List.length_drop, List.length_cons]
  omega

theorem redact_enough {fuel : Nat} {text : List Char} (enough : text.length ≤ fuel) :
    ∀ {fuel' : Nat}, text.length ≤ fuel' → redact fuel text = redact fuel' text := by
  induction fuel generalizing text with
  | zero =>
    intro fuel' _
    obtain rfl := List.eq_nil_of_length_eq_zero (Nat.le_zero.mp enough)
    cases fuel' <;> rfl
  | succ fuel ih =>
    intro fuel' enough'
    cases text with
    | nil => cases fuel' <;> rfl
    | cons c rest =>
      cases fuel' with
      | zero => cases enough'
      | succ fuel' =>
        have within : rest.length ≤ fuel := Nat.le_of_succ_le_succ enough
        have within' : rest.length ≤ fuel' := Nat.le_of_succ_le_succ enough'
        have behind := length_behind c rest
        rw [redact, redact, ih (behind.trans within) (behind.trans within'), ih within within']

theorem redacted_cons (c : Char) (rest : List Char) :
    redacted (c :: rest) =
      if opens (c :: rest) = true then
        "<staging>".toList ++ redacted (((c :: rest).drop tmpPath.length).dropWhile pathChar)
      else c :: redacted rest := by
  rw [redacted, List.length_cons, redact, redact_enough (length_behind c rest) le_rfl]
  rfl

/-- Whether a match starts is seen from the prefix and the next character. -/
theorem opens_take (text : List Char) : opens text = opens (text.take (tmpPath.length + 1)) := by
  have front : tmpPath.isPrefixOf text = tmpPath.isPrefixOf (text.take (tmpPath.length + 1)) := by
    rw [Bool.eq_iff_iff, List.isPrefixOf_iff_prefix, List.isPrefixOf_iff_prefix, List.prefix_take_iff]
    simp
  have next : (text.drop tmpPath.length).head? = ((text.take (tmpPath.length + 1)).drop tmpPath.length).head? := by
    rw [List.head?_drop, List.head?_drop, List.getElem?_take, if_pos (Nat.lt_succ_self _)]
  rw [opens, opens, front, next]

theorem tmpPath_pathOnly : ∀ c ∈ tmpPath, pathChar c = true := List.all_eq_true.mp (by decide)

section
variable {front inside other back : List Char}

/-- A path that reaches the text is one match. -/
theorem redacted_path (some : inside ≠ []) (path : ∀ c ∈ inside, pathChar c = true) :
    redacted (tmpPath ++ (inside ++ back)) = "<staging>".toList ++ redacted (back.dropWhile pathChar) := by
  obtain ⟨c, rest, rfl⟩ := List.exists_cons_of_ne_nil some
  have starts : opens (tmpPath ++ (c :: rest ++ back)) = true := by
    have headed : tmpPath.isPrefixOf (tmpPath ++ (c :: rest ++ back)) = true :=
      List.isPrefixOf_iff_prefix.mpr (List.prefix_append _ _)
    rw [opens, headed, List.drop_left]
    simpa using path c List.mem_cons_self
  have slash : tmpPath ++ (c :: rest ++ back) = '/' :: (tmpPath.tail ++ (c :: rest ++ back)) := rfl
  rw [slash] at starts ⊢
  rw [redacted_cons, if_pos starts, ← slash, List.drop_left, List.dropWhile_append_of_pos path]

/-- A match that starts in front of the path ends there or takes the path along. -/
theorem behind_eq (path : ∀ c ∈ inside, pathChar c = true) :
    ((front ++ (tmpPath ++ (inside ++ back))).drop tmpPath.length).dropWhile pathChar =
      if ((front.drop tmpPath.length).dropWhile pathChar).isEmpty = true then back.dropWhile pathChar
      else (front.drop tmpPath.length).dropWhile pathChar ++ (tmpPath ++ (inside ++ back)) := by
  have rest : ∀ c ∈ tmpPath.drop (tmpPath.length - front.length), pathChar c = true :=
    fun c among => tmpPath_pathOnly c (List.mem_of_mem_drop among)
  rw [List.drop_append, List.drop_append_of_le_length (Nat.sub_le _ _), List.dropWhile_append,
    List.dropWhile_append_of_pos rest, List.dropWhile_append_of_pos path]
  by_cases ends : ((front.drop tmpPath.length).dropWhile pathChar).isEmpty = true
  · rw [if_pos ends, if_pos ends]
  · have long : tmpPath.length ≤ front.length := by
      by_contra short
      rw [List.drop_eq_nil_of_le (by omega)] at ends
      exact ends rfl
    rw [if_neg ends, if_neg ends, Nat.sub_eq_zero_of_le long, List.drop_zero]

/-- Two paths without whitespace and quotes cannot be told apart, whatever stands in front of
    them and behind. -/
theorem redacted_alike (some : inside ≠ []) (path : ∀ c ∈ inside, pathChar c = true) (some' : other ≠ [])
    (path' : ∀ c ∈ other, pathChar c = true) (front : List Char) :
    redacted (front ++ (tmpPath ++ (inside ++ back))) = redacted (front ++ (tmpPath ++ (other ++ back))) := by
  induction length : front.length using Nat.strong_induction_on generalizing front with
  | _ n ih =>
    cases front with
    | nil => rw [List.nil_append, List.nil_append, redacted_path some path, redacted_path some' path']
    | cons c rest =>
      have seen : ∀ text, opens (c :: rest ++ (tmpPath ++ text)) = opens ((c :: rest ++ tmpPath).take (tmpPath.length + 1)) := by
        intro text
        rw [opens_take, ← List.append_assoc, List.take_append_of_le_length]
        simp only [List.length_append, List.length_cons]
        omega
      have same := (seen (inside ++ back)).trans (seen (other ++ back)).symm
      have shorter := ih rest.length (by rw [← length]; exact Nat.lt_succ_self _) rest rfl
      have step : ∀ text, redacted (c :: rest ++ text) =
          if opens (c :: rest ++ text) = true then
            "<staging>".toList ++ redacted (((c :: rest ++ text).drop tmpPath.length).dropWhile pathChar)
          else c :: redacted (rest ++ text) := fun text => redacted_cons c (rest ++ text)
      rw [step, step, same, shorter, behind_eq path, behind_eq path']
      -- the match that starts here, if one does, stops in front of the paths or takes both
      by_cases ends : (((c :: rest).drop tmpPath.length).dropWhile pathChar).isEmpty = true
      · rw [if_pos ends, if_pos ends]
      · have left : (((c :: rest).drop tmpPath.length).dropWhile pathChar).length < n := by
          rw [← length]
          exact Nat.lt_succ_of_le (length_behind c rest)
        rw [if_neg ends, if_neg ends, ih _ left _ rfl]

/-- Behind the staging marker a text goes on with the first whitespace or quote of the name. -/
theorem redacted_leaks (some : inside ≠ []) (path : ∀ c ∈ inside, pathChar c = true) {c : Char} {rest : List Char}
    (stops : pathChar c = false) :
    redacted (tmpPath ++ (inside ++ c :: rest)) = "<staging>".toList ++ c :: redacted rest := by
  have closed : opens (c :: rest) = false := by
    have differs : c ≠ '/' := by
      rintro rfl
      exact absurd stops (by decide)
    have other : tmpPath.isPrefixOf (c :: rest) = false := by
      have headed : tmpPath = '/' :: tmpPath.tail := rfl
      rw [Bool.eq_false_iff, Ne, List.isPrefixOf_iff_prefix, headed, List.cons_prefix_cons]
      exact fun both => differs both.1.symm
    rw [opens, other, Bool.false_and]
  rw [redacted_path some path, List.dropWhile_cons_of_neg (by simp [stops]), redacted_cons, if_neg (by simp [closed])]

end

theorem failurePayload_eq (stage : Stage) (exc : PyExc) :
    failurePayload stage exc =
      .failure stage exc.cls.name (sliceTo 500 (String.ofList (redacted exc.message.toList))) := by
  rw [failurePayload, redacted, String.length_toList]

/-- The characters of a message with a staging path. -/
theorem toList_message (front jobId filename back : String) :
    (front ++ stagingPath jobId filename ++ back).toList =
      front.toList ++ (tmpPath ++ ((jobId.toList ++ '/' :: filename.toList) ++ back.toList)) := by
  have slash : "/".toList = ['/'] := rfl
  have root : "/tmp/onramp/".toList = tmpPath := rfl
  simp only [stagingPath, String.toList_append, root, slash, List.append_assoc, List.cons_append, List.nil_append]

theorem pathOnly_inside {jobId filename : String} (job : PathOnly jobId) (path : PathOnly filename) :
    ∀ c ∈ jobId.toList ++ '/' :: filename.toList, pathChar c = true := by
  intro c among
  rcases List.mem_append.mp among with first | later
  · exact job c first
  · rcases List.mem_cons.mp later with rfl | last
    · rfl
    · exact path c last

theorem alike_of_pathOnly {filename other : String} (path : PathOnly filename) (path' : PathOnly other) :
    Alike filename other := by
  intro stage cls status jobId front back job
  rw [failurePayload_eq, failurePayload_eq]
  simp only
  rw [toList_message, toList_message,
    redacted_alike (by simp) (pathOnly_inside job path) (by simp) (pathOnly_inside job path')]

/-- A name that is recorded in part, beside one that is not. -/
theorem not_alike {filename other : String} (leaks : ¬ PathOnly filename) (path : PathOnly other) :
    ¬ Alike filename other := by
  intro alike
  have job : PathOnly "4f1c" := by decide
  have records := alike .extractFailed .extractionError none "4f1c" "" "" job
  rw [failurePayload_eq, failurePayload_eq] at records
  injection records with _ _ texts
  have stops : filename.toList.dropWhile pathChar ≠ [] := fun none => leaks (List.dropWhile_eq_nil_iff.mp none)
  obtain ⟨c, rest, behind⟩ := List.exists_cons_of_ne_nil stops
  have first : pathChar c = false := by
    have stop := List.dropWhile_get_zero_not pathChar filename.toList (by simp [behind])
    simpa [behind] using stop
  have split : filename.toList = filename.toList.takeWhile pathChar ++ c :: rest := by
    rw [← behind, List.takeWhile_append_dropWhile]
  have shown : (("" ++ stagingPath "4f1c" filename ++ "").toList) =
      tmpPath ++ (("4f1c".toList ++ '/' :: filename.toList.takeWhile pathChar) ++ c :: rest) := by
    rw [toList_message]
    simp only [String.toList_empty, List.nil_append, List.append_nil, List.append_assoc, List.cons_append]
    rw [← split]
  have front : ∀ d ∈ "4f1c".toList ++ '/' :: filename.toList.takeWhile pathChar, pathChar d = true := by
    intro d among
    rcases List.mem_append.mp among with first | later
    · exact job d first
    · rcases List.mem_cons.mp later with rfl | last
      · rfl
      · exact List.mem_takeWhile_imp last
  have hidden : redacted (("" ++ stagingPath "4f1c" other ++ "").toList) = "<staging>".toList := by
    rw [toList_message]
    exact redacted_path (by simp) (pathOnly_inside job path)
  rw [shown, redacted_leaks (by simp) front first, hidden] at texts
  have nine : "<staging>".toList.length = 9 := by decide
  have lengths := congrArg String.length texts
  simp only [sliceTo, String.length_ofList, String.toList_ofList, List.length_take, List.length_append, List.length_cons,
    nine] at lengths
  omega

/-- Among upload names with the default one no record of a failure tells two apart exactly
    when none of them has whitespace or a quote. -/
theorem failurePayload_hides_iff (filenames : Set String) (default : "upload.bin" ∈ filenames) :
    (∀ filename ∈ filenames, ∀ other ∈ filenames, Alike filename other) ↔ ∀ filename ∈ filenames, PathOnly filename := by
  constructor
  · intro alike filename among
    by_contra leaks
    exact not_alike leaks (by decide) (alike filename among "upload.bin" default)
  · intro path filename among other among'
    exact alike_of_pathOnly (path filename among) (path other among')

/-- Two plain names. -/
theorem failurePayload_hides_plain : Alike "rates.xlsx" "upload.bin" ∧ Alike "upload.bin" "rates.xlsx" := by
  have plain : ∀ filename ∈ ({"upload.bin", "rates.xlsx"} : Set String), PathOnly filename := by
    rintro filename (rfl | rfl) <;> decide
  have hidden := (failurePayload_hides_iff {"upload.bin", "rates.xlsx"} (.inl rfl)).mpr plain
  exact ⟨hidden _ (.inr rfl) _ (.inl rfl), hidden _ (.inl rfl) _ (.inr rfl)⟩

/-- A name with a space is recorded from the space on. -/
theorem failurePayload_shows_filename : ¬ ∀ filename other : String, Alike filename other := by
  intro always
  exact not_alike (by decide : ¬ PathOnly "ACME confidential Q2.xlsx") (by decide : PathOnly "upload.bin") (always _ _)

/-- What is left of the name. -/
example : String.ofList (redacted "/tmp/onramp/4f1c/ACME confidential Q2.xlsx: too many cells".toList) =
    "<staging> confidential Q2.xlsx: too many cells" := by decide +kernel

end Onramp.Redaction
