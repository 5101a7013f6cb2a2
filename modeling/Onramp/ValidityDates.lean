import Mathlib.Data.List.Induction
import Onramp.Clusters
import Onramp.ClusterLanes

/-!
The validity dates of a lane that the model reads in a cluster. The dates of the interchange are
taken from every DTM segment, also from those of the other clusters and of the trailer, and they
are what a cluster without dates of its own falls back to.
-/
namespace Onramp.ValidityDates
open Onramp.Python
open Onramp.Values
open Onramp.Models
open Onramp.Schema
open Onramp.Vertex
open Onramp.Edifact
open Onramp.Clusters
open Onramp.ClusterLanes
open Onramp.Library.Headed

def isDtm (segment : Segment) : Bool := segment.tag = "DTM"

/-- The segments before the first LIN, those of the clusters before, and all that comes after the
    cluster. -/
structure Around where
  preLin : List Segment
  before : List Segment
  after : List Segment

def Around.segments (around : Around) (cluster : List Segment) : List Segment :=
  around.preLin ++ (around.before ++ (cluster ++ around.after))

/-- The cluster that stands there is the one at the position. -/
structure Around.Valid (around : Around) (position : Nat) : Prop where
  preLin : ∀ segment ∈ around.preLin, isLin segment = false ∧ isUnt segment = false
  first : ∀ segment ∈ around.before.head?, isLin segment = true
  message : ∀ segment ∈ around.before, isUnt segment = false
  position : (around.before.filter isLin).length = position
  ends : Ends isLin isUnt around.after

/-- The same segments but for the DTM segments of the other clusters and after the cluster. -/
structure Around.SameButDtm (around around' : Around) : Prop where
  preLin : around'.preLin = around.preLin
  before : around'.before.filter (fun segment => !isDtm segment) = around.before.filter (fun segment => !isDtm segment)
  after : around'.after.filter (fun segment => !isDtm segment) = around.after.filter (fun segment => !isDtm segment)

/-- DTM segments were changed, added or removed in other clusters than the one at the position, or
    after UNT. -/
def DtmElsewhere (position : Nat) (cluster segments segments' : List Segment) : Prop :=
  ∃ around around' : Around, around.Valid position ∧ around'.Valid position ∧ around.SameButDtm around' ∧
    segments = around.segments cluster ∧ segments' = around'.segments cluster

/-- The model reads this lane in the cluster at the position. -/
structure ReadByFlash (services : Services) (sheetLabel : String) (position : Nat) (cluster : List Segment)
    (lane : LaneRecord) : Prop where
  unread : parseLidSegment services.platform (elementsOf cluster) sheetLabel (position + 1) = .ok none
  client : services.client [position] = .ok ()
  answered : disambiguateViaFlash services position cluster s!"edi-row-{position + 1}" = .ok (some lane)

/-- The validity dates of a lane that there is. -/
def validityOf : Raises (Option LaneRecord) → Option (Date × Date)
  | .ok (some lane) => some (lane.validityStart, lane.validityEnd)
  | _ => none

/-- Whatever happens to the DTM segments elsewhere, the cluster stays where it is and its lane keeps
    its validity dates. -/
def Isolated (services : Services) (sheetLabel : String) (segments : List Segment) (position : Nat)
    (cluster : List Segment) : Prop :=
  ∀ segments', DtmElsewhere position cluster segments segments' →
    (clustersFrom [] segments')[position]? = some cluster ∧
      validityOf (laneOf services sheetLabel (extractInterchangeValidity services.platform segments') position cluster) =
        validityOf (laneOf services sheetLabel (extractInterchangeValidity services.platform segments) position cluster)

/-- A DTM segment of the cluster gives a date with this qualifier. -/
def Dated (platform : Platform) (qualifier : String) (cluster : List Segment) : Prop :=
  ∃ segment ∈ cluster, segment.tag = "DTM" ∧
    ∃ date, parseDtmSegment platform segment.elements = (some qualifier, some date)

/-- The cluster is the only one, and nothing comes after it. -/
def Alone (segments cluster : List Segment) : Prop :=
  segments.takeWhile (fun segment => !isLin segment) ++ cluster = segments

/-- The date that a segment gives with this qualifier. -/
def dateOf (platform : Platform) (qualifier : String) (segment : Segment) : Option Date :=
  if segment.tag = "DTM" ∧ (parseDtmSegment platform segment.elements).1 = some qualifier
  then (parseDtmSegment platform segment.elements).2 else none

variable {platform : Platform}

theorem dateOf_eq_some {qualifier : String} {segment : Segment} {date : Date} :
    dateOf platform qualifier segment = some date ↔
      segment.tag = "DTM" ∧ parseDtmSegment platform segment.elements = (some qualifier, some date) := by
  unfold dateOf
  rcases parseDtmSegment platform segment.elements with ⟨found, parsed⟩
  simp only [Option.ite_none_right_eq_some, Prod.mk.injEq, and_assoc]

/-- A step of the scan: the dates of the segment come before those found so far. -/
theorem validity_concat (segments : List Segment) (segment : Segment) :
    extractInterchangeValidity platform (segments ++ [segment]) =
      ((dateOf platform "137" segment).or (extractInterchangeValidity platform segments).1,
        (dateOf platform "36" segment).or (extractInterchangeValidity platform segments).2) := by
  unfold extractInterchangeValidity dateOf
  rw [List.foldl_append, List.foldl_cons, List.foldl_nil]
  generalize List.foldl _ (none, none) segments = found
  by_cases dtm : segment.tag = "DTM"
  · rw [if_neg (not_not.mpr dtm)]
    rcases parseDtmSegment platform segment.elements with ⟨_ | qualifier, _ | date⟩
    · simp
    · simp
    · simp
    · by_cases finish : qualifier = "36"
      · simp [dtm, finish]
      · by_cases start : qualifier = "137"
        · simp [dtm, start]
        · simp [start, finish]
  · simp [dtm]

theorem validity_single (segment : Segment) :
    extractInterchangeValidity platform [segment] = (dateOf platform "137" segment, dateOf platform "36" segment) := by
  rw [← List.nil_append [segment], validity_concat]
  simp [extractInterchangeValidity]

/-- The dates of the later segments come before those of the earlier. -/
theorem validity_append (front back : List Segment) :
    extractInterchangeValidity platform (front ++ back) =
      ((extractInterchangeValidity platform back).1.or (extractInterchangeValidity platform front).1,
        (extractInterchangeValidity platform back).2.or (extractInterchangeValidity platform front).2) := by
  induction back using List.reverseRecOn with
  | nil => simp [extractInterchangeValidity]
  | append_singleton back segment ih =>
    rw [← List.append_assoc, validity_concat, validity_concat, ih]
    simp only [Option.or_assoc]

/-- The scan finds a date of either kind if and only if a segment gives one. -/
theorem validity_isSome (segments : List Segment) :
    ((extractInterchangeValidity platform segments).1.isSome ↔ Dated platform "137" segments) ∧
      ((extractInterchangeValidity platform segments).2.isSome ↔ Dated platform "36" segments) := by
  have each : ∀ qualifier segment, (dateOf platform qualifier segment).isSome ↔
      segment.tag = "DTM" ∧ ∃ date, parseDtmSegment platform segment.elements = (some qualifier, some date) := by
    intro qualifier segment
    rw [Option.isSome_iff_exists]
    simp only [dateOf_eq_some, exists_and_left]
  unfold Dated
  induction segments using List.reverseRecOn with
  | nil => simp [extractInterchangeValidity]
  | append_singleton segments segment ih =>
    rw [validity_concat]
    simp only [Option.isSome_or, Bool.or_eq_true, ih.1, ih.2, each, List.mem_append, List.mem_singleton, or_and_right,
      exists_or, exists_eq_left]
    exact ⟨or_comm, or_comm⟩

variable {segments cluster : List Segment} {position : Nat} {around : Around}

theorem groups_length (items : List Segment) : (groups isLin isUnt items).length = (items.filter isLin).length := by
  have heads : (groups isLin isUnt items).map List.head? = (items.filter isLin).map some := groups_heads
  simpa using congrArg List.length heads

theorem unt_of_group (one : Group isLin isUnt cluster) : ∀ segment ∈ cluster, (!isUnt segment) = true := by
  obtain ⟨lin, body, rfl, heads, within⟩ := one
  refine List.forall_mem_cons.mpr ⟨?_, fun segment inside => ?_⟩
  · rw [not_unt_of_lin (by simpa [isLin] using heads), Bool.not_false]
  · exact (Bool.and_eq_true _ _ ▸ within segment inside).2

/-- The clusters before the one at the position are as many as their LINs. -/
theorem Around.Valid.earlier (valid : around.Valid position) :
    (groups isLin isUnt (around.preLin ++ around.before)).length = position := by
  have outside : around.preLin.filter isLin = [] :=
    List.filter_eq_nil_iff.mpr (fun segment inside => by simp [(valid.preLin segment inside).1])
  rw [groups_length, List.filter_append, outside, List.nil_append, valid.position]

/-- Every cluster has its place. -/
theorem around_of_cluster (inside : (clustersFrom [] segments)[position]? = some cluster) :
    Group isLin isUnt cluster ∧ ∃ around : Around, around.Valid position ∧ segments = around.segments cluster := by
  rw [clustersFrom_eq] at inside
  obtain ⟨short, at_position⟩ := List.getElem?_eq_some_iff.mp inside
  have split := (List.take_append_drop position _).symm.trans
    (congrArg _ (List.drop_eq_getElem_cons short))
  rw [at_position] at split
  obtain ⟨front, back, body, one, ends, earlier⟩ := split_of_mem split
  have parts := List.takeWhile_append_dropWhile (p := fun segment => !isUnt segment) (l := segments)
  have lins := List.takeWhile_append_dropWhile (p := fun segment => !isLin segment) (l := front)
  have message : ∀ segment ∈ front, isUnt segment = false := by
    intro segment member
    have := List.mem_takeWhile_imp (body ▸ List.mem_append_left _ member)
    simpa using this
  have outside : ∀ segment ∈ front.takeWhile (fun segment => !isLin segment), isLin segment = false := by
    intro segment member
    simpa using List.mem_takeWhile_imp member
  have counted : ((front.dropWhile (fun segment => !isLin segment)).filter isLin).length = position := by
    have within := groups_length front
    rw [earlier, List.length_take, Nat.min_eq_left short.le, ← lins, List.filter_append,
      List.filter_eq_nil_iff.mpr (fun segment member => by simp [outside segment member])] at within
    exact within.symm
  have closes : Ends isLin isUnt (back ++ segments.dropWhile (fun segment => !isUnt segment)) := by
    cases back with
    | cons next rest => exact ends
    | nil => exact trailer_ends segments
  refine ⟨one, ⟨front.takeWhile (fun segment => !isLin segment), front.dropWhile (fun segment => !isLin segment),
    back ++ segments.dropWhile (fun segment => !isUnt segment)⟩, ⟨?_, ?_, ?_, counted, closes⟩, ?_⟩
  · exact fun segment member => ⟨outside segment member, message segment ((List.takeWhile_sublist _).mem member)⟩
  · intro segment first
    have opens := List.head?_dropWhile_not (fun segment => !isLin segment) front
    rw [Option.mem_def.mp first] at opens
    simpa using opens
  · exact fun segment member => message segment ((List.dropWhile_sublist _).mem member)
  · refine parts.symm.trans ?_
    rw [body]
    conv_lhs => rw [← lins]
    simp only [Around.segments, List.append_assoc]

/-- What stands at such a place is a cluster. -/
theorem cluster_of_around (one : Group isLin isUnt cluster) (valid : around.Valid position) :
    (clustersFrom [] (around.segments cluster))[position]? = some cluster := by
  have body : (around.segments cluster).takeWhile (fun segment => !isUnt segment) =
      (around.preLin ++ around.before) ++ (cluster ++ around.after.takeWhile (fun segment => !isUnt segment)) := by
    rw [Around.segments, List.takeWhile_append_of_pos, List.takeWhile_append_of_pos,
      List.takeWhile_append_of_pos (unt_of_group one), List.append_assoc]
    · exact fun segment inside => by simp [valid.message segment inside]
    · exact fun segment inside => by simp [(valid.preLin segment inside).2]
  have ends : Ends isLin isUnt (around.after.takeWhile (fun segment => !isUnt segment)) := by
    intro segment first
    refine valid.ends segment ?_
    revert first
    cases around.after with
    | nil => simp
    | cons next rest => cases unt : isUnt next <;> simp [unt]
  rw [clustersFrom_eq, body, groups_split one ends, List.getElem?_append_right valid.earlier.le, valid.earlier]
  simp

theorem alone_iff (one : Group isLin isUnt cluster) (valid : around.Valid position) :
    Alone (around.segments cluster) cluster ↔ around.before = [] ∧ around.after = [] := by
  have opens : (around.before ++ (cluster ++ around.after)).takeWhile (fun segment => !isLin segment) = [] := by
    obtain ⟨lin, body, rfl, heads, -⟩ := one
    have first := valid.first
    cases before : around.before with
    | nil => simp [heads]
    | cons next rest => simp [first next (by rw [before]; rfl)]
  have preLin : (around.segments cluster).takeWhile (fun segment => !isLin segment) = around.preLin := by
    rw [Around.segments, List.takeWhile_append_of_pos (fun segment inside => by simp [(valid.preLin segment inside).1]),
      opens, List.append_nil]
  rw [Alone, preLin, Around.segments, List.append_cancel_left_eq]
  constructor
  · intro whole
    have lengths := congrArg List.length whole
    simp only [List.length_append] at lengths
    exact ⟨List.eq_nil_of_length_eq_zero (by omega), List.eq_nil_of_length_eq_zero (by omega)⟩
  · rintro ⟨before, after⟩
    simp [before, after]

variable {services : Services} {sheetLabel : String} {lane : LaneRecord}

/-- A lane of the model has the dates of its cluster, else those of the interchange, else its own. -/
theorem validityOf_flash (read : ReadByFlash services sheetLabel position cluster lane)
    (interchange : Option Date × Option Date) :
    validityOf (laneOf services sheetLabel interchange position cluster) =
      some (((extractInterchangeValidity services.platform cluster).1.or interchange.1).getD lane.validityStart,
        ((extractInterchangeValidity services.platform cluster).2.or interchange.2).getD lane.validityEnd) := by
  obtain ⟨unread, client, answered⟩ := read
  unfold laneOf
  simp only [unread, client, answered, bind, Except.bind, pure, Except.pure]
  rfl

/-- Where something stands before or after the cluster, a DTM segment added there gives the interchange
    its date, unless the cluster has one. -/
theorem dtm_added (platform : Platform) (cluster : List Segment) (valid : around.Valid position)
    (crowded : ¬ (around.before = [] ∧ around.after = [])) {added : Segment} (dtm : added.tag = "DTM") :
    ∃ around', around'.Valid position ∧ around.SameButDtm around' ∧
      ∀ date, (dateOf platform "137" added = some date → (extractInterchangeValidity platform cluster).1 = none →
          (extractInterchangeValidity platform (around'.segments cluster)).1 = some date) ∧
        (dateOf platform "36" added = some date → (extractInterchangeValidity platform cluster).2 = none →
          (extractInterchangeValidity platform (around'.segments cluster)).2 = some date) := by
  have lin : isLin added = false := by simp [isLin, dtm]
  have unt : isUnt added = false := by simp [isUnt, dtm]
  have dropped : [added].filter (fun segment => !isDtm segment) = [] := by simp [isDtm, dtm]
  by_cases after : around.after = []
  · have before : around.before ≠ [] := fun none => crowded ⟨none, after⟩
    refine ⟨{ around with before := around.before ++ [added] }, ⟨valid.preLin, ?_, ?_, ?_, valid.ends⟩, ⟨rfl, ?_, rfl⟩, ?_⟩
    · rw [List.head?_append_of_ne_nil _ before]
      exact valid.first
    · rw [List.forall_mem_append]
      exact ⟨valid.message, by simpa using unt⟩
    · rw [List.filter_append, List.filter_cons_of_neg (by simp [lin]), List.filter_nil, List.append_nil, valid.position]
    · rw [List.filter_append, dropped, List.append_nil]
    · intro date
      simp only [Around.segments, after, List.append_nil, validity_append, validity_single]
      constructor
      · rintro given own
        simp [given, own]
      · rintro given own
        simp [given, own]
  · refine ⟨{ around with after := around.after ++ [added] }, ⟨valid.preLin, valid.first, valid.message, valid.position, ?_⟩,
      ⟨rfl, rfl, ?_⟩, ?_⟩
    · unfold Ends
      rw [List.head?_append_of_ne_nil _ after]
      exact valid.ends
    · rw [List.filter_append, dropped, List.append_nil]
    · intro date
      have whole : Around.segments { around with after := around.after ++ [added] } cluster =
          around.segments cluster ++ [added] := by
        simp [Around.segments]
      rw [whole, validity_concat]
      constructor
      · rintro given -
        simp [given]
      · rintro given -
        simp [given]

/-- A DTM segment with a date in the format 102. -/
def dtmOf (qualifier value : String) : Segment := ⟨"DTM", [.composite [qualifier, value, "102"]]⟩

theorem dateOf_dtmOf {qualifier value : String} (qualified : strip qualifier = qualifier) (stripped : strip value = value)
    (long : value.length = 8) : dateOf platform qualifier (dtmOf qualifier value) = platform.strptimeYmd value := by
  have fmt : strip "102" = "102" := by decide
  simp [dateOf, dtmOf, parseDtmSegment, qualified, stripped, long, fmt]

/-- Where a date can be added elsewhere, an undisturbed lane has it already. -/
theorem isolated_dates (valid : around.Valid position) (crowded : ¬ (around.before = [] ∧ around.after = []))
    (read : ReadByFlash services sheetLabel position cluster lane)
    (isolated : Isolated services sheetLabel (around.segments cluster) position cluster) {value : String} {date : Date}
    (stripped : strip value = value) (long : value.length = 8) (parsed : services.platform.strptimeYmd value = some date) :
    ((extractInterchangeValidity services.platform cluster).1 = none → some date = (validityOf (laneOf services sheetLabel
        (extractInterchangeValidity services.platform (around.segments cluster)) position cluster)).map Prod.fst) ∧
      ((extractInterchangeValidity services.platform cluster).2 = none → some date = (validityOf (laneOf services sheetLabel
        (extractInterchangeValidity services.platform (around.segments cluster)) position cluster)).map Prod.snd) := by
  have start : strip "137" = "137" := by decide
  have finish : strip "36" = "36" := by decide
  constructor
  · intro own
    have tag : (dtmOf "137" value).tag = "DTM" := rfl
    obtain ⟨around', valid', same, given⟩ := dtm_added services.platform cluster valid crowded tag
    have moved := (given date).1 ((dateOf_dtmOf start stripped long).trans parsed) own
    rw [← (isolated _ ⟨around, around', valid, valid', same, rfl, rfl⟩).2, validityOf_flash read, moved, own]
    rfl
  · intro own
    have tag : (dtmOf "36" value).tag = "DTM" := rfl
    obtain ⟨around', valid', same, given⟩ := dtm_added services.platform cluster valid crowded tag
    have moved := (given date).2 ((dateOf_dtmOf finish stripped long).trans parsed) own
    rw [← (isolated _ ⟨around, around', valid, valid', same, rfl, rfl⟩).2, validityOf_flash read, moved, own]
    rfl

/-- DTM segments alone cannot stand where a LIN or UNT has to come first. -/
theorem eq_nil_of_dtm {part : List Segment} (dtm : part.filter (fun segment => !isDtm segment) = [])
    (first : ∀ segment ∈ part.head?, isDtm segment = false) : part = [] := by
  cases part with
  | nil => rfl
  | cons segment rest => simp [first segment rfl] at dtm

theorem dtm_of_lin {segment : Segment} (lin : isLin segment = true) : isDtm segment = false := by
  simp only [isLin, decide_eq_true_eq] at lin
  simp [isDtm, lin]

theorem dtm_of_plain {segment : Segment} (ends : plain isLin isUnt segment = false) : isDtm segment = false := by
  by_cases dtm : segment.tag = "DTM"
  · simp [plain, isLin, isUnt, dtm] at ends
  · simp [isDtm, dtm]

/-- An arrangement with nothing around the cluster has no other. -/
theorem segments_of_alone {around around' : Around} (same : around.SameButDtm around') (valid : around'.Valid position)
    (alone : around.before = [] ∧ around.after = []) : around'.segments cluster = around.segments cluster := by
  have before : around'.before = [] :=
    eq_nil_of_dtm (by rw [same.before, alone.1]; rfl) (fun segment first => dtm_of_lin (valid.first segment first))
  have after : around'.after = [] :=
    eq_nil_of_dtm (by rw [same.after, alone.2]; rfl) (fun segment first => dtm_of_plain (valid.ends segment first))
  rw [Around.segments, Around.segments, same.preLin, before, after, alone.1, alone.2]

/-- The dates of a lane that the model reads in a cluster are not touched from elsewhere if and only if the
    cluster gives both dates itself, or is alone. -/
theorem validity_isolated_iff (services : Services) (sheetLabel : String) (segments : List Segment) (position : Nat)
    (cluster : List Segment) (lane : LaneRecord) (inside : (clustersFrom [] segments)[position]? = some cluster)
    (read : ReadByFlash services sheetLabel position cluster lane)
    (dated : services.platform.strptimeYmd "20260101" = some ⟨2026, 1, 1⟩)
    (redated : services.platform.strptimeYmd "20270101" = some ⟨2027, 1, 1⟩) :
    Isolated services sheetLabel segments position cluster ↔
      (Dated services.platform "137" cluster ∧ Dated services.platform "36" cluster) ∨ Alone segments cluster := by
  obtain ⟨one, around, valid, rfl⟩ := around_of_cluster inside
  rw [← (validity_isSome cluster).1, ← (validity_isSome cluster).2]
  constructor
  · intro isolated
    by_contra neither
    obtain ⟨undated, crowded⟩ := not_or.mp neither
    rw [alone_iff one valid] at crowded
    -- The lane cannot have two dates that may be added elsewhere.
    have first := isolated_dates valid crowded read isolated (by decide) (by decide) dated
    have second := isolated_dates valid crowded read isolated (by decide) (by decide) redated
    rw [Option.isSome_iff_ne_none, Option.isSome_iff_ne_none, not_and_or, not_not, not_not] at undated
    rcases undated with start | finish
    · exact absurd ((first.1 start).trans (second.1 start).symm) (by decide)
    · exact absurd ((first.2 finish).trans (second.2 finish).symm) (by decide)
  · rintro own segments' ⟨around₁, around₂, valid₁, valid₂, same, whole, rfl⟩
    refine ⟨cluster_of_around one valid₂, ?_⟩
    rw [validityOf_flash read, validityOf_flash read]
    rcases own with ⟨start, finish⟩ | alone
    · obtain ⟨start, found⟩ := Option.isSome_iff_exists.mp start
      obtain ⟨finish, found'⟩ := Option.isSome_iff_exists.mp finish
      rw [found, found']
      rfl
    · rw [whole, alone_iff one valid₁] at alone
      rw [whole, segments_of_alone same valid₂ alone]

/-- A lane with dates that are in no segment. -/
def flashReply : Json :=
  .obj [("lane_id", .str "edi-row-1"), ("origin_port", .obj [("code", .str "DEHAM")]),
    ("destination_port", .obj [("code", .str "USNYC")]), ("equipment_type", .str "40HC"), ("base_rate_usd", .int 1000),
    ("validity_start", .str "2023-01-01"), ("validity_end", .str "2023-12-31"),
    ("source_row_reference",
      .obj [("sheet_name", .str "rates"), ("row_number", .int 1), ("cell_reference", .str "LIN:1")])]

def flashServices : Services where
  platform := asciiPlatform [(flashReply.render "", flashReply)] sampleDigest sampleDigest_length
  client _ := .ok ()
  generate _ _ := .ok { text := some (flashReply.render ""), candidates := [] }
  expires _ := false

def flashLane : LaneRecord :=
  ⟨"edi-row-1", ⟨"DEHAM"⟩, ⟨"USNYC"⟩, .hc40, none, Decimal.ofNat 1000, [], none, ⟨2023, 1, 1⟩, ⟨2023, 12, 31⟩,
    ⟨"rates", 1, "LIN:1"⟩⟩

/-- A cluster that cannot be read, before one with a date of its own. -/
def mixedAround (finish : String) : Around where
  preLin := [⟨"UNH", [.text "1"]⟩]
  before := []
  after := [⟨"LIN", LinParsing.sampleElements "NLRTM"⟩, dtmOf "36" finish, ⟨"UNT", [.text "5"]⟩]

theorem mixedAround_valid (finish : String) : (mixedAround finish).Valid 0 := by
  refine ⟨by simp [mixedAround, isLin, isUnt], by simp [mixedAround], by simp [mixedAround], rfl, ?_⟩
  rintro segment ⟨⟩
  rfl

theorem flashLane_read : ReadByFlash flashServices "rates" 0 [⟨"LIN", []⟩] flashLane :=
  ⟨by decide +kernel, rfl, by decide +kernel⟩

/-- The end of the first lane is that of the second, and it moves with it. -/
theorem other_lane_moves_validity :
    ¬ Isolated flashServices "rates" ((mixedAround "20261231").segments [⟨"LIN", []⟩]) 0 [⟨"LIN", []⟩] := by
  intro isolated
  have same : (mixedAround "20261231").SameButDtm (mixedAround "20271231") := ⟨rfl, rfl, by decide⟩
  have kept := (isolated _ ⟨_, _, mixedAround_valid "20261231", mixedAround_valid "20271231", same, rfl, rfl⟩).2
  revert kept
  decide +kernel

theorem validity_isolated_iff_mixed :
    Isolated flashServices "rates" ((mixedAround "20261231").segments [⟨"LIN", []⟩]) 0 [⟨"LIN", []⟩] ↔
      (Dated flashServices.platform "137" [⟨"LIN", []⟩] ∧ Dated flashServices.platform "36" [⟨"LIN", []⟩]) ∨
        Alone ((mixedAround "20261231").segments [⟨"LIN", []⟩]) [⟨"LIN", []⟩] :=
  validity_isolated_iff flashServices "rates" _ 0 _ flashLane (by decide) flashLane_read (by decide) (by decide)

end Onramp.ValidityDates
