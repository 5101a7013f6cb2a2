import Onramp.Library.Paths
import Onramp.Classifier

/-!
The staging of an upload, as both routes do it: the directory of the job is made under the
staging root, and the bytes are written to the path that joins it with the filename of the
client. The file lies in the directory of the job or not, as the components of the filename
lead there or elsewhere.
-/
namespace Onramp.Staging
open Onramp.Python
open Onramp.Classifier (Bytes)
open Onramp.Library.Keyed (Table find upsert find_upsert_other)
open Onramp.Library.Paths

/-- A `PurePosixPath`: whether it has a root, and its parts. -/
structure PurePosixPath where
  absolute : Bool
  parts : List String
  deriving DecidableEq

/-- `Path(text)`: empty parts and `.` are dropped, `..` is kept. -/
def PurePosixPath.parse (text : String) : PurePosixPath where
  absolute := text.toList.head? = some '/'
  parts := ((text.toList.splitOn '/').filter (fun part => part ≠ [] ∧ part ≠ ['.'])).map String.ofList

/-- `path / other`: an absolute right operand replaces the left one. -/
def PurePosixPath.join (path other : PurePosixPath) : PurePosixPath :=
  if other.absolute then other else { path with parts := path.parts ++ other.parts }

/-- `str(path)`, of an absolute path. -/
def PurePosixPath.str (path : PurePosixPath) : String := "/" ++ "/".intercalate path.parts

/-- What a part means to the system. -/
def stepOf (part : String) : Step String := if part = ".." then .up else .down part

def PurePosixPath.steps (path : PurePosixPath) : List (Step String) := path.parts.map stepOf

/-- `_STAGING_ROOT`. -/
def stagingRoot : PurePosixPath := .parse "/tmp/onramp"

/-- `upload.filename or "upload.bin"`. -/
def uploadName : Option String → String
  | none => "upload.bin"
  | some filename => if filename = "" then "upload.bin" else filename

/-- A tree of directories and files, by their places, and the error that the system raises
    for an entry that is to be made or opened for writing. -/
structure FileSystem where
  directories : List (List String)
  files : Table (List String) Bytes
  refuses : List String → Option PyExc

def FileSystem.isDirectory (fs : FileSystem) (place : List String) : Prop := place = [] ∨ place ∈ fs.directories

instance (fs : FileSystem) : DecidablePred fs.isDirectory := fun _ => inferInstanceAs (Decidable (_ ∨ _))

/-- An `OSError` of this class. -/
def osError (cls : String) (place : List String) : PyExc := PyExc.mk' (.other cls) ("/" ++ "/".intercalate place)

/-- `mkdir(parents=True, exist_ok=True)`, for the names below a directory. -/
def makeDirs (fs : FileSystem) (here : List String) : List String → FileSystem × Raises Unit
  | [] => (fs, .ok ())
  | name :: rest =>
    let place := here ++ [name]
    if fs.isDirectory place then makeDirs fs place rest
    else if (find place fs.files).isSome then (fs, .error (osError "FileExistsError" place))
    else
      match fs.refuses place with
      | some exc => (fs, .error exc)
      | none => makeDirs { fs with directories := fs.directories ++ [place] } place rest

/-- The file that `open(path, "wb")` opens, from a directory on. -/
def openForWriting (fs : FileSystem) (here : List String) : List String → Raises (List String)
  | [] => .error (osError "IsADirectoryError" here)
  | part :: rest =>
    let place := (stepOf part).apply here
    if rest = [] then
      if fs.isDirectory place ∨ stepOf part = .up then .error (osError "IsADirectoryError" place)
      else
        match fs.refuses place with
        | some exc => .error exc
        | none => .ok place
    else if fs.isDirectory place ∨ stepOf part = .up then openForWriting fs place rest
    else if (find place fs.files).isSome then .error (osError "NotADirectoryError" place)
    else .error (osError "FileNotFoundError" place)

/-- `path.write_bytes(payload)`, of an absolute path. -/
def writeBytes (path : PurePosixPath) (payload : Bytes) (fs : FileSystem) : FileSystem × Raises Unit :=
  if ∃ part ∈ path.parts, '\x00' ∈ part.toList then (fs, .error (PyExc.mk' .valueError "embedded null byte"))
  else
    match openForWriting fs [] path.parts with
    | .error exc => (fs, .error exc)
    | .ok place => ({ fs with files := upsert place payload fs.files }, .ok ())

/-- `_STAGING_ROOT / resolved_job_id`. -/
def jobDir (jobId : String) : PurePosixPath := stagingRoot.join (.parse jobId)

/-- `job_dir / filename`. -/
def stagingPath (jobId : String) (filename : Option String) : PurePosixPath :=
  (jobDir jobId).join (.parse (uploadName filename))

/-- What `submit_intake_job` and `submit_ratesheet` do with the upload of a new job. -/
def stageUpload (jobId : String) (filename : Option String) (payload : Bytes) (fs : FileSystem) :
    FileSystem × Raises PurePosixPath :=
  match makeDirs fs [] stagingRoot.parts with
  | (rooted, .error exc) => (rooted, .error exc)
  | (rooted, .ok ()) =>
    match makeDirs rooted [] (jobDir jobId).parts with
    | (housed, .error exc) => (housed, .error exc)
    | (housed, .ok ()) =>
      match writeBytes (stagingPath jobId filename) payload housed with
      | (written, .error exc) => (written, .error exc)
      | (written, .ok ()) => (written, .ok (stagingPath jobId filename))

/-- What is left of a file system in which directories are made along the names: no file
    changes, and without an error all of these places are directories. -/
structure Made (fs : FileSystem) (here names : List String) (result : FileSystem × Raises Unit) : Prop where
  files : result.1.files = fs.files
  refuses : result.1.refuses = fs.refuses
  more : ∀ place, fs.isDirectory place → result.1.isDirectory place
  only : ∀ place, result.1.isDirectory place →
    fs.isDirectory place ∨ ∃ front, front ≠ [] ∧ front <+: names ∧ place = here ++ front
  all : result.2 = .ok () → ∀ front, front ≠ [] → front <+: names → result.1.isDirectory (here ++ front)

theorem Made.raised (fs : FileSystem) (here names : List String) (exc : PyExc) :
    Made fs here names (fs, .error exc) where
  files := rfl
  refuses := rfl
  more _ was := was
  only _ now := Or.inl now
  all ok := by cases ok

theorem Made.descend {fs next : FileSystem} {here rest : List String} {name : String}
    {result : FileSystem × Raises Unit} (made : Made next (here ++ [name]) rest result)
    (files : next.files = fs.files) (refuses : next.refuses = fs.refuses)
    (directories : ∀ place, next.isDirectory place ↔ fs.isDirectory place ∨ place = here ++ [name]) :
    Made fs here (name :: rest) result where
  files := made.files.trans files
  refuses := made.refuses.trans refuses
  more place was := made.more place ((directories place).mpr (Or.inl was))
  only place now := by
    rcases made.only place now with before | ⟨front, -, below, rfl⟩
    · refine ((directories place).mp before).imp_right ?_
      rintro rfl
      exact ⟨[name], by simp, by simp, rfl⟩
    · exact Or.inr ⟨name :: front, by simp, by simpa using below, by simp⟩
  all ok front some below := by
    obtain ⟨head, tail, rfl⟩ := List.exists_cons_of_ne_nil some
    obtain ⟨rfl, shorter⟩ := List.cons_prefix_cons.mp below
    by_cases nothing : tail = []
    · subst nothing
      exact made.more _ ((directories _).mpr (Or.inr rfl))
    · simpa using made.all ok tail nothing shorter

theorem makeDirs_made (fs : FileSystem) (here names : List String) : Made fs here names (makeDirs fs here names) := by
  induction names generalizing fs here with
  | nil =>
    refine ⟨rfl, rfl, fun _ was => was, fun _ now => Or.inl now, ?_⟩
    intro _ front some below
    exact absurd (List.prefix_nil.mp below) some
  | cons name rest ih =>
    unfold makeDirs
    simp only
    split
    · next there =>
      refine (ih fs (here ++ [name])).descend rfl rfl ?_
      intro place
      exact ⟨Or.inl, fun now => now.elim id (fun same => same ▸ there)⟩
    split
    · exact .raised ..
    split
    · exact .raised ..
    · have later := ih { fs with directories := fs.directories ++ [here ++ [name]] } (here ++ [name])
      refine later.descend rfl rfl ?_
      intro place
      simp only [FileSystem.isDirectory, List.mem_append, List.mem_singleton, or_assoc]

/-- Where nothing is in the way, the directories are made. -/
theorem makeDirs_ok {fs : FileSystem} (empty : fs.files = []) (allowed : ∀ place, fs.refuses place = none)
    (here names : List String) : (makeDirs fs here names).2 = .ok () := by
  induction names generalizing fs here with
  | nil => rfl
  | cons name rest ih =>
    unfold makeDirs
    simp only [empty, find, Option.isSome_none, Bool.false_eq_true, if_false, allowed]
    split
    · exact ih empty allowed _
    · exact @ih { fs with directories := fs.directories ++ [here ++ [name]], files := [] } rfl allowed _

/-- A file is opened at the place that the parts lead to, when they end with a name, pass
    directories alone, and lead to none, and the system does not refuse. -/
theorem openForWriting_eq_ok (fs : FileSystem) (here parts : List String) (place : List String) :
    openForWriting fs here parts = .ok place ↔
      (∃ name, (parts.map stepOf).getLast? = some (.down name)) ∧
        (∀ on ∈ passed here (parts.map stepOf), fs.isDirectory on) ∧ follow here (parts.map stepOf) = place ∧
        ¬ fs.isDirectory place ∧ fs.refuses place = none := by
  induction parts generalizing here with
  | nil => simp [openForWriting]
  | cons part rest ih =>
    unfold openForWriting
    simp only
    by_cases last : rest = []
    · subst last
      cases step : stepOf part with
      | up => simp [step]
      | down name =>
        by_cases directory : fs.isDirectory (here ++ [name])
        · simp only [step, Step.apply, if_true, directory, true_or, reduceCtorEq, false_iff, List.map_cons, List.map_nil,
            follow_cons, follow_nil, not_and]
          rintro - - rfl none
          exact absurd directory none
        · cases refused : fs.refuses (here ++ [name]) with
          | some exc =>
            simp only [step, Step.apply, if_true, directory, refused, reduceCtorEq, or_false, if_false, false_iff,
              List.map_cons, List.map_nil, follow_cons, follow_nil, not_and]
            rintro - - rfl -
            simp [refused]
          | none =>
            simp only [step, Step.apply, if_true, directory, refused, reduceCtorEq, or_false, if_false, List.map_cons,
              List.map_nil, follow_cons, follow_nil, passed, List.getLast?_singleton, Except.ok.injEq]
            constructor
            · rintro rfl
              exact ⟨⟨name, rfl⟩, by simp, rfl, directory, refused⟩
            · rintro ⟨-, -, same, -, -⟩
              exact same
    · have more : rest.map stepOf ≠ [] := by simpa using last
      have lastStep : ((part :: rest).map stepOf).getLast? = (rest.map stepOf).getLast? := by
        rw [List.map_cons, List.getLast?_cons_of_ne_nil more]
      rw [lastStep]
      simp only [last, if_false, List.map_cons, follow_cons, mem_passed_cons more]
      by_cases onward : fs.isDirectory ((stepOf part).apply here) ∨ stepOf part = .up
      · rw [if_pos onward, ih]
        refine and_congr_right (fun _ => and_congr_left (fun _ => ?_))
        constructor
        · rintro rest' on (⟨notUp, rfl⟩ | later)
          · exact onward.resolve_right notUp
          · exact rest' on later
        · intro all on later
          exact all on (Or.inr later)
      · rw [if_neg onward]
        obtain ⟨no, notUp⟩ := not_or.mp onward
        have blocked : ¬ ∀ on, (stepOf part ≠ .up ∧ on = (stepOf part).apply here) ∨
            on ∈ passed ((stepOf part).apply here) (rest.map stepOf) → fs.isDirectory on :=
          fun all => no (all _ (Or.inl ⟨notUp, rfl⟩))
        split <;> simp [blocked]

/-! ### Where the filename leads -/

/-- A string that names one entry of a directory. -/
def PlainName (name : String) : Prop :=
  name ≠ "" ∧ name ≠ "." ∧ name ≠ ".." ∧ '/' ∉ name.toList ∧ '\x00' ∉ name.toList

instance : DecidablePred PlainName := fun _ => inferInstanceAs (Decidable (_ ∧ _))

/-- The place of `/tmp/onramp/<job_id>`. -/
def jobPlace (jobId : String) : List String := ["tmp", "onramp", jobId]

/-- The place from which the system follows the components of the filename. -/
def startOf (jobId filename : String) : List String :=
  if (PurePosixPath.parse filename).absolute then [] else jobPlace jobId

/-- How many of the names of the directory of the job are left after the climbs of the
    filename. -/
def namesLeft (jobId filename : String) : Nat :=
  if (PurePosixPath.parse filename).absolute then 0
  else (jobPlace jobId).length - (reduce (PurePosixPath.parse filename).steps).1

/-- The filename opens no file: it has a null character, it does not end with a name, or it
    ends at a directory, one that it passes itself or one on the way to that of the job. -/
def OpensNothing (jobId filename : String) : Prop :=
  let path := PurePosixPath.parse filename
  (∃ part ∈ path.parts, '\x00' ∈ part.toList) ∨ (∀ name, path.steps.getLast? ≠ some (.down name)) ∨
    follow (startOf jobId filename) path.steps ∈ passed (startOf jobId filename) path.steps ∨
    (reduce path.steps).2 <+: (jobPlace jobId).drop (namesLeft jobId filename)

/-- The filename opens no file, or its names lead back down to the directory of the job from
    where its climbs, or its root, have left it. -/
def StaysInside (jobId filename : String) : Prop :=
  OpensNothing jobId filename ∨
    (jobPlace jobId).drop (namesLeft jobId filename) <+: (reduce (PurePosixPath.parse filename).steps).2

/-- No file outside of the directory of the job differs. -/
def Confined (jobId : String) (before after : FileSystem) : Prop :=
  ∀ place, ¬ jobPlace jobId <+: place → find place after.files = find place before.files

theorem parse_plain {name : String} (plain : PlainName name) : PurePosixPath.parse name = ⟨false, [name]⟩ := by
  obtain ⟨nonempty, notDot, -, noSlash, -⟩ := plain
  have whole : name.toList.splitOn '/' = [name.toList] := by
    rw [List.splitOn_eq_splitOnP]
    refine List.splitOnP_eq_singleton ?_
    intro c inside
    simp only [beq_eq_false_iff_ne]
    rintro rfl
    exact noSlash inside
  have some : name.toList ≠ [] := by simpa using nonempty
  have other : name.toList ≠ ['.'] := by
    intro dot
    refine notDot ?_
    rw [← String.ofList_toList (s := name), dot]
  have relative : name.toList.head? ≠ Option.some '/' := fun head => noSlash (List.mem_of_head? head)
  simp [PurePosixPath.parse, whole, some, other, relative]

theorem jobDir_eq {jobId : String} (plain : PlainName jobId) : jobDir jobId = ⟨true, jobPlace jobId⟩ := by
  have root : stagingRoot = ⟨true, ["tmp", "onramp"]⟩ := by decide
  simp [jobDir, parse_plain plain, root, PurePosixPath.join, jobPlace]

theorem follow_start (jobId filename : String) :
    follow (startOf jobId filename) (PurePosixPath.parse filename).steps =
      (jobPlace jobId).take (namesLeft jobId filename) ++ (reduce (PurePosixPath.parse filename).steps).2 := by
  rw [follow_eq_reduce, startOf, namesLeft]
  split <;> simp

/-- The directory of the job and those above it exist. -/
def Housed (jobId : String) (fs : FileSystem) : Prop :=
  ∀ front, front ≠ [] → front <+: jobPlace jobId → fs.isDirectory front

/-- In the directory of the job, the filename is opened at the place that it leads to. -/
theorem stagingPath_opens {jobId filename : String} {fs : FileSystem} (plain : PlainName jobId) (housed : Housed jobId fs)
    (place : List String) :
    openForWriting fs [] ((jobDir jobId).join (.parse filename)).parts = .ok place ↔
      (∃ name, (PurePosixPath.parse filename).steps.getLast? = some (.down name)) ∧
        (∀ on ∈ passed (startOf jobId filename) (PurePosixPath.parse filename).steps, fs.isDirectory on) ∧
        follow (startOf jobId filename) (PurePosixPath.parse filename).steps = place ∧
        ¬ fs.isDirectory place ∧ fs.refuses place = none := by
  rw [openForWriting_eq_ok, jobDir_eq plain]
  by_cases absolute : (PurePosixPath.parse filename).absolute = true
  · simp only [PurePosixPath.join, absolute, if_true, startOf, PurePosixPath.steps]
  · have names : (jobPlace jobId).map stepOf = (jobPlace jobId).map .down := by
      simp [jobPlace, stepOf, plain.2.2.1]
    simp only [PurePosixPath.join, absolute, startOf, List.map_append, names, follow_append, follow_names,
      List.nil_append, Bool.false_eq_true, if_false]
    change _ ↔ (∃ name, (PurePosixPath.parse filename).steps.getLast? = _) ∧ _
    rw [← PurePosixPath.steps]
    generalize (PurePosixPath.parse filename).steps = steps
    by_cases nothing : steps = []
    · subst nothing
      have directory := housed (jobPlace jobId) (by simp [jobPlace]) (List.prefix_refl _)
      simp only [follow_nil, List.getLast?_nil, reduceCtorEq, exists_false, false_and, iff_false]
      rintro ⟨-, -, rfl, free, -⟩
      exact free directory
    · have last : ((jobPlace jobId).map Step.down ++ steps).getLast? = steps.getLast? := by
        rw [List.getLast?_append_of_ne_nil _ nothing]
      rw [last]
      refine and_congr_right (fun _ => and_congr_left (fun _ => ?_))
      simp only [mem_passed_names nothing, List.nil_append]
      constructor
      · exact fun all on later => all on (Or.inr later)
      · rintro all on (⟨front, some, above, same⟩ | later)
        · rw [same]
          exact housed front some above
        · exact all on later

/-- Staging makes the directory of the job and changes one file at most: the one that the
    filename is opened at. -/
theorem stageUpload_files (jobId : String) (filename : Option String) (payload : Bytes) (fs : FileSystem)
    (plain : PlainName jobId) :
    (stageUpload jobId filename payload fs).1.files = fs.files ∨
      ∃ housed place, Housed jobId housed ∧ (∀ part ∈ (PurePosixPath.parse (uploadName filename)).parts, '\x00' ∉ part.toList) ∧
        openForWriting housed [] (stagingPath jobId filename).parts = .ok place ∧
        (stageUpload jobId filename payload fs).1.files = upsert place payload fs.files := by
  unfold stageUpload
  have root := makeDirs_made fs [] stagingRoot.parts
  rcases rooting : makeDirs fs [] stagingRoot.parts with ⟨rooted, exc | ⟨⟨⟩⟩⟩
  · rw [rooting] at root
    exact Or.inl root.files
  rw [rooting] at root
  have dir := makeDirs_made rooted [] (jobDir jobId).parts
  simp only
  rcases housing : makeDirs rooted [] (jobDir jobId).parts with ⟨housed, exc | ⟨⟨⟩⟩⟩
  · rw [housing] at dir
    exact Or.inl (dir.files.trans root.files)
  rw [housing] at dir
  have same : housed.files = fs.files := dir.files.trans root.files
  have house : Housed jobId housed := by
    intro front some above
    have made := dir.all rfl front some (by rw [jobDir_eq plain]; exact above)
    simpa using made
  simp only [writeBytes]
  by_cases null : ∃ part ∈ (stagingPath jobId filename).parts, '\x00' ∈ part.toList
  · rw [if_pos null]
    exact Or.inl same
  rw [if_neg null]
  cases opened : openForWriting housed [] (stagingPath jobId filename).parts with
  | error exc => exact Or.inl same
  | ok place =>
    refine Or.inr ⟨housed, place, house, ?_, opened, by simp only [same]⟩
    intro part inside character
    refine null ⟨part, ?_, character⟩
    rw [stagingPath, PurePosixPath.join]
    split
    · exact inside
    · exact List.mem_append.mpr (Or.inr inside)

theorem confined_of_staysInside {jobId : String} {filename : Option String} (plain : PlainName jobId)
    (stays : StaysInside jobId (uploadName filename)) (payload : Bytes) (fs : FileSystem) :
    Confined jobId fs (stageUpload jobId filename payload fs).1 := by
  intro outside elsewhere
  rcases stageUpload_files jobId filename payload fs plain with same | ⟨housed, place, house, noNull, opened, written⟩
  · rw [same]
  rw [written]
  refine find_upsert_other ?_ _ _
  rintro rfl
  obtain ⟨last, through, leads, free, -⟩ := (stagingPath_opens plain house _).mp opened
  rcases stays with (⟨part, inside, null⟩ | noName | passes | above) | below
  · exact noNull part inside null
  · obtain ⟨name, named⟩ := last
    exact noName name named
  · rw [leads] at passes
    exact free (through _ passes)
  · rw [follow_start] at leads
    have onTheWay := isPrefix_of_take_append.mpr above
    rw [leads] at onTheWay
    by_cases root : outside = []
    · exact free (Or.inl root)
    · exact free (house outside root onTheWay)
  · rw [follow_start] at leads
    have inside := prefix_take_append.mpr below
    rw [leads] at inside
    exact elsewhere inside

theorem noNull_stagingPath {jobId : String} {filename : Option String} (plain : PlainName jobId)
    (noNull : ∀ part ∈ (PurePosixPath.parse (uploadName filename)).parts, '\x00' ∉ part.toList) :
    ¬ ∃ part ∈ (stagingPath jobId filename).parts, '\x00' ∈ part.toList := by
  rintro ⟨part, inside, null⟩
  rw [stagingPath, jobDir_eq plain, PurePosixPath.join] at inside
  split at inside
  · exact noNull part inside null
  · rcases List.mem_append.mp inside with above | below
    · simp only [jobPlace, List.mem_cons, List.not_mem_nil, or_false] at above
      rcases above with rfl | rfl | rfl
      · exact absurd null (by decide)
      · exact absurd null (by decide)
      · exact plain.2.2.2.2 null
    · exact noNull part below null

/-- Among no other files, the upload is written wherever its filename is opened. -/
theorem stageUpload_empty {jobId : String} {filename : Option String} (plain : PlainName jobId)
    (noNull : ∀ part ∈ (PurePosixPath.parse (uploadName filename)).parts, '\x00' ∉ part.toList)
    (directories : List (List String)) (payload : Bytes) :
    ∃ housed : FileSystem, Housed jobId housed ∧ housed.refuses = (fun _ => none) ∧
      (∀ place, place ∈ directories → housed.isDirectory place) ∧
      (∀ place, housed.isDirectory place → place ∈ directories ∨ place <+: jobPlace jobId) ∧
      ∀ place, openForWriting housed [] (stagingPath jobId filename).parts = .ok place →
        (stageUpload jobId filename payload ⟨directories, [], fun _ => none⟩).1.files = [(place, payload)] := by
  have rootParts : stagingRoot.parts = ["tmp", "onramp"] := by decide
  have root := makeDirs_made ⟨directories, [], fun _ => none⟩ [] stagingRoot.parts
  have rootOk := @makeDirs_ok ⟨directories, [], fun _ => none⟩ rfl (fun _ => rfl) [] stagingRoot.parts
  unfold stageUpload
  rcases rooting : makeDirs ⟨directories, [], fun _ => none⟩ [] stagingRoot.parts with ⟨rooted, result⟩
  rw [rooting] at root rootOk
  obtain rfl : result = .ok () := rootOk
  have dir := makeDirs_made rooted [] (jobDir jobId).parts
  have dirOk := makeDirs_ok root.files (fun place => congrFun root.refuses place) [] (jobDir jobId).parts
  simp only
  rcases housing : makeDirs rooted [] (jobDir jobId).parts with ⟨housed, result⟩
  rw [housing] at dir dirOk
  obtain rfl : result = .ok () := dirOk
  refine ⟨housed, ?_, dir.refuses.trans root.refuses, fun place inside => dir.more place (root.more place (Or.inr inside)),
    ?_, ?_⟩
  · intro front some above
    have made := dir.all rfl front some (by rw [jobDir_eq plain]; exact above)
    simpa using made
  · intro place is
    rcases dir.only place is with before | ⟨front, -, above, same⟩
    · rcases root.only place before with (rfl | inside) | ⟨front, -, above, same⟩
      · exact Or.inr List.nil_prefix
      · exact Or.inl inside
      · rw [same, List.nil_append]
        rw [rootParts] at above
        exact Or.inr (above.trans (by simp [jobPlace]))
    · rw [jobDir_eq plain] at above
      rw [same]
      exact Or.inr above
  · intro place opened
    have files : housed.files = [] := dir.files.trans root.files
    simp only [writeBytes, noNull_stagingPath plain noNull, if_false, opened, files]
    rfl

theorem staysInside_of_confined {jobId : String} {filename : Option String} (plain : PlainName jobId)
    (confined : ∀ payload fs, Confined jobId fs (stageUpload jobId filename payload fs).1) :
    StaysInside jobId (uploadName filename) := by
  by_contra leaves
  obtain ⟨opens, away⟩ := not_or.mp leaves
  simp only [OpensNothing, not_or, not_forall, not_exists, not_and, not_not] at opens
  obtain ⟨noNull, named, notPassed, notAbove⟩ := opens
  obtain ⟨housed, house, allowed, passes, only, written⟩ := stageUpload_empty plain noNull
    (passed (startOf jobId (uploadName filename)) (PurePosixPath.parse (uploadName filename)).steps) []
  have lands := follow_start jobId (uploadName filename)
  have opened := (stagingPath_opens plain house _).mpr ⟨named, passes, rfl, ?_, by rw [allowed]⟩
  · have outside : ¬ jobPlace jobId <+:
        follow (startOf jobId (uploadName filename)) (PurePosixPath.parse (uploadName filename)).steps := by
      rw [lands]
      exact fun inside => away (prefix_take_append.mp inside)
    have same := confined [] ⟨passed (startOf jobId (uploadName filename)) (PurePosixPath.parse (uploadName filename)).steps,
      [], fun _ => none⟩ _ outside
    rw [written _ opened] at same
    simp [find] at same
  · intro directory
    rcases only _ directory with inside | above
    · exact notPassed inside
    · rw [lands] at above
      exact notAbove (isPrefix_of_take_append.mp above)

/-- Whatever the file system and the bytes, staging an upload changes no file outside of the
    directory of the job if and only if the components of its filename lead nowhere else. -/
theorem staged_inside_iff (jobId : String) (filename : Option String) (plain : PlainName jobId) :
    (∀ payload fs, Confined jobId fs (stageUpload jobId filename payload fs).1) ↔
      StaysInside jobId (uploadName filename) :=
  ⟨staysInside_of_confined plain, fun stays payload fs => confined_of_staysInside plain stays payload fs⟩

/-- The id of a job. -/
def sampleJobId : String := "0b8f6f0e5d0d4d0f9f1c6f7a6a1c2e3d"

theorem sampleJobId_plain : PlainName sampleJobId := by decide

theorem staged_inside_iff_sample :
    (∀ payload fs, Confined sampleJobId fs (stageUpload sampleJobId (some "rates.xlsx") payload fs).1) ↔
      StaysInside sampleJobId "rates.xlsx" :=
  staged_inside_iff sampleJobId (some "rates.xlsx") sampleJobId_plain

/-- A filename with `..` overwrites the staged input of another job. -/
theorem upload_overwrites_other_job :
    ¬ ∀ (jobId filename : String) (payload : Bytes) (fs : FileSystem), PlainName jobId → filename ≠ "" →
      Confined jobId fs (stageUpload jobId (some filename) payload fs).1 := by
  intro always
  have confined := always sampleJobId "../5f1d7a4c3b2e4f60a1b2c3d4e5f60718/rates.xlsx" [2]
    ⟨[["tmp"], ["tmp", "onramp"], jobPlace "5f1d7a4c3b2e4f60a1b2c3d4e5f60718"],
      [(jobPlace "5f1d7a4c3b2e4f60a1b2c3d4e5f60718" ++ ["rates.xlsx"], [1])], fun _ => none⟩ sampleJobId_plain (by decide)
  have same := confined (jobPlace "5f1d7a4c3b2e4f60a1b2c3d4e5f60718" ++ ["rates.xlsx"]) (by decide)
  exact absurd same (by decide)

end Onramp.Staging
