/-!
Programs over a store that changes only through atomic transactions, while an
exception may be raised at any of their points. A script of faults says which
points raise what, so that a statement about every script is a statement about
every place where a failure can strike. The rules reason about triples of a
precondition, a postcondition and a condition for raised exceptions, all of them
about the committed states: the last one and the ones before it.
-/
namespace Onramp.Library.Atomic

/-- The committed state and the states that were committed before it, the newest
    first. -/
structure Trace (σ : Type) where
  committed : σ
  past : List σ

/-- Every state committed so far, the newest first. -/
def Trace.states {σ : Type} (t : Trace σ) : List σ := t.committed :: t.past

/-- The trace after one more commit. -/
def Trace.commit {σ : Type} (t : Trace σ) (s : σ) : Trace σ := ⟨s, t.committed :: t.past⟩

@[simp] theorem Trace.commit_committed {σ : Type} (t : Trace σ) (s : σ) : (t.commit s).committed = s := rfl

@[simp] theorem Trace.commit_states {σ : Type} (t : Trace σ) (s : σ) : (t.commit s).states = s :: t.states := rfl

/-- What a program runs against: the trace, and what the points still to come
    raise. Past the end of the script no point raises. -/
structure World (σ ε : Type) where
  trace : Trace σ
  faults : List (Option ε)

/-- A program: it returns or raises, and leaves the world changed. -/
def Prog (σ ε α : Type) : Type := World σ ε → Except ε α × World σ ε

variable {σ ε α β : Type}

instance : Monad (Prog σ ε) where
  pure a := fun w => (.ok a, w)
  bind p f := fun w =>
    match p w with
    | (.ok a, w') => f a w'
    | (.error e, w') => (.error e, w')

/-- Raises the exception. -/
def raise (e : ε) : Prog σ ε α := fun w => (.error e, w)

/-- A computation outside the store. -/
def lift (result : Except ε α) : Prog σ ε α := fun w => (result, w)

/-- A point where an exception may strike. -/
def point : Prog σ ε Unit := fun w =>
  match w.faults with
  | [] => (.ok (), w)
  | none :: rest => (.ok (), { w with faults := rest })
  | some e :: rest => (.error e, { w with faults := rest })

/-- A query on the committed state. -/
def query (f : σ → Except ε α) : Prog σ ε α := fun w => (f w.trace.committed, w)

/-- `try p except e: handler e`, for the exceptions that `handles` holds of. -/
def catching (handles : ε → Bool) (p : Prog σ ε α) (handler : ε → Prog σ ε α) : Prog σ ε α := fun w =>
  match p w with
  | (.ok a, w') => (.ok a, w')
  | (.error e, w') => if handles e then handler e w' else (.error e, w')

/-- The statements of a transaction on its working copy, with a point before each
    of them and one before the commit. -/
def runStatements : List (σ → Except ε σ) → σ → Prog σ ε σ
  | [], s => do
    point
    pure s
  | statement :: rest, s => do
    point
    let next ← lift (statement s)
    runStatements rest next

/-- A transaction: all of its statements are committed together, or the store
    stays as it was and the exception goes on. -/
def atomic (statements : List (σ → Except ε σ)) : Prog σ ε Unit := fun w =>
  match runStatements statements w.trace.committed w with
  | (.ok s, w') => (.ok (), { w' with trace := w'.trace.commit s })
  | (.error e, w') => (.error e, w')

/-- The statements in order, without faults. -/
def applyAll : List (σ → Except ε σ) → σ → Except ε σ
  | [], s => .ok s
  | statement :: rest, s =>
    match statement s with
    | .ok next => applyAll rest next
    | .error e => .error e

theorem applyAll_cons {statement : σ → Except ε σ} {s next : σ} (rest : List (σ → Except ε σ))
    (done : statement s = .ok next) : applyAll (statement :: rest) s = applyAll rest next := by
  simp [applyAll, done]

/-- The faults of the world are among the allowed ones. -/
def Allows (allowed : ε → Prop) (w : World σ ε) : Prop := ∀ e, some e ∈ w.faults → allowed e

/-- Whatever the allowed faults: from a trace with `pre`, the program returns a
    value with `post` or raises an exception with `fail`. -/
def Triple (allowed : ε → Prop) (pre : Trace σ → Prop) (p : Prog σ ε α) (post : α → Trace σ → Prop)
    (fail : ε → Trace σ → Prop) : Prop :=
  ∀ w, Allows allowed w → pre w.trace →
    Allows allowed (p w).2 ∧
      match (p w).1 with
      | .ok a => post a (p w).2.trace
      | .error e => fail e (p w).2.trace

variable {allowed : ε → Prop} {pre pre' : Trace σ → Prop} {post : α → Trace σ → Prop} {fail : ε → Trace σ → Prop}

theorem Triple.pure (a : α) (holds : ∀ t, pre t → post a t) :
    Triple allowed pre (Pure.pure a : Prog σ ε α) post fail :=
  fun w fine start => ⟨fine, holds w.trace start⟩

theorem Triple.raise (e : ε) (holds : ∀ t, pre t → fail e t) :
    Triple allowed pre (raise e : Prog σ ε α) post fail :=
  fun w fine start => ⟨fine, holds w.trace start⟩

theorem Triple.lift {result : Except ε α} (returned : ∀ a, result = .ok a → ∀ t, pre t → post a t)
    (raised : ∀ e, result = .error e → ∀ t, pre t → fail e t) :
    Triple allowed pre (Atomic.lift result : Prog σ ε α) post fail := by
  intro w fine start
  refine ⟨fine, ?_⟩
  cases outcome : result with
  | ok a => simpa [Atomic.lift] using returned a outcome w.trace start
  | error e => simpa [Atomic.lift] using raised e outcome w.trace start

theorem Triple.query {f : σ → Except ε α} (returned : ∀ t a, pre t → f t.committed = .ok a → post a t)
    (raised : ∀ t e, pre t → f t.committed = .error e → fail e t) :
    Triple allowed pre (Atomic.query f : Prog σ ε α) post fail := by
  intro w fine start
  refine ⟨fine, ?_⟩
  simp only [Atomic.query]
  cases outcome : f w.trace.committed with
  | ok a => exact returned w.trace a start outcome
  | error e => exact raised w.trace e start outcome

theorem point_cases (w : World σ ε) :
    (point w).2.trace = w.trace ∧ (∀ e, some e ∈ (point w).2.faults → some e ∈ w.faults) ∧
      ((point w).1 = .ok () ∨ ∃ e, some e ∈ w.faults ∧ (point w).1 = .error e) := by
  unfold point
  split
  · exact ⟨rfl, fun _ inside => inside, .inl rfl⟩
  · next rest script => exact ⟨rfl, fun e inside => by rw [script]; exact List.mem_cons_of_mem _ inside, .inl rfl⟩
  · next e rest script =>
    refine ⟨rfl, fun f inside => by rw [script]; exact List.mem_cons_of_mem _ inside, .inr ⟨e, ?_, rfl⟩⟩
    rw [script]
    exact List.mem_cons_self

/-- A point returns with the trace it found, or raises an allowed fault. -/
theorem Triple.point {post : Unit → Trace σ → Prop} (quiet : ∀ t, pre t → post () t)
    (struck : ∀ e, allowed e → ∀ t, pre t → fail e t) :
    Triple allowed pre (Atomic.point : Prog σ ε Unit) post fail := by
  intro w fine start
  obtain ⟨same, fewer, returned | ⟨e, scripted, raised⟩⟩ := point_cases w
  · refine ⟨fun f inside => fine f (fewer f inside), ?_⟩
    rw [returned, same]
    exact quiet w.trace start
  · refine ⟨fun f inside => fine f (fewer f inside), ?_⟩
    rw [raised, same]
    exact struck e (fine e scripted) w.trace start

theorem Triple.bind {p : Prog σ ε α} {f : α → Prog σ ε β} {post : β → Trace σ → Prop} (middle : α → Trace σ → Prop)
    (first : Triple allowed pre p middle fail) (next : ∀ a, Triple allowed (middle a) (f a) post fail) :
    Triple allowed pre (p >>= f) post fail := by
  intro w fine start
  obtain ⟨fine', reached⟩ := first w fine start
  have unfolded : (p >>= f) w = match p w with | (.ok a, w') => f a w' | (.error e, w') => (.error e, w') := rfl
  rw [unfolded]
  rcases outcome : p w with ⟨a | a, w'⟩
  · rw [outcome] at fine' reached
    exact ⟨fine', reached⟩
  · rw [outcome] at fine' reached
    exact next a w' fine' reached

theorem Triple.catching {handles : ε → Bool} {p : Prog σ ε α} {handler : ε → Prog σ ε α}
    (raised : ε → Trace σ → Prop) (body : Triple allowed pre p post raised)
    (handled : ∀ e, handles e = true → Triple allowed (raised e) (handler e) post fail)
    (escaped : ∀ e, handles e = false → ∀ t, raised e t → fail e t) :
    Triple allowed pre (catching handles p handler) post fail := by
  intro w fine start
  obtain ⟨fine', reached⟩ := body w fine start
  unfold Atomic.catching
  rcases outcome : p w with ⟨e | a, w'⟩
  · rw [outcome] at fine' reached
    cases caught : handles e with
    | true => simpa [caught] using handled e caught w' fine' reached
    | false => simpa [caught] using And.intro fine' (escaped e caught w'.trace reached)
  · rw [outcome] at fine' reached
    exact ⟨fine', reached⟩

theorem Triple.weaken {post' : α → Trace σ → Prop} {fail' : ε → Trace σ → Prop} {p : Prog σ ε α}
    (triple : Triple allowed pre p post fail) (stronger : ∀ t, pre' t → pre t) (later : ∀ a t, post a t → post' a t)
    (failed : ∀ e t, fail e t → fail' e t) : Triple allowed pre' p post' fail' := by
  intro w fine start
  obtain ⟨fine', reached⟩ := triple w fine (stronger w.trace start)
  refine ⟨fine', ?_⟩
  split at reached
  · next a outcome => exact later a _ reached
  · next e outcome => exact failed e _ reached

theorem Triple.given {fact : Prop} {p : Prog σ ε α} (triple : fact → Triple allowed pre p post fail) :
    Triple allowed (fun t => pre t ∧ fact) p post fail :=
  fun w fine start => triple start.2 w fine start.1

theorem Triple.exists {ι : Type} {start : ι → Trace σ → Prop} {p : Prog σ ε α}
    (triple : ∀ i, Triple allowed (start i) p post fail) : Triple allowed (fun t => ∃ i, start i t) p post fail :=
  fun w fine ⟨i, started⟩ => triple i w fine started

theorem runStatements_spec (statements : List (σ → Except ε σ)) (s : σ) (pre : Trace σ → Prop) :
    Triple allowed pre (runStatements statements s) (fun s' t => pre t ∧ applyAll statements s = .ok s')
      (fun e t => pre t ∧ (allowed e ∨ applyAll statements s = .error e)) := by
  induction statements generalizing s with
  | nil =>
    refine Triple.bind (fun _ => pre) (Triple.point (fun _ start => start) ?_) (fun _ => Triple.pure s ?_)
    · exact fun e scripted t start => ⟨start, .inl scripted⟩
    · exact fun t start => ⟨start, rfl⟩
  | cons statement rest ih =>
    refine Triple.bind (fun _ => pre) (Triple.point (fun _ start => start) ?_) (fun _ => ?_)
    · exact fun e scripted t start => ⟨start, .inl scripted⟩
    · refine Triple.bind (fun next t => pre t ∧ statement s = .ok next)
        (Triple.lift (fun next outcome t start => ⟨start, outcome⟩) ?_) (fun next => ?_)
      · intro e outcome t start
        exact ⟨start, .inr (by simp [applyAll, outcome])⟩
      · intro w fine start
        obtain ⟨fine', reached⟩ := ih next w fine start.1
        have same : applyAll (statement :: rest) s = applyAll rest next := by simp [applyAll, start.2]
        rw [same]
        exact ⟨fine', reached⟩

/-- A transaction either commits the state that its statements compute, on top of
    the trace it found, or leaves the trace alone and raises: an allowed fault, or
    what a statement raised. -/
theorem Triple.atomic {statements : List (σ → Except ε σ)} {post : Unit → Trace σ → Prop}
    (commits : ∀ t, pre t → ∀ s, applyAll statements t.committed = .ok s → post () (t.commit s))
    (aborts : ∀ t, pre t → ∀ e, allowed e ∨ applyAll statements t.committed = .error e → fail e t) :
    Triple allowed pre (Atomic.atomic statements : Prog σ ε Unit) post fail := by
  intro w fine start
  obtain ⟨fine', reached⟩ :=
    runStatements_spec statements w.trace.committed (fun t => t = w.trace) w fine rfl
  unfold Atomic.atomic
  rcases outcome : runStatements statements w.trace.committed w with ⟨e | s, w'⟩
  · rw [outcome] at fine' reached
    refine ⟨fine', ?_⟩
    obtain ⟨same, why⟩ := reached
    simp only at same
    simpa only [same] using aborts w.trace start e why
  · rw [outcome] at fine' reached
    refine ⟨fine', ?_⟩
    obtain ⟨same, applied⟩ := reached
    simp only at same
    simpa only [same] using commits w.trace start s applied

section
variable {t0 : Trace σ} {next : α → Prog σ ε β} {post : β → Trace σ → Prop}

theorem Triple.point_then {p : Prog σ ε β} (struck : ∀ e, allowed e → fail e t0)
    (rest : Triple allowed (fun t => t = t0) p post fail) :
    Triple allowed (fun t => t = t0) (Atomic.point >>= fun _ => p) post fail := by
  refine Triple.bind (fun _ t => t = t0) (Triple.point (fun _ start => start) ?_) (fun _ => rest)
  rintro e fault t rfl
  exact struck e fault

theorem Triple.lift_then {result : Except ε α} (raised : ∀ e, result = .error e → fail e t0)
    (rest : ∀ a, result = .ok a → Triple allowed (fun t => t = t0) (next a) post fail) :
    Triple allowed (fun t => t = t0) (Atomic.lift result >>= next) post fail := by
  refine Triple.bind (fun a t => t = t0 ∧ result = .ok a) (Triple.lift (fun a outcome t start => ⟨start, outcome⟩) ?_)
    (fun a => Triple.given (rest a))
  rintro e outcome t rfl
  exact raised e outcome

theorem Triple.query_then {f : σ → Except ε α} (raised : ∀ e, f t0.committed = .error e → fail e t0)
    (rest : ∀ a, f t0.committed = .ok a → Triple allowed (fun t => t = t0) (next a) post fail) :
    Triple allowed (fun t => t = t0) (Atomic.query f >>= next) post fail := by
  refine Triple.bind (fun a t => t = t0 ∧ f t0.committed = .ok a) (Triple.query ?_ ?_) (fun a => Triple.given (rest a))
  · rintro t a rfl outcome
    exact ⟨rfl, outcome⟩
  · rintro t e rfl outcome
    exact raised e outcome

/-- A transaction whose statements all succeed is committed, or an allowed fault strikes it. -/
theorem Triple.atomic_commits {statements : List (σ → Except ε σ)} {s : σ} {post : Unit → Trace σ → Prop}
    (applied : applyAll statements t0.committed = .ok s) (struck : ∀ e, allowed e → fail e t0)
    (commits : post () (t0.commit s)) :
    Triple allowed (fun t => t = t0) (Atomic.atomic statements) post fail := by
  refine Triple.atomic ?_ ?_
  · rintro t rfl s' applied'
    rw [applied] at applied'
    cases applied'
    exact commits
  · rintro t rfl e (fault | failed)
    · exact struck e fault
    · rw [applied] at failed
      cases failed

end

theorem Prog.bind_ok {p : Prog σ ε α} {f : α → Prog σ ε β} {w w' : World σ ε} {a : α} (ran : p w = (.ok a, w')) :
    (p >>= f) w = f a w' := by
  have unfolded : (p >>= f) w = match p w with | (.ok a, w') => f a w' | (.error e, w') => (.error e, w') := rfl
  rw [unfolded, ran]

theorem runStatements_quiet {statements : List (σ → Except ε σ)} {t : Trace σ} {s s' : σ}
    (applied : applyAll statements s = .ok s') : runStatements statements s ⟨t, []⟩ = (.ok s', ⟨t, []⟩) := by
  induction statements generalizing s with
  | nil =>
    cases applied
    rfl
  | cons statement rest ih =>
    cases done : statement s with
    | error e => simp [applyAll, done] at applied
    | ok next =>
      rw [applyAll_cons rest done] at applied
      have lifted : (lift (statement s) : Prog σ ε σ) ⟨t, []⟩ = (.ok next, ⟨t, []⟩) := by rw [done]; rfl
      exact (Prog.bind_ok lifted).trans (ih applied)

/-- A transaction that no fault strikes is committed. -/
theorem atomic_quiet {statements : List (σ → Except ε σ)} {t : Trace σ} {s : σ}
    (applied : applyAll statements t.committed = .ok s) :
    Atomic.atomic statements ⟨t, []⟩ = (.ok (), ⟨t.commit s, []⟩) := by
  unfold Atomic.atomic
  rw [runStatements_quiet applied]

end Onramp.Library.Atomic
