/-!
Systems that take one step for each event, and what holds along their runs. A step
is partial: it is not defined where the event cannot happen.
-/
namespace Onramp.Library.Runs

variable {σ ι : Type}

/-- The state after the events in order, where each of them can happen. -/
def run (step : σ → ι → Option σ) : σ → List ι → Option σ
  | s, [] => some s
  | s, event :: rest =>
    match step s event with
    | some next => run step next rest
    | none => none

/-- `event` happens in `before` along the run of `events` from `s` and leads to `after`. -/
inductive Takes (step : σ → ι → Option σ) : σ → List ι → σ → ι → σ → Prop
  | here {s event rest next} (stepped : step s event = some next) : Takes step s (event :: rest) s event next
  | later {s event rest next before event' after} (stepped : step s event = some next)
      (taken : Takes step next rest before event' after) : Takes step s (event :: rest) before event' after

theorem run_append (step : σ → ι → Option σ) (s : σ) (front back : List ι) :
    run step s (front ++ back) = (run step s front).bind (fun middle => run step middle back) := by
  induction front generalizing s with
  | nil => rfl
  | cons event rest ih =>
    simp only [List.cons_append, run]
    cases step s event with
    | none => rfl
    | some next => exact ih next

/-- What is taken behind the front of a run is taken in the run. -/
theorem takes_back {step : σ → ι → Option σ} {front back : List ι} {s middle before after : σ} {event : ι}
    (reached : run step s front = some middle) (taken : Takes step middle back before event after) :
    Takes step s (front ++ back) before event after := by
  induction front generalizing s with
  | nil =>
    cases reached
    exact taken
  | cons first front ih =>
    simp only [run] at reached
    cases begun : step s first with
    | none =>
      rw [begun] at reached
      cases reached
    | some next =>
      rw [begun] at reached
      exact .later begun (ih reached)

theorem takes_of_run {step : σ → ι → Option σ} {front rest : List ι} {s before after : σ} {event : ι}
    (reached : run step s front = some before) (stepped : step before event = some after) :
    Takes step s (front ++ event :: rest) before event after :=
  takes_back reached (.here stepped)

theorem stepped_of_takes {step : σ → ι → Option σ} {events : List ι} {s before after : σ} {event : ι}
    (taken : Takes step s events before event after) : step before event = some after := by
  induction taken with
  | here stepped => exact stepped
  | later _ _ ih => exact ih

theorem mem_of_takes {step : σ → ι → Option σ} {events : List ι} {s before after : σ} {event : ι}
    (taken : Takes step s events before event after) : event ∈ events := by
  induction taken with
  | here _ => exact List.mem_cons_self
  | later _ _ ih => exact List.mem_cons_of_mem _ ih

/-- What is taken in the front of a run is taken in the run. -/
theorem takes_front {step : σ → ι → Option σ} {front : List ι} {s before after : σ} {event : ι} (back : List ι)
    (taken : Takes step s front before event after) : Takes step s (front ++ back) before event after := by
  induction taken with
  | here stepped => exact .here stepped
  | later stepped _ ih => exact .later stepped ih

/-- Every step of the run passes a test. -/
def checked (step : σ → ι → Option σ) (test : σ → ι → Bool) : σ → List ι → Bool
  | _, [] => true
  | s, event :: rest =>
    match step s event with
    | some next => test s event && checked step test next rest
    | none => true

theorem of_checked {step : σ → ι → Option σ} {test : σ → ι → Bool} {events : List ι} {s before after : σ} {event : ι}
    (passed : checked step test s events = true) (taken : Takes step s events before event after) :
    test before event = true := by
  induction taken with
  | here stepped =>
    simp only [checked, stepped, Bool.and_eq_true] at passed
    exact passed.1
  | later stepped _ ih =>
    simp only [checked, stepped, Bool.and_eq_true] at passed
    exact ih passed.2

/-- An invariant of the steps that meet a condition holds in every state that a run
    of such steps reaches, and before each of its steps. -/
theorem invariant_of_run {step : σ → ι → Option σ} (Inv : σ → Prop) (Meets : σ → ι → Prop)
    (preserved : ∀ s event next, Inv s → Meets s event → step s event = some next → Inv next) :
    ∀ (events : List ι) (s : σ), Inv s →
      (∀ before event after, Takes step s events before event after → Meets before event) →
      (∀ last, run step s events = some last → Inv last) ∧
        ∀ before event after, Takes step s events before event after → Inv before := by
  intro events
  induction events with
  | nil =>
    intro s start _
    refine ⟨?_, ?_⟩
    · intro last reached
      cases reached
      exact start
    · intro before event after taken
      cases taken
  | cons event rest ih =>
    intro s start meets
    cases stepped : step s event with
    | none =>
      refine ⟨?_, ?_⟩
      · intro last reached
        simp [run, stepped] at reached
      · intro before event' after taken
        cases taken with
        | here stepped' => exact start
        | later stepped' taken' => rw [stepped] at stepped'; cases stepped'
    | some next =>
      have kept : Inv next := preserved s event next start (meets s event next (.here stepped)) stepped
      obtain ⟨reach, along⟩ := ih next kept
        (fun before event' after taken => meets before event' after (.later stepped taken))
      refine ⟨?_, ?_⟩
      · intro last reached
        simp only [run, stepped] at reached
        exact reach last reached
      · intro before event' after taken
        cases taken with
        | here stepped' => exact start
        | later stepped' taken' =>
          rw [stepped] at stepped'
          cases stepped'
          exact along before event' after taken'

/-- What holds of the events so far and the state they lead to, and is kept by one event more, holds
    of every run. -/
theorem history_of_run {step : σ → ι → Option σ} (Inv : List ι → σ → Prop)
    (preserved : ∀ events s event next, Inv events s → step s event = some next → Inv (events ++ [event]) next) :
    ∀ (rest events : List ι) (s last : σ), Inv events s → run step s rest = some last → Inv (events ++ rest) last := by
  intro rest
  induction rest with
  | nil =>
    intro events s last start reached
    cases reached
    rwa [List.append_nil]
  | cons event rest ih =>
    intro events s last start reached
    simp only [run] at reached
    cases stepped : step s event with
    | none =>
      rw [stepped] at reached
      cases reached
    | some next =>
      rw [stepped] at reached
      have kept := ih _ next last (preserved events s event next start stepped) reached
      rwa [List.append_assoc, List.singleton_append] at kept

/-- Where each step keeps an invariant exactly when it meets a condition, a run keeps the
    invariant exactly when all of its steps meet the condition. `Base` is what every step
    keeps. -/
theorem along_iff_of_run {step : σ → ι → Option σ} (Base Inv : σ → Prop) (Meets : σ → ι → Prop)
    (kept : ∀ s event next, Base s → step s event = some next → Base next)
    (exactly : ∀ s event next, Base s → Inv s → step s event = some next → (Inv next ↔ Meets s event)) :
    ∀ (events : List ι) (s : σ), Base s → Inv s →
      ((∀ before event after, Takes step s events before event after → Inv after) ↔
        ∀ before event after, Takes step s events before event after → Meets before event) := by
  intro events
  induction events with
  | nil =>
    intro s _ _
    refine iff_of_true ?_ ?_
    · intro before event after taken
      cases taken
    · intro before event after taken
      cases taken
  | cons event rest ih =>
    intro s base start
    cases stepped : step s event with
    | none =>
      have stuck : ∀ before event' after, ¬ Takes step s (event :: rest) before event' after := by
        intro before event' after taken
        cases taken with
        | here stepped' => rw [stepped] at stepped'; cases stepped'
        | later stepped' _ => rw [stepped] at stepped'; cases stepped'
      exact iff_of_true (fun _ _ _ taken => (stuck _ _ _ taken).elim) (fun _ _ _ taken => (stuck _ _ _ taken).elim)
    | some next =>
      have first : Inv next ↔ Meets s event := exactly s event next base start stepped
      have others := ih next (kept s event next base stepped)
      constructor
      · intro all before event' after taken
        have good : Inv next := all s event next (.here stepped)
        cases taken with
        | here _ => exact first.mp good
        | later stepped' taken' =>
          rw [stepped] at stepped'
          cases stepped'
          exact (others good).mp (fun b e a t => all b e a (.later stepped t)) before event' after taken'
      · intro all before event' after taken
        have good : Inv next := first.mpr (all s event next (.here stepped))
        cases taken with
        | here stepped' =>
          rw [stepped] at stepped'
          cases stepped'
          exact good
        | later stepped' taken' =>
          rw [stepped] at stepped'
          cases stepped'
          exact (others good).mpr (fun b e a t => all b e a (.later stepped t)) before event' after taken'

end Onramp.Library.Runs
