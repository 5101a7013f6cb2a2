import Onramp.Library.Atomic

/-!
Systems that several parties share, each of which looks at its own part of the state. A relation
says which states are alike to a party. Where the actions of the others keep a state alike, and
the actions of the party answer alike states alike, the party cannot tell a run of the system
from a run of its own actions. Programs with atomic transactions answer alike states alike when
their queries and statements do.
-/
namespace Onramp.Library.Isolation
open Onramp.Library.Atomic

section
variable {σ ι action answer : Type} [DecidableEq ι] (owner : action → ι) (perform : σ → action → answer × σ)

/-- The state after the actions. -/
def after (s : σ) (actions : List action) : σ := actions.foldl (fun s act => (perform s act).2) s

/-- The answers that a party gets to its actions along the run. -/
def answersTo (party : ι) : σ → List action → List answer
  | _, [] => []
  | s, act :: rest =>
    if owner act = party then (perform s act).1 :: answersTo party (perform s act).2 rest
    else answersTo party (perform s act).2 rest

/-- The actions of a party. -/
def ownActions (party : ι) (actions : List action) : List action := actions.filter (fun act => owner act = party)

variable {owner perform}

/-- The party gets the answers that it gets alone, and ends in a state that is alike to it. -/
theorem alone_of_alike {party : ι} {alike : σ → σ → Prop}
    (others : ∀ s s' act, owner act ≠ party → alike s s' → alike (perform s act).2 s')
    (own : ∀ s s' act, owner act = party → alike s s' →
      (perform s act).1 = (perform s' act).1 ∧ alike (perform s act).2 (perform s' act).2)
    (actions : List action) {s s' : σ} (start : alike s s') :
    answersTo owner perform party s actions = answersTo owner perform party s' (ownActions owner party actions) ∧
      alike (after perform s actions) (after perform s' (ownActions owner party actions)) := by
  induction actions generalizing s s' with
  | nil => exact ⟨rfl, start⟩
  | cons act rest ih =>
    by_cases mine : owner act = party
    · obtain ⟨answered, next⟩ := own s s' act mine start
      obtain ⟨answers, ends⟩ := ih next
      have kept : ownActions owner party (act :: rest) = act :: ownActions owner party rest := by
        simp [ownActions, mine]
      rw [kept]
      exact ⟨by simp only [answersTo, mine, if_true, answered, answers], ends⟩
    · have next := others s s' act mine start
      obtain ⟨answers, ends⟩ := ih next
      have dropped : ownActions owner party (act :: rest) = ownActions owner party rest := by
        simp [ownActions, mine]
      rw [dropped]
      exact ⟨by simp only [answersTo, mine, if_false, answers], ends⟩

end

section
variable {σ ε α β γ δ : Type}

/-- Two results: both calls raise the same exception, or they return related values. -/
def RelatedResults (related : α → β → Prop) : Except ε α → Except ε β → Prop
  | .ok a, .ok b => related a b
  | .error e, .error e' => e = e'
  | _, _ => False

/-- On alike states, under the same script, both programs raise the same exception or return
    related values, and they leave alike states and the same script. -/
def Coupled (alike : σ → σ → Prop) (related : α → β → Prop) (p : Prog σ ε α) (q : Prog σ ε β) : Prop :=
  ∀ w w', alike w.trace.committed w'.trace.committed → w.faults = w'.faults →
    RelatedResults related (p w).1 (q w').1 ∧ alike (p w).2.trace.committed (q w').2.trace.committed ∧
      (p w).2.faults = (q w').2.faults

/-- The program answers alike states alike. -/
def Congruent (alike : σ → σ → Prop) (p : Prog σ ε α) : Prop := Coupled alike Eq p p

variable {alike : σ → σ → Prop} {related : α → β → Prop}

theorem Coupled.pure {a : α} {b : β} (values : related a b) :
    Coupled alike related (Pure.pure a : Prog σ ε α) (Pure.pure b) :=
  fun _ _ start same => ⟨values, start, same⟩

theorem Coupled.lift {result : Except ε α} {result' : Except ε β} (results : RelatedResults related result result') :
    Coupled alike related (Atomic.lift result : Prog σ ε α) (Atomic.lift result') :=
  fun _ _ start same => ⟨results, start, same⟩

theorem bind_error {p : Prog σ ε α} {f : α → Prog σ ε β} {w w' : World σ ε} {e : ε} (ran : p w = (.error e, w')) :
    (p >>= f) w = (.error e, w') := by
  simp only [bind, ran]

theorem Coupled.bind {values : γ → δ → Prop} {p : Prog σ ε γ} {q : Prog σ ε δ} {f : γ → Prog σ ε α} {g : δ → Prog σ ε β}
    (first : Coupled alike values p q) (next : ∀ c d, values c d → Coupled alike related (f c) (g d)) :
    Coupled alike related (p >>= f) (q >>= g) := by
  intro w w' start same
  obtain ⟨results, ends, script⟩ := first w w' start same
  rcases ran : p w with ⟨e | c, v⟩ <;> rcases ran' : q w' with ⟨e' | d, v'⟩ <;>
    rw [ran, ran'] at results ends script
  · rw [bind_error ran, bind_error ran']
    exact ⟨results, ends, script⟩
  · exact results.elim
  · exact results.elim
  · rw [Prog.bind_ok ran, Prog.bind_ok ran']
    exact next c d results v v' ends script

theorem Congruent.pure (a : α) : Congruent alike (Pure.pure a : Prog σ ε α) := Coupled.pure rfl

theorem Congruent.raise (e : ε) : Congruent alike (Atomic.raise e : Prog σ ε α) :=
  fun _ _ start same => ⟨rfl, start, same⟩

theorem Congruent.lift (result : Except ε α) : Congruent alike (Atomic.lift result : Prog σ ε α) := by
  refine Coupled.lift ?_
  cases result <;> rfl

theorem Congruent.point : Congruent alike (Atomic.point : Prog σ ε Unit) := by
  rintro ⟨trace, faults⟩ ⟨trace', faults'⟩ start same
  obtain rfl : faults = faults' := same
  rcases faults with _ | ⟨_ | e, rest⟩
  · exact ⟨rfl, start, rfl⟩
  · exact ⟨rfl, start, rfl⟩
  · exact ⟨rfl, start, rfl⟩

/-- A query that reads the same in alike states. -/
theorem Congruent.query {f : σ → Except ε α} (reads : ∀ s s', alike s s' → f s = f s') :
    Congruent alike (Atomic.query f : Prog σ ε α) := by
  intro w w' start same
  have results : f w.trace.committed = f w'.trace.committed := reads _ _ start
  refine ⟨?_, start, same⟩
  simp only [Atomic.query, results]
  cases f w'.trace.committed <;> rfl

theorem Congruent.bind {p : Prog σ ε γ} {f : γ → Prog σ ε α} (first : Congruent alike p)
    (next : ∀ c, Congruent alike (f c)) : Congruent alike (p >>= f) :=
  Coupled.bind first (by rintro c _ rfl; exact next c)

theorem Congruent.catching {handles : ε → Bool} {p : Prog σ ε α} {handler : ε → Prog σ ε α} (body : Congruent alike p)
    (handled : ∀ e, Congruent alike (handler e)) : Congruent alike (Atomic.catching handles p handler) := by
  intro w w' start same
  obtain ⟨results, ends, script⟩ := body w w' start same
  unfold Atomic.catching
  rcases ran : p w with ⟨e | a, v⟩ <;> rcases ran' : p w' with ⟨e' | a', v'⟩ <;> rw [ran, ran'] at results ends script
  · obtain rfl : e = e' := results
    cases caught : handles e with
    | true => simpa [caught] using handled e v v' ends script
    | false => simpa [caught] using And.intro (show RelatedResults Eq (.error e) (.error e) from rfl) (And.intro ends script)
  · exact results.elim
  · exact results.elim
  · exact ⟨results, ends, script⟩

/-- The statements turn alike states into alike states, or raise the same exception. -/
def AlikeStatements (alike : σ → σ → Prop) (statements : List (σ → Except ε σ)) : Prop :=
  ∀ statement ∈ statements, ∀ s s', alike s s' → RelatedResults alike (statement s) (statement s')

theorem runStatements_coupled {statements : List (σ → Except ε σ)} (each : AlikeStatements alike statements) {s s' : σ}
    (copies : alike s s') : Coupled alike alike (runStatements statements s) (runStatements statements s') := by
  induction statements generalizing s s' with
  | nil => exact Coupled.bind Congruent.point (fun _ _ _ => Coupled.pure copies)
  | cons statement rest ih =>
    refine Coupled.bind Congruent.point (fun _ _ _ => ?_)
    refine Coupled.bind (Coupled.lift (each statement List.mem_cons_self s s' copies)) (fun next next' stepped => ?_)
    exact ih (fun other inside => each other (List.mem_cons_of_mem _ inside)) stepped

theorem Congruent.atomic {statements : List (σ → Except ε σ)} (each : AlikeStatements alike statements) :
    Congruent alike (Atomic.atomic statements : Prog σ ε Unit) := by
  intro w w' start same
  obtain ⟨results, ends, script⟩ := runStatements_coupled each start w w' start same
  unfold Atomic.atomic
  rcases ran : runStatements statements w.trace.committed w with ⟨e | s, v⟩ <;>
    rcases ran' : runStatements statements w'.trace.committed w' with ⟨e' | s', v'⟩ <;>
    rw [ran, ran'] at results ends script
  · exact ⟨results, ends, script⟩
  · exact results.elim
  · exact results.elim
  · exact ⟨rfl, results, script⟩

end

end Onramp.Library.Isolation
