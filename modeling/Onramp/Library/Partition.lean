import Mathlib.Data.List.Basic

/-!
A list that is dealt out to two others: walking it in order, each item gives the next entry
of the one or of the other.
-/
namespace Onramp.Library.Partition

variable {α β γ ε : Type}

/-- Each item gives the next entry of the first list, or the next entry of the second. -/
inductive Dealt (toFirst : α → β → Prop) (toSecond : α → γ → Prop) : List α → List β → List γ → Prop
  | nil : Dealt toFirst toSecond [] [] []
  | first {a : α} {b : β} {items : List α} {firsts : List β} {seconds : List γ} (gives : toFirst a b)
      (rest : Dealt toFirst toSecond items firsts seconds) : Dealt toFirst toSecond (a :: items) (b :: firsts) seconds
  | second {a : α} {c : γ} {items : List α} {firsts : List β} {seconds : List γ} (gives : toSecond a c)
      (rest : Dealt toFirst toSecond items firsts seconds) : Dealt toFirst toSecond (a :: items) firsts (c :: seconds)

variable {toFirst : α → β → Prop} {toSecond : α → γ → Prop} {items : List α} {firsts : List β} {seconds : List γ}

/-- Nothing is lost and nothing is doubled. -/
theorem Dealt.length_eq (dealt : Dealt toFirst toSecond items firsts seconds) :
    items.length = firsts.length + seconds.length := by
  induction dealt with
  | nil => rfl
  | first _ _ ih =>
    simp only [List.length_cons, ih]
    omega
  | second _ _ ih =>
    simp only [List.length_cons, ih]
    omega

theorem Dealt.exists_of_first (dealt : Dealt toFirst toSecond items firsts seconds) {b : β} (inside : b ∈ firsts) :
    ∃ a ∈ items, toFirst a b := by
  induction dealt with
  | nil => cases inside
  | @first a _ _ _ _ gives _ ih =>
    rcases List.mem_cons.mp inside with rfl | later
    · exact ⟨a, List.mem_cons_self, gives⟩
    · obtain ⟨source, among, given⟩ := ih later
      exact ⟨source, List.mem_cons_of_mem _ among, given⟩
  | second _ _ ih =>
    obtain ⟨source, among, given⟩ := ih inside
    exact ⟨source, List.mem_cons_of_mem _ among, given⟩

/-- The names of the items are the names of what they give. -/
theorem Dealt.perm {κ : Type} {name : α → κ} {nameFirst : β → κ} {nameSecond : γ → κ}
    (dealt : Dealt toFirst toSecond items firsts seconds) (first : ∀ a b, toFirst a b → nameFirst b = name a)
    (second : ∀ a c, toSecond a c → nameSecond c = name a) :
    (items.map name).Perm (firsts.map nameFirst ++ seconds.map nameSecond) := by
  induction dealt with
  | nil => exact .nil
  | first gives _ ih =>
    rw [List.map_cons, List.map_cons, List.cons_append, first _ _ gives]
    exact ih.cons _
  | second gives _ ih =>
    rw [List.map_cons, List.map_cons, second _ _ gives]
    exact (ih.cons _).trans List.perm_middle.symm

/-- What the loop over the items collects, when each of its results has an entry for one of the
    lists only. -/
theorem dealt_of_forall₂ {outcomes : List ε} {toOutcome : α → ε → Prop} {left : ε → Option β} {right : ε → Option γ}
    (walked : List.Forall₂ toOutcome items outcomes)
    (either : ∀ a e, toOutcome a e → (∃ b, left e = some b ∧ right e = none ∧ toFirst a b) ∨
      ∃ c, left e = none ∧ right e = some c ∧ toSecond a c) :
    Dealt toFirst toSecond items (outcomes.filterMap left) (outcomes.filterMap right) := by
  induction walked with
  | nil => exact .nil
  | cons here _ ih =>
    rcases either _ _ here with ⟨b, kept, none, gives⟩ | ⟨c, none, flagged, gives⟩
    · rw [List.filterMap_cons_some kept, List.filterMap_cons_none none]
      exact .first gives ih
    · rw [List.filterMap_cons_none none, List.filterMap_cons_some flagged]
      exact .second gives ih

/-- The items beside a part of their results. -/
theorem forall₂_zip {δ : Type} {outcomes : List ε} {toOutcome : α → ε → Prop} (part : ε → δ)
    (walked : List.Forall₂ toOutcome items outcomes) :
    List.Forall₂ (fun entry e => toOutcome entry.1 e ∧ entry.2 = part e) (items.zip (outcomes.map part)) outcomes := by
  induction walked with
  | nil => exact .nil
  | cons here _ ih => exact .cons ⟨here, rfl⟩ ih

end Onramp.Library.Partition
