import Mathlib.Data.List.Basic

/-!
Codes: functions that write a value as a word over some alphabet. A code is
self-delimiting when a word can be told apart from whatever follows it; the words of
such codes can be put one after the other without losing the values.
-/
namespace Onramp.Library.Codes

variable {α β γ : Type}

/-- Texts that start with words of the code start with the same word only, and go on alike. -/
def SelfDelimiting (code : α → List γ) : Prop :=
  ∀ a b x y, code a ++ x = code b ++ y → a = b ∧ x = y

variable {code : α → List γ} {other : β → List γ}

theorem SelfDelimiting.injective (delimited : SelfDelimiting code) : Function.Injective code := by
  intro a b same
  exact (delimited a b [] [] (by rw [same])).1

/-- A code whose words a reader takes back from the front of every text. -/
theorem selfDelimiting_of_reader (read : List γ → Option (α × List γ)) (reads : ∀ a x, read (code a ++ x) = some (a, x)) :
    SelfDelimiting code := by
  intro a b x y same
  have both : some (a, x) = some (b, y) := by rw [← reads a x, same, reads b y]
  simpa using both

/-- A code whose words are of one class of symbols, with a symbol outside of the class behind
    each word. -/
theorem selfDelimiting_of_class (inClass : γ → Prop) {stop : γ} (outside : ¬ inClass stop)
    (injective : Function.Injective code) (inside : ∀ a, ∀ c ∈ code a, inClass c) :
    SelfDelimiting (fun a => code a ++ [stop]) := by
  have split : ∀ front back : List γ, (∀ c ∈ front, inClass c) → (∀ c ∈ back, inClass c) → ∀ x y,
      front ++ stop :: x = back ++ stop :: y → front = back ∧ x = y := by
    intro front
    induction front with
    | nil =>
      intro back _ allBack x y same
      cases back with
      | nil => simpa using same
      | cons c back =>
        cases same
        exact absurd (allBack stop List.mem_cons_self) outside
    | cons c front ih =>
      intro back allFront allBack x y same
      cases back with
      | nil =>
        cases same
        exact absurd (allFront stop List.mem_cons_self) outside
      | cons d back =>
        obtain ⟨rfl, rest⟩ := List.cons.inj same
        obtain ⟨rfl, after⟩ := ih back (fun e inside => allFront e (List.mem_cons_of_mem _ inside))
          (fun e inside => allBack e (List.mem_cons_of_mem _ inside)) x y rest
        exact ⟨rfl, after⟩
  intro a b x y same
  obtain ⟨words, rest⟩ := split (code a) (code b) (inside a) (inside b) x y (by simpa using same)
  exact ⟨injective words, rest⟩

theorem SelfDelimiting.comp (delimited : SelfDelimiting code) {f : β → α} (injective : Function.Injective f) :
    SelfDelimiting (fun b => code (f b)) := by
  intro a b x y same
  obtain ⟨values, rest⟩ := delimited (f a) (f b) x y same
  exact ⟨injective values, rest⟩

/-- A fixed word in front. -/
theorem SelfDelimiting.before (word : List γ) (delimited : SelfDelimiting code) :
    SelfDelimiting (fun a => word ++ code a) := by
  intro a b x y same
  simp only [List.append_assoc] at same
  exact delimited a b x y (List.append_cancel_left same)

/-- A fixed word behind. -/
theorem SelfDelimiting.after (word : List γ) (delimited : SelfDelimiting code) :
    SelfDelimiting (fun a => code a ++ word) := by
  intro a b x y same
  simp only [List.append_assoc] at same
  obtain ⟨values, rest⟩ := delimited a b _ _ same
  exact ⟨values, List.append_cancel_left rest⟩

theorem SelfDelimiting.pair (first : SelfDelimiting code) (second : SelfDelimiting other) :
    SelfDelimiting (fun pair : α × β => code pair.1 ++ other pair.2) := by
  rintro ⟨a, b⟩ ⟨a', b'⟩ x y same
  simp only [List.append_assoc] at same
  obtain ⟨rfl, behind⟩ := first a a' _ _ same
  obtain ⟨rfl, rest⟩ := second b b' _ _ behind
  exact ⟨rfl, rest⟩

/-- No word starts with the symbol, nor is it empty. -/
def StartsApart (stop : γ) (code : α → List γ) : Prop := ∀ a, ∃ c word, code a = c :: word ∧ c ≠ stop

/-- The words of a list of values, ended by a symbol that no word starts with. -/
theorem SelfDelimiting.flatMap (delimited : SelfDelimiting code) {stop : γ} (apart : StartsApart stop code) :
    SelfDelimiting (fun items : List α => items.flatMap code ++ [stop]) := by
  intro items
  induction items with
  | nil =>
    intro others x y same
    cases others with
    | nil => simpa using same
    | cons b others =>
      obtain ⟨c, word, starts, differs⟩ := apart b
      simp only [List.flatMap_nil, List.flatMap_cons, starts, List.nil_append, List.cons_append] at same
      exact absurd (List.cons.inj same).1.symm differs
  | cons a items ih =>
    intro others x y same
    cases others with
    | nil =>
      obtain ⟨c, word, starts, differs⟩ := apart a
      simp only [List.flatMap_nil, List.flatMap_cons, starts, List.nil_append, List.cons_append] at same
      exact absurd (List.cons.inj same).1 differs
    | cons b others =>
      simp only [List.flatMap_cons, List.append_assoc] at same
      obtain ⟨rfl, behind⟩ := delimited a b _ _ same
      obtain ⟨rfl, rest⟩ := ih others x y (by simpa using behind)
      exact ⟨rfl, rest⟩

/-- The words of a list of values with a separator between them, ended by a symbol that no
    word and no separator starts with. -/
theorem SelfDelimiting.intercalate (delimited : SelfDelimiting code) {stop first : γ} {rest : List γ}
    (apart : StartsApart stop code) (differs : first ≠ stop) :
    SelfDelimiting (fun items : List α => (first :: rest).intercalate (items.map code) ++ [stop]) := by
  have spread : ∀ (a : α) (items : List α), (first :: rest).intercalate ((a :: items).map code) =
      code a ++ items.flatMap (fun b => (first :: rest) ++ code b) := by
    intro a items
    induction items generalizing a with
    | nil => simp
    | cons b items ih =>
      rw [List.map_cons, List.map_cons, List.intercalate_cons_cons, ← List.map_cons, ih b]
      simp
  have behind : StartsApart stop (fun b => (first :: rest) ++ code b) := fun b => ⟨first, rest ++ code b, rfl, differs⟩
  have tail := (delimited.before (first :: rest)).flatMap behind
  intro items others x y same
  cases items with
  | nil =>
    cases others with
    | nil => simpa using same
    | cons b others =>
      obtain ⟨c, word, starts, differs⟩ := apart b
      simp only [spread, starts, List.map_nil, List.intercalate_nil, List.nil_append, List.cons_append] at same
      exact absurd (List.cons.inj same).1.symm differs
  | cons a items =>
    cases others with
    | nil =>
      obtain ⟨c, word, starts, differs⟩ := apart a
      simp only [spread, starts, List.map_nil, List.intercalate_nil, List.nil_append, List.cons_append] at same
      exact absurd (List.cons.inj same).1 differs
    | cons b others =>
      simp only [spread, List.append_assoc] at same
      obtain ⟨rfl, behind⟩ := delimited a b _ _ same
      obtain ⟨rfl, rest⟩ := tail items others x y (by simpa using behind)
      exact ⟨rfl, rest⟩

end Onramp.Library.Codes
