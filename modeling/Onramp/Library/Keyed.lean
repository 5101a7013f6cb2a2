import Mathlib.Data.List.Nodup

/-!
Keyed tables as lists of pairs. A table stands for a dictionary in insertion
order and for a relation with a primary key: `alter` changes the entry of a key
in place or appends it, `upsert` is `INSERT ... ON CONFLICT (key) DO UPDATE`, and
`firstPerKey` keeps the first element of each key.
-/
namespace Onramp.Library.Keyed

variable {κ ρ α : Type}

/-- A table of rows `ρ` under keys `κ`. -/
abbrev Table (κ ρ : Type) : Type := List (κ × ρ)

/-- The keys of a table, in order. -/
def keys (table : Table κ ρ) : List κ := table.map Prod.fst

section
variable [DecidableEq κ]

/-- The row of a key. -/
def find (key : κ) : Table κ ρ → Option ρ
  | [] => none
  | entry :: rest => if entry.1 = key then some entry.2 else find key rest

/-- `f` of the row of the key, in its place; a new key goes to the end. -/
def alter (key : κ) (f : Option ρ → ρ) : Table κ ρ → Table κ ρ
  | [] => [(key, f none)]
  | entry :: rest => if entry.1 = key then (key, f (some entry.2)) :: rest else entry :: alter key f rest

/-- The row becomes the one of the key. -/
def upsert (key : κ) (row : ρ) (table : Table κ ρ) : Table κ ρ := alter key (fun _ => row) table

/-- The entries are upserted in order. -/
def upsertAll (entries : List (κ × ρ)) (table : Table κ ρ) : Table κ ρ :=
  entries.foldl (fun table entry => upsert entry.1 entry.2 table) table

/-- `f` of the row of the key, where there is one. -/
def adjust (key : κ) (f : ρ → ρ) (table : Table κ ρ) : Table κ ρ :=
  table.map (fun entry => if entry.1 = key then (entry.1, f entry.2) else entry)

/-- The table without the row of the key. -/
def erase (key : κ) (table : Table κ ρ) : Table κ ρ := table.filter (fun entry => entry.1 ≠ key)

/-- The row of the last entry with the key. -/
def lastOf (key : κ) (entries : List (κ × ρ)) : Option ρ :=
  ((entries.filter (fun entry => entry.1 = key)).getLast?).map Prod.snd

@[simp] theorem find_nil (key : κ) : find key ([] : Table κ ρ) = none := rfl

theorem find_alter (key sought : κ) (f : Option ρ → ρ) (table : Table κ ρ) :
    find sought (alter key f table) = if sought = key then some (f (find key table)) else find sought table := by
  induction table with
  | nil =>
    by_cases same : sought = key
    · simp [alter, find, same]
    · simp [alter, find, same, Ne.symm same]
  | cons entry rest ih =>
    by_cases here : entry.1 = key
    · by_cases same : sought = key
      · simp [alter, find, here, same]
      · simp [alter, find, here, same, Ne.symm same]
    · by_cases same : sought = key
      · subst same
        simp [alter, find, here, ih]
      · simp only [alter, here, if_false, find, ih, same]

@[simp] theorem find_upsert_self (key : κ) (row : ρ) (table : Table κ ρ) :
    find key (upsert key row table) = some row := by
  simp [upsert, find_alter]

theorem find_upsert_other {key sought : κ} (other : sought ≠ key) (row : ρ) (table : Table κ ρ) :
    find sought (upsert key row table) = find sought table := by
  simp [upsert, find_alter, other]

theorem find_adjust (key sought : κ) (f : ρ → ρ) (table : Table κ ρ) :
    find sought (adjust key f table) = if sought = key then (find key table).map f else find sought table := by
  induction table with
  | nil => simp [adjust]
  | cons entry rest ih =>
    have inside := ih
    simp only [adjust] at inside
    by_cases here : entry.1 = key
    · by_cases same : sought = key
      · simp [adjust, find, here, same]
      · simp [adjust, find, here, Ne.symm same, inside, same]
    · by_cases same : sought = key
      · subst same
        simpa [adjust, find, here] using inside
      · by_cases sought' : entry.1 = sought
        · simp [adjust, find, sought', same]
        · simpa [adjust, find, here, sought', same] using inside

theorem mem_upsert {entry : κ × ρ} {key : κ} {row : ρ} {table : Table κ ρ} (inside : entry ∈ upsert key row table) :
    entry = (key, row) ∨ entry ∈ table := by
  induction table with
  | nil => exact .inl (List.mem_singleton.mp inside)
  | cons first rest ih =>
    by_cases here : first.1 = key
    · simp only [upsert, alter, here, if_true, List.mem_cons] at inside
      exact inside.imp_right (List.mem_cons_of_mem _)
    · simp only [upsert, alter, here, if_false, List.mem_cons] at inside
      rcases inside with rfl | later
      · exact .inr List.mem_cons_self
      · exact (ih later).imp_right (List.mem_cons_of_mem _)

/-- A selection of keys sees the upserts of the keys in it. -/
theorem filter_upsert (selected : κ → Bool) (key : κ) (row : ρ) (table : Table κ ρ) :
    (upsert key row table).filter (fun entry => selected entry.1) =
      if selected key then upsert key row (table.filter (fun entry => selected entry.1))
      else table.filter (fun entry => selected entry.1) := by
  induction table with
  | nil => cases chosen : selected key <;> simp [upsert, alter, chosen]
  | cons entry rest ih =>
    simp only [upsert] at ih
    by_cases here : entry.1 = key
    · cases chosen : selected key <;> simp [upsert, alter, here, chosen]
    · cases chosen : selected key <;> cases other : selected entry.1 <;>
        simp [upsert, alter, here, ih, chosen, other]

theorem mem_keys_alter (key sought : κ) (f : Option ρ → ρ) (table : Table κ ρ) :
    sought ∈ keys (alter key f table) ↔ sought = key ∨ sought ∈ keys table := by
  induction table with
  | nil => simp [alter, keys]
  | cons entry rest ih =>
    by_cases here : entry.1 = key
    · simp [alter, here, keys]
    · have inside := ih
      simp only [keys] at inside
      simp [alter, here, keys, inside, or_left_comm]

theorem nodup_keys_alter (key : κ) (f : Option ρ → ρ) {table : Table κ ρ} (distinct : (keys table).Nodup) :
    (keys (alter key f table)).Nodup := by
  induction table with
  | nil => simp [alter, keys]
  | cons entry rest ih =>
    have parts : entry.1 ∉ keys rest ∧ (keys rest).Nodup := by simpa [keys] using distinct
    by_cases here : entry.1 = key
    · simp only [alter, here, if_true, keys, List.map_cons]
      rw [← here]
      exact List.nodup_cons.mpr parts
    · have fresh : entry.1 ∉ keys (alter key f rest) := by
        rw [mem_keys_alter]
        rintro (same | inside)
        · exact here same
        · exact parts.1 inside
      simp only [alter, here, if_false]
      exact List.nodup_cons.mpr ⟨fresh, ih parts.2⟩

theorem mem_keys_iff_find (key : κ) (table : Table κ ρ) : key ∈ keys table ↔ (find key table).isSome := by
  induction table with
  | nil => simp [keys]
  | cons entry rest ih =>
    have inside := ih
    simp only [keys] at inside
    by_cases here : entry.1 = key
    · simp [keys, find, here]
    · simp [keys, find, here, Ne.symm here, inside]

theorem mem_of_find {key : κ} {row : ρ} {table : Table κ ρ} (found : find key table = some row) :
    (key, row) ∈ table := by
  induction table with
  | nil => simp at found
  | cons entry rest ih =>
    by_cases here : entry.1 = key
    · simp only [find, here, if_true, Option.some.injEq] at found
      subst here
      subst found
      exact List.mem_cons_self
    · simp only [find, here, if_false] at found
      exact List.mem_cons_of_mem _ (ih found)

theorem erase_cons (key : κ) (entry : κ × ρ) (rest : Table κ ρ) :
    erase key (entry :: rest) = if entry.1 = key then erase key rest else entry :: erase key rest := by
  by_cases here : entry.1 = key <;> simp [erase, here]

theorem find_erase (key sought : κ) (table : Table κ ρ) :
    find sought (erase key table) = if sought = key then none else find sought table := by
  induction table with
  | nil => simp [erase]
  | cons entry rest ih =>
    rw [erase_cons]
    by_cases here : entry.1 = key
    · by_cases same : sought = key
      · simpa [here, same] using ih
      · simpa [find, here, same, Ne.symm same] using ih
    · by_cases same : sought = key
      · subst same
        simpa [find, here] using ih
      · rw [if_neg here]
        simp only [find, ih, same, if_false]

theorem find_of_mem {key : κ} {row : ρ} {table : Table κ ρ} (distinct : (keys table).Nodup)
    (inside : (key, row) ∈ table) : find key table = some row := by
  induction table with
  | nil => cases inside
  | cons entry rest ih =>
    have parts : entry.1 ∉ keys rest ∧ (keys rest).Nodup := by simpa [keys] using distinct
    rcases List.mem_cons.mp inside with here | later
    · simp [find, ← here]
    · have elsewhere : entry.1 ≠ key := by
        intro same
        exact parts.1 (same ▸ List.mem_map_of_mem later)
      simpa [find, elsewhere] using ih parts.2 later

/-- Tables with the same entries have the same rows. -/
theorem find_perm {table table' : Table κ ρ} (distinct : (keys table).Nodup) (same : table.Perm table') (key : κ) :
    find key table = find key table' := by
  have distinct' : (keys table').Nodup := ((same.map Prod.fst).nodup_iff).mp distinct
  cases found : find key table with
  | some row => exact (find_of_mem distinct' (same.mem_iff.mp (mem_of_find found))).symm
  | none =>
    cases found' : find key table' with
    | none => rfl
    | some row =>
      rw [find_of_mem distinct (same.mem_iff.mpr (mem_of_find found'))] at found
      cases found

theorem find_map (f : ρ → ρ) (key : κ) (table : Table κ ρ) :
    find key (table.map (fun entry => (entry.1, f entry.2))) = (find key table).map f := by
  induction table with
  | nil => rfl
  | cons entry rest ih => by_cases here : entry.1 = key <;> simp [find, here, ih]

theorem find_append (key : κ) (front back : Table κ ρ) : find key (front ++ back) = (find key front).or (find key back) := by
  induction front with
  | nil => rfl
  | cons entry rest ih => by_cases here : entry.1 = key <;> simp [find, here, ih]

theorem upsert_absent {key : κ} {table : Table κ ρ} (absent : key ∉ keys table) (row : ρ) :
    upsert key row table = table ++ [(key, row)] := by
  induction table with
  | nil => rfl
  | cons entry rest ih =>
    have parts : key ≠ entry.1 ∧ key ∉ keys rest := by simpa [keys] using absent
    have step : upsert key row (entry :: rest) = if entry.1 = key then (key, row) :: rest else entry :: upsert key row rest :=
      rfl
    rw [step, if_neg (Ne.symm parts.1), ih parts.2]
    rfl

/-- Entries under keys of their own are appended as they are. -/
theorem upsertAll_distinct {entries table : Table κ ρ} (distinct : (keys (table ++ entries)).Nodup) :
    upsertAll entries table = table ++ entries := by
  induction entries generalizing table with
  | nil => simp [upsertAll]
  | cons entry rest ih =>
    have step : upsertAll (entry :: rest) table = upsertAll rest (upsert entry.1 entry.2 table) := rfl
    have absent : entry.1 ∉ keys table := by
      intro inside
      unfold keys at distinct inside
      rw [List.map_append] at distinct
      exact (List.nodup_append'.mp distinct).2.2 inside (List.mem_map_of_mem List.mem_cons_self)
    rw [step, upsert_absent absent, ih (by simpa using distinct)]
    simp

/-- The rows under one first part of a pair of keys, as a table of their own. -/
theorem find_section {κ' ρ' : Type} [DecidableEq κ'] (f : ρ → ρ') (part : κ) (key : κ') (table : Table (κ × κ') ρ) :
    find key ((table.filter (fun entry => entry.1.1 = part)).map (fun entry => (entry.1.2, f entry.2))) =
      (find (part, key) table).map f := by
  induction table with
  | nil => rfl
  | cons entry rest ih =>
    obtain ⟨⟨part', key'⟩, row⟩ := entry
    by_cases samePart : part' = part
    · by_cases sameKey : key' = key <;> simp [find, samePart, sameKey, ih]
    · simp [find, samePart, ih]

theorem lastOf_append (key : κ) (front back : List (κ × ρ)) :
    lastOf key (front ++ back) = (lastOf key back).or (lastOf key front) := by
  unfold lastOf
  rw [List.filter_append, List.getLast?_append]
  cases (back.filter (fun entry => entry.1 = key)).getLast? <;> simp

theorem lastOf_cons (key : κ) (entry : κ × ρ) (rest : List (κ × ρ)) :
    lastOf key (entry :: rest) = (lastOf key rest).or (if entry.1 = key then some entry.2 else none) := by
  rw [show entry :: rest = [entry] ++ rest from rfl, lastOf_append]
  by_cases here : entry.1 = key <;> simp [lastOf, here]

/-- Among entries upserted in order, the last one of a key wins. -/
theorem find_upsertAll (key : κ) (entries : List (κ × ρ)) (table : Table κ ρ) :
    find key (upsertAll entries table) = (lastOf key entries).or (find key table) := by
  induction entries generalizing table with
  | nil => simp [upsertAll, lastOf]
  | cons entry rest ih =>
    have step : upsertAll (entry :: rest) table = upsertAll rest (upsert entry.1 entry.2 table) := rfl
    rw [step, ih, lastOf_cons, upsert, find_alter]
    by_cases here : entry.1 = key
    · cases lastOf key rest <;> simp [here]
    · cases lastOf key rest <;> simp [here, Ne.symm here]

/-- A row is an upserted one, or it was there before. -/
theorem mem_upsertAll {entry : κ × ρ} {entries : List (κ × ρ)} {table : Table κ ρ}
    (inside : entry ∈ upsertAll entries table) : entry ∈ entries ∨ entry ∈ table := by
  induction entries generalizing table with
  | nil => exact .inr inside
  | cons first rest ih =>
    have step : upsertAll (first :: rest) table = upsertAll rest (upsert first.1 first.2 table) := rfl
    rw [step] at inside
    rcases ih inside with later | before
    · exact .inl (List.mem_cons_of_mem _ later)
    · rcases mem_upsert before with rfl | old
      · exact .inl List.mem_cons_self
      · exact .inr old

theorem length_upsert_le (key : κ) (row : ρ) (table : Table κ ρ) : (upsert key row table).length ≤ table.length + 1 := by
  induction table with
  | nil => exact Nat.le_refl 1
  | cons first rest ih =>
    by_cases here : first.1 = key
    · simp [upsert, alter, here]
    · simpa [upsert, alter, here] using ih

theorem length_upsertAll_le (entries : List (κ × ρ)) (table : Table κ ρ) :
    (upsertAll entries table).length ≤ table.length + entries.length := by
  induction entries generalizing table with
  | nil => exact Nat.le_refl _
  | cons first rest ih =>
    have here := length_upsert_le first.1 first.2 table
    have later := ih (upsert first.1 first.2 table)
    have step : upsertAll (first :: rest) table = upsertAll rest (upsert first.1 first.2 table) := rfl
    rw [step, List.length_cons]
    omega

/-- The keys of the entries can be renamed one to one. -/
theorem lastOf_rename {κ' : Type} [DecidableEq κ'] (rename : κ → κ') (injective : Function.Injective rename) (key : κ)
    (entries : List (κ × ρ)) :
    lastOf (rename key) (entries.map (fun entry => (rename entry.1, entry.2))) = lastOf key entries := by
  induction entries with
  | nil => rfl
  | cons entry rest ih => simp only [List.map_cons, lastOf_cons, ih, injective.eq_iff]

theorem lastOf_map {ρ' : Type} (f : ρ → ρ') (key : κ) (entries : List (κ × ρ)) :
    lastOf key (entries.map (fun entry => (entry.1, f entry.2))) = (lastOf key entries).map f := by
  induction entries with
  | nil => rfl
  | cons entry rest ih =>
    simp only [List.map_cons, lastOf_cons, ih]
    cases lastOf key rest <;> by_cases here : entry.1 = key <;> simp [here]

theorem mem_of_lastOf {key : κ} {entries : List (κ × ρ)} {row : ρ} (found : lastOf key entries = some row) :
    (key, row) ∈ entries := by
  unfold lastOf at found
  obtain ⟨entry, last, rfl⟩ := Option.map_eq_some_iff.mp found
  obtain ⟨inside, same⟩ := List.mem_filter.mp (List.mem_of_getLast? last)
  rw [← of_decide_eq_true same]
  exact inside

theorem lastOf_isSome (key : κ) (entries : List (κ × ρ)) : (lastOf key entries).isSome ↔ key ∈ keys entries := by
  unfold lastOf keys
  rw [Option.isSome_map, List.getLast?_isSome, List.mem_map]
  constructor
  · intro some
    obtain ⟨entry, inside⟩ := List.exists_mem_of_ne_nil _ some
    obtain ⟨member, same⟩ := List.mem_filter.mp inside
    exact ⟨entry, member, by simpa using same⟩
  · rintro ⟨entry, member, rfl⟩
    exact List.ne_nil_of_mem (List.mem_filter.mpr ⟨member, by simp⟩)

/-- The elements whose key was not seen before, in order. -/
def firstPerKey (key : α → κ) (seen : List κ) : List α → List α
  | [] => []
  | item :: rest =>
    if key item ∈ seen then firstPerKey key seen rest
    else item :: firstPerKey key (key item :: seen) rest

variable (key : α → κ)

theorem firstPerKey_unseen (seen : List κ) (items : List α) :
    ∀ item ∈ firstPerKey key seen items, key item ∉ seen := by
  induction items generalizing seen with
  | nil => simp [firstPerKey]
  | cons head rest ih =>
    by_cases known : key head ∈ seen
    · simpa [firstPerKey, known] using ih seen
    · intro item inside
      simp only [firstPerKey, known, if_false, List.mem_cons] at inside
      rcases inside with rfl | later
      · exact known
      · exact fun seenBefore => ih (key head :: seen) item later (List.mem_cons_of_mem _ seenBefore)

theorem firstPerKey_nodup (seen : List κ) (items : List α) : ((firstPerKey key seen items).map key).Nodup := by
  induction items generalizing seen with
  | nil => simp [firstPerKey]
  | cons head rest ih =>
    by_cases known : key head ∈ seen
    · simpa [firstPerKey, known] using ih seen
    · simp only [firstPerKey, known, if_false, List.map_cons]
      refine List.nodup_cons.mpr ⟨?_, ih (key head :: seen)⟩
      intro repeated
      obtain ⟨item, inside, same⟩ := List.mem_map.mp repeated
      exact firstPerKey_unseen key (key head :: seen) rest item inside (same ▸ List.mem_cons_self)

/-- Elements with distinct keys, none of them seen, all stay and come first. -/
theorem firstPerKey_append {seen : List κ} {front : List α} (back : List α) (distinct : (front.map key).Nodup)
    (unseen : ∀ item ∈ front, key item ∉ seen) :
    firstPerKey key seen (front ++ back) = front ++ firstPerKey key ((front.map key).reverse ++ seen) back := by
  induction front generalizing seen with
  | nil => simp
  | cons head rest ih =>
    have parts := List.nodup_cons.mp distinct
    have fresh : key head ∉ seen := unseen head List.mem_cons_self
    have later : ∀ item ∈ rest, key item ∉ key head :: seen := by
      intro item inside known
      rcases List.mem_cons.mp known with same | before
      · exact parts.1 (same ▸ List.mem_map_of_mem inside)
      · exact unseen item (List.mem_cons_of_mem _ inside) before
    rw [List.cons_append, firstPerKey, if_neg fresh, ih parts.2 later]
    simp

theorem firstPerKey_sublist (seen : List κ) (items : List α) : (firstPerKey key seen items).Sublist items := by
  induction items generalizing seen with
  | nil => exact .slnil
  | cons head rest ih =>
    rw [firstPerKey]
    split
    · exact (ih seen).cons head
    · exact (ih (key head :: seen)).cons_cons head

/-- What comes behind does not change what is kept of the front. -/
theorem firstPerKey_prefix (seen : List κ) (front back : List α) :
    firstPerKey key seen front <+: firstPerKey key seen (front ++ back) := by
  induction front generalizing seen with
  | nil => exact List.nil_prefix
  | cons head rest ih =>
    rw [List.cons_append, firstPerKey, firstPerKey]
    split
    · exact ih seen
    · exact List.cons_prefix_cons.mpr ⟨rfl, ih (key head :: seen)⟩

/-- The first element with a key stays. -/
theorem mem_firstPerKey_of_first {seen : List κ} {front back : List α} {item : α} (unseen : key item ∉ seen)
    (first : ∀ earlier ∈ front, key earlier ≠ key item) : item ∈ firstPerKey key seen (front ++ item :: back) := by
  induction front generalizing seen with
  | nil => simp [firstPerKey, unseen]
  | cons head rest ih =>
    have later : ∀ earlier ∈ rest, key earlier ≠ key item := fun earlier inside => first earlier (List.mem_cons_of_mem _ inside)
    rw [List.cons_append, firstPerKey]
    split
    · exact ih unseen later
    · refine List.mem_cons_of_mem _ (ih ?_ later)
      intro known
      rcases List.mem_cons.mp known with same | before
      · exact first head List.mem_cons_self same.symm
      · exact unseen before

theorem key_mem_firstPerKey (seen : List κ) (items : List α) {item : α} (inside : item ∈ items) :
    key item ∈ seen ∨ key item ∈ (firstPerKey key seen items).map key := by
  induction items generalizing seen with
  | nil => cases inside
  | cons head rest ih =>
    by_cases known : key head ∈ seen
    · rcases List.mem_cons.mp inside with rfl | later
      · exact .inl known
      · simpa [firstPerKey, known] using ih seen later
    · simp only [firstPerKey, known, if_false, List.map_cons, List.mem_cons]
      rcases List.mem_cons.mp inside with rfl | later
      · exact .inr (.inl rfl)
      · rcases ih (key head :: seen) later with known' | kept
        · rcases List.mem_cons.mp known' with same | before
          · exact .inr (.inl same)
          · exact .inl before
        · exact .inr (.inr kept)
end

end Onramp.Library.Keyed
