/-
This file defines tables keyed by name. A table is a list of entries in strictly increasing
order of their keys, so two tables with the same content are equal and a listing comes out
sorted. What every operation does is said through `get?`: a write is seen at its own key and
nowhere else.
-/

namespace NodeAgent

/-- Entries in strictly increasing order of their keys, by code point. -/
structure Table (Value : Type) where
  entries : List (String × Value)
  sorted : entries.Pairwise fun first second => first.1 < second.1
deriving DecidableEq

namespace Table

variable {Value Other : Type}

/-! ### Lists of entries -/

/-- The value at a key of a list of entries. -/
def find (key : String) : List (String × Value) → Option Value
  | [] => none
  | (name, value) :: rest => if name = key then some value else find key rest

/-- Writes a value at its place in an ordered list. -/
def place (key : String) (value : Value) : List (String × Value) → List (String × Value)
  | [] => [(key, value)]
  | (name, old) :: rest =>
    if key < name then (key, value) :: (name, old) :: rest
    else if key = name then (key, value) :: rest
    else (name, old) :: place key value rest

/-- Leaves out the entry at a key. -/
def strike (key : String) (entries : List (String × Value)) : List (String × Value) :=
  entries.filter fun entry => entry.1 ≠ key

theorem mem_place {key : String} {value : Value} {entries : List (String × Value)}
    {entry : String × Value} (member : entry ∈ place key value entries) :
    entry = (key, value) ∨ entry ∈ entries := by
  induction entries with
  | nil => simpa [place] using member
  | cons head rest inductionHypothesis =>
    obtain ⟨name, old⟩ := head
    simp only [place] at member
    split at member
    · simpa using member
    · split at member
      · rcases List.mem_cons.1 member with found | found
        · exact Or.inl found
        · exact Or.inr (List.mem_cons_of_mem _ found)
      · rcases List.mem_cons.1 member with found | found
        · exact Or.inr (found ▸ List.mem_cons_self)
        · rcases inductionHypothesis found with same | older
          · exact Or.inl same
          · exact Or.inr (List.mem_cons_of_mem _ older)

theorem pairwise_place (key : String) (value : Value) {entries : List (String × Value)}
    (sorted : entries.Pairwise fun first second => first.1 < second.1) :
    (place key value entries).Pairwise fun first second => first.1 < second.1 := by
  induction entries with
  | nil => simp [place]
  | cons head rest inductionHypothesis =>
    obtain ⟨name, old⟩ := head
    obtain ⟨before, later⟩ := List.pairwise_cons.1 sorted
    simp only [place]
    split
    · next smaller =>
      refine List.pairwise_cons.2 ⟨fun entry member => ?_, sorted⟩
      rcases List.mem_cons.1 member with same | member
      · simpa [same] using smaller
      · exact String.lt_trans smaller (before entry member)
    · next notSmaller =>
      split
      · next same => subst same; exact List.pairwise_cons.2 ⟨before, later⟩
      · next different =>
        refine List.pairwise_cons.2 ⟨fun entry member => ?_, inductionHypothesis later⟩
        rcases mem_place member with same | member
        · subst same
          rcases String.le_total key name with le | le
          · exact absurd (String.le_antisymm le (String.not_lt.1 notSmaller)) different
          · exact Decidable.byContradiction fun notGreater =>
              different (String.le_antisymm (String.not_lt.1 notGreater)
                (String.not_lt.1 notSmaller))
        · exact before entry member

/-! ### Tables -/

/-- The table without entries. -/
def empty : Table Value := ⟨[], .nil⟩

instance : Inhabited (Table Value) := ⟨empty⟩

/-- The value at a key. -/
def get? (table : Table Value) (key : String) : Option Value := find key table.entries

/-- Writes a value at a key, in place of an older one. -/
def insert (table : Table Value) (key : String) (value : Value) : Table Value :=
  ⟨place key value table.entries, pairwise_place key value table.sorted⟩

/-- Removes the entry at a key. -/
def erase (table : Table Value) (key : String) : Table Value :=
  ⟨strike key table.entries, table.sorted.filter _⟩

/-- Whether a key has a value. -/
def contains (table : Table Value) (key : String) : Bool := (table.get? key).isSome

/-- The keys, in order. -/
def keys (table : Table Value) : List String := table.entries.map Prod.fst

/-- The values, in the order of their keys. -/
def values (table : Table Value) : List Value := table.entries.map Prod.snd

/-- Writes the pairs of a list one after another, so the last pair of a key stays. -/
def ofList (pairs : List (String × Value)) : Table Value :=
  pairs.foldl (fun table pair => table.insert pair.1 pair.2) empty

/-- Replaces every value by one computed from its key and itself. -/
def mapValues (table : Table Value) (change : String → Value → Other) : Table Other :=
  ⟨table.entries.map fun entry => (entry.1, change entry.1 entry.2),
    List.pairwise_map.2 table.sorted⟩

/-! ### Reading after writing -/

theorem find_place_self (key : String) (value : Value) (entries : List (String × Value)) :
    find key (place key value entries) = some value := by
  induction entries with
  | nil => simp [place, find]
  | cons head rest inductionHypothesis =>
    obtain ⟨name, old⟩ := head
    simp only [place]
    split
    · simp [find]
    · split
      · simp [find]
      · next different => simp [find, Ne.symm different, inductionHypothesis]

theorem find_place_other {key other : String} (value : Value) (different : other ≠ key)
    (entries : List (String × Value)) :
    find other (place key value entries) = find other entries := by
  induction entries with
  | nil => simp [place, find, Ne.symm different]
  | cons head rest inductionHypothesis =>
    obtain ⟨name, old⟩ := head
    simp only [place]
    split
    · simp [find, Ne.symm different]
    · split
      · next same => subst same; simp [find, Ne.symm different]
      · simp [find, inductionHypothesis]

@[simp] theorem get?_empty (key : String) : (empty : Table Value).get? key = none := rfl

@[simp] theorem get?_insert_self (table : Table Value) (key : String) (value : Value) :
    (table.insert key value).get? key = some value :=
  find_place_self key value table.entries

theorem get?_insert_other (table : Table Value) {key other : String} (value : Value)
    (different : other ≠ key) : (table.insert key value).get? other = table.get? other :=
  find_place_other value different table.entries

theorem find_strike_self (key : String) (entries : List (String × Value)) :
    find key (strike key entries) = none := by
  induction entries with
  | nil => rfl
  | cons head rest inductionHypothesis =>
    obtain ⟨name, old⟩ := head
    by_cases same : name = key
    · simpa [strike, same] using inductionHypothesis
    · simpa [strike, same, find] using inductionHypothesis

theorem find_strike_other {key other : String} (different : other ≠ key)
    (entries : List (String × Value)) : find other (strike key entries) = find other entries := by
  induction entries with
  | nil => rfl
  | cons head rest inductionHypothesis =>
    obtain ⟨name, old⟩ := head
    by_cases same : name = key
    · subst same
      simpa [strike, find, Ne.symm different] using inductionHypothesis
    · have kept : strike key ((name, old) :: rest) = (name, old) :: strike key rest := by
        simp [strike, same]
      simp only [kept, find, inductionHypothesis]

@[simp] theorem get?_erase_self (table : Table Value) (key : String) :
    (table.erase key).get? key = none :=
  find_strike_self key table.entries

theorem get?_erase_other (table : Table Value) {key other : String} (different : other ≠ key) :
    (table.erase key).get? other = table.get? other :=
  find_strike_other different table.entries

/-! ### A table is determined by what it holds -/

theorem find_eq_none_iff {key : String} {pairs : List (String × Value)} :
    find key pairs = none ↔ ∀ pair ∈ pairs, pair.1 ≠ key := by
  induction pairs with
  | nil => exact iff_of_true rfl fun pair member => nomatch member
  | cons pair rest inductionHypothesis =>
    rw [find, List.forall_mem_cons, ← inductionHypothesis]
    by_cases same : pair.1 = key
    · rw [if_pos same]
      exact iff_of_false nofun fun different => different.1 same
    · rw [if_neg same]
      exact (and_iff_right same).symm

theorem find_eq_none_of_lt {key : String} {entries : List (String × Value)}
    (before : ∀ entry ∈ entries, key < entry.1) : find key entries = none :=
  find_eq_none_iff.2 fun entry member same => String.lt_irrefl key (same ▸ before entry member)

/-- A table has a value at a key where the two are an entry of it. -/
theorem get?_eq_some_iff {table : Table Value} {key : String} {value : Value} :
    table.get? key = some value ↔ (key, value) ∈ table.entries := by
  obtain ⟨entries, sorted⟩ := table
  show find key entries = some value ↔ (key, value) ∈ entries
  induction entries with
  | nil => exact iff_of_false nofun List.not_mem_nil
  | cons head rest inductionHypothesis =>
    obtain ⟨before, later⟩ := List.pairwise_cons.1 sorted
    rw [find, List.mem_cons]
    by_cases same : head.1 = key
    · rw [if_pos same, Option.some.injEq]
      constructor
      · rintro rfl
        exact .inl (Prod.ext same.symm rfl)
      · rintro (whole | inside)
        · exact (congrArg Prod.snd whole).symm
        · exact absurd (before _ inside) (same ▸ String.lt_irrefl key)
    · rw [if_neg same, inductionHypothesis later]
      exact ⟨.inr, fun either =>
        either.resolve_left fun whole => same (congrArg Prod.fst whole).symm⟩

theorem mem_values_iff {table : Table Value} {value : Value} :
    value ∈ table.values ↔ ∃ key, table.get? key = some value := by
  constructor
  · intro member
    obtain ⟨⟨key, _⟩, among, rfl⟩ := List.mem_map.1 member
    exact ⟨key, get?_eq_some_iff.2 among⟩
  · rintro ⟨key, there⟩
    exact List.mem_map.2 ⟨_, get?_eq_some_iff.1 there, rfl⟩

theorem entries_eq_of_find_eq {first second : List (String × Value)}
    (firstSorted : first.Pairwise fun left right => left.1 < right.1)
    (secondSorted : second.Pairwise fun left right => left.1 < right.1)
    (same : ∀ key, find key first = find key second) : first = second := by
  induction first generalizing second with
  | nil =>
    cases second with
    | nil => rfl
    | cons head rest => simpa [find] using same head.1
  | cons head rest inductionHypothesis =>
    obtain ⟨before, later⟩ := List.pairwise_cons.1 firstSorted
    cases second with
    | nil => simpa [find] using same head.1
    | cons other others =>
      obtain ⟨otherBefore, otherLater⟩ := List.pairwise_cons.1 secondSorted
      have heads : head.1 = other.1 := by
        apply Decidable.byContradiction
        intro different
        rcases String.le_total head.1 other.1 with le | le
        · have less : head.1 < other.1 := Decidable.byContradiction fun no =>
            different (String.le_antisymm le (String.not_lt.1 no))
          have found := same head.1
          have missing : find head.1 (other :: others) = none :=
            find_eq_none_of_lt fun entry member => by
              rcases List.mem_cons.1 member with this | member
              · simpa [this] using less
              · exact String.lt_trans less (otherBefore entry member)
          rw [missing] at found
          simp [find] at found
        · have less : other.1 < head.1 := Decidable.byContradiction fun no =>
            different (String.le_antisymm (String.not_lt.1 no) le)
          have found := same other.1
          have missing : find other.1 (head :: rest) = none :=
            find_eq_none_of_lt fun entry member => by
              rcases List.mem_cons.1 member with this | member
              · simpa [this] using less
              · exact String.lt_trans less (before entry member)
          rw [missing] at found
          simp [find] at found
      have values : head.2 = other.2 := by
        have found := same head.1
        simpa [find, heads] using found
      have rests : rest = others := inductionHypothesis later otherLater fun key => by
        by_cases key = head.1
        · next atHead =>
          rw [find_eq_none_of_lt (by simpa [atHead] using before),
            find_eq_none_of_lt (by simpa [atHead, heads] using otherBefore)]
        · next elsewhere =>
          have found := same key
          simpa [find, Ne.symm elsewhere, heads ▸ Ne.symm elsewhere] using found
      rw [Prod.ext heads values, rests]

theorem ext_get? {first second : Table Value} (same : ∀ key, first.get? key = second.get? key) :
    first = second := by
  obtain ⟨firstEntries, firstSorted⟩ := first
  obtain ⟨secondEntries, secondSorted⟩ := second
  have equal := entries_eq_of_find_eq firstSorted secondSorted same
  subst equal
  rfl

/-- Of two values written at one key the later stays. -/
theorem insert_insert (table : Table Value) (key : String) (first second : Value) :
    (table.insert key first).insert key second = table.insert key second := by
  refine ext_get? fun other => ?_
  by_cases same : other = key
  · rw [same, get?_insert_self, get?_insert_self]
  · rw [get?_insert_other _ _ same, get?_insert_other _ _ same, get?_insert_other _ _ same]

/-- Writing what is there changes nothing. -/
theorem insert_of_get? {table : Table Value} {key : String} {value : Value}
    (there : table.get? key = some value) : table.insert key value = table := by
  refine ext_get? fun other => ?_
  by_cases same : other = key
  · rw [same, get?_insert_self, there]
  · exact get?_insert_other table value same

/-- Writing and removing an entry leaves a table without it. -/
theorem erase_insert (table : Table Value) (key : String) (value : Value) :
    (table.insert key value).erase key = table.erase key := by
  refine ext_get? fun other => ?_
  by_cases same : other = key
  · rw [same, get?_erase_self, get?_erase_self]
  · rw [get?_erase_other _ same, get?_erase_other _ same, get?_insert_other _ _ same]

/-- Removing what is not there changes nothing. -/
theorem erase_of_get? {table : Table Value} {key : String} (missing : table.get? key = none) :
    table.erase key = table := by
  refine ext_get? fun other => ?_
  by_cases same : other = key
  · rw [same, get?_erase_self, missing]
  · exact get?_erase_other table same

/-! ### Tables written from lists -/

theorem get?_foldl_insert {pairs : List (String × Value)} {table : Table Value} {key : String}
    {value : Value}
    (found : (pairs.foldl (fun table pair => table.insert pair.1 pair.2) table).get? key =
      some value) :
    (key, value) ∈ pairs ∨ table.get? key = some value := by
  induction pairs generalizing table with
  | nil => exact Or.inr found
  | cons pair rest inductionHypothesis =>
    rcases inductionHypothesis found with later | earlier
    · exact Or.inl (List.mem_cons_of_mem _ later)
    · by_cases same : key = pair.1
      · subst same
        rw [get?_insert_self] at earlier
        cases earlier
        exact Or.inl List.mem_cons_self
      · rw [get?_insert_other _ _ same] at earlier
        exact Or.inr earlier

theorem get?_foldl_insert_of_pairwise {pairs : List (String × Value)} (table : Table Value)
    (distinct : pairs.Pairwise fun first second => first.1 ≠ second.1) (key : String) :
    (pairs.foldl (fun table pair => table.insert pair.1 pair.2) table).get? key =
      (find key pairs).or (table.get? key) := by
  induction pairs generalizing table with
  | nil => rfl
  | cons pair rest inductionHypothesis =>
    obtain ⟨different, distinct⟩ := List.pairwise_cons.1 distinct
    rw [List.foldl_cons, inductionHypothesis _ distinct, find]
    by_cases same : pair.1 = key
    · subst same
      rw [if_pos rfl, get?_insert_self,
        find_eq_none_iff.2 fun other member => Ne.symm (different other member)]
      rfl
    · rw [if_neg same, get?_insert_other _ _ (Ne.symm same)]

/-- A table written from a list whose keys are distinct holds what the list holds. -/
theorem get?_ofList_of_pairwise {pairs : List (String × Value)}
    (distinct : pairs.Pairwise fun first second => first.1 ≠ second.1) (key : String) :
    (ofList pairs).get? key = find key pairs := by
  unfold ofList
  rw [get?_foldl_insert_of_pairwise _ distinct, get?_empty, Option.or_none]

theorem find_map (change : String → Value → Other) (key : String)
    (entries : List (String × Value)) :
    find key (entries.map fun entry => (entry.1, change entry.1 entry.2)) =
      (find key entries).map (change key) := by
  induction entries with
  | nil => rfl
  | cons head rest inductionHypothesis =>
    obtain ⟨name, value⟩ := head
    rw [List.map_cons, find, find]
    by_cases same : name = key
    · rw [if_pos same, if_pos same, same]
      rfl
    · rw [if_neg same, if_neg same, inductionHypothesis]

/-- What a table written from a list holds stands in the list. -/
theorem mem_of_get?_ofList {pairs : List (String × Value)} {key : String} {value : Value}
    (found : (ofList pairs).get? key = some value) : (key, value) ∈ pairs := by
  rcases get?_foldl_insert found with member | old
  · exact member
  · cases old

end Table

end NodeAgent
