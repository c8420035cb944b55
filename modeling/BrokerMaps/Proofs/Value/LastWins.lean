import BrokerMaps.Value.Table

/-!
# The last value of each key

Setting entries one after the other keeps each key where it was first set and gives it the value it
was last set to. That holds of any keys that are told apart by a form of theirs: two of them are the
same key exactly when their forms are equal. Texts are told apart as they are.

## Main results

* `Table.lastWins_insertAll`: the keys of the table are those set, in the order of their first
  settings, and each has the value of its last one.
* `Table.insertAll_insertAll`: setting the entries of a table that was built by setting entries is
  the same as setting these entries.
-/
namespace BrokerMaps

/-- Among the values with the property `P`, two are the same key exactly when their forms are
equal. -/
def Value.ToldBy {φ : Type} (P : Value → Prop) (form : Value → φ) : Prop :=
  ∀ a b, P a → P b → (a.same b = true ↔ form a = form b)

namespace Table

/-- No key comes up again later, as in every table that was filled by setting keys. -/
def Distinct (table : Table) : Prop :=
  table.Pairwise fun earlier later => earlier.1.same later.1 = false

/-- The keys of entries in the order in which they come up first. -/
def firstKeys (entries : Table) : List Value :=
  (entries.map (·.1)).eraseDupsBy fun later earlier => earlier.same later

/-- The table has the keys of the entries in the order in which they come up first, and each key has
the value of the last entry with it. -/
structure LastWins (entries table : Table) : Prop where
  keys : table.map (·.1) = firstKeys entries
  values : ∀ before key value after, entries = before ++ (key, value) :: after →
    (∀ later ∈ after, later.1.same key = false) → find? key table = some value

/-- Every key has the property. -/
def Keyed (P : Value → Prop) (table : Table) : Prop := ∀ entry ∈ table, P entry.1

/-! ## Keys -/

theorem keys_insert (key value : Value) (table : Table) :
    (insert key value table).map (·.1) =
      if (table.map (·.1)).any (·.same key) then table.map (·.1)
      else table.map (·.1) ++ [key] := by
  induction table with
  | nil => rfl
  | cons entry rest ih =>
    rw [insert]
    by_cases here : entry.1.same key = true
    · simp [here]
    · rw [if_neg here, List.map_cons, ih]
      simp only [List.map_cons, List.any_cons, here, Bool.false_or]
      split <;> rfl

theorem insertAll_append (table first second : Table) :
    insertAll table (first ++ second) = insertAll (insertAll table first) second :=
  List.foldl_append

/-- What holds of the keys of a table and of a key that is set, holds of the keys after that. -/
theorem keyed_insert {P : Value → Prop} {table : Table} {key : Value} (keyed : Keyed P table)
    (isKey : P key) (value : Value) : Keyed P (insert key value table) := by
  intro entry member
  have among : entry.1 ∈ (insert key value table).map (·.1) := List.mem_map_of_mem member
  have old : ∀ a ∈ table.map (·.1), P a := List.forall_mem_map.mpr keyed
  rw [keys_insert] at among
  split at among
  · exact old _ among
  · rcases List.mem_append.mp among with before | new
    · exact old _ before
    · exact List.mem_singleton.mp new ▸ isKey

theorem distinct_insert {table : Table} (distinct : Distinct table) (key value : Value) :
    Distinct (insert key value table) := by
  have keysOnly : ∀ other : Table, Distinct other ↔
      (other.map (·.1)).Pairwise fun earlier later => earlier.same later = false := by
    intro other
    rw [Distinct, List.pairwise_map]
  rw [keysOnly] at distinct ⊢
  rw [keys_insert]
  split
  next => exact distinct
  next absent =>
    refine List.pairwise_append.mpr ⟨distinct, List.pairwise_singleton _ _, ?_⟩
    intro held member _ new
    rw [List.mem_singleton.mp new]
    simp only [List.any_eq_true, not_exists, not_and, Bool.not_eq_true] at absent
    exact absent held member

/-- A key that is set is skipped exactly when it is the same as one that is there. -/
theorem keys_insertAll (table entries : Table) :
    (insertAll table entries).map (·.1) =
      List.eraseDupsBy.loop (fun later earlier => earlier.same later) (entries.map (·.1))
        (table.map (·.1)).reverse := by
  -- The loop holds the keys that it kept so far, the latest one first.
  induction entries generalizing table with
  | nil => simp [insertAll, List.eraseDupsBy.loop]
  | cons entry rest ih =>
    have step : insertAll table (entry :: rest) = insertAll (insert entry.1 entry.2 table) rest :=
      rfl
    rw [step, ih, keys_insert, List.map_cons, List.eraseDupsBy.loop, List.any_reverse]
    cases (table.map (·.1)).any (·.same entry.1) <;> simp

/-- The keys that are there after setting some are told from the keys alone. -/
theorem keys_insertAll_congr {table other entries more : Table}
    (sameKeys : table.map (·.1) = other.map (·.1))
    (sameEntries : entries.map (·.1) = more.map (·.1)) :
    (insertAll table entries).map (·.1) = (insertAll other more).map (·.1) := by
  rw [keys_insertAll, keys_insertAll, sameKeys, sameEntries]

theorem distinct_insertAll {table : Table} (distinct : Distinct table) (entries : Table) :
    Distinct (insertAll table entries) := by
  induction entries generalizing table with
  | nil => exact distinct
  | cons entry rest ih => exact ih (distinct_insert distinct entry.1 entry.2)

/-- A new key goes to the end. -/
theorem insert_eq_append {table : Table} {key : Value}
    (absent : ∀ entry ∈ table, entry.1.same key = false) (value : Value) :
    insert key value table = table ++ [(key, value)] := by
  induction table with
  | nil => rfl
  | cons entry rest ih =>
    have other : entry.1.same key = false := absent entry List.mem_cons_self
    have later := ih fun entry member => absent entry (List.mem_cons_of_mem _ member)
    simp [insert, other, later]

/-- Entries with new keys are put behind those that are there, in their order. -/
theorem insertAll_eq_append {table entries : Table} (distinct : Distinct (table ++ entries)) :
    insertAll table entries = table ++ entries := by
  induction entries generalizing table with
  | nil => simp [insertAll]
  | cons entry rest ih =>
    have absent : ∀ held ∈ table, held.1.same entry.1 = false := by
      intro held member
      exact (List.pairwise_append.mp distinct).2.2 held member entry List.mem_cons_self
    have regrouped : table ++ entry :: rest = (table ++ [entry]) ++ rest := by simp
    rw [regrouped] at distinct ⊢
    rw [← ih distinct, ← insert_eq_append absent entry.2]
    rfl

/-! ## Values -/

theorem find?_cons (key held value : Value) (rest : Table) :
    find? key ((held, value) :: rest) = if held.same key then some value else find? key rest := by
  by_cases here : held.same key <;> simp [find?, here]

section
variable {φ : Type} {P : Value → Prop} {form : Value → φ}

theorem keyed_insertAll {table entries : Table} (keyed : Keyed P table) (more : Keyed P entries) :
    Keyed P (insertAll table entries) := by
  induction entries generalizing table with
  | nil => exact keyed
  | cons entry rest ih =>
    obtain ⟨isKey, others⟩ := List.forall_mem_cons.mp more
    exact ih (keyed_insert keyed isKey entry.2) others

/-- In a table each key is found with its own value. -/
theorem find?_of_mem (told : Value.ToldBy P form) {table : Table} {entry : Value × Value}
    (keyed : Keyed P table) (distinct : Distinct table) (member : entry ∈ table) :
    find? entry.1 table = some entry.2 := by
  induction table with
  | nil => cases member
  | cons first rest ih =>
    obtain ⟨others, later⟩ := List.pairwise_cons.mp distinct
    rw [find?_cons]
    rcases List.mem_cons.mp member with rfl | inRest
    · have isKey := keyed entry List.mem_cons_self
      rw [if_pos ((told _ _ isKey isKey).mpr rfl)]
    · rw [others entry inRest, if_neg Bool.false_ne_true]
      exact ih (fun held among => keyed held (List.mem_cons_of_mem _ among)) later inRest

/-- A key that is set has its new value, and every other key the one it had. -/
theorem find?_insert_of_told (told : Value.ToldBy P form) [DecidableEq φ] {table : Table}
    {key sought : Value} (keyed : Keyed P table) (isKey : P key) (isSought : P sought)
    (value : Value) :
    find? sought (insert key value table) =
      if form key = form sought then some value else find? sought table := by
  induction table with
  | nil => simp only [insert, find?_cons, told key sought isKey isSought]
  | cons entry rest ih =>
    obtain ⟨isHeld, others⟩ := List.forall_mem_cons.mp keyed
    -- Either the first entry is the one that is set, or it stays and the rest is set.
    simp only [insert, told entry.1 key isHeld isKey]
    by_cases here : form entry.1 = form key
    · rw [if_pos here, find?_cons, find?_cons]
      simp only [told entry.1 sought isHeld isSought, here]
      split <;> rfl
    · rw [if_neg here, find?_cons, find?_cons, ih others]
      simp only [told entry.1 sought isHeld isSought]
      -- A key that is set cannot be the first entry as well.
      by_cases same : form key = form sought
      · rw [if_pos same, if_pos same, if_neg (same ▸ here)]
      · rw [if_neg same, if_neg same]

theorem find?_insertAll_of_absent (told : Value.ToldBy P form) {table entries : Table}
    {sought : Value} (keyed : Keyed P table) (more : Keyed P entries) (isSought : P sought)
    (absent : ∀ entry ∈ entries, form entry.1 ≠ form sought) :
    find? sought (insertAll table entries) = find? sought table := by
  classical
  induction entries generalizing table with
  | nil => rfl
  | cons entry rest ih =>
    obtain ⟨isKey, others⟩ := List.forall_mem_cons.mp more
    obtain ⟨other, later⟩ := List.forall_mem_cons.mp absent
    have step : insertAll table (entry :: rest) = insertAll (insert entry.1 entry.2 table) rest :=
      rfl
    rw [step, ih (keyed_insert keyed isKey entry.2) others later,
      find?_insert_of_told told keyed isKey isSought, if_neg other]

/-- Entries with keys that are told apart leave each key where it came up first, with the value that
it came up with last. -/
theorem lastWins_insertAll (told : Value.ToldBy P form) {entries : Table}
    (keyed : Keyed P entries) : LastWins entries (insertAll [] entries) := by
  classical
  refine ⟨keys_insertAll [] entries, ?_⟩
  rintro before key value after rfl absent
  obtain ⟨earlier, rest⟩ := List.forall_mem_append.mp keyed
  obtain ⟨isKey, later⟩ := List.forall_mem_cons.mp rest
  have others : ∀ entry ∈ after, form entry.1 ≠ form key := by
    intro entry member same
    have found := (told entry.1 key (later entry member) isKey).mpr same
    rw [absent entry member] at found
    cases found
  have built := keyed_insertAll (List.forall_mem_nil _) earlier
  have step : insertAll [] (before ++ (key, value) :: after) =
      insertAll (insert key value (insertAll [] before)) after := List.foldl_append
  rw [step, find?_insertAll_of_absent told (keyed_insert built isKey value) later isKey others,
    find?_insert_of_told told built isKey isKey, if_pos rfl]

/-! ## Setting entries of a table -/

/-- A key is there once it was set, and stays there. -/
theorem present_insert (told : Value.ToldBy P form) {table : Table} {key : Value} {sought : φ}
    (keyed : Keyed P table) (isKey : P key) (value : Value)
    (present : form key = sought ∨ ∃ entry ∈ table, form entry.1 = sought) :
    ∃ entry ∈ insert key value table, form entry.1 = sought := by
  suffices among : ∃ held ∈ (insert key value table).map (·.1), form held = sought by
    obtain ⟨_, member, same⟩ := among
    obtain ⟨entry, inside, rfl⟩ := List.mem_map.mp member
    exact ⟨entry, inside, same⟩
  rw [keys_insert]
  rcases present with here | ⟨entry, member, same⟩
  · split
    next found =>
      obtain ⟨held, member, isSame⟩ := List.any_eq_true.mp found
      obtain ⟨entry, inside, rfl⟩ := List.mem_map.mp member
      exact ⟨entry.1, member, ((told _ _ (keyed entry inside) isKey).mp isSame).trans here⟩
    next => exact ⟨key, List.mem_append_right _ (List.mem_singleton_self key), here⟩
  · refine ⟨entry.1, ?_, same⟩
    split
    next => exact List.mem_map_of_mem member
    next => exact List.mem_append_left _ (List.mem_map_of_mem member)

theorem present_insertAll (told : Value.ToldBy P form) {table entries : Table} {sought : φ}
    (keyed : Keyed P table) (more : Keyed P entries)
    (present : (∃ entry ∈ table, form entry.1 = sought)
      ∨ ∃ entry ∈ entries, form entry.1 = sought) :
    ∃ entry ∈ insertAll table entries, form entry.1 = sought := by
  induction entries generalizing table with
  | nil => simpa [insertAll] using present
  | cons entry rest ih =>
    obtain ⟨isKey, others⟩ := List.forall_mem_cons.mp more
    refine ih (keyed_insert keyed isKey entry.2) others ?_
    rcases present with before | ⟨found, member, same⟩
    · exact .inl (present_insert told keyed isKey entry.2 (.inr before))
    · rcases List.mem_cons.mp member with rfl | inRest
      · exact .inl (present_insert told keyed isKey found.2 (.inl same))
      · exact .inr ⟨found, inRest, same⟩

/-- A key that is there is there once. -/
theorem countP_same_eq_one (told : Value.ToldBy P form) {table : Table} {key : Value}
    (keyed : Keyed P table) (distinct : Distinct table) (isKey : P key)
    (present : ∃ entry ∈ table, form entry.1 = form key) :
    table.countP (fun entry => entry.1.same key) = 1 := by
  induction table with
  | nil => simp at present
  | cons entry rest ih =>
    obtain ⟨isHeld, others⟩ := List.forall_mem_cons.mp keyed
    obtain ⟨apart, later⟩ := List.pairwise_cons.mp distinct
    have told_key := told entry.1 key isHeld isKey
    rw [List.countP_cons]
    by_cases here : form entry.1 = form key
    · have none : rest.countP (fun other => other.1.same key) = 0 := by
        rw [List.countP_eq_zero]
        intro other member same
        -- Both would be the key that is sought, and so the same as each other.
        have again := (told other.1 key (others other member) isKey).mp same
        have isOther := others other member
        have found := (told entry.1 other.1 isHeld isOther).mpr (here.trans again.symm)
        rw [apart other member] at found
        cases found
      rw [none, if_pos (told_key.mpr here)]
    · rw [if_neg fun same => here (told_key.mp same)]
      exact ih others later (by simpa [here] using present)

/-- A key that is there already does not move when another key is set before it is. -/
theorem insert_comm_of_present (told : Value.ToldBy P form) {table : Table} {key other : Value}
    (keyed : Keyed P table) (isKey : P key) (isOther : P other)
    (present : ∃ entry ∈ table, form entry.1 = form key) (differ : form other ≠ form key)
    (value second : Value) :
    insert key value (insert other second table) =
      insert other second (insert key value table) := by
  induction table with
  | nil => simp at present
  | cons entry rest ih =>
    obtain ⟨isHeld, others⟩ := List.forall_mem_cons.mp keyed
    have told_other := told entry.1 other isHeld isOther
    have told_key := told entry.1 key isHeld isKey
    -- The first entry has the other key, or the key itself, or neither and stays as it is.
    by_cases here : form entry.1 = form other
    · have apart : ¬ entry.1.same key = true := fun same => differ (here ▸ told_key.mp same)
      simp only [insert, if_pos (told_other.mpr here), if_neg apart]
    · have isNotOther : ¬ entry.1.same other = true := fun same => here (told_other.mp same)
      by_cases found : form entry.1 = form key
      · simp only [insert, if_neg isNotOther, if_pos (told_key.mpr found)]
      · have isNotKey : ¬ entry.1.same key = true := fun same => found (told_key.mp same)
        have later : ∃ entry ∈ rest, form entry.1 = form key := by simpa [found] using present
        simp only [insert, if_neg isNotOther, if_neg isNotKey, ih others later]

theorem insert_insertAll_of_present (told : Value.ToldBy P form) {table entries : Table}
    {key : Value} (keyed : Keyed P table) (more : Keyed P entries) (isKey : P key)
    (present : ∃ entry ∈ table, form entry.1 = form key)
    (absent : ∀ entry ∈ entries, form entry.1 ≠ form key) (value : Value) :
    insert key value (insertAll table entries) = insertAll (insert key value table) entries := by
  induction entries generalizing table with
  | nil => rfl
  | cons entry rest ih =>
    obtain ⟨isOther, others⟩ := List.forall_mem_cons.mp more
    obtain ⟨differ, later⟩ := List.forall_mem_cons.mp absent
    have kept := present_insert told keyed isOther entry.2 (.inr present)
    have moved := ih (keyed_insert keyed isOther entry.2) others kept later
    have comm := insert_comm_of_present told keyed isKey isOther present differ value entry.2
    exact moved.trans (congrArg (insertAll · rest) comm)

theorem insert_insert_same (told : Value.ToldBy P form) {table : Table} {key other : Value}
    (keyed : Keyed P table) (isKey : P key) (isOther : P other) (same : form other = form key)
    (value second : Value) :
    insert key value (insert other second table) = insert other value table := by
  induction table with
  | nil =>
    have found : other.same key = true := (told other key isOther isKey).mpr same
    simp only [insert, if_pos found]
  | cons entry rest ih =>
    obtain ⟨isHeld, others⟩ := List.forall_mem_cons.mp keyed
    have told_other := told entry.1 other isHeld isOther
    have told_key := told entry.1 key isHeld isKey
    by_cases here : form entry.1 = form other
    · simp only [insert, if_pos (told_other.mpr here), if_pos (told_key.mpr (here.trans same))]
    · have isNotOther : ¬ entry.1.same other = true := fun found => here (told_other.mp found)
      have isNotKey : ¬ entry.1.same key = true :=
        fun found => here ((told_key.mp found).trans same.symm)
      simp only [insert, if_neg isNotOther, if_neg isNotKey, ih others]

/-- Setting a key in the entries first, and these then in a table, is the same as setting it in the
table afterwards. -/
theorem insertAll_insert (told : Value.ToldBy P form) {table entries : Table} {key : Value}
    (keyed : Keyed P table) (more : Keyed P entries) (distinct : Distinct entries)
    (isKey : P key) (value : Value) :
    insertAll table (insert key value entries) = insert key value (insertAll table entries) := by
  induction entries generalizing table with
  | nil => rfl
  | cons entry rest ih =>
    obtain ⟨isHeld, others⟩ := List.forall_mem_cons.mp more
    obtain ⟨first, later⟩ := List.pairwise_cons.mp distinct
    have told_key := told entry.1 key isHeld isKey
    have built := keyed_insert keyed isHeld entry.2
    by_cases here : form entry.1 = form key
    · -- No entry after the first has its key, so the new value may as well be set at once.
      have absent : ∀ held ∈ rest, form held.1 ≠ form key := by
        intro held member same
        have found := (told entry.1 held.1 isHeld (others held member)).mpr (here.trans same.symm)
        rw [first held member] at found
        cases found
      have present := present_insert told keyed isHeld entry.2 (.inl here)
      have moved := insert_insertAll_of_present told built others isKey present absent value
      rw [insert_insert_same told keyed isKey isHeld here] at moved
      simp only [insert, if_pos (told_key.mpr here)]
      exact moved.symm
    · have isNotKey : ¬ entry.1.same key = true := fun found => here (told_key.mp found)
      simp only [insert, if_neg isNotKey]
      exact ih built others later

theorem insertAll_insertAll (told : Value.ToldBy P form) {table entries : Table}
    (keyed : Keyed P table) (more : Keyed P entries) :
    insertAll table (insertAll [] entries) = insertAll table entries := by
  -- The table that the entries are set in grows along the way, so the statement is about any.
  suffices general : ∀ built, Keyed P built → Distinct built →
      insertAll table (insertAll built entries) = insertAll (insertAll table built) entries from
    general [] (List.forall_mem_nil _) List.Pairwise.nil
  induction entries with
  | nil => exact fun built _ _ => rfl
  | cons entry rest ih =>
    obtain ⟨isKey, others⟩ := List.forall_mem_cons.mp more
    intro built isBuilt distinct
    have moved := insertAll_insert told keyed isBuilt distinct isKey entry.2
    have later := ih others (insert entry.1 entry.2 built) (keyed_insert isBuilt isKey entry.2)
      (distinct_insert distinct entry.1 entry.2)
    rw [moved] at later
    exact later

end

end Table
end BrokerMaps
