import BrokerMaps.Proofs.Value.LastWins
import Mathlib.Data.List.Nodup

/-!
# Tables with texts as keys

Two texts are the same key only when they are equal, so in a table whose keys are texts a text is
found as it is. Of all other values only an application object can be taken for a text.
-/
namespace BrokerMaps

@[simp] theorem Value.same_text_text {s t : String} :
    (Value.text s).same (.text t) = decide (s = t) := by
  rw [Value.same]

/-- A value is the same as no text, be it for its class or, for an application object, by what it
says. -/
def Value.IsNoText (value : Value) : Prop := ∀ s, (Value.text s).same value = false

/-- Texts are told apart as they are. -/
theorem Value.toldBy_text : ToldBy (fun value => ∃ s, value = .text s) id := by
  rintro a b ⟨s, rfl⟩ ⟨t, rfl⟩
  simp

namespace Table

/-- Every key is a text. -/
def TextKeyed (table : Table) : Prop := ∀ entry ∈ table, ∃ s, entry.1 = .text s

/-- Named values as entries of a table. -/
def ofNamed (named : List (String × Value)) : Table :=
  named.map fun entry => (.text entry.1, entry.2)

theorem textKeyed_ofNamed (named : List (String × Value)) : TextKeyed (ofNamed named) := by
  intro entry member
  obtain ⟨source, -, rfl⟩ := List.mem_map.mp member
  exact ⟨source.1, rfl⟩

theorem keys_ofNamed (named : List (String × Value)) :
    (ofNamed named).map (·.1) = (named.map (·.1)).map Value.text := by
  rw [ofNamed, List.map_map, List.map_map]
  rfl

theorem exists_eq_ofNamed {table : Table} (texts : TextKeyed table) :
    ∃ named, table = ofNamed named := by
  induction table with
  | nil => exact ⟨[], rfl⟩
  | cons entry rest ih =>
    obtain ⟨named, rfl⟩ := ih fun later member => texts later (List.mem_cons_of_mem _ member)
    obtain ⟨s, isText⟩ := texts entry List.mem_cons_self
    exact ⟨(s, entry.2) :: named, by simp [ofNamed, ← isText]⟩

theorem distinct_ofNamed_iff {named : List (String × Value)} :
    Distinct (ofNamed named) ↔ (named.map (·.1)).Nodup := by
  rw [Distinct, ofNamed, List.pairwise_map, List.Nodup, List.pairwise_map]
  refine List.Pairwise.iff fun earlier later => ?_
  rw [Value.same_text_text, decide_eq_false_iff_not]

/-! ## Finding -/

theorem find?_cons_text (sought held : String) (value : Value) (rest : Table) :
    find? (.text sought) ((.text held, value) :: rest) =
      if held = sought then some value else find? (.text sought) rest := by
  simp only [find?_cons, Value.same_text_text, decide_eq_true_eq]

theorem find?_ofNamed (sought : String) (named : List (String × Value)) :
    find? (.text sought) (ofNamed named) = named.lookup sought := by
  induction named with
  | nil => rfl
  | cons entry rest ih =>
    have opened : ofNamed (entry :: rest) = (.text entry.1, entry.2) :: ofNamed rest := rfl
    rw [opened, find?_cons_text, ih, List.lookup_cons]
    by_cases here : entry.1 = sought
    · simp [here]
    · have other : (sought == entry.1) = false := beq_eq_false_iff_ne.mpr (Ne.symm here)
      simp [here, other]

/-- What is no text is not found among texts. -/
theorem find?_of_isNoText {table : Table} (texts : TextKeyed table) {sought : Value}
    (noText : sought.IsNoText) : find? sought table = none := by
  rw [find?, Option.map_eq_none_iff, List.find?_eq_none]
  intro entry member
  obtain ⟨s, isText⟩ := texts entry member
  rw [isText, noText s]
  exact Bool.false_ne_true

theorem lookup_of_mem {named : List (String × Value)} {entry : String × Value}
    (nodup : (named.map (·.1)).Nodup) (member : entry ∈ named) :
    named.lookup entry.1 = some entry.2 := by
  obtain ⟨before, after, rfl⟩ := List.append_of_mem member
  rw [List.map_append, List.nodup_append] at nodup
  refine List.lookup_eq_some_iff.mpr ⟨before, after, rfl, fun earlier among => ?_⟩
  have other := nodup.2.2 earlier.1 (List.mem_map_of_mem among) entry.1 (by simp)
  exact bne_iff_ne.mpr (Ne.symm other)

/-- A table has one entry for each of its keys. -/
theorem countP_eq_length {table : Table} (texts : TextKeyed table) (distinct : Distinct table)
    {keys : List String} (nodup : keys.Nodup)
    (present : ∀ key ∈ keys, (find? (.text key) table).isSome) :
    table.countP (fun entry => keys.any fun key => entry.1.same (.text key)) = keys.length := by
  obtain ⟨named, rfl⟩ := exists_eq_ofNamed texts
  have names := distinct_ofNamed_iff.mp distinct
  have among : ∀ key ∈ keys, key ∈ named.map (·.1) := by
    intro key member
    obtain ⟨value, found⟩ := Option.isSome_iff_exists.mp (present key member)
    rw [find?_ofNamed, List.lookup_eq_some_iff] at found
    obtain ⟨before, after, rfl, -⟩ := found
    simp
  -- The names that are among the keys are the keys, in another order.
  have order : ((named.map (·.1)).filter (· ∈ keys)).Perm keys := by
    rw [List.perm_ext_iff_of_nodup (names.filter _) nodup]
    intro key
    rw [List.mem_filter, decide_eq_true_eq, and_iff_right_iff_imp]
    exact among key
  rw [← order.length_eq, ← List.countP_eq_length_filter, List.countP_map, ofNamed, List.countP_map]
  refine List.countP_congr fun entry _ => ?_
  simp only [Function.comp_apply, List.any_eq_true, Value.same_text_text, decide_eq_true_eq,
    exists_eq_right']

/-! ## Setting one key -/

theorem textKeyed_insert {table : Table} (texts : TextKeyed table) (key : String)
    (value : Value) : TextKeyed (insert (.text key) value table) :=
  keyed_insert (P := fun held => ∃ s, held = .text s) texts ⟨key, rfl⟩ value

/-- A key that was just set is found with its new value, and every other key as before. -/
theorem find?_insert {table : Table} (texts : TextKeyed table) (key sought : String)
    (value : Value) :
    find? (.text sought) (insert (.text key) value table) =
      if key = sought then some value else find? (.text sought) table := by
  classical
  have told := find?_insert_of_told Value.toldBy_text texts ⟨key, rfl⟩ ⟨sought, rfl⟩ value
  simpa only [id, Value.text.injEq] using told

/-! ## Setting many keys -/

theorem textKeyed_insertAll {table : Table} (texts : TextKeyed table)
    (named : List (String × Value)) : TextKeyed (insertAll table (ofNamed named)) :=
  keyed_insertAll (P := fun held => ∃ s, held = .text s) texts (textKeyed_ofNamed named)

/-- The last entry of a key gives it its value. -/
theorem find?_insertAll {table : Table} (texts : TextKeyed table)
    (named : List (String × Value)) (sought : String) :
    find? (.text sought) (insertAll table (ofNamed named)) =
      (named.reverse.lookup sought).or (find? (.text sought) table) := by
  induction named generalizing table with
  | nil => simp [insertAll, ofNamed]
  | cons entry rest ih =>
    have step : insertAll table (ofNamed (entry :: rest)) =
        insertAll (insert (.text entry.1) entry.2 table) (ofNamed rest) := rfl
    -- The first entry is the last of the reversed list: it counts only if none after it does.
    rw [step, ih (textKeyed_insert texts entry.1 entry.2), find?_insert texts,
      List.reverse_cons, List.lookup_append, Option.or_assoc]
    congr 1
    rw [List.lookup_cons, List.lookup_nil]
    by_cases same : entry.1 = sought
    · simp [same]
    · have other : (sought == entry.1) = false := beq_eq_false_iff_ne.mpr (Ne.symm same)
      simp [same, other]

theorem lookup_reverse_of_mem {named : List (String × Value)} {entry : String × Value}
    (nodup : (named.map (·.1)).Nodup) (member : entry ∈ named) :
    named.reverse.lookup entry.1 = some entry.2 := by
  refine lookup_of_mem ?_ (List.mem_reverse.mpr member)
  rwa [List.map_reverse, List.nodup_reverse]

/-- An entry is found when its key does not come up again. -/
theorem find?_insertAll_of_mem {table : Table} (texts : TextKeyed table)
    {named : List (String × Value)} {entry : String × Value} (nodup : (named.map (·.1)).Nodup)
    (member : entry ∈ named) :
    find? (.text entry.1) (insertAll table (ofNamed named)) = some entry.2 := by
  rw [find?_insertAll texts, lookup_reverse_of_mem nodup member, Option.some_or]

/-- A key that does not come up is found as it was. -/
theorem find?_insertAll_of_not_mem {table : Table} (texts : TextKeyed table)
    {named : List (String × Value)} {sought : String} (absent : sought ∉ named.map (·.1)) :
    find? (.text sought) (insertAll table (ofNamed named)) = find? (.text sought) table := by
  have missing : named.reverse.lookup sought = none := by
    refine List.lookup_eq_none_iff.mpr fun entry member => bne_iff_ne.mpr ?_
    rintro rfl
    exact absent (List.mem_map_of_mem (List.mem_reverse.mp member))
  rw [find?_insertAll texts, missing, Option.none_or]

/-- An entry is found unless its key comes up again, and then a later entry is found. -/
theorem find?_insertAll_or_later {table : Table} (texts : TextKeyed table)
    {first later : List (String × Value)} {entry : String × Value}
    (nodup : (first.map (·.1)).Nodup) (member : entry ∈ first) :
    find? (.text entry.1) (insertAll table (ofNamed (first ++ later))) = some entry.2
      ∨ ∃ other ∈ later, other.1 = entry.1
        ∧ find? (.text entry.1) (insertAll table (ofNamed (first ++ later))) = some other.2 := by
  have own := lookup_reverse_of_mem nodup member
  rw [find?_insertAll texts, List.reverse_append, List.lookup_append]
  cases again : later.reverse.lookup entry.1 with
  | none => exact .inl (by rw [own]; rfl)
  | some value =>
    obtain ⟨before, after, split, -⟩ := List.lookup_eq_some_iff.mp again
    have inLater : (entry.1, value) ∈ later := by
      rw [← List.mem_reverse, split]
      exact List.mem_append_right _ List.mem_cons_self
    exact .inr ⟨_, inLater, rfl, rfl⟩

end Table
end BrokerMaps
