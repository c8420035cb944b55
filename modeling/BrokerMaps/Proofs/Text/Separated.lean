import BrokerMaps.Text.Cut
import Mathlib.Data.List.Forall2

/-!
# Separated texts

What is put together around a separator comes apart again at the same places, provided that no part
holds the separator. Cutting is inverse to joining in both directions, so a text has exactly one
division into parts that are free of the separator.
-/
namespace BrokerMaps.Text

theorem cut_append {separator : Char} {before : List Char} (absent : separator ∉ before)
    (after : List Char) : cut separator (before ++ separator :: after) = (before, some after) := by
  induction before with
  | nil => simp [cut]
  | cons c rest ih =>
    simp only [List.mem_cons, not_or] at absent
    have other : c ≠ separator := fun same => absent.1 same.symm
    simp [cut, other, ih absent.2]

/-- Cutting into pieces is the division of lists at an element, whose laws thus apply. -/
theorem pieces_eq_splitOn (separator : Char) (cs : List Char) :
    pieces separator cs = cs.splitOn separator := by
  induction cs with
  | nil => rfl
  | cons c rest ih =>
    rw [pieces, List.splitOn_cons_eq_if_modifyHead, ih]
    by_cases here : c = separator
    · simp [here]
    · simp only [here, if_false, beq_iff_eq]
      cases shape : rest.splitOn separator with
      | nil => exact absurd shape (List.splitOn_ne_nil separator rest)
      | cons piece more => rfl

theorem not_mem_of_mem_pieces {separator : Char} {cs part : List Char}
    (member : part ∈ pieces separator cs) : separator ∉ part := by
  induction cs generalizing part with
  | nil => simp_all [pieces]
  | cons c rest ih =>
    simp only [pieces] at member
    split at member
    next here =>
      rcases List.mem_cons.mp member with rfl | later
      · simp
      · exact ih later
    next other =>
      -- The first piece grows by a character that is not the separator.
      cases shape : pieces separator rest with
      | nil => exact absurd shape (pieces_ne_nil separator rest)
      | cons piece more =>
        rw [shape] at member ih
        rcases List.mem_cons.mp member with rfl | later
        · have absent : separator ∉ piece := ih List.mem_cons_self
          simp only [List.mem_cons, not_or]
          exact ⟨fun same => other same.symm, absent⟩
        · exact ih (List.mem_cons_of_mem _ later)

/-- The pieces of a text are the one way to put it together from parts without the separator. -/
theorem pieces_eq_iff {separator : Char} {cs : List Char} {parts : List (List Char)} :
    pieces separator cs = parts ↔
      cs = [separator].intercalate parts ∧ parts ≠ [] ∧ ∀ part ∈ parts, separator ∉ part := by
  rw [pieces_eq_splitOn]
  constructor
  · rintro rfl
    refine ⟨(List.intercalate_splitOn separator).symm, List.splitOn_ne_nil separator cs, ?_⟩
    intro part member
    rw [← pieces_eq_splitOn] at member
    exact not_mem_of_mem_pieces member
  · rintro ⟨rfl, nonempty, free⟩
    exact List.splitOn_intercalate separator free nonempty

/-- Parts that are as long as each other are told from what is put together of them. -/
theorem intercalate_injective_of_lengths {separator : List Char} {parts others : List (List Char)}
    (lengths : List.Forall₂ (fun part other => part.length = other.length) parts others)
    (same : separator.intercalate parts = separator.intercalate others) : parts = others := by
  induction lengths with
  | nil => rfl
  | @cons part other _ _ here later ih =>
    cases later with
    | nil =>
      have single : part = other := by simpa using same
      rw [single]
    | cons next more =>
      rw [List.intercalate_cons_cons, List.intercalate_cons_cons, List.append_assoc,
        List.append_assoc] at same
      obtain ⟨first, rest⟩ := List.append_inj same here
      rw [first, ih (List.append_cancel_left rest)]

end BrokerMaps.Text
