/-!
# Cutting

`cut` divides at the first separator and `pieces` at every separator. What stands before the first
separator does not hold it, and there is always a piece.
-/
namespace BrokerMaps.Text

/-- The part before the first separator and, when there is one, the part after it. -/
def cut (separator : Char) : List Char → List Char × Option (List Char)
  | [] => ([], none)
  | c :: rest =>
    if c = separator then ([], some rest)
    else
      let (before, after) := cut separator rest
      (c :: before, after)

/-- The parts between separators; there is always at least one. -/
def pieces (separator : Char) : List Char → List (List Char)
  | [] => [[]]
  | c :: rest =>
    if c = separator then [] :: pieces separator rest
    else
      match pieces separator rest with
      -- There is always a piece to put the character in front of.
      | [] => [[c]]
      | piece :: more => (c :: piece) :: more

theorem cut_eq_of_mem {separator : Char} {cs before after : List Char}
    (found : cut separator cs = (before, some after)) :
    cs = before ++ separator :: after ∧ separator ∉ before := by
  induction cs generalizing before with
  | nil => simp [cut] at found
  | cons c rest ih =>
    by_cases here : c = separator
    · simp [cut, here] at found
      obtain ⟨rfl, rfl⟩ := found
      simp [here]
    · simp only [cut, here, if_false, Prod.mk.injEq] at found
      obtain ⟨rfl, split⟩ := found
      obtain ⟨whole, absent⟩ := @ih (cut separator rest).1 (Prod.ext rfl split)
      refine ⟨?_, ?_⟩
      · rw [List.cons_append, ← whole]
      · simp only [List.mem_cons, not_or]
        exact ⟨fun same => here same.symm, absent⟩

theorem pieces_ne_nil (separator : Char) (cs : List Char) : pieces separator cs ≠ [] := by
  cases cs with
  | nil => simp [pieces]
  | cons c rest =>
    simp only [pieces]
    split
    · simp
    · split <;> simp

end BrokerMaps.Text
