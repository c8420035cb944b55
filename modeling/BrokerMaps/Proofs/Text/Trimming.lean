import BrokerMaps.Text.Blank
import Mathlib.Data.List.TakeWhile

/-!
# Trimming

Trimming takes characters of a class off both ends of a text. What is taken off is of the class, and
a text without characters of the class that stands between such characters is what is left.
-/
namespace BrokerMaps.Text

theorem dropWhile_of_forall {isOuter : Char → Bool} {cs : List Char}
    (inner : ∀ c ∈ cs, isOuter c = false) : cs.dropWhile isOuter = cs := by
  cases cs with
  | nil => rfl
  | cons c rest =>
    rw [List.dropWhile_cons, inner c List.mem_cons_self, if_neg Bool.false_ne_true]

theorem trim_map (isOuter : Char → Bool) (change : Char → Char) (cs : List Char) :
    trim isOuter (cs.map change) = (trim (isOuter ∘ change) cs).map change := by
  simp only [trim, List.dropWhile_map, ← List.map_reverse]

/-- What is trimmed off belongs to the class. -/
theorem exists_eq_append_trim (isOuter : Char → Bool) (cs : List Char) :
    ∃ before after, cs = before ++ trim isOuter cs ++ after
      ∧ (∀ c ∈ before, isOuter c = true) ∧ ∀ c ∈ after, isOuter c = true := by
  refine ⟨cs.takeWhile isOuter, ((cs.dropWhile isOuter).reverse.takeWhile isOuter).reverse,
    ?_, ?_, ?_⟩
  · have back : trim isOuter cs ++
        ((cs.dropWhile isOuter).reverse.takeWhile isOuter).reverse = cs.dropWhile isOuter := by
      rw [trim, ← List.reverse_append, List.takeWhile_append_dropWhile, List.reverse_reverse]
    rw [List.append_assoc, back, List.takeWhile_append_dropWhile]
  · exact fun c member => List.mem_takeWhile_imp member
  · exact fun c member => List.mem_takeWhile_imp (List.mem_reverse.mp member)

/-- What stands between characters of the class and holds none itself is left. -/
theorem trim_append {isOuter : Char → Bool} {before core after : List Char}
    (leading : ∀ c ∈ before, isOuter c = true) (inner : ∀ c ∈ core, isOuter c = false)
    (trailing : ∀ c ∈ after, isOuter c = true) :
    trim isOuter (before ++ core ++ after) = core := by
  rw [trim, List.append_assoc, List.dropWhile_append_of_pos leading]
  cases core with
  | nil =>
    have none : after.dropWhile isOuter = [] := List.dropWhile_eq_nil_iff.mpr trailing
    rw [List.nil_append, none]
    rfl
  | cons c rest =>
    -- The first character stays, so nothing behind it is looked at from this end.
    have here : isOuter c = false := inner c List.mem_cons_self
    rw [List.cons_append, List.dropWhile_cons, here, if_neg Bool.false_ne_true, ← List.cons_append,
      List.reverse_append,
      List.dropWhile_append_of_pos fun c member => trailing c (List.mem_reverse.mp member),
      dropWhile_of_forall fun c member => inner c (List.mem_reverse.mp member),
      List.reverse_reverse]

theorem trim_of_forall {isOuter : Char → Bool} {cs : List Char}
    (inner : ∀ c ∈ cs, isOuter c = false) : trim isOuter cs = cs := by
  simpa using trim_append (List.forall_mem_nil _) inner (List.forall_mem_nil _)

end BrokerMaps.Text
