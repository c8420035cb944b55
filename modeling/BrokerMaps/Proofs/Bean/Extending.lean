import BrokerMaps.Bean.AttributeList
import Mathlib.Data.Set.List

/-!
# Extending attribute lists

Extending reads its argument one element after the other and appends each as soon as it is read. A
value that is read element by element while another list grows comes to an end. A list that is read
while it grows itself is never read to its end, unless there is nothing in it to begin with.

## Main results

* `ends_fixed`: the loop over a value ends with the attributes that its elements start with.
* `ends_itself_iff`: the loop over the list itself ends only when the list is empty.

## Proof strategy

The loop is a relation between a state and what it ends with (`Ends`), so a loop that goes on for
ever is one without an end. Over a value the elements that are left to read get fewer. Over the list
itself the loop is what `LiveExtend` does step by step (`ends_itself_iff_run?`), and an element that
is left to read is still left after every step (`LiveExtend.run?_eq_none`).
-/
namespace BrokerMaps
namespace AttributeItems

/-! ## Leading attributes -/

/-- The attributes that a sequence of values starts with. -/
def leading : List Value → AttributeItems
  | .beanAttribute item :: rest => item :: leading rest
  | _ => []

/-- The fault of the first value that is no attribute. -/
def refusal? (values : List Value) : Option Fault :=
  (values[(leading values).length]?).map fun value => .shape (.notAnAttribute value.className)

variable {items : AttributeItems} {value : Value} {values : List Value} {fault : Fault}

theorem append_of_not_attribute (other : ∀ item, value ≠ .beanAttribute item) :
    append items value = .error (.shape (.notAnAttribute value.className)) := by
  unfold append
  split
  next item => exact absurd rfl (other item)
  next => rfl

theorem leading_of_not_attribute (other : ∀ item, value ≠ .beanAttribute item)
    (rest : List Value) : leading (value :: rest) = [] := by
  unfold leading
  split
  next item _ same => exact absurd (List.cons.inj same).1 (other item)
  next => rfl

/-- No more than the leading attributes are attributes up to the first value that is none. -/
theorem exists_eq_leading_append (values : List Value) :
    ∃ back, values = (leading values).map .beanAttribute ++ back
      ∧ ∀ first ∈ back.head?, ∀ item, first ≠ .beanAttribute item := by
  fun_induction leading values with
  | case1 item rest ih =>
    obtain ⟨back, same, stops⟩ := ih
    exact ⟨back, congrArg (.beanAttribute item :: ·) same, stops⟩
  | case2 values other =>
    refine ⟨values, rfl, fun first isFirst item same => ?_⟩
    obtain ⟨rest, rfl⟩ := List.head?_eq_some_iff.mp isFirst
    exact other item rest (same ▸ rfl)

@[simp] theorem leading_map_beanAttribute (items : AttributeItems) :
    leading (items.map .beanAttribute) = items := by
  induction items with
  | nil => rfl
  | cons item rest ih => rw [List.map_cons, leading, ih]

/-- Nothing is refused just when all values are attributes. -/
theorem refusal?_eq_none_iff :
    refusal? values = none ↔ ∃ items : AttributeItems, values = items.map .beanAttribute := by
  constructor
  · intro none
    obtain ⟨back, same, -⟩ := exists_eq_leading_append values
    refine ⟨leading values, ?_⟩
    have short : values.length ≤ (leading values).length := by
      simpa only [refusal?, Option.map_eq_none_iff, List.getElem?_eq_none_iff] using none
    have long := congrArg List.length same
    rw [List.length_append, List.length_map] at long
    have empty : back = [] := List.eq_nil_of_length_eq_zero (by omega)
    rwa [empty, List.append_nil] at same
  · rintro ⟨items, rfl⟩
    simp [refusal?]

theorem exists_eq_map_iff :
    (∃ items : AttributeItems, values = items.map .beanAttribute)
      ↔ ∀ value ∈ values, ∃ item, value = .beanAttribute item := by
  have ranges := Set.ext_iff.mp (Set.range_list_map Value.beanAttribute) values
  simpa only [Set.mem_range, Set.mem_ofPred_eq, eq_comm] using ranges

/-- Every refusal is about the class of a value that is no attribute. -/
theorem kind_of_refusal? (refused : refusal? values = some fault) : fault.kind = .type := by
  obtain ⟨value, -, rfl⟩ := Option.map_eq_some_iff.mp refused
  rfl

/-- Appending values one by one appends the leading attributes, and refuses the value after them. -/
theorem appendAll_eq (items : AttributeItems) (values : List Value) :
    appendAll items values = (items ++ leading values, refusal? values) := by
  induction values generalizing items with
  | nil => simp [appendAll, leading, refusal?]
  | cons value rest ih =>
    by_cases isAttribute : ∃ item, value = .beanAttribute item
    · obtain ⟨item, rfl⟩ := isAttribute
      simp only [appendAll, append, ih, leading, refusal?, List.append_assoc, List.singleton_append,
        List.length_cons, List.getElem?_cons_succ]
    · have other : ∀ item, value ≠ .beanAttribute item := not_exists.mp isAttribute
      simp only [appendAll, append_of_not_attribute other, refusal?,
        leading_of_not_attribute other rest, List.append_nil, List.length_nil,
        List.getElem?_cons_zero, Option.map_some]

end AttributeItems

namespace Value

variable {value : Value} {items : AttributeItems}

/-- What iterating over a value yields up to the first element that is no attribute. -/
def leadingAttributes (value : Value) : AttributeItems :=
  match value.iterate with
  | .ok values => AttributeItems.leading values
  | .error _ => []

/-- Why extending by a value does not come to the end of it, if it does not. -/
def extendFault? (value : Value) : Option Fault :=
  match value.iterate with
  | .ok values => AttributeItems.refusal? values
  | .error fault => some fault

/-- Iterating fails where a value has no elements, or does not let them be read. -/
theorem iterate_eq_error {fault : Fault} (fails : value.iterate = .error fault) :
    fault = .contentWithheld ∨ ∃ owner, fault = .shape (.notIterable owner) := by
  unfold iterate at fails
  split at fails <;> cases fails
  next => exact .inl rfl
  next => exact .inr ⟨_, rfl⟩

/-- Only the attributes of a value can be gone through to the end. -/
theorem extendFault?_eq_none_iff :
    value.extendFault? = none ↔ ∃ items : AttributeItems,
      value.iterate = .ok (items.map .beanAttribute) := by
  rw [extendFault?]
  cases value.iterate with
  | ok values => simp only [AttributeItems.refusal?_eq_none_iff, Except.ok.injEq]
  | error fault => simp

theorem leadingAttributes_of_iterate (iterates : value.iterate = .ok (items.map .beanAttribute)) :
    value.leadingAttributes = items := by
  rw [leadingAttributes, iterates]
  exact AttributeItems.leading_map_beanAttribute items

/-- A value is of the wrong type to extend by when it has no elements, or one that is no
attribute. -/
theorem extendFault?_type_iff :
    (∃ fault, value.extendFault? = some fault ∧ fault.kind = .type)
      ↔ (∃ owner, value.iterate = .error (.shape (.notIterable owner)))
        ∨ ∃ values, value.iterate = .ok values
          ∧ ∃ element ∈ values, ∀ item, element ≠ .beanAttribute item := by
  rw [extendFault?]
  cases iterates : value.iterate with
  | ok values =>
    have refused : (∃ fault, AttributeItems.refusal? values = some fault ∧ fault.kind = .type)
        ↔ AttributeItems.refusal? values ≠ none := by
      refine ⟨?_, fun some => ?_⟩
      · rintro ⟨fault, same, -⟩
        simp [same]
      · obtain ⟨fault, same⟩ := Option.ne_none_iff_exists'.mp some
        exact ⟨fault, same, AttributeItems.kind_of_refusal? same⟩
    rw [refused, Ne, AttributeItems.refusal?_eq_none_iff, AttributeItems.exists_eq_map_iff]
    simp only [reduceCtorEq, exists_false, false_or, Except.ok.injEq, exists_eq_left', not_forall,
      not_exists, exists_prop]
  | error fault =>
    obtain rfl | ⟨owner, rfl⟩ := iterate_eq_error iterates
    · simp [Fault.kind]
    · simp [Fault.kind, ShapeFault.kind]

end Value

namespace AttributeItems

variable {items : AttributeItems}

theorem extend_eq (items : AttributeItems) (value : Value) :
    extend items value = (items ++ value.leadingAttributes, value.extendFault?) := by
  rw [extend, Value.leadingAttributes, Value.extendFault?]
  cases value.iterate with
  | ok values => exact appendAll_eq items values
  | error fault => rw [List.append_nil]

/-- A new list has the attributes of a value, all of them. -/
theorem build_eq_ok_iff {value : Value} :
    build value = .ok items ↔ value.extendFault? = none ∧ items = value.leadingAttributes := by
  rw [build, extend_eq, List.nil_append]
  cases value.extendFault? <;> simp [eq_comm]

/-! ## The loop -/

/-- What the loop reads from while it appends: values that stay as they are, or the list itself. -/
inductive Source where
  | fixed (values : List Value)
  | itself

def Source.next? (source : Source) (state : LiveExtend) : Option Value :=
  match source with
  | .fixed values => values[state.position]?
  | .itself => (state.items[state.position]?).map .beanAttribute

/-- What the loop ends with from a state on, if it ends. -/
inductive Ends (source : Source) : LiveExtend → AttributeItems × Option Fault → Prop
  | finished {state} (read : source.next? state = none) : Ends source state (state.items, none)
  | refused {state value fault} (read : source.next? state = some value)
    (refuses : append state.items value = .error fault) :
    Ends source state (state.items, some fault)
  | appended {state value longer outcome} (read : source.next? state = some value)
    (appends : append state.items value = .ok longer)
    (later : Ends source ⟨longer, state.position + 1⟩ outcome) : Ends source state outcome

variable {source : Source} {state : LiveExtend} {outcome : AttributeItems × Option Fault}

/-- The loop does not choose what it does. -/
theorem Ends.unique (here : Ends source state outcome) {other : AttributeItems × Option Fault}
    (there : Ends source state other) : other = outcome := by
  induction here with
  | finished read =>
    cases there with
    | finished _ => rfl
    | refused read' _ | appended read' _ _ => simp [read] at read'
  | refused read refuses =>
    cases there with
    | finished read' => simp [read] at read'
    | refused read' refuses' | appended read' refuses' _ => simp_all
  | appended read appends later ih =>
    cases there with
    | finished read' => simp [read] at read'
    | refused read' refuses' => simp_all
    | appended read' appends' later' =>
      obtain rfl := Option.some.inj (read.symm.trans read')
      obtain rfl := Except.ok.inj (appends.symm.trans appends')
      exact ih later'

/-- Over values the loop comes to the end of what is left of them. -/
theorem ends_fixed_from (front values : List Value) (items : AttributeItems) :
    Ends (.fixed (front ++ values)) ⟨items, front.length⟩ (appendAll items values) := by
  -- By induction on what is left to read. What was read before it tells the position.
  induction values generalizing front items with
  | nil => exact .finished (by simp [Source.next?])
  | cons value rest ih =>
    have read : Source.next? (.fixed (front ++ value :: rest)) ⟨items, front.length⟩
        = some value := by simp [Source.next?]
    rw [appendAll]
    split
    next longer appends =>
      refine .appended read appends ?_
      have later := ih (front ++ [value]) longer
      rwa [List.append_assoc, List.length_append] at later
    next fault refuses => exact .refused read refuses

theorem ends_fixed (items : AttributeItems) (values : List Value) :
    Ends (.fixed values) ⟨items, 0⟩ (items ++ leading values, refusal? values) :=
  appendAll_eq items values ▸ ends_fixed_from [] values items

theorem ends_fixed_attributes (items elements : AttributeItems) :
    Ends (.fixed (elements.map .beanAttribute)) ⟨items, 0⟩ (items ++ elements, none) := by
  have ends := ends_fixed items (elements.map .beanAttribute)
  rwa [leading_map_beanAttribute, refusal?_eq_none_iff.mpr ⟨elements, rfl⟩] at ends

/-- A step over the list itself reads an element, appends it and moves on. -/
theorem step?_eq_some {next : LiveExtend} :
    state.step? = some next ↔ ∃ value longer, Source.itself.next? state = some value
      ∧ append state.items value = .ok longer ∧ next = ⟨longer, state.position + 1⟩ := by
  simp only [LiveExtend.step?, Source.next?, Option.map_eq_some_iff]
  constructor
  · rintro ⟨item, read, rfl⟩
    exact ⟨.beanAttribute item, _, ⟨item, read, rfl⟩, rfl, rfl⟩
  · rintro ⟨value, longer, ⟨item, read, rfl⟩, appends, rfl⟩
    cases appends
    exact ⟨item, read, rfl⟩

theorem step?_eq_none : state.step? = none ↔ Source.itself.next? state = none := by
  rw [LiveExtend.step?, Source.next?, Option.map_eq_none_iff, Option.map_eq_none_iff]

/-- Over the list itself the loop ends just when some number of steps finishes it, and nothing is
ever refused. -/
theorem ends_itself_iff_run? :
    Ends .itself state outcome ↔
      ∃ steps finished, state.run? steps = some finished ∧ outcome = (finished, none) := by
  constructor
  · intro ends
    induction ends with
    | finished read =>
      exact ⟨1, _, by rw [LiveExtend.run?, step?_eq_none.mpr read], rfl⟩
    | refused read refuses =>
      -- The list holds attributes only, so nothing that it yields is refused.
      obtain ⟨item, -, rfl⟩ := Option.map_eq_some_iff.mp read
      cases refuses
    | appended read appends later ih =>
      obtain ⟨steps, finished, ran, same⟩ := ih
      have stepped := step?_eq_some.mpr ⟨_, _, read, appends, rfl⟩
      exact ⟨steps + 1, finished, by rw [LiveExtend.run?, stepped]; exact ran, same⟩
  · rintro ⟨steps, finished, ran, rfl⟩
    induction steps generalizing state with
    | zero => cases ran
    | succ steps ih =>
      rw [LiveExtend.run?] at ran
      split at ran
      next stops =>
        cases ran
        exact .finished (step?_eq_none.mp stops)
      next next stepped =>
        obtain ⟨value, longer, read, appends, rfl⟩ := step?_eq_some.mp stepped
        exact .appended read appends (ih ran)

/-- A list with an element left to read is never finished, as one is left after every step. -/
theorem not_ends_itself (unread : state.position < state.items.length) :
    ¬ Ends .itself state outcome := by
  intro ends
  obtain ⟨steps, finished, ran, -⟩ := ends_itself_iff_run?.mp ends
  rw [LiveExtend.run?_eq_none unread] at ran
  cases ran

/-- Over the list itself the loop ends only when there is nothing in it. -/
theorem ends_itself_iff : Ends .itself ⟨items, 0⟩ outcome ↔ items = [] ∧ outcome = ([], none) := by
  constructor
  · intro ends
    cases items with
    | nil => exact ⟨rfl, Ends.unique (.finished rfl) ends⟩
    | cons item rest => exact absurd ends (not_ends_itself (Nat.zero_lt_succ _))
  · rintro ⟨rfl, rfl⟩
    exact .finished rfl

theorem extendByItself_eq (items : AttributeItems) :
    extendByItself items = (items, if items = [] then none else some .endless) := by
  cases items <;> rfl

end AttributeItems
end BrokerMaps
