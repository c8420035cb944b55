import BrokerMaps.Value.Table

/-!
# Attribute lists

The attributes of one bean in order. Only attributes can be appended; extending appends the
elements of a value one after the other and stops at the first that is no attribute, keeping those
before it.

Extending reads its argument while it appends. When the argument is the list itself, every step
appends one element and reads one element, so the reading position never catches up with the end:
`LiveExtend` has that loop step by step. An empty list is finished at once and any other list never
is, which `extendByItself` answers with `endless`.
-/
namespace BrokerMaps

abbrev AttributeItems := List (Attribute Value)

namespace AttributeItems

def append (items : AttributeItems) (value : Value) : Except Fault AttributeItems :=
  match value with
  | .beanAttribute item => .ok (items ++ [item])
  | value => Value.shapeFault (.notAnAttribute value.className)

/-- The items after appending values up to the first that is no attribute, and the fault of that
one. -/
def appendAll (items : AttributeItems) : List Value → AttributeItems × Option Fault
  | [] => (items, none)
  | value :: rest =>
    match append items value with
    | .ok longer => appendAll longer rest
    | .error fault => (items, some fault)

/-- Extends by a value other than the list itself. -/
def extend (items : AttributeItems) (value : Value) : AttributeItems × Option Fault :=
  match value.iterate with
  | .ok values => appendAll items values
  | .error fault => (items, some fault)

/-- A new list with the elements of a value. -/
def build (value : Value) : Except Fault AttributeItems :=
  match extend [] value with
  | (items, none) => .ok items
  | (_, some fault) => .error fault

/-! ## Extending a list by itself -/

/-- The list as it grows, and how many of its elements have been read. -/
structure LiveExtend where
  items : AttributeItems
  position : Nat

/-- Reads the next element and appends it; `none` when there is no next element. -/
def LiveExtend.step? (state : LiveExtend) : Option LiveExtend :=
  (state.items[state.position]?).map fun item => ⟨state.items ++ [item], state.position + 1⟩

/-- The items once the loop has ended, if it ends within the given number of steps. -/
def LiveExtend.run? : Nat → LiveExtend → Option AttributeItems
  | 0, _ => none
  | steps + 1, state =>
    match state.step? with
    | none => some state.items
    | some next => run? steps next

def extendByItself (items : AttributeItems) : AttributeItems × Option Fault :=
  -- One step tells the empty list from all others.
  match LiveExtend.run? 1 ⟨items, 0⟩ with
  | some finished => (finished, none)
  | none => (items, some .endless)

/-- A list with an element left to read still has one after a step. -/
theorem LiveExtend.step?_position_lt {state : LiveExtend}
    (unread : state.position < state.items.length) :
    ∃ next, state.step? = some next ∧ next.position < next.items.length := by
  refine ⟨⟨state.items ++ [state.items[state.position]], state.position + 1⟩, ?_, ?_⟩
  · simp [step?, unread]
  · simp [unread]

/-- What one step does not finish is never finished. -/
theorem LiveExtend.run?_eq_none {state : LiveExtend}
    (unread : state.position < state.items.length) (steps : Nat) : state.run? steps = none := by
  induction steps generalizing state with
  | zero => rfl
  | succ steps ih =>
    obtain ⟨next, stepped, still⟩ := step?_position_lt unread
    simp only [run?, stepped]
    exact ih still

end AttributeItems
end BrokerMaps
