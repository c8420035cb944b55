import Mathlib.Data.List.Nodup
import Mathlib.Data.List.Perm.Subperm
import BrokerMaps.Proofs.Value.LastWins
import BrokerMaps.Proofs.Value.Numbers
import BrokerMaps.Value.Digest

/-!
# Forms of keys

Which values are the same key depends on more than their shape: numbers of different classes count
by their value, buffers by their content, the components of a bean name without regard to their
order, and objects by which object they are. An application object that says what it is equal to
counts as the leaf that it is digested as, provided that the two go together. The form of a value
keeps just what counts, so that two keys are the same exactly when their forms are equal.

A key can hold an object that has other holders. Such an object is known by its identity, so its
holders must all see the same content.

## Main result

`Value.toldBy_keyForm`
-/
namespace BrokerMaps

/-! ## Application objects -/

/-- What is written for an application object goes together when the object is equal to what it is
digested as and to nothing else. It ought to: objects that are equal have one digest. -/
structure AppObject.IsConsistent (held : AppObject) : Prop where
  digest : held.digestLeaf = .ok held.leaf
  seen : held.leaf ≠ .whole
  equality : ∀ other, held.equality other = .ok (decide (other = held.leaf))

namespace AppObject

theorem IsConsistent.answers_iff {held : AppObject} (consistent : held.IsConsistent)
    (other : Leaf) : held.answers other = true ↔ other = held.leaf := by
  rw [answers, consistent.equality]
  exact decide_eq_true_iff

theorem IsConsistent.answers_whole {held : AppObject} (consistent : held.IsConsistent) :
    held.answers .whole = false := by
  rw [← Bool.not_eq_true, consistent.answers_iff]
  exact Ne.symm consistent.seen

/-- It goes together where nothing is written. -/
theorem isConsistent_ordinary (serial : Nat) (className : ClassName) (quoted : String)
    (plain : Except Fault String) : (ordinary serial className quoted plain).IsConsistent :=
  ⟨rfl, by simp [leaf, ordinary, Leaf.whole], fun _ => rfl⟩

end AppObject

/-! ## Forms -/

/-- What counts about a key. -/
inductive KeyForm where
  | leaf (leaf : Leaf)
  | tuple (items : List KeyForm)
  | destination (subclass? : Option Subclass) (kind : DestinationKind) (physicalName : KeyForm)
  | beanName (subclass? : Option Subclass) (domain : KeyForm)
      (component? : String → Option KeyForm)
  | beanInstance (subclass? : Option Subclass) (identity reported : KeyForm)
  | beanAttribute (subclass? : Option Subclass) (name value : KeyForm)
  | sized (serial : Nat)
  | unusable

namespace Value

mutual

/-- The form of a value that can be a key. -/
def keyForm : Value → KeyForm
  | .null => .leaf .null
  | .bool b => .leaf (.number (.int (if b then 1 else 0)))
  | .int n => .leaf (.number (.int n))
  | .float identity? x => .leaf (Leaf.ofFloat identity? x)
  | .text s => .leaf (.text s)
  | .buffer _ bytes => .leaf (.bytes bytes)
  | .tuple _ items => .tuple (keyForms items)
  | .mode m => .leaf (.number (.int m.toNat))
  | .destination stamp kind physicalName =>
    .destination stamp.subclass? kind (keyForm physicalName)
  | .beanName stamp ⟨domain, components⟩ =>
    .beanName stamp.subclass? (keyForm domain) (componentForm? components)
  | .beanInstance stamp ⟨identity, reported⟩ =>
    .beanInstance stamp.subclass? (keyForm identity) (keyForm reported)
  | .beanAttribute ⟨stamp, name, value⟩ =>
    .beanAttribute stamp.subclass? (keyForm name) (keyForm value)
  | .object held => .leaf held.leaf
  | .sized serial _ => .sized serial
  | .shared _ _ content _ => keyForm (content ())
  | _ => .unusable

def keyForms : List Value → List KeyForm
  | [] => []
  | item :: rest => keyForm item :: keyForms rest

/-- The form of the component of a given name. -/
def componentForm? : List (String × Value) → String → Option KeyForm
  | [], _ => none
  | (key, value) :: rest, name =>
    if name = key then some (keyForm value) else componentForm? rest name

end

/-- A value that can be a key, where each identity of an object with other holders stands for the
same object everywhere. Of the objects that can have other holders only modes, application objects
and sized bodies can be keys. -/
inductive IsKey (objects : Nat → Value) : Value → Prop where
  | null : IsKey objects .null
  | bool (b : Bool) : IsKey objects (.bool b)
  | int (n : Int) : IsKey objects (.int n)
  | float (identity : Nat) (x : Binary64) : IsKey objects (.float (some identity) x)
  | text (s : String) : IsKey objects (.text s)
  | buffer {kind : BufferKind} (fixed : kind.digestFault? = none) (bytes : List UInt8) :
    IsKey objects (.buffer kind bytes)
  | tuple (identity? : Option Nat) {items : List Value}
    (each : ∀ item ∈ items, IsKey objects item) : IsKey objects (.tuple identity? items)
  | mode (m : DeliveryMode) : IsKey objects (.mode m)
  | destination (stamp : Stamp) (kind : DestinationKind) {physicalName : Value}
    (inner : IsKey objects physicalName) : IsKey objects (.destination stamp kind physicalName)
  | beanName (stamp : Stamp) {domain : Value} {components : List (String × Value)}
    (first : IsKey objects domain) (nodup : (components.map (·.1)).Nodup)
    (each : ∀ component ∈ components, IsKey objects component.2) :
    IsKey objects (.beanName stamp ⟨domain, components⟩)
  | beanInstance (stamp : Stamp) {identity reported : Value} (first : IsKey objects identity)
    (second : IsKey objects reported) : IsKey objects (.beanInstance stamp ⟨identity, reported⟩)
  | beanAttribute (stamp : Stamp) {name value : Value} (first : IsKey objects name)
    (second : IsKey objects value) : IsKey objects (.beanAttribute ⟨stamp, name, value⟩)
  | object {held : AppObject} (consistent : held.IsConsistent) : IsKey objects (.object held)
  | sized (serial : Nat) (size : Int) : IsKey objects (.sized serial size)
  | sharedMode {identity : Nat} (className : ClassName) (extra : String → Value)
    {content : Unit → Value} {m : DeliveryMode} (opened : content () = .mode m)
    (current : objects identity = .mode m) :
    IsKey objects (.shared identity className content extra)
  | sharedObject {identity : Nat} (className : ClassName) (extra : String → Value)
    {content : Unit → Value} {held : AppObject} (consistent : held.IsConsistent)
    (opened : content () = .object held) (current : objects identity = .object held) :
    IsKey objects (.shared identity className content extra)
  | sharedSized {identity : Nat} (className : ClassName) (extra : String → Value)
    {content : Unit → Value} {serial : Nat} {size : Int} (opened : content () = .sized serial size)
    (current : objects identity = .sized serial size) :
    IsKey objects (.shared identity className content extra)

section
variable {objects : Nat → Value}

theorem IsKey.opened {value : Value} (isKey : IsKey objects value) :
    IsKey objects value.opened ∧ value.opened.keyForm = value.keyForm := by
  cases isKey with
  | sharedMode className extra opened current =>
    exact ⟨by rw [Value.opened, opened]; exact .mode _, rfl⟩
  | sharedObject className extra consistent opened current =>
    exact ⟨by rw [Value.opened, opened]; exact .object consistent, rfl⟩
  | sharedSized className extra opened current =>
    exact ⟨by rw [Value.opened, opened]; exact .sized _ _, rfl⟩
  | _ => exact ⟨by constructor <;> assumption, rfl⟩

/-! ## Leaves -/

theorem floatLeaf_of_ne_nan {x : Binary64} (isNumber : x ≠ .nan) (identity? : Option Nat) :
    Leaf.ofFloat identity? x = .number (Number.ofBinary64 x) := by
  cases x with
  | nan => exact absurd rfl isNumber
  | _ => rfl

theorem floatLeaf_eq_iff {first? second? : Option Nat} {x y : Binary64} :
    Leaf.ofFloat first? x = Leaf.ofFloat second? y ↔
      x.equals y = true ∨ (first? = second? ∧ x = y) := by
  -- A NaN is equal to nothing, so it counts as the object that it is.
  by_cases isNan : x = .nan
  · subst isNan
    cases y <;> simp [Leaf.ofFloat, Binary64.equals]
  · by_cases second : y = .nan
    · subst second
      cases x <;> simp_all [Leaf.ofFloat, Binary64.equals]
    · rw [floatLeaf_of_ne_nan isNan, floatLeaf_of_ne_nan second, Binary64.equals_iff,
        Leaf.number.injEq]
      constructor
      · exact fun same => .inl ⟨isNan, same⟩
      · rintro (⟨-, same⟩ | ⟨-, rfl⟩)
        · exact same
        · rfl

theorem floatLeaf_eq_int_iff {identity? : Option Nat} {x : Binary64} {n : Int} :
    Leaf.ofFloat identity? x = .number (.int n) ↔ Number.ofBinary64 x = .int n := by
  by_cases isNan : x = .nan
  · subst isNan
    simp [Leaf.ofFloat, Number.ofBinary64, Binary64.toInt?]
  · rw [floatLeaf_of_ne_nan isNan, Leaf.number.injEq]

theorem equals_int_iff {number : Number} {n : Int} :
    number.equals (.int n) = true ↔ number = .int n := by
  cases number <;> simp [Number.equals]

theorem int_equals_iff {n : Int} {number : Number} :
    (Number.int n).equals number = true ↔ Number.int n = number := by
  cases number <;> simp [Number.equals]

/-- Buffers that can be keys are compared byte by byte. -/
theorem sameContent_iff {kind other : BufferKind} {bytes others : List UInt8}
    (fixed : kind.digestFault? = none) (second : other.digestFault? = none) :
    kind.sameContent bytes other others = true ↔ bytes = others := by
  have bytewise : ∀ kind : BufferKind, kind.digestFault? = none → kind.format = .byte := by
    rintro (- | - | ⟨format | _, writable | _⟩) noFault <;> first | rfl | cases noFault
  cases kind <;>
    simp [BufferKind.sameContent, bytewise other second, bytewise _ fixed]

/-- What counts as an integer is the same key as any number equal to it, and as an object that says
so. -/
theorem same_integral_iff {a b : Value} {n : Int} (isInt : a.number? = some (.int n))
    (isKey : IsKey objects b) :
    (sameNumber a b || answers (.number (.int n)) b) = true ↔
      KeyForm.leaf (.number (.int n)) = b.keyForm := by
  rw [sameNumber, isInt]
  -- A double may be equal to an integer; what else is a number is an integer itself.
  cases isKey with
  | float identity x =>
    have leaves : KeyForm.leaf (.number (.int n)) = .leaf (Leaf.ofFloat (some identity) x) ↔
        Number.int n = Number.ofBinary64 x := by
      rw [KeyForm.leaf.injEq, eq_comm, floatLeaf_eq_int_iff, eq_comm]
    rw [keyForm, leaves, ← int_equals_iff]
    simp [number?, answers, Value.opened]
  | _ => simp [number?, answers, keyForm, Value.opened, int_equals_iff,
      AppObject.IsConsistent.answers_iff, *]

theorem same_float_iff {identity? : Option Nat} {x : Binary64} {b : Value}
    (isKey : IsKey objects b) :
    (Value.float identity? x).same b = true ↔ (Value.float identity? x).keyForm = b.keyForm := by
  cases isKey with
  | float second y => simp [same, keyForm, floatLeaf_eq_iff]
  | bool | int | mode | sharedMode =>
    simp [same, sameNumber, answers, number?, keyForm, Value.opened, equals_int_iff,
      floatLeaf_eq_int_iff, *]
  | object | sharedObject =>
    simp [same, sameNumber, answers, number?, keyForm, Value.opened,
      AppObject.IsConsistent.answers_iff, *]
  | _ =>
    cases x <;>
      simp [same, sameNumber, answers, number?, keyForm, Leaf.ofFloat, Value.opened, *]

theorem same_object_iff {held : AppObject} {b : Value} (consistent : held.IsConsistent)
    (isKey : IsKey objects b) :
    (Value.object held).same b = true ↔ (Value.object held).keyForm = b.keyForm := by
  have another (second : AppObject) :
      (held.isSame second || held.answers second.leaf) = true ↔ held.leaf = second.leaf := by
    rw [Bool.or_eq_true, consistent.answers_iff, AppObject.isSame, Bool.and_eq_true,
      decide_eq_true_eq, decide_eq_true_eq, eq_comm (a := second.leaf)]
    exact or_iff_right_of_imp And.right
  cases isKey with
  | object | sharedObject => simp [same, Value.opened, keyForm, *]
  | _ =>
    simp [same, keyForm, Value.opened, leaf, consistent.answers_iff, consistent.answers_whole,
      eq_comm, *]

theorem same_sized_iff {serial : Nat} {size : Int} {b : Value} (isKey : IsKey objects b) :
    (Value.sized serial size).same b = true ↔ (Value.sized serial size).keyForm = b.keyForm := by
  cases isKey <;>
    simp [same, answers, keyForm, Value.opened, AppObject.IsConsistent.answers_whole, *]

/-! ## Sequences and components -/

theorem sameAll_iff {items others : List Value}
    (each : ∀ item ∈ items, ∀ other, IsKey objects other →
      (item.same other = true ↔ item.keyForm = other.keyForm))
    (keys : ∀ other ∈ others, IsKey objects other) :
    sameAll items others = true ↔ keyForms items = keyForms others := by
  induction items generalizing others with
  | nil => cases others <;> simp [sameAll, keyForms]
  | cons item rest ih =>
    obtain ⟨here, later⟩ := List.forall_mem_cons.mp each
    cases others with
    | nil => simp [sameAll, keyForms]
    | cons other more =>
      obtain ⟨isKey, areKeys⟩ := List.forall_mem_cons.mp keys
      simp only [sameAll, keyForms, Bool.and_eq_true, List.cons.injEq, here other isKey,
        ih later areKeys]

theorem sameComponents_iff_forall {components others : List (String × Value)} :
    sameComponents components others = true ↔
      ∀ component ∈ components, ∃ other ∈ others,
        component.1 = other.1 ∧ component.2.same other.2 = true := by
  induction components with
  | nil => simp [sameComponents]
  | cons component rest ih =>
    obtain ⟨key, value⟩ := component
    rw [sameComponents, Bool.and_eq_true, ih, List.any_eq_true, List.forall_mem_cons]
    simp only [Bool.and_eq_true, decide_eq_true_eq]

theorem componentForm?_eq_some_iff {components : List (String × Value)} {name : String}
    {form : KeyForm} (nodup : (components.map (·.1)).Nodup) :
    componentForm? components name = some form ↔
      ∃ component ∈ components, name = component.1 ∧ component.2.keyForm = form := by
  induction components with
  | nil => simp [componentForm?]
  | cons component rest ih =>
    obtain ⟨key, value⟩ := component
    obtain ⟨absent, later⟩ := List.nodup_cons.mp nodup
    rw [componentForm?, List.exists_mem_cons_iff, ← ih later]
    by_cases here : name = key
    · -- No component after the first goes by its name.
      have noOther : componentForm? rest name ≠ some form := by
        rw [ne_eq, ih later]
        rintro ⟨other, member, same, -⟩
        exact absent (List.mem_map.mpr ⟨other, member, same.symm.trans here⟩)
      subst here
      simp [noOther]
    · simp [here]

theorem mem_names_iff {components : List (String × Value)} {name : String}
    (nodup : (components.map (·.1)).Nodup) :
    name ∈ components.map (·.1) ↔ ∃ form, componentForm? components name = some form := by
  simp only [componentForm?_eq_some_iff nodup, List.mem_map]
  constructor
  · rintro ⟨component, member, rfl⟩
    exact ⟨_, component, member, rfl, rfl⟩
  · rintro ⟨_, component, member, rfl, -⟩
    exact ⟨component, member, rfl⟩

/-- Components with the same names and, under each name, the same value. -/
structure SameComponents (left right : List (String × Value)) : Prop where
  names : ∀ name, name ∈ left.map (·.1) ↔ name ∈ right.map (·.1)
  values : ∀ name a b, (name, a) ∈ left → (name, b) ∈ right → a.same b = true

/-- Looking up the components of the one among those of the other is enough when both are equally
many and no name comes up twice. -/
theorem sameComponents_iff {left right : List (String × Value)}
    (nodup : (left.map (·.1)).Nodup) (distinct : (right.map (·.1)).Nodup) :
    left.length = right.length ∧ sameComponents left right = true ↔
      SameComponents left right := by
  rw [sameComponents_iff_forall]
  constructor
  · rintro ⟨sameLength, found⟩
    -- The names of the first are all among those of the second, which has no more of them.
    have among : left.map (·.1) ⊆ right.map (·.1) := by
      intro name member
      obtain ⟨component, inside, rfl⟩ := List.mem_map.mp member
      obtain ⟨other, inOther, sameName, -⟩ := found component inside
      exact sameName ▸ List.mem_map_of_mem inOther
    have names := (List.subperm_of_subset nodup among).perm_of_length_le (by simp [sameLength])
    refine ⟨fun name => names.mem_iff, ?_⟩
    intro name a b inLeft inRight
    obtain ⟨⟨_, c⟩, inOther, rfl, same⟩ := found (name, a) inLeft
    -- The component that was found is the only one of its name.
    have only : (name, c) = (name, b) := List.inj_on_of_nodup_map distinct inOther inRight rfl
    cases only
    exact same
  · rintro ⟨names, values⟩
    have order : (left.map (·.1)).Perm (right.map (·.1)) :=
      (List.perm_ext_iff_of_nodup nodup distinct).mpr names
    refine ⟨by simpa using order.length_eq, ?_⟩
    rintro ⟨name, a⟩ inLeft
    obtain ⟨⟨_, b⟩, inRight, rfl⟩ :=
      List.mem_map.mp ((names name).mp (List.mem_map_of_mem inLeft))
    exact ⟨_, inRight, rfl, values _ a b inLeft inRight⟩

/-- Components are the same when the forms under their names are. -/
theorem sameComponents_iff_componentForm? {components others : List (String × Value)}
    (each : ∀ component ∈ components, ∀ other, IsKey objects other →
      (component.2.same other = true ↔ component.2.keyForm = other.keyForm))
    (keys : ∀ other ∈ others, IsKey objects other.2) (nodup : (components.map (·.1)).Nodup)
    (distinct : (others.map (·.1)).Nodup) :
    SameComponents components others ↔ componentForm? components = componentForm? others := by
  constructor
  · intro alike
    -- No name comes up twice, so what is found under a name is the one component that has it.
    funext name
    apply Option.ext
    intro form
    rw [componentForm?_eq_some_iff nodup, componentForm?_eq_some_iff distinct]
    constructor
    · rintro ⟨component, inside, rfl, rfl⟩
      obtain ⟨⟨_, b⟩, inOthers, sameName⟩ :=
        List.mem_map.mp ((alike.names component.1).mp (List.mem_map_of_mem inside))
      cases sameName
      have same := alike.values _ _ b inside inOthers
      exact ⟨_, inOthers, rfl, ((each component inside b (keys _ inOthers)).mp same).symm⟩
    · rintro ⟨other, inOthers, rfl, rfl⟩
      obtain ⟨⟨_, a⟩, inside, sameName⟩ :=
        List.mem_map.mp ((alike.names other.1).mpr (List.mem_map_of_mem inOthers))
      cases sameName
      have same := alike.values _ a _ inside inOthers
      exact ⟨_, inside, rfl, (each _ inside other.2 (keys other inOthers)).mp same⟩
  · intro forms
    constructor
    · intro name
      rw [mem_names_iff nodup, mem_names_iff distinct, forms]
    · intro name a b inside inOthers
      have first : componentForm? components name = some a.keyForm :=
        (componentForm?_eq_some_iff nodup).mpr ⟨_, inside, rfl, rfl⟩
      have second : componentForm? others name = some b.keyForm :=
        (componentForm?_eq_some_iff distinct).mpr ⟨_, inOthers, rfl, rfl⟩
      rw [forms, second] at first
      exact (each _ inside b (keys _ inOthers)).mpr (Option.some.inj first).symm

/-! ## Keys -/

theorem same_shared_iff {identity : Nat} {className : ClassName} {content : Unit → Value}
    {extra : String → Value} {b : Value} (current : content () = objects identity)
    (held : ∀ b, IsKey objects b →
      ((content ()).same b = true ↔ (content ()).keyForm = b.keyForm)) (isKey : IsKey objects b) :
    (Value.shared identity className content extra).same b = true ↔
      (Value.shared identity className content extra).keyForm = b.keyForm := by
  obtain ⟨isOpened, sameForm⟩ := isKey.opened
  rw [same, Bool.or_eq_true, held _ isOpened, sameForm, keyForm]
  refine or_iff_right_of_imp fun identical => ?_
  -- All holders of one object see the same content.
  cases isKey <;> simp_all [isSameObject, keyForm]

theorem same_iff_keyForm {a b : Value} (isKey : IsKey objects a) (other : IsKey objects b) :
    a.same b = true ↔ a.keyForm = b.keyForm := by
  -- Induction on the first key. The second varies, as its parts are what the parts of the first
  -- are compared with.
  induction isKey generalizing b with
  | null | text =>
    cases other with
    | float identity x => cases x <;> simp [same, answers, keyForm, Leaf.ofFloat, Value.opened]
    | _ =>
      simp [same, answers, keyForm, Value.opened, AppObject.IsConsistent.answers_iff, *]
  | buffer fixed bytes =>
    cases other with
    | float identity x => cases x <;> simp [same, answers, keyForm, Leaf.ofFloat, Value.opened]
    | buffer second others =>
      simp [same, keyForm, Value.opened, sameContent_iff fixed second]
    | _ =>
      simp [same, answers, keyForm, Value.opened, AppObject.IsConsistent.answers_iff, *]
  | bool | int | mode =>
    rw [same]
    exact same_integral_iff rfl other
  | float identity x => exact same_float_iff other
  | tuple identity? each ih =>
    cases other with
    | tuple second? keys => simp [same, keyForm, sameAll_iff ih keys]
    | _ =>
      simp [same, answers, keyForm, Value.opened, AppObject.IsConsistent.answers_whole, *]
  | destination stamp kind inner ih =>
    cases other with
    | destination stamp2 kind2 inner2 => simp [same, keyForm, ih inner2, and_assoc]
    | _ =>
      simp [same, answers, keyForm, Value.opened, AppObject.IsConsistent.answers_whole, *]
  | beanName stamp first nodup each ihFirst ihEach =>
    cases other with
    | beanName stamp2 first2 nodup2 each2 =>
      have components := sameComponents_iff_componentForm? ihEach each2 nodup nodup2
      rw [← sameComponents_iff nodup nodup2] at components
      simp [same, keyForm, ihFirst first2, ← components, and_assoc]
    | _ =>
      simp [same, answers, keyForm, Value.opened, AppObject.IsConsistent.answers_whole, *]
  | beanInstance stamp first second ihFirst ihSecond =>
    cases other with
    | beanInstance stamp2 first2 second2 =>
      simp [same, keyForm, ihFirst first2, ihSecond second2, and_assoc]
    | _ =>
      simp [same, answers, keyForm, Value.opened, AppObject.IsConsistent.answers_whole, *]
  | beanAttribute stamp first second ihFirst ihSecond =>
    cases other with
    | beanAttribute stamp2 first2 second2 =>
      simp [same, sameAttribute, keyForm, ihFirst first2, ihSecond second2, and_assoc]
    | _ =>
      simp [same, answers, keyForm, Value.opened, AppObject.IsConsistent.answers_whole, *]
  | object consistent => exact same_object_iff consistent other
  | sized serial size => exact same_sized_iff other
  | sharedMode className extra opened current =>
    refine same_shared_iff (opened.trans current.symm) (fun b key => ?_) other
    rw [opened, same]
    exact same_integral_iff rfl key
  | sharedObject className extra consistent opened current =>
    exact same_shared_iff (opened.trans current.symm)
      (fun b => opened ▸ same_object_iff consistent) other
  | sharedSized className extra opened current =>
    exact same_shared_iff (opened.trans current.symm) (fun b => opened ▸ same_sized_iff) other

end

/-- Keys are told apart by their forms. -/
theorem toldBy_keyForm (objects : Nat → Value) : ToldBy (IsKey objects) keyForm :=
  fun _ _ isKey other => same_iff_keyForm isKey other

end Value
end BrokerMaps
