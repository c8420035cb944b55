import BrokerMaps.Proofs.Bean.Extending
import BrokerMaps.Proofs.Workspace.Shared
import BrokerMaps.Value.Construction

/-!
# Attribute lists in a workspace

A workspace keeps an attribute list apart. Whoever asks for the name finds the attributes as they
are now; growing the list puts them back as they were kept, and more behind them.

## Main results

* `Stands.answer_append`, `Stands.answer_extend`: what growing a list answers with, and what the
  list holds after it, also where it was refused.
* `Stands.answer_extend_itself`: the list itself is gone through only when there is nothing in it.
* `stands_bindValue_attributeList`: a new list stands under its name with its first attributes.
-/
namespace BrokerMaps

namespace Value

/-- An attribute list with some items to whoever compares it. What is shared is opened. -/
def ListsAs (value : Value) (items : AttributeItems) : Prop :=
  ∃ stamp, value.opened.opened = .attributeList stamp items

variable {items others : AttributeItems} {value : Value}

theorem sameAttributes_iff :
    sameAttributes items others = true
      ↔ List.Forall₂ (fun item other => sameAttribute item other = true) items others := by
  induction items generalizing others with
  | nil => cases others <;> simp [sameAttributes]
  | cons item rest ih => cases others <;> simp [sameAttributes, ih]

theorem same_shared (identity : Nat) (className : ClassName) (content : Unit → Value)
    (extra : String → Value) (other : Value) :
    same (.shared identity className content extra) other
      = (isSameObject identity other || same (content ()) other.opened) := by
  rw [same]

/-- A shared attribute list equals itself, any attribute list with the same items, and an
application object that says so. -/
theorem equal_attributeList_iff {identity : Nat} {className : ClassName} {stamp : Stamp}
    {extra : String → Value} :
    (Value.shared identity className (fun _ => .attributeList stamp items) extra).equal value = true
      ↔ isSameObject identity value = true
        ∨ (∃ others, value.ListsAs others
          ∧ List.Forall₂ (fun item other => sameAttribute item other = true) items others)
        ∨ answers .whole value.opened.opened = true := by
  have opens : same (.attributeList stamp items) value.opened = true
      ↔ (∃ others, value.ListsAs others ∧ sameAttributes items others = true)
        ∨ answers .whole value.opened.opened = true := by
    rw [same]
    split
    next other others found =>
      have noObject : answers .whole (.attributeList other others) = false := rfl
      simp [ListsAs, found, noObject]
    next noList =>
      have noItems : ¬ ∃ others, value.ListsAs others ∧ sameAttributes items others = true := by
        rintro ⟨others, ⟨other, found⟩, -⟩
        exact noList other others found
      rw [or_iff_right noItems]
  have unfolds : (Value.shared identity className (fun _ => .attributeList stamp items) extra).equal
      value = (isSameObject identity value || same (.attributeList stamp items) value.opened) := by
    exact same_shared identity className _ extra value
  simp only [unfolds, Bool.or_eq_true, opens, sameAttributes_iff]

end Value

namespace Workspace

variable {workspace : Workspace} {name method : String} {identity : Nat} {stamp : Stamp}
  {kept : AttributeItems}

def listMethods : List String := ["append", "extend", "as_list"]

/-! ## Looking at a list -/

/-- The attributes of a list are looked at one by one, and each is found to be kept as it is. -/
theorem exists_refreshed_attributeList (workspace : Workspace) (depth : Nat) :
    ∃ seen : Attribute Value → Attribute Value,
      (∀ item, Value.identifyAttribute (seen item) = Value.identifyAttribute item)
      ∧ ∀ stamp items, workspace.refreshed depth (.attributeList stamp items)
        = .attributeList stamp (items.map seen) := by
  obtain ⟨modeNow, content, extra, modes, refreshed_eq⟩ := workspace.exists_refreshed_eq depth
  refine ⟨Value.refreshAttribute modeNow content extra,
    Value.identifyAttribute_refreshAttribute modes, fun stamp items => ?_⟩
  rw [refreshed_eq, Value.refresh, Value.refreshAttributes_eq_map]

/-- What is found under the name of an attribute list, and the attributes as they are now. -/
structure FindsList (workspace : Workspace) (name : String) (identity : Nat) (stamp : Stamp)
    (items : AttributeItems) (list : Value) : Prop where
  found : workspace.answer (valueOf name) = (.ok list, workspace)
  isShared : ∃ className extra,
    list = .shared identity className (fun _ => .attributeList stamp items) extra
      ∧ ∀ field, extra field = .unread

theorem Stands.findsList
    (stands : workspace.Stands name identity (.attributeList stamp kept)) :
    ∃ (seen : Attribute Value → Attribute Value) (list : Value),
      (∀ item, Value.identifyAttribute (seen item) = Value.identifyAttribute item)
      ∧ workspace.FindsList name identity stamp (kept.map seen) list := by
  obtain ⟨depth, className, extra, found, free⟩ := stands.exists_valueOf
  obtain ⟨seen, seen_kept, refreshed_eq⟩ := workspace.exists_refreshed_attributeList (depth + 1)
  rw [refreshed_eq] at found
  exact ⟨seen, _, seen_kept, found, className, extra, rfl, free⟩

section
variable {items more : AttributeItems} {list value element : Value}

theorem FindsList.receiver (finds : workspace.FindsList name identity stamp items list)
    (offered : method ∈ listMethods) :
    workspace.answer (receiver name method) = (.ok list, workspace) := by
  obtain ⟨className, extra, rfl, free⟩ := finds.isShared
  refine answer_receiver_of_found finds.found rfl ?_ ?_
  · exact List.contains_iff_mem.mpr offered
  · simp only [Value.extraField?, free method]

theorem FindsList.copyOfItems (finds : workspace.FindsList name identity stamp items list) :
    workspace.answer (copyOfItems name) = (.ok items, workspace) := by
  rw [Workspace.copyOfItems, answer_bind_of_ok (finds.receiver (by decide))]
  obtain ⟨className, extra, rfl, free⟩ := finds.isShared
  rfl

theorem FindsList.append_callable (finds : workspace.FindsList name identity stamp items list) :
    list.checkCallable "append" = .ok () := by
  obtain ⟨className, extra, rfl, free⟩ := finds.isShared
  simp only [Value.checkCallable, Value.extraField?, free "append"]

theorem FindsList.appended_eq (finds : workspace.FindsList name identity stamp items list)
    (element : Value) :
    appended list element = (AttributeItems.append items element).map (.attributeList stamp) := by
  rw [appended, finds.append_callable]
  obtain ⟨className, extra, rfl, free⟩ := finds.isShared
  change (AttributeItems.append items element >>= fun longer =>
    pure (Value.attributeList stamp longer)) = _
  cases AttributeItems.append items element <;> rfl

/-- Only one that is the same object is gone through while it grows. -/
theorem FindsList.extended_eq (finds : workspace.FindsList name identity stamp items list)
    (value : Value) :
    extended list value =
      let grown := if some identity = value.identity? then AttributeItems.extendByItself items
        else AttributeItems.extend items value
      .ok (.attributeList stamp grown.1, grown.2) := by
  have callable := finds.append_callable
  obtain ⟨className, extra, rfl, free⟩ := finds.isShared
  have itself : (Value.shared identity className (fun _ => .attributeList stamp items)
      extra).identity? = some identity := rfl
  simp only [extended, Value.opened, callable, itself, Option.isSome_some, Bool.true_and,
    decide_eq_true_eq]
  split <;> rfl

/-- A value other than the list itself is gone through as it is. -/
theorem FindsList.extended_of_ne (finds : workspace.FindsList name identity stamp items list)
    (other : value.identity? ≠ some identity) :
    extended list value
      = .ok (.attributeList stamp (items ++ value.leadingAttributes), value.extendFault?) := by
  rw [finds.extended_eq, if_neg fun same => other same.symm, AttributeItems.extend_eq]

/-- Extending by the list itself never comes to an end, unless there is nothing in it. -/
theorem FindsList.extended_itself (finds : workspace.FindsList name identity stamp items list) :
    extended list list
      = .ok (.attributeList stamp items, if items = [] then none else some .endless) := by
  have itself : some identity = list.identity? := by
    obtain ⟨className, extra, rfl, -⟩ := finds.isShared
    rfl
  rw [finds.extended_eq, if_pos itself, AttributeItems.extendByItself_eq]

end

/-! ## Growing -/

theorem keptAs_identifyAttributes (items : AttributeItems) (next : Nat) :
    List.Forall₂ Attribute.KeptAs items ((Value.identifyAttributes items).run next).1 := by
  induction items generalizing next with
  | nil => exact .nil
  | cons item rest ih => exact .cons ⟨next, rfl⟩ (ih _)

/-- What is found in a list is kept as it was kept before. -/
theorem Stands.identify_seen
    (stands : workspace.Stands name identity (.attributeList stamp kept))
    {seen : Attribute Value → Attribute Value}
    (same : ∀ item, Value.identifyAttribute (seen item) = Value.identifyAttribute item) :
    Value.identifyAttributes (kept.map seen) = pure kept := by
  rw [← (Value.isKept_attributeList_iff.mp stands.kept).2, Value.identifyAttributes_eq_mapM,
    Value.identifyAttributes_eq_mapM, List.mapM_map]
  exact congrArg (kept.mapM ·) (funext same)

/-- What was found in a list stays in it as it was kept, and what is put behind it is kept too. -/
theorem Stands.exists_answer_replace
    (stands : workspace.Stands name identity (.attributeList stamp kept))
    {seen : Attribute Value → Attribute Value}
    (same : ∀ item, Value.identifyAttribute (seen item) = Value.identifyAttribute item)
    {list : Value} (finds : workspace.FindsList name identity stamp (kept.map seen) list)
    (more : AttributeItems) :
    ∃ after moreKept,
      workspace.answer (replace list (.attributeList stamp (kept.map seen ++ more)))
        = (.ok (), after)
      ∧ List.Forall₂ Attribute.KeptAs more moreKept
      ∧ after.Stands name identity (.attributeList stamp (kept ++ moreKept)) := by
  have stamped := (Value.isKept_attributeList_iff.mp stands.kept).1
  have identifies : Value.identify (.attributeList stamp (kept.map seen ++ more)) = (do
      let moreKept ← Value.identifyAttributes more
      pure (.attributeList stamp (kept ++ moreKept))) := by
    rw [Value.identify, Value.stampOf_eq_pure_iff.mpr stamped, Value.identifyAttributes_append,
      stands.identify_seen same]
    rfl
  have grown := stands.setObject (.attributeList stamp (kept.map seen ++ more))
  rw [identifies] at grown
  obtain ⟨className, extra, rfl, -⟩ := finds.isShared
  exact ⟨_, _, rfl, keptAs_identifyAttributes more workspace.nextIdentity, grown⟩

section
variable {element value : Value}

/-- An attribute is put behind the others, and the answer is what is in the list then. -/
theorem Stands.answer_append
    (stands : workspace.Stands name identity (.attributeList stamp kept))
    (item : Attribute Value) :
    ∃ (after : Workspace) (itemKept : Attribute Value),
      workspace.answer (append name (.beanAttribute item)) = after.answer (copyOfItems name)
      ∧ item.KeptAs itemKept
      ∧ after.Stands name identity (.attributeList stamp (kept ++ [itemKept])) := by
  obtain ⟨seen, list, same, finds⟩ := stands.findsList
  obtain ⟨after, moreKept, replaces, keptAs, grown⟩ :=
    stands.exists_answer_replace same finds [item]
  obtain ⟨itemKept, _, isKept, ⟨⟩, rfl⟩ := List.forall₂_cons_left_iff.mp keptAs
  have appends : workspace.answer (MonadExcept.ofExcept (appended list (.beanAttribute item)))
      = (.ok (.attributeList stamp (kept.map seen ++ [item])), workspace) := by
    rw [answer_ofExcept, finds.appended_eq]
    rfl
  refine ⟨after, itemKept, ?_, isKept, grown⟩
  rw [append, answer_bind_of_ok (finds.receiver (by decide)), answer_bind_of_ok appends,
    answer_bind_of_ok replaces]

/-- A value that is no attribute is refused, and nothing has happened. -/
theorem Stands.answer_append_of_not_attribute
    (stands : workspace.Stands name identity (.attributeList stamp kept))
    (other : ∀ item, element ≠ .beanAttribute item) :
    workspace.answer (append name element)
      = (.error (.shape (.notAnAttribute element.className)), workspace) := by
  obtain ⟨seen, list, same, finds⟩ := stands.findsList
  have refuses : workspace.answer (MonadExcept.ofExcept (appended list element))
      = (.error (.shape (.notAnAttribute element.className)), workspace) := by
    rw [answer_ofExcept, finds.appended_eq, AttributeItems.append_of_not_attribute other]
    rfl
  rw [append, answer_bind_of_ok (finds.receiver (by decide)), answer_bind_of_error refuses]

/-- Another value leaves the attributes that it starts with, whether it is gone through to its end
or not. -/
theorem Stands.answer_extend
    (stands : workspace.Stands name identity (.attributeList stamp kept))
    (other : value.identity? ≠ some identity) :
    ∃ (after : Workspace) (moreKept : AttributeItems),
      workspace.answer (extend name value) =
        (match value.extendFault? with
          | some fault => (.error fault, after)
          | none => after.answer (copyOfItems name))
      ∧ List.Forall₂ Attribute.KeptAs value.leadingAttributes moreKept
      ∧ after.Stands name identity (.attributeList stamp (kept ++ moreKept)) := by
  obtain ⟨seen, list, same, finds⟩ := stands.findsList
  obtain ⟨after, moreKept, replaces, keptAs, grown⟩ :=
    stands.exists_answer_replace same finds value.leadingAttributes
  have extends' : workspace.answer (MonadExcept.ofExcept (extended list value))
      = (.ok (.attributeList stamp (kept.map seen ++ value.leadingAttributes),
        value.extendFault?), workspace) := by
    rw [answer_ofExcept, finds.extended_of_ne other]
  refine ⟨after, moreKept, ?_, keptAs, grown⟩
  rw [extend, answer_bind_of_ok (finds.receiver (by decide)), answer_bind_of_ok extends',
    answer_bind_of_ok replaces]
  cases value.extendFault? <;> rfl

theorem Stands.exists_copyOfItems
    (stands : workspace.Stands name identity (.attributeList stamp kept)) :
    ∃ items, workspace.answer (copyOfItems name) = (.ok items, workspace) := by
  obtain ⟨seen, list, -, finds⟩ := stands.findsList
  exact ⟨_, finds.copyOfItems⟩

theorem Stands.append_eq_error_iff
    (stands : workspace.Stands name identity (.attributeList stamp kept))
    {fault : Fault} :
    (workspace.answer (append name element)).1 = .error fault
      ↔ (∀ item, element ≠ .beanAttribute item)
        ∧ fault = .shape (.notAnAttribute element.className) := by
  by_cases isAttribute : ∃ item, element = .beanAttribute item
  · obtain ⟨item, rfl⟩ := isAttribute
    obtain ⟨after, itemKept, appends, -, grown⟩ := stands.answer_append item
    obtain ⟨items, copies⟩ := grown.exists_copyOfItems
    simp [appends, copies]
  · have other : ∀ item, element ≠ .beanAttribute item := not_exists.mp isAttribute
    rw [stands.answer_append_of_not_attribute other]
    simp [other, eq_comm]

theorem Stands.extend_eq_error_iff
    (stands : workspace.Stands name identity (.attributeList stamp kept))
    (other : value.identity? ≠ some identity) {fault : Fault} :
    (workspace.answer (extend name value)).1 = .error fault
      ↔ value.extendFault? = some fault := by
  obtain ⟨after, moreKept, grows, -, grown⟩ := stands.answer_extend other
  obtain ⟨items, copies⟩ := grown.exists_copyOfItems
  rw [grows]
  cases value.extendFault? <;> simp [copies]

/-- The list itself is gone through only when there is nothing in it. -/
theorem Stands.answer_extend_itself
    (stands : workspace.Stands name identity (.attributeList stamp kept))
    {seen : Attribute Value → Attribute Value}
    (same : ∀ item, Value.identifyAttribute (seen item) = Value.identifyAttribute item)
    {list : Value} (finds : workspace.FindsList name identity stamp (kept.map seen) list) :
    (workspace.answer (extend name list)).1
      = if kept.map seen = [] then .ok [] else .error .endless := by
  obtain ⟨after, moreKept, replaces, keptAs, grown⟩ := stands.exists_answer_replace same finds []
  rw [List.append_nil] at replaces
  have extends' : workspace.answer (MonadExcept.ofExcept (extended list list))
      = (.ok (.attributeList stamp (kept.map seen),
        if kept.map seen = [] then none else some .endless), workspace) := by
    rw [answer_ofExcept, finds.extended_itself]
  rw [extend, answer_bind_of_ok (finds.receiver (by decide)), answer_bind_of_ok extends',
    answer_bind_of_ok replaces]
  by_cases empty : kept.map seen = []
  · obtain ⟨seenAfter, listAfter, -, findsAfter⟩ := grown.findsList
    have none : kept ++ moreKept = [] := by
      rw [List.map_eq_nil_iff.mp empty, List.forall₂_nil_left_iff.mp keptAs]
      rfl
    rw [none] at findsAfter
    simp only [if_pos empty, findsAfter.copyOfItems, List.map_nil]
  · simp only [if_neg empty, answer_throw]

end

/-! ## New lists -/

theorem eq_of_build {subclass? : Option Subclass} {arguments : List Value} {built : Value}
    (builds : Value.Constructible.attributeList.build subclass? arguments = .ok built) :
    built = .attributeList (.fresh subclass?) (arguments.flatMap Value.leadingAttributes) := by
  match arguments with
  | [] => exact (Except.ok.inj builds).symm
  | [source] =>
    change (AttributeItems.build source).map (Value.attributeList (.fresh subclass?)) = .ok built
      at builds
    cases made : AttributeItems.build source with
    | error fault =>
      rw [made] at builds
      cases builds
    | ok items =>
      rw [made] at builds
      cases builds
      obtain ⟨-, rfl⟩ := AttributeItems.build_eq_ok_iff.mp made
      rw [List.flatMap_singleton]
  | _ :: _ :: _ => cases builds

/-- A new list stands under its name with the attributes that it was built from. -/
theorem stands_bindValue_attributeList (orderly : workspace.Orderly) (name : String)
    (subclass? : Option Subclass) (items : AttributeItems) :
    ∃ kept, List.Forall₂ Attribute.KeptAs items kept
      ∧ (workspace.answer (bindValue name (.attributeList (.fresh subclass?) items))).2.Stands name
        workspace.nextIdentity (.attributeList ⟨some workspace.nextIdentity, subclass?⟩ kept) := by
  let numbered := (Value.identifyAttributes items).run (workspace.nextIdentity + 1)
  have identifies : (Value.attributeList (.fresh subclass?) items).identify.run
      workspace.nextIdentity
      = (.attributeList ⟨some workspace.nextIdentity, subclass?⟩ numbered.1, numbered.2) := rfl
  exact ⟨numbered.1, keptAs_identifyAttributes items (workspace.nextIdentity + 1),
    stands_bindValue orderly identifies rfl rfl
      (Value.grows_identifyAttributes items (workspace.nextIdentity + 1)) name⟩

end Workspace
end BrokerMaps
