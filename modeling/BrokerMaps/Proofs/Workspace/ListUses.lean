import BrokerMaps.Proofs.Workspace.AttributeLists

/-!
# Uses of an attribute list

An attribute list is used after it was built: attributes are appended, other values are gone
through, copies of its items are taken and changed. Some of this is refused half-way.

## Main results

* `list_after_uses`: after any uses, all ways of looking at the list agree on the attributes that
  the uses have brought in, in order, and what is refused then is told by the value alone.
* `extend_ends`: going through another value comes to an end, going through the list itself does
  not.

## Proof strategy

One use keeps what the list held and puts its contribution behind that (`Stands.listUse`), so any
number of uses put theirs one behind the other.
-/
namespace BrokerMaps

/-- Something given is found as it is kept, now that a workspace holds it. -/
def Attribute.FoundAs (given found : Attribute Value) : Prop :=
  ∃ kept, given.KeptAs kept ∧ Value.identifyAttribute found = pure kept

namespace Workspace

variable {workspace : Workspace} {name : String} {identity : Nat} {stamp : Stamp}
  {kept : AttributeItems}

/-! ## Uses of a list -/

/-- What is done with an attribute list, or with a copy of its items. A copy is kept under a name of
its own, and then anything is put in its place. -/
inductive ListUse where
  | append (element : Value)
  | extend (value : Value)
  | changeCopy (copied : String) (changed : Value)

namespace ListUse

def run (name : String) : ListUse → WorkspaceM Unit
  | .append element => do
    let _ ← Workspace.append name element
  | .extend value => do
    let _ ← Workspace.extend name value
  | .changeCopy copied changed => do
    let items ← copyOfItems name
    bindValue copied (.list none (items.map .beanAttribute))
    replace (← valueOf copied) changed

/-- The attributes that a use brings into the list. -/
def contribution : ListUse → AttributeItems
  | .append element => AttributeItems.leading [element]
  | .extend value => value.leadingAttributes
  | .changeCopy _ _ => []

/-- A use does not go through the list itself, and does not give its name to a copy. -/
def Spares (name : String) (identity : Nat) : ListUse → Prop
  | .append _ => True
  | .extend value => value.identity? ≠ some identity
  | .changeCopy copied _ => copied ≠ name

end ListUse

/-- The workspace after uses of a list, whether they succeeded or not. -/
def afterListUses (workspace : Workspace) (name : String) (uses : List ListUse) : Workspace :=
  uses.foldl (fun now use => (now.answer (use.run name)).2) workspace

/-- The object under the copy's name is another one. -/
theorem Stands.changeCopy
    (stands : workspace.Stands name identity (.attributeList stamp kept))
    {copied : String} (other : copied ≠ name) (changed : Value) :
    (workspace.answer ((ListUse.changeCopy copied changed).run name)).2.Stands name identity
      (.attributeList stamp kept) := by
  obtain ⟨seen, list, -, finds⟩ := stands.findsList
  -- The copy is kept under a new identity, so what is done with it does not reach the list.
  obtain ⟨between, new, className, binds, room, differs, named, still⟩ :=
    stands.exists_bindValue_list other.symm ((kept.map seen).map .beanAttribute)
  obtain ⟨depth, found⟩ := exists_answer_valueOf room named
  rw [ListUse.run, answer_bind_of_ok finds.copyOfItems, answer_bind_of_ok binds,
    answer_bind_of_ok found]
  exact still.setObject_of_ne differs changed

theorem answer_bind_unit_snd {α : Type} (operation : WorkspaceM α) :
    (workspace.answer (do let _ ← operation)).2 = (workspace.answer operation).2 := by
  cases run : workspace.answer operation with
  | mk result between =>
    cases result with
    | ok _ => rw [answer_bind_of_ok run, answer_pure]
    | error _ => rw [answer_bind_of_error run]

theorem Stands.listUse
    (stands : workspace.Stands name identity (.attributeList stamp kept))
    {use : ListUse} (spares : use.Spares name identity) :
    ∃ moreKept, List.Forall₂ Attribute.KeptAs use.contribution moreKept
      ∧ (workspace.answer (use.run name)).2.Stands name identity
        (.attributeList stamp (kept ++ moreKept)) := by
  cases use with
  | append element =>
    rw [ListUse.run, answer_bind_unit_snd]
    by_cases isAttribute : ∃ item, element = .beanAttribute item
    · obtain ⟨item, rfl⟩ := isAttribute
      obtain ⟨after, itemKept, appends, isKept, grown⟩ := stands.answer_append item
      rw [appends, reads_copyOfItems name after]
      exact ⟨[itemKept], .cons isKept .nil, grown⟩
    · -- What is no attribute is refused and leaves the list as it is.
      have other : ∀ item, element ≠ .beanAttribute item := not_exists.mp isAttribute
      rw [stands.answer_append_of_not_attribute other, ListUse.contribution,
        AttributeItems.leading_of_not_attribute other []]
      exact ⟨[], .nil, by rwa [List.append_nil]⟩
  | extend value =>
    obtain ⟨after, moreKept, grows, keptAs, grown⟩ := stands.answer_extend spares
    -- Whether it is refused or not, the list is left with the attributes that came first.
    have leaves : (workspace.answer (Workspace.extend name value)).2 = after := by
      rw [grows]
      cases value.extendFault? with
      | some fault => rfl
      | none => exact reads_copyOfItems name after
    rw [ListUse.run, answer_bind_unit_snd, leaves]
    exact ⟨moreKept, keptAs, grown⟩
  | changeCopy copied changed =>
    refine ⟨[], .nil, ?_⟩
    rw [List.append_nil]
    exact stands.changeCopy spares changed

theorem Stands.afterListUses
    (stands : workspace.Stands name identity (.attributeList stamp kept))
    {uses : List ListUse} (spares : ∀ use ∈ uses, use.Spares name identity) :
    ∃ moreKept, List.Forall₂ Attribute.KeptAs (uses.flatMap ListUse.contribution) moreKept
      ∧ (workspace.afterListUses name uses).Stands name identity
        (.attributeList stamp (kept ++ moreKept)) := by
  -- The rest of the uses start from what the first has kept, so the list is not fixed.
  induction uses generalizing workspace kept with
  | nil => exact ⟨[], .nil, by rwa [List.append_nil]⟩
  | cons use rest ih =>
    obtain ⟨here, later⟩ := List.forall_mem_cons.mp spares
    obtain ⟨first, firstKept, still⟩ := stands.listUse here
    obtain ⟨others, othersKept, last⟩ := ih still later
    refine ⟨first ++ others, ?_, ?_⟩
    · exact List.rel_append firstKept othersKept
    · rwa [← List.append_assoc]

theorem exists_stands_after_uses {start : Workspace} (orderly : start.Orderly) {name : String}
    {subclass? : Option Subclass} {arguments : List Value} {built : Value}
    (builds : Value.Constructible.attributeList.build subclass? arguments = .ok built)
    {uses : List ListUse} (spares : ∀ use ∈ uses, use.Spares name start.nextIdentity) :
    ∃ stamp kept, List.Forall₂ Attribute.KeptAs
        (arguments.flatMap Value.leadingAttributes ++ uses.flatMap ListUse.contribution) kept
      ∧ ((start.answer (bindValue name built)).2.afterListUses name uses).Stands name
        start.nextIdentity (.attributeList stamp kept) := by
  obtain rfl := eq_of_build builds
  obtain ⟨first, firstKept, stands⟩ := stands_bindValue_attributeList orderly name subclass?
    (arguments.flatMap Value.leadingAttributes)
  obtain ⟨more, moreKept, still⟩ := stands.afterListUses spares
  exact ⟨_, first ++ more, List.rel_append firstKept moreKept, still⟩

/-! ## Every look at the list -/

/-- All ways of looking at an attribute list agree on its items. Whether an application object is
equal to the list is for that object to say. -/
structure ShowsItems (workspace : Workspace) (name : String) (identity : Nat)
    (items : AttributeItems) (list : Value) : Prop where
  found : workspace.answer (valueOf name) = (.ok list, workspace)
  copied : workspace.answer (copyOfItems name) = (.ok items, workspace)
  iterated : list.iterate = .ok (items.map .beanAttribute)
  counted : list.length = .ok items.length
  compared : ∀ other, list.equal other = true
    ↔ Value.isSameObject identity other = true
      ∨ (∃ others, other.ListsAs others
        ∧ List.Forall₂ (fun item other => Value.sameAttribute item other = true) items others)
      ∨ Value.answers .whole other.opened.opened = true

theorem FindsList.showsItems {items : AttributeItems} {list : Value}
    (finds : workspace.FindsList name identity stamp items list) :
    workspace.ShowsItems name identity items list := by
  have copied := finds.copyOfItems
  obtain ⟨found, className, extra, rfl, -⟩ := finds
  exact ⟨found, copied, rfl, rfl, fun _ => Value.equal_attributeList_iff⟩

/-- The items that are found are those that were kept. -/
theorem foundAs_map {seen : Attribute Value → Attribute Value}
    (same : ∀ item, Value.identifyAttribute (seen item) = Value.identifyAttribute item)
    {given : AttributeItems} (keptAs : List.Forall₂ Attribute.KeptAs given kept) :
    List.Forall₂ Attribute.FoundAs given (kept.map seen) := by
  refine List.forall₂_map_right_iff.mpr (keptAs.imp fun item itemKept isKept => ?_)
  obtain ⟨next, rfl⟩ := isKept
  exact ⟨_, ⟨next, rfl⟩, (same _).trans (Value.isKept_identifyAttribute item next)⟩

/-- A name that is a text is found as it was given. -/
theorem name_eq_of_foundAs {given found : Attribute Value} {s : String}
    (foundAs : given.FoundAs found) (isText : given.name = .text s) : found.name = .text s := by
  obtain ⟨kept, ⟨next, rfl⟩, same⟩ := foundAs
  obtain ⟨stamp, name, value⟩ := given
  obtain ⟨foundStamp, foundName, foundValue⟩ := found
  obtain rfl : name = .text s := isText
  have names : (foundName.identify.run ((Value.stampOf foundStamp).run 0).2).1 = .text s :=
    congrArg (fun run => Attribute.name (Prod.fst run)) (congrFun same 0)
  exact (Value.eq_of_identify_isSimple (by rw [names]; trivial)).symm.trans names

theorem names_of_foundAs {given found : AttributeItems}
    (foundAs : List.Forall₂ Attribute.FoundAs given found)
    (texts : ∀ item ∈ given, ∃ s, item.name = .text s) :
    found.map Attribute.name = given.map Attribute.name := by
  induction foundAs with
  | nil => rfl
  | cons first rest ih =>
    obtain ⟨⟨s, isText⟩, others⟩ := List.forall_mem_cons.mp texts
    rw [List.map_cons, List.map_cons, name_eq_of_foundAs first isText, isText, ih others]

/-- After any uses of a list that was built from a value, all ways of looking at it agree: it holds
the attributes of that value and what the uses have brought in, in order. Appending fails just for
what is no attribute, and then nothing has happened; extending by another value fails just where
that cannot be gone through or has an element that is no attribute. -/
theorem list_after_uses {start : Workspace} (orderly : start.Orderly) {name : String}
    {subclass? : Option Subclass} {arguments : List Value} {built : Value}
    (builds : Value.Constructible.attributeList.build subclass? arguments = .ok built)
    {uses : List ListUse} (spares : ∀ use ∈ uses, use.Spares name start.nextIdentity) :
    let reached := (start.answer (bindValue name built)).2.afterListUses name uses
    ∃ items list, reached.ShowsItems name start.nextIdentity items list
      ∧ List.Forall₂ Attribute.FoundAs
        (arguments.flatMap Value.leadingAttributes ++ uses.flatMap ListUse.contribution) items
      ∧ (∀ element fault, (reached.answer (append name element)).1 = .error fault
        ↔ (∀ item, element ≠ .beanAttribute item)
          ∧ fault = .shape (.notAnAttribute element.className))
      ∧ (∀ element fault, (reached.answer (append name element)).1 = .error fault →
        (reached.answer (append name element)).2 = reached)
      ∧ ∀ value, value.identity? ≠ some start.nextIdentity →
        (∀ fault, (reached.answer (extend name value)).1 = .error fault
          ↔ value.extendFault? = some fault)
        ∧ ((∃ fault, (reached.answer (extend name value)).1 = .error fault ∧ fault.kind = .type)
          ↔ (∃ owner, value.iterate = .error (.shape (.notIterable owner)))
            ∨ ∃ values, value.iterate = .ok values
              ∧ ∃ element ∈ values, ∀ item, element ≠ .beanAttribute item) := by
  intro reached
  obtain ⟨stamp, kept, keptAs, (stands : reached.Stands _ _ _)⟩ :=
    exists_stands_after_uses orderly builds spares
  obtain ⟨seen, list, same, finds⟩ := stands.findsList
  refine ⟨_, list, finds.showsItems, foundAs_map same keptAs,
    fun element fault => stands.append_eq_error_iff, ?_, fun value other =>
    ⟨fun fault => stands.extend_eq_error_iff other, ?_⟩⟩
  · intro element fault refused
    rw [stands.answer_append_of_not_attribute (stands.append_eq_error_iff.mp refused).1]
  · simp only [stands.extend_eq_error_iff other, Value.extendFault?_type_iff]

/-- What is no attribute is refused, by itself or behind an attribute, and a copy is thrown away. -/
theorem list_after_uses_partly_refused :
    let item : String → Attribute Value := fun name => ⟨.fresh none, .text name, .null⟩
    let built : Value := .attributeList (.fresh none) [item "a"]
    let uses : List ListUse := [.append .null, .append (.beanAttribute (item "b")),
      .extend (.tuple none [.beanAttribute (item "c"), .int 5, .beanAttribute (item "d")]),
      .changeCopy "copy" .null, .extend .null]
    let reached := ((fresh 10).answer (bindValue "list" built)).2.afterListUses "list" uses
    ∃ items list, reached.ShowsItems "list" 3 items list
      ∧ items.map Attribute.name = [.text "a", .text "b", .text "c"]
      ∧ (reached.answer (append "list" .null)).1
        = .error (.shape (.notAnAttribute "NoneType")) := by
  intro item built uses reached
  have builds : Value.Constructible.attributeList.build none
      [.list none [.beanAttribute (item "a")]] = .ok built := rfl
  have spares : ∀ use ∈ uses, use.Spares "list" (fresh 10).nextIdentity := by
    simp [uses, ListUse.Spares, Value.identity?]
  obtain ⟨items, list, shows', foundAs, refuses, -, -⟩ :=
    list_after_uses (orderly_fresh 10) builds spares
  refine ⟨items, list, shows', ?_, (refuses .null _).mpr ⟨nofun, rfl⟩⟩
  have given : List.Forall₂ Attribute.FoundAs [item "a", item "b", item "c"] items := foundAs
  rw [names_of_foundAs given (by simp [item])]
  rfl

/-- Going through another value with attributes comes to its end, and the list holds them behind
those that it held before. Going through the list itself comes to an end only when there is nothing
in it, because every element that is read puts one more behind the last. -/
theorem extend_ends {start : Workspace} (orderly : start.Orderly) {name : String}
    {subclass? : Option Subclass} {arguments : List Value} {built : Value}
    (builds : Value.Constructible.attributeList.build subclass? arguments = .ok built)
    {uses : List ListUse} (spares : ∀ use ∈ uses, use.Spares name start.nextIdentity) :
    let reached := (start.answer (bindValue name built)).2.afterListUses name uses
    ∃ items list, reached.ShowsItems name start.nextIdentity items list
      ∧ List.Forall₂ Attribute.FoundAs
        (arguments.flatMap Value.leadingAttributes ++ uses.flatMap ListUse.contribution) items
      ∧ (∀ value elements, value.iterate = .ok (elements.map .beanAttribute) →
        value.identity? ≠ some start.nextIdentity →
          AttributeItems.Ends (.fixed (elements.map .beanAttribute)) ⟨items, 0⟩
            (items ++ elements, none)
          ∧ ∃ longer listAfter after, reached.answer (extend name value) = (.ok longer, after)
            ∧ after.ShowsItems name start.nextIdentity longer listAfter
            ∧ List.Forall₂ Attribute.FoundAs (items ++ elements) longer)
      ∧ ((∃ outcome, AttributeItems.Ends .itself ⟨items, 0⟩ outcome) ↔ items = [])
      ∧ (reached.answer (extend name list)).1
        = if items = [] then .ok [] else .error .endless := by
  intro reached
  obtain ⟨stamp, kept, keptAs, (stands : reached.Stands _ _ _)⟩ :=
    exists_stands_after_uses orderly builds spares
  obtain ⟨seen, list, same, finds⟩ := stands.findsList
  refine ⟨_, list, finds.showsItems, foundAs_map same keptAs,
    fun value elements iterates other => ⟨?_, ?_⟩, ?_, stands.answer_extend_itself same finds⟩
  · exact AttributeItems.ends_fixed_attributes _ elements
  · obtain ⟨after, moreKept, grows, moreKeptAs, grown⟩ := stands.answer_extend other
    rw [Value.extendFault?_eq_none_iff.mpr ⟨elements, iterates⟩] at grows
    rw [Value.leadingAttributes_of_iterate iterates] at moreKeptAs
    obtain ⟨seenAfter, listAfter, sameAfter, findsAfter⟩ := grown.findsList
    have older := keptAs_identifyAttributes (kept.map seen) 0
    rw [stands.identify_seen same] at older
    exact ⟨_, listAfter, after, grows.trans findsAfter.copyOfItems, findsAfter.showsItems,
      foundAs_map sameAfter (List.rel_append older moreKeptAs)⟩
  · simp only [AttributeItems.ends_itself_iff, exists_and_left, exists_eq, and_true]

/-- A list with one attribute is extended by a tuple with another, and not by itself. -/
theorem extend_ends_tuple :
    let item : String → Attribute Value := fun name => ⟨.fresh none, .text name, .null⟩
    let built : Value := .attributeList (.fresh none) [item "a"]
    let reached := ((fresh 10).answer (bindValue "list" built)).2.afterListUses "list" []
    ∃ list longer after, reached.answer (valueOf "list") = (.ok list, reached)
      ∧ reached.answer (extend "list" (.tuple none [.beanAttribute (item "b")]))
        = (.ok longer, after)
      ∧ longer.map Attribute.name = [.text "a", .text "b"]
      ∧ (reached.answer (extend "list" list)).1 = .error .endless := by
  intro item built reached
  have builds : Value.Constructible.attributeList.build none
      [.list none [.beanAttribute (item "a")]] = .ok built := rfl
  have spares : ∀ use ∈ ([] : List ListUse), use.Spares "list" (fresh 10).nextIdentity := nofun
  obtain ⟨items, list, shows', foundAs, others, -, itself⟩ :=
    extend_ends (orderly_fresh 10) builds spares
  obtain ⟨-, longer, listAfter, after, grows, -, longerAs⟩ :=
    others (.tuple none [.beanAttribute (item "b")]) [item "b"] rfl nofun
  have given : List.Forall₂ Attribute.FoundAs [item "a"] items := foundAs
  obtain ⟨first, rfl, named⟩ :=
    List.map_eq_singleton_iff.mp (names_of_foundAs given (by simp [item]))
  refine ⟨list, longer, after, shows'.found, grows, ?_, itself⟩
  rw [names_of_foundAs longerAs (by simp [item, named]), List.map_append, List.map_singleton, named]
  rfl

/-- A list with one attribute goes on growing when it is extended by itself. -/
theorem extend_itself_endless :
    let item : Attribute Value := ⟨.fresh none, .text "a", .null⟩
    (¬ ∃ outcome, AttributeItems.Ends .itself ⟨[item], 0⟩ outcome)
      ∧ ((fresh 10).answer do
          bindValue "list" (.attributeList (.fresh none) [item])
          extend "list" (← valueOf "list")).1 = .error .endless := by
  intro item
  refine ⟨fun ⟨outcome, ends⟩ => ?_, rfl⟩
  exact AttributeItems.not_ends_itself (Nat.zero_lt_one) ends

end Workspace
end BrokerMaps
