import BrokerMaps.Proofs.Outcome
import BrokerMaps.Proofs.Value.KeyForms
import Mathlib.Data.List.Nodup

/-!
# Digests of equal keys

Two mechanisms decide which values are one key: they are compared, and they are digested. They go
together when equal keys have equal digests, whatever the scheme of the digests is, as long as it
digests an unordered collection without regard to order.

## Main results

* `Value.digest_eq_of_same`: keys that are the same have the same digest.
* `Value.Settled.isKey_of_digest`: what has a digest is a key.
* `Value.digest_beanName_eq_error_iff`: a name fails like the first value in it that has none.

## Proof strategy

Keys are the same exactly when their forms are equal (`Value.same_iff_keyForm`), so the digest only
has to depend on the form. That is an induction over the first key, in which the form of the second
says what it is. The components of a name are a list whose order the form does not know: they are
compared as the set of their names and digests, which has every name once.
-/
namespace BrokerMaps.Value

open Outcome (Fails bind_eq_error_iff)

variable {δ : Type} {scheme : DigestScheme δ} {objects : Nat → Value}

/-! ## Traversals -/

theorem digestAll_cons (item : Value) (rest : List Value) :
    digestAll scheme (item :: rest) =
      (do
        let first ← digest scheme item
        let others ← digestAll scheme rest
        return first :: others) := rfl

theorem digestAll_eq_mapM (items : List Value) :
    digestAll scheme items = items.mapM (digest scheme) := by
  induction items with
  | nil => rfl
  | cons item rest ih => rw [digestAll_cons, ih, List.mapM_cons]

/-- The digest of a component: a sequence of its name and its value. -/
def componentDigest (scheme : DigestScheme δ) (named : String × Except Fault δ) : Except Fault δ :=
  named.2.map fun value => scheme.sequence [scheme.leaf (.text named.1), value]

theorem digestComponents_eq_mapM (components : List (String × Value)) :
    digestComponents scheme components =
      (components.map fun component => (component.1, digest scheme component.2)).mapM
        (componentDigest scheme) := by
  induction components with
  | nil => rfl
  | cons component rest ih =>
    obtain ⟨key, value⟩ := component
    have unfolded : digestComponents scheme ((key, value) :: rest) =
        (do
          let value ← digest scheme value
          let others ← digestComponents scheme rest
          return scheme.sequence [scheme.leaf (.text key), value] :: others) := rfl
    rw [unfolded, ih, List.map_cons, List.mapM_cons, componentDigest]
    cases digest scheme value <;> rfl

theorem digest_opened (value : Value) : digest scheme value.opened = digest scheme value := by
  cases value <;> rfl

theorem fails_digestAll_iff {items : List Value} :
    Fails (digestAll scheme items) ↔ ∃ item ∈ items, Fails (digest scheme item) := by
  rw [digestAll_eq_mapM, Outcome.fails_mapM_iff]

theorem fails_digestComponents_iff {components : List (String × Value)} :
    Fails (digestComponents scheme components) ↔
      ∃ component ∈ components, Fails (digest scheme component.2) := by
  simp [digestComponents_eq_mapM, Outcome.fails_mapM_iff, componentDigest]

/-! ## Records -/

theorem digest_tuple (identity? : Option Nat) (items : List Value) :
    digest scheme (.tuple identity? items) = (digestAll scheme items).map scheme.sequence := by
  change (digestAll scheme items >>= fun digests => pure (scheme.sequence digests)) = _
  cases digestAll scheme items <;> rfl

theorem digest_destination (stamp : Stamp) (kind : DestinationKind) (physicalName : Value) :
    digest scheme (.destination stamp kind physicalName) =
      (digest scheme physicalName).map fun inner => scheme.sequence [inner] := by
  change (digest scheme physicalName >>= fun inner => pure (scheme.sequence [inner])) = _
  cases digest scheme physicalName <;> rfl

theorem digest_beanName (stamp : Stamp) (name : BeanName Value) :
    digest scheme (.beanName stamp name) =
      (do
        let digests ← digestComponents scheme name.components
        let domain ← digest scheme name.domain
        return scheme.sequence [domain, scheme.collection digests]) := rfl

theorem digest_beanInstance (stamp : Stamp) (bean : BeanInstance Value) :
    digest scheme (.beanInstance stamp bean) =
      (do
        let identity ← digest scheme bean.beanName
        let reported ← digest scheme bean.className
        return scheme.sequence [identity, reported]) := rfl

theorem digest_beanAttribute (item : Attribute Value) :
    digest scheme (.beanAttribute item) =
      (do
        let name ← digest scheme item.name
        let value ← digest scheme item.value
        return scheme.sequence [name, value]) := rfl

theorem fails_digest_tuple_iff {identity? : Option Nat} {items : List Value} :
    Fails (digest scheme (.tuple identity? items)) ↔
      ∃ item ∈ items, Fails (digest scheme item) := by
  rw [digest_tuple, Outcome.fails_map_iff, fails_digestAll_iff]

theorem fails_digest_destination_iff {stamp : Stamp} {kind : DestinationKind}
    {physicalName : Value} :
    Fails (digest scheme (.destination stamp kind physicalName)) ↔
      Fails (digest scheme physicalName) := by
  rw [digest_destination, Outcome.fails_map_iff]

/-- Two digests that are put together can be had when both of them can. -/
theorem fails_both_iff {α β γ : Type} {first : Except Fault α} {second : Except Fault β}
    {combine : α → β → γ} :
    Fails (do
        let a ← first
        let b ← second
        return combine a b) ↔ Fails first ∨ Fails second := by
  cases first with
  | error fault => simp
  | ok a => cases second <;> simp [pure, Except.pure]

/-- A name has a digest when its domain and the values of all its components do. -/
theorem fails_digest_beanName_iff {stamp : Stamp} {name : BeanName Value} :
    Fails (digest scheme (.beanName stamp name)) ↔
      Fails (digest scheme name.domain)
        ∨ ∃ component ∈ name.components, Fails (digest scheme component.2) := by
  rw [digest_beanName, fails_both_iff, fails_digestComponents_iff, or_comm]

theorem fails_digest_beanInstance_iff {stamp : Stamp} {bean : BeanInstance Value} :
    Fails (digest scheme (.beanInstance stamp bean)) ↔
      Fails (digest scheme bean.beanName) ∨ Fails (digest scheme bean.className) := by
  rw [digest_beanInstance, fails_both_iff]

theorem fails_digest_beanAttribute_iff {item : Attribute Value} :
    Fails (digest scheme (.beanAttribute item)) ↔
      Fails (digest scheme item.name) ∨ Fails (digest scheme item.value) := by
  rw [digest_beanAttribute, fails_both_iff]

/-! ## Values that can be looked into -/

/-- A value of a class whose values can change. -/
def CanChange : Value → Prop
  | .list _ _ | .table _ _ | .attributeList _ _ | .message _ _ | .buffer .byteArray _ => True
  | _ => False

/-- What can change has no digest. Neither has a view that can change what it views or that reads it
in larger items, and an application object may refuse to be digested. It is still compared, so it
has an answer for everything. -/
inductive IsUnhashable : Value → Prop where
  | changing {value : Value} (changes : value.CanChange) : IsUnhashable value
  | view {form : ViewForm} {fault : ShapeFault}
    (refused : (BufferKind.view form).digestFault? = some fault) (bytes : List UInt8) :
    IsUnhashable (.buffer (.view form) bytes)
  | object {held : AppObject} (refused : Fails held.digestLeaf)
    (compared : ∀ leaf, ¬ Fails (held.equality leaf)) : IsUnhashable (.object held)

theorem digest_of_canChange {value : Value} (changes : value.opened.CanChange) :
    digest scheme value = unhashable value.opened := by
  rw [← digest_opened]
  generalize value.opened = content at changes ⊢
  cases content with
  | buffer kind bytes =>
    cases kind with
    | byteArray => rfl
    | bytes | view => cases changes
  | list | table | attributeList | message => rfl
  | _ => cases changes

theorem IsUnhashable.fails_digest {value : Value} (unhashable : value.opened.IsUnhashable) :
    Fails (digest scheme value) := by
  rw [← digest_opened]
  generalize value.opened = content at unhashable ⊢
  cases unhashable with
  | changing changes =>
    have noShared : content.opened = content := by cases content <;> first | rfl | cases changes
    rw [digest_of_canChange (noShared.symm ▸ changes)]
    exact Outcome.fails_error _
  | view refused bytes => simp [digest, refused]
  | object refused compared => simpa [digest] using refused

/-- A value that has been read down to its leaves: a key, something that can change, or a record of
such values. -/
inductive Settled (objects : Nat → Value) : Value → Prop where
  | key {value : Value} (isKey : IsKey objects value) : Settled objects value
  | unhashable {value : Value} (refused : value.opened.IsUnhashable) : Settled objects value
  | tuple (identity? : Option Nat) {items : List Value}
    (each : ∀ item ∈ items, Settled objects item) : Settled objects (.tuple identity? items)
  | destination (stamp : Stamp) (kind : DestinationKind) {physicalName : Value}
    (inner : Settled objects physicalName) :
    Settled objects (.destination stamp kind physicalName)
  | beanName (stamp : Stamp) {domain : Value} {components : List (String × Value)}
    (first : Settled objects domain) (nodup : (components.map (·.1)).Nodup)
    (each : ∀ component ∈ components, Settled objects component.2) :
    Settled objects (.beanName stamp ⟨domain, components⟩)
  | beanInstance (stamp : Stamp) {identity reported : Value} (first : Settled objects identity)
    (second : Settled objects reported) :
    Settled objects (.beanInstance stamp ⟨identity, reported⟩)
  | beanAttribute (stamp : Stamp) {name value : Value} (first : Settled objects name)
    (second : Settled objects value) : Settled objects (.beanAttribute ⟨stamp, name, value⟩)

/-- Every key has a digest. -/
theorem IsKey.not_fails_digest (scheme : DigestScheme δ) {value : Value}
    (isKey : IsKey objects value) : ¬ Fails (digest scheme value) := by
  induction isKey with
  -- A key has a digest of its own, or one that is made of those of its parts.
  | buffer fixed bytes => simp [digest, fixed]
  | object consistent => simp [digest, consistent.digest]
  | tuple identity? _ ih =>
    rw [fails_digest_tuple_iff]
    rintro ⟨item, member, fails⟩
    exact ih item member fails
  | destination stamp kind _ ih => rwa [fails_digest_destination_iff]
  | beanName stamp _ _ _ first each =>
    rw [fails_digest_beanName_iff]
    rintro (fails | ⟨component, member, fails⟩)
    · exact first fails
    · exact each component member fails
  | beanInstance stamp _ _ first second =>
    rw [fails_digest_beanInstance_iff, not_or]
    exact ⟨first, second⟩
  | beanAttribute stamp _ _ first second =>
    rw [fails_digest_beanAttribute_iff, not_or]
    exact ⟨first, second⟩
  | sharedMode className extra opened _ | sharedSized className extra opened _ =>
    rw [← digest_opened, Value.opened, opened]
    exact Outcome.not_fails_ok _
  | sharedObject className extra consistent opened _ =>
    rw [← digest_opened, Value.opened, opened]
    simp [digest, consistent.digest]
  | _ => exact Outcome.not_fails_ok _

/-- What has a digest is a key. -/
theorem Settled.isKey_of_digest {value : Value} (settled : Settled objects value)
    (digests : ¬ Fails (digest scheme value)) : IsKey objects value := by
  induction settled with
  | key isKey => exact isKey
  -- This is the only case that has no digest; elsewhere it is a matter of the parts.
  | unhashable refused => exact absurd refused.fails_digest digests
  | tuple identity? _ ih =>
    rw [fails_digest_tuple_iff] at digests
    push Not at digests
    exact .tuple identity? fun item member => ih item member (digests item member)
  | destination stamp kind _ ih =>
    rw [fails_digest_destination_iff] at digests
    exact .destination stamp kind (ih digests)
  | beanName stamp _ nodup _ first each =>
    rw [fails_digest_beanName_iff] at digests
    push Not at digests
    exact .beanName stamp (first digests.1) nodup
      fun component member => each component member (digests.2 component member)
  | beanInstance stamp _ _ first second =>
    rw [fails_digest_beanInstance_iff, not_or] at digests
    exact .beanInstance stamp (first digests.1) (second digests.2)
  | beanAttribute stamp _ _ first second =>
    rw [fails_digest_beanAttribute_iff, not_or] at digests
    exact .beanAttribute stamp (first digests.1) (second digests.2)

theorem digestComponents_eq_error_iff {components : List (String × Value)} {fault : Fault} :
    digestComponents scheme components = .error fault ↔
      (components.map (·.2)).mapM (digest scheme) = .error fault := by
  rw [digestComponents_eq_mapM]
  induction components with
  | nil => simp [pure, Except.pure]
  | cons component rest ih =>
    simp only [List.map_cons, List.mapM_cons, componentDigest]
    cases digest scheme component.2 with
    | error refused => rfl
    | ok found => simpa [bind_eq_error_iff, pure, Except.pure] using ih

/-- A name without a digest fails like the first value in it that has none. The values of its
components come before its domain. -/
theorem digest_beanName_eq_error_iff {stamp : Stamp} {name : BeanName Value} {fault : Fault} :
    digest scheme (.beanName stamp name) = .error fault ↔
      (name.components.map (·.2) ++ [name.domain]).mapM (digest scheme) = .error fault := by
  rw [digest_beanName, List.mapM_append]
  cases digests : digestComponents scheme name.components with
  | error refused =>
    rw [digestComponents_eq_error_iff] at digests
    simp [digests]
  | ok found =>
    obtain ⟨values, traversed⟩ :
        ∃ values, (name.components.map (·.2)).mapM (digest scheme) = .ok values := by
      rw [← Outcome.not_fails_iff]
      rintro ⟨refused, fails⟩
      rw [← digestComponents_eq_error_iff, digests] at fails
      cases fails
    rw [traversed]
    cases domain : digest scheme name.domain <;> simp [domain, pure, Except.pure]

/-! ## Keys of one form -/

theorem digest_of_leaf {value : Value} {leaf : Leaf} (isKey : IsKey objects value)
    (form : value.keyForm = .leaf leaf) : digest scheme value = .ok (scheme.leaf leaf) := by
  cases isKey with
  | buffer fixed bytes =>
    cases form
    simp [digest, fixed]
  | object consistent =>
    cases form
    simp [digest, consistent.digest]
  -- A shared key is digested as what it holds.
  | sharedObject className extra consistent opened _ =>
    rw [← digest_opened, Value.opened, opened]
    rw [keyForm, opened] at form
    cases form
    simp [digest, consistent.digest]
  | sharedMode className extra opened _ | sharedSized className extra opened _ =>
    rw [← digest_opened, Value.opened, opened]
    rw [keyForm, opened] at form
    cases form
    all_goals rfl
  | _ =>
    cases form
    all_goals rfl

/-- A sized body is digested as the object that it is. -/
theorem digest_of_sized {value : Value} {serial : Nat} (isKey : IsKey objects value)
    (form : value.keyForm = .sized serial) :
    digest scheme value = .ok (scheme.leaf (.identity (some serial))) := by
  cases isKey with
  | sharedMode className extra opened _ | sharedObject className extra _ opened _
  | sharedSized className extra opened _ =>
    rw [← digest_opened, Value.opened, opened]
    rw [keyForm, opened] at form
    cases form
    all_goals rfl
  | _ =>
    cases form
    all_goals rfl

theorem digestAll_congr {items others : List Value} (forms : keyForms items = keyForms others)
    (each : ∀ item ∈ items, ∀ other ∈ others, item.keyForm = other.keyForm →
      digest scheme item = digest scheme other) :
    digestAll scheme items = digestAll scheme others := by
  induction items generalizing others with
  | nil =>
    cases others with
    | nil => rfl
    | cons other more => cases forms
  | cons item rest ih =>
    cases others with
    | nil => cases forms
    | cons other more =>
      obtain ⟨here, later⟩ := List.cons.inj forms
      have first := each item List.mem_cons_self other List.mem_cons_self here
      have others := ih later fun i inRest o inMore =>
        each i (List.mem_cons_of_mem _ inRest) o (List.mem_cons_of_mem _ inMore)
      rw [digestAll_cons, digestAll_cons, first, others]

/-- A component is digested like the one that has its form under its name. -/
theorem mem_componentDigests {components others : List (String × Value)}
    (nodup : (components.map (·.1)).Nodup) (distinct : (others.map (·.1)).Nodup)
    (forms : componentForm? components = componentForm? others)
    (each : ∀ component ∈ components, ∀ other ∈ others,
      component.2.keyForm = other.2.keyForm →
        digest scheme component.2 = digest scheme other.2)
    {named : String × Except Fault δ}
    (listed : named ∈ components.map fun component => (component.1, digest scheme component.2)) :
    named ∈ others.map fun other => (other.1, digest scheme other.2) := by
  obtain ⟨component, member, rfl⟩ := List.mem_map.mp listed
  have known : componentForm? others component.1 = some component.2.keyForm := by
    rw [← forms, componentForm?_eq_some_iff nodup]
    exact ⟨component, member, rfl, rfl⟩
  obtain ⟨other, among, sameName, sameForm⟩ := (componentForm?_eq_some_iff distinct).mp known
  rw [sameName, each component member other among sameForm.symm]
  exact List.mem_map_of_mem among

/-- The names of components with the digests of their values do not depend on their order. -/
theorem perm_componentDigests {components others : List (String × Value)}
    (nodup : (components.map (·.1)).Nodup) (distinct : (others.map (·.1)).Nodup)
    (forms : componentForm? components = componentForm? others)
    (each : ∀ component ∈ components, ∀ other ∈ others,
      component.2.keyForm = other.2.keyForm →
        digest scheme component.2 = digest scheme other.2) :
    (components.map fun component => (component.1, digest scheme component.2)).Perm
      (others.map fun other => (other.1, digest scheme other.2)) := by
  have nodupOf : ∀ {list : List (String × Value)}, (list.map (·.1)).Nodup →
      (list.map fun component => (component.1, digest scheme component.2)).Nodup := by
    intro list names
    apply List.Nodup.of_map Prod.fst
    rwa [List.map_map]
  -- Nothing is listed twice on either side, so it is enough that the same is listed on both.
  rw [List.perm_ext_iff_of_nodup (nodupOf nodup) (nodupOf distinct)]
  intro named
  constructor
  · exact mem_componentDigests nodup distinct forms each
  · apply mem_componentDigests distinct nodup forms.symm
    intro other among component member sameForm
    exact (each component member other among sameForm.symm).symm

/-- Components in another order are digested to the same collection. -/
theorem digest_beanName_congr {stamp stamp2 : Stamp} {domain domain2 : Value}
    {components components2 : List (String × Value)}
    (domains : digest scheme domain = digest scheme domain2)
    (order : (components.map fun component => (component.1, digest scheme component.2)).Perm
      (components2.map fun component => (component.1, digest scheme component.2)))
    (digests : ¬ Fails (digestComponents scheme components)) :
    digest scheme (.beanName stamp ⟨domain, components⟩) =
      digest scheme (.beanName stamp2 ⟨domain2, components2⟩) := by
  obtain ⟨found, traversed⟩ := Outcome.not_fails_iff.mp digests
  rw [digestComponents_eq_mapM] at traversed
  obtain ⟨others, reordered, same⟩ := Outcome.mapM_perm order traversed
  rw [digest_beanName, digest_beanName, digestComponents_eq_mapM, digestComponents_eq_mapM,
    traversed, reordered, domains]
  simp only [Outcome.ok_bind, scheme.collection_perm same]

/-- The digest of a key is told from its form. -/
theorem digest_eq_of_keyForm {a b : Value} (isKey : IsKey objects a) (other : IsKey objects b)
    (forms : a.keyForm = b.keyForm) : digest scheme a = digest scheme b := by
  -- Induction on the first key. Its form says of what kind the second one is, and that the parts of
  -- the two have equal forms.
  induction isKey generalizing b with
  | null | bool | int | float | text | buffer | mode | object =>
    rw [digest_of_leaf other forms.symm]
    exact digest_of_leaf (show IsKey objects _ by constructor <;> assumption) rfl
  | tuple identity? each ih =>
    cases other with
    | tuple second? keys =>
      rw [digest_tuple, digest_tuple]
      congr 1
      apply digestAll_congr (KeyForm.tuple.inj forms)
      intro item member other among
      exact ih item member (keys other among)
    | _ => simp [keyForm, *] at forms
  | destination stamp kind inner ih =>
    cases other with
    | destination stamp2 kind2 inner2 =>
      obtain ⟨-, -, same⟩ := KeyForm.destination.inj forms
      rw [digest_destination, digest_destination, ih inner2 same]
    | _ => simp [keyForm, *] at forms
  | beanName stamp first nodup each ihFirst ihEach =>
    cases other with
    | beanName stamp2 first2 nodup2 each2 =>
      obtain ⟨-, domains, components⟩ := KeyForm.beanName.inj forms
      apply digest_beanName_congr (ihFirst first2 domains)
      · apply perm_componentDigests nodup nodup2 components
        intro component member other among
        exact ihEach component member (each2 other among)
      · rw [fails_digestComponents_iff]
        rintro ⟨component, member, fails⟩
        exact (each component member).not_fails_digest scheme fails
    | _ => simp [keyForm, *] at forms
  | beanInstance stamp first second ihFirst ihSecond =>
    cases other with
    | beanInstance stamp2 first2 second2 =>
      obtain ⟨-, identities, classes⟩ := KeyForm.beanInstance.inj forms
      rw [digest_beanInstance, digest_beanInstance, ihFirst first2 identities,
        ihSecond second2 classes]
    | _ => simp [keyForm, *] at forms
  | beanAttribute stamp first second ihFirst ihSecond =>
    cases other with
    | beanAttribute stamp2 first2 second2 =>
      obtain ⟨-, names, values⟩ := KeyForm.beanAttribute.inj forms
      rw [digest_beanAttribute, digest_beanAttribute, ihFirst first2 names,
        ihSecond second2 values]
    | _ => simp [keyForm, *] at forms
  | sized serial size =>
    rw [digest_of_sized other forms.symm]
    rfl
  | sharedMode className extra opened current =>
    rw [keyForm, opened, keyForm] at forms
    rw [← digest_opened, Value.opened, opened, digest_of_leaf other forms.symm]
    rfl
  | sharedObject className extra consistent opened current =>
    rw [keyForm, opened] at forms
    rw [← digest_opened, Value.opened, opened, digest_of_leaf other forms.symm]
    have isObject : IsKey objects _ := .object consistent
    exact digest_of_leaf isObject rfl
  | sharedSized className extra opened current =>
    rw [keyForm, opened, keyForm] at forms
    rw [← digest_opened, Value.opened, opened, digest_of_sized other forms.symm]
    rfl

/-- Keys that are the same have the same digest. -/
theorem digest_eq_of_same (scheme : DigestScheme δ) {a b : Value} (isKey : IsKey objects a)
    (other : IsKey objects b) (same : a.same b = true) : digest scheme a = digest scheme b :=
  digest_eq_of_keyForm isKey other ((same_iff_keyForm isKey other).mp same)

end BrokerMaps.Value
