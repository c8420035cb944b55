import BrokerMaps.Proofs.Value.FiledTables

/-!
# Equality and digests of bean identities

Names of beans are compared without regard to the order of their components and digested the same
way, and so are the records that hold names. They can therefore be keys: of those that are equal, a
table keeps one.

## Main result

`BeanName.equal_and_digest`: two names are equal when they are of one class, have the same domain
and the same components; a name has a digest when its domain and all values do, and is refused like
the first of them that has none; equal records have equal digests; and a table that is searched by
digest has one entry for each class of equal records.

## Proof strategy

Comparing looks up every component of the first name in the second. The components are then the
same, as they are equally many and no name comes up twice. The rest is what is known of keys: a
record that has a digest is a key, equal keys have one digest, and a table of keys is the same
whether or not it is searched by digest.
-/
namespace BrokerMaps

open Value (IsKey SameComponents Settled sameComponents_iff)

/-- Names of beans, and the records that wrap them. -/
inductive Value.IsBeanRecord : Value → Prop where
  | name (stamp : Stamp) (name : BeanName Value) : IsBeanRecord (.beanName stamp name)
  | bean (stamp : Stamp) (bean : BeanInstance Value) : IsBeanRecord (.beanInstance stamp bean)
  | attribute (item : Attribute Value) : IsBeanRecord (.beanAttribute item)

/-- Records are not numbers, so it makes no difference to them whether they stand in a container. -/
theorem Value.IsBeanRecord.equal_eq_same {a : Value} (record : a.IsBeanRecord) (b : Value) :
    a.equal b = a.same b := by
  cases record <;> rfl

namespace BeanName

theorem equal_beanName_iff {stamp other : Stamp} {name second : BeanName Value}
    (nodup : (name.components.map (·.1)).Nodup) (distinct : (second.components.map (·.1)).Nodup) :
    (Value.beanName stamp name).equal (.beanName other second) = true ↔
      stamp.subclass? = other.subclass? ∧ name.domain.same second.domain = true
        ∧ SameComponents name.components second.components := by
  obtain ⟨domain, components⟩ := name
  obtain ⟨domain2, components2⟩ := second
  rw [← sameComponents_iff nodup distinct]
  rw [(Value.IsBeanRecord.name stamp _).equal_eq_same]
  simp only [Value.same, Bool.and_eq_true, decide_eq_true_eq, and_assoc]

theorem nodup_of_settled {objects : Nat → Value} {stamp : Stamp} {name : BeanName Value}
    (settled : Settled objects (.beanName stamp name)) : (name.components.map (·.1)).Nodup := by
  cases settled with
  | key isKey =>
    cases isKey with
    | beanName _ _ nodup _ => exact nodup
  | unhashable refused =>
    cases refused with
    | changing changes => cases changes
  | beanName _ _ nodup _ => exact nodup

end BeanName

/-! ## Keys of a table -/

namespace Table

/-- Of records that are equal a table has one. -/
theorem fileAll_records {δ : Type} [DecidableEq δ] (scheme : DigestScheme δ)
    {objects : Nat → Value} {entries : Table} (records : ∀ entry ∈ entries, entry.1.IsBeanRecord)
    (keys : Keyed (IsKey objects) entries) :
    ∃ filed, fileAll scheme [] entries = .ok filed
      ∧ filed.map FiledEntry.entry = insertAll [] entries
      ∧ (∀ held ∈ filed, ∃ entry ∈ entries, entry.1 = held.key)
      ∧ ∀ entry ∈ entries, filed.countP (fun held => held.key.equal entry.1) = 1 := by
  -- Without a look at digests it is a table of keys, of which it is known what setting them does.
  have told := Value.toldBy_keyForm objects
  have empty : Filed scheme objects [] := List.forall_mem_nil _
  obtain ⟨filed, set, same⟩ := fileAll_eq_ok empty keys
  rw [List.map_nil] at same
  have among : ∀ held ∈ filed, ∃ entry ∈ entries, entry.1 = held.key := by
    intro held member
    have fromEntries : Keyed (fun key => ∃ entry ∈ entries, entry.1 = key) (insertAll [] entries) :=
      keyed_insertAll (List.forall_mem_nil _) fun entry member => ⟨entry, member, rfl⟩
    rw [← same] at fromEntries
    exact fromEntries _ (List.mem_map_of_mem member)
  refine ⟨filed, set, same, among, ?_⟩
  intro entry member
  have once : (insertAll [] entries).countP (fun held => held.1.same entry.1) = 1 :=
    countP_same_eq_one told (keyed_insertAll (List.forall_mem_nil _) keys)
      (distinct_insertAll List.Pairwise.nil entries) (keys entry member)
      (present_insertAll told (List.forall_mem_nil _) keys (.inr ⟨entry, member, rfl⟩))
  rw [← once, ← same, List.countP_map]
  apply List.countP_congr
  intro held inFiled
  obtain ⟨source, fromEntries, isKey⟩ := among held inFiled
  rw [← isKey, (records source fromEntries).equal_eq_same, isKey]
  rfl

end Table

namespace BeanName

/-- Two names are equal exactly when they are of one class, their domains are equal or one object,
and they have the same components in whatever order, where again a value is the same as one that it
is equal to or that is the very object. A name has a digest exactly when its domain and the values
of its components have one. Otherwise it fails like the first of them that has none, the domain
coming last; and what can change is refused for its class. Names and records that are equal have
equal digests where they have any. So a table that is searched by digest is the table that setting
them makes, and keeps exactly one of them for each that was set. -/
theorem equal_and_digest {δ : Type} [DecidableEq δ] (scheme : DigestScheme δ)
    (objects : Nat → Value) :
    (∀ (stamp other : Stamp) (name second : BeanName Value),
        Settled objects (.beanName stamp name) → Settled objects (.beanName other second) →
        ((Value.beanName stamp name).equal (.beanName other second) = true ↔
          stamp.subclass? = other.subclass? ∧ name.domain.same second.domain = true
            ∧ SameComponents name.components second.components))
      ∧ (∀ (stamp : Stamp) (name : BeanName Value), Settled objects (.beanName stamp name) →
        ((∃ found, (Value.beanName stamp name).digest scheme = .ok found) ↔
          (∃ found, name.domain.digest scheme = .ok found)
            ∧ ∀ component ∈ name.components, ∃ found, component.2.digest scheme = .ok found)
        ∧ ∀ fault, (Value.beanName stamp name).digest scheme = .error fault →
          ∃ before value after,
            name.components.map (·.2) ++ [name.domain] = before ++ value :: after
              ∧ (∀ earlier ∈ before, ∃ found, earlier.digest scheme = .ok found)
              ∧ value.digest scheme = .error fault)
      ∧ (∀ value : Value, value.opened.CanChange →
        ∃ fault, value.digest scheme = .error fault ∧ fault.kind = .type)
      ∧ (∀ a b : Value, a.IsBeanRecord → Settled objects a → Settled objects b →
        a.equal b = true →
        ∀ first second, a.digest scheme = .ok first → b.digest scheme = .ok second →
          first = second)
      ∧ ∀ entries : Table,
        (∀ entry ∈ entries, entry.1.IsBeanRecord ∧ Settled objects entry.1
          ∧ ∃ found, entry.1.digest scheme = .ok found) →
        ∃ filed, Table.fileAll scheme [] entries = .ok filed
          ∧ filed.map Table.FiledEntry.entry = Table.insertAll [] entries
          ∧ (∀ held ∈ filed, ∃ entry ∈ entries, entry.1 = held.key)
          ∧ ∀ entry ∈ entries, filed.countP (fun held => held.key.equal entry.1) = 1 := by
  refine ⟨?_, ?_, ?_, ?_, ?_⟩
  · intro stamp other name second settled settledToo
    exact equal_beanName_iff (nodup_of_settled settled) (nodup_of_settled settledToo)
  · intro stamp name settled
    constructor
    · simp only [← Outcome.not_fails_iff, Value.fails_digest_beanName_iff]
      push Not
      rfl
    · intro fault refused
      exact Outcome.mapM_eq_error_iff.mp (Value.digest_beanName_eq_error_iff.mp refused)
  · intro value changes
    exact ⟨_, Value.digest_of_canChange changes, rfl⟩
  · intro a b record settled settledToo equal first second digests digestsToo
    -- What has a digest is a key, and the digest of a key is told from its form, which the same
    -- keys share.
    have isKey := settled.isKey_of_digest (Outcome.not_fails_iff.mpr ⟨first, digests⟩)
    have isKeyToo := settledToo.isKey_of_digest (Outcome.not_fails_iff.mpr ⟨second, digestsToo⟩)
    rw [record.equal_eq_same] at equal
    have same := Value.digest_eq_of_same scheme isKey isKeyToo equal
    rw [digests, digestsToo] at same
    exact Except.ok.inj same
  · intro entries usable
    -- So the keys of the table are told apart by their forms.
    have keys : Table.Keyed (IsKey objects) entries := by
      intro entry member
      obtain ⟨-, settled, digests⟩ := usable entry member
      exact settled.isKey_of_digest (Outcome.not_fails_iff.mpr digests)
    exact Table.fileAll_records scheme (fun entry member => (usable entry member).1) keys

/-- A scheme in numbers, which adds up the digests of what has no order. -/
def additiveScheme : DigestScheme Nat where
  leaf
    | .null => 1
    | .number (.int n) => 2 * n.natAbs
    | .number (.float _) => 3
    | .text s => s.length
    | .bytes bytes => bytes.length
    | .identity identity? => identity?.getD 0
  sequence digests := digests.foldl (fun digest next => 31 * digest + next) 7
  collection digests := digests.foldr (fun next digest => digest + next) 0
  collection_perm order := by
    refine order.foldr_eq' (fun _ _ _ _ digest => ?_) 0
    exact Nat.add_right_comm digest _ _

/-- An object for which the application has written nothing. -/
def plainObject : AppObject :=
  .ordinary 4 ⟨"app.model", "Gauge", "Gauge"⟩ "<Gauge>" (.ok "<Gauge>")

/-- A name with a number for a component. -/
def numberFirst : Value :=
  .beanName (.fresh none) ⟨.text "d", [("a", .int 1), ("b", .object plainObject)]⟩

/-- The same name with the truth value that counts as that number, in another order. -/
def truthLast : Value :=
  .beanName (.fresh none) ⟨.text "d", [("b", .object plainObject), ("a", .bool true)]⟩

/-- A truth value for a number and the components the other way round make no other name, and none
of another digest, so that of the two beans with these names a table has one. With a list for a
component there is no digest. -/
theorem equal_and_digest_reordered :
    numberFirst.equal truthLast = true
      ∧ (∃ fault, (Value.beanName (.fresh none) ⟨.text "d", [("a", .list none [])]⟩).digest
          additiveScheme = .error fault ∧ fault.kind = .type)
      ∧ (∀ first second, numberFirst.digest additiveScheme = .ok first →
        truthLast.digest additiveScheme = .ok second → first = second)
      ∧ ∃ filed, Table.fileAll additiveScheme []
          [(.beanInstance (.fresh none) ⟨numberFirst, .null⟩, .null),
            (.beanInstance (.fresh none) ⟨truthLast, .null⟩, .null)] = .ok filed
        ∧ filed.countP (fun held =>
            held.key.equal (.beanInstance (.fresh none) ⟨numberFirst, .null⟩)) = 1 := by
  obtain ⟨equality, digests, changing, agree, once⟩ :=
    equal_and_digest additiveScheme fun _ => .null
  have gauge : IsKey (fun _ => .null) (.object plainObject) :=
    .object (AppObject.isConsistent_ordinary _ _ _ _)
  have first : IsKey (fun _ => .null) numberFirst :=
    .beanName _ (.text _) (by decide)
      (List.forall_mem_cons.mpr ⟨.int 1, List.forall_mem_singleton.mpr gauge⟩)
  have second : IsKey (fun _ => .null) truthLast :=
    .beanName _ (.text _) (by decide)
      (List.forall_mem_cons.mpr ⟨gauge, List.forall_mem_singleton.mpr (.bool true)⟩)
  have listed : Settled (fun _ => .null)
      (.beanName (.fresh none) ⟨.text "d", [("a", .list none [])]⟩) :=
    .beanName _ (.key (.text _)) (by decide)
      (List.forall_mem_singleton.mpr (.unhashable (.changing trivial)))
  obtain ⟨noDigest, refused, isType⟩ := changing (.list none []) trivial
  have equal : numberFirst.equal truthLast = true := by
    refine (equality _ _ _ _ (.key first) (.key second)).mpr ⟨rfl, by simp [Value.same], ?_⟩
    exact (sameComponents_iff (by decide) (by decide)).mp
      ⟨rfl, by simp [Value.sameComponents, Value.same, Value.sameNumber, Value.number?,
        Number.equals, Value.opened, AppObject.isSame]⟩
  refine ⟨equal, ?_, ?_, ?_⟩
  · obtain ⟨hashable, like⟩ := digests _ _ listed
    cases outcome : (Value.beanName (.fresh none) ⟨.text "d", [("a", .list none [])]⟩).digest
        additiveScheme with
    | ok found =>
      obtain ⟨inList, isDigest⟩ := (hashable.mp ⟨found, outcome⟩).2 _ (List.mem_singleton_self _)
      cases isDigest
    | error fault =>
      obtain ⟨before, value, after, split, earlier, here⟩ := like fault outcome
      -- The list is the first of the values, and it has no digest.
      cases before with
      | nil =>
        obtain ⟨rfl, -⟩ := List.cons.inj split
        obtain rfl : noDigest = fault := Except.error.inj (refused.symm.trans here)
        exact ⟨noDigest, rfl, isType⟩
      | cons item rest =>
        obtain ⟨rfl, -⟩ := List.cons.inj split
        obtain ⟨found, digested⟩ := earlier _ List.mem_cons_self
        cases refused.symm.trans digested
  · exact agree _ _ (.name _ _) (.key first) (.key second) equal
  · obtain ⟨filed, set, -, -, each⟩ := once
      [(.beanInstance (.fresh none) ⟨numberFirst, .null⟩, .null),
        (.beanInstance (.fresh none) ⟨truthLast, .null⟩, .null)]
      (List.forall_mem_cons.mpr ⟨⟨.bean _ _, .key (.beanInstance _ first .null), _, rfl⟩,
        List.forall_mem_singleton.mpr ⟨.bean _ _, .key (.beanInstance _ second .null), _, rfl⟩⟩)
    exact ⟨filed, set, each _ List.mem_cons_self⟩

/-- A name that has one NaN for a component is equal to itself, although the NaN is not. And what a
view that can change what it views is refused with, for a component of a name, is no matter of
class. -/
theorem equal_with_one_nan :
    (Value.beanName (.fresh none) ⟨.text "d", [("a", .float (some 3) .nan)]⟩).equal
        (.beanName (.fresh none) ⟨.text "d", [("a", .float (some 3) .nan)]⟩) = true
      ∧ (Value.float (some 3) .nan).equal (.float (some 3) .nan) = false
      ∧ ∃ fault, (Value.beanName (.fresh none)
          ⟨.text "d", [("a", .buffer (.view ⟨.byte, true⟩) [120])]⟩).digest additiveScheme =
            .error fault
        ∧ fault.kind = .value :=
  ⟨by simp [Value.equal, Value.opened, Value.same, Value.sameComponents], rfl,
    .shape .writableView, rfl, rfl⟩

end BeanName
end BrokerMaps
