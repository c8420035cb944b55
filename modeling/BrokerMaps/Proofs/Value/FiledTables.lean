import BrokerMaps.Proofs.Value.Digests
import BrokerMaps.Value.Table

/-!
# Tables that are searched by digest

A table files each entry under the digest of its key, and a key that is set is compared only with
those entries that have its digest. Equal keys have equal digests, so no entry that would have been
found is passed over, and the entries are the same as if every one of them had been compared.

## Main result

`Table.fileAll_eq_ok`

## Proof strategy

`Table.Filed` says of the entries that each is filed under the digest of its own key. Setting one
key keeps that, and does to the entries what setting it without a look at digests does
(`Table.entries_insertFiled`). Setting many keys is an induction over them.
-/
namespace BrokerMaps.Table

open Value (IsKey)

variable {δ : Type} {scheme : DigestScheme δ} {objects : Nat → Value}

/-- An entry and the digest that it is found by. -/
structure FiledEntry (δ : Type) where
  digest : δ
  key : Value
  value : Value

def FiledEntry.entry (filed : FiledEntry δ) : Value × Value := (filed.key, filed.value)

/-- Sets a key of a known digest. An entry with another digest is not compared with it. -/
def insertFiled [DecidableEq δ] (digest : δ) (key value : Value) :
    List (FiledEntry δ) → List (FiledEntry δ)
  | [] => [⟨digest, key, value⟩]
  | first :: rest =>
    if first.digest = digest ∧ first.key.same key = true then { first with value } :: rest
    else first :: insertFiled digest key value rest

/-- Sets entries one after the other, each by its digest. -/
def fileAll [DecidableEq δ] (scheme : DigestScheme δ) (filed : List (FiledEntry δ)) :
    Table → Except Fault (List (FiledEntry δ))
  | [] => .ok filed
  | (key, value) :: rest => do
    let digest ← key.digest scheme
    fileAll scheme (insertFiled digest key value filed) rest

/-- Every entry has a key, and is filed under its digest. -/
def Filed (scheme : DigestScheme δ) (objects : Nat → Value) (filed : List (FiledEntry δ)) : Prop :=
  ∀ entry ∈ filed, IsKey objects entry.key ∧ entry.key.digest scheme = .ok entry.digest

section
variable [DecidableEq δ] {filed : List (FiledEntry δ)} {digest : δ} {key : Value}

theorem filed_insertFiled (inOrder : Filed scheme objects filed) (isKey : IsKey objects key)
    (digests : key.digest scheme = .ok digest) (value : Value) :
    Filed scheme objects (insertFiled digest key value filed) := by
  induction filed with
  | nil => exact List.forall_mem_singleton.mpr ⟨isKey, digests⟩
  | cons first rest ih =>
    obtain ⟨here, others⟩ := List.forall_mem_cons.mp inOrder
    rw [insertFiled]
    split
    · exact List.forall_mem_cons.mpr ⟨here, others⟩
    · exact List.forall_mem_cons.mpr ⟨here, ih others⟩

/-- Looking at digests first makes no difference to what is found. -/
theorem entries_insertFiled (inOrder : Filed scheme objects filed) (isKey : IsKey objects key)
    (digests : key.digest scheme = .ok digest) (value : Value) :
    (insertFiled digest key value filed).map FiledEntry.entry =
      insert key value (filed.map FiledEntry.entry) := by
  induction filed with
  | nil => rfl
  | cons first rest ih =>
    obtain ⟨⟨isFirst, firstDigests⟩, others⟩ := List.forall_mem_cons.mp inOrder
    obtain ⟨firstDigest, firstKey, held⟩ := first
    have agrees : firstKey.same key = true → firstDigest = digest := by
      intro same
      have equalDigests := Value.digest_eq_of_same scheme isFirst isKey same
      rw [firstDigests, digests] at equalDigests
      exact Except.ok.inj equalDigests
    rw [insertFiled, List.map_cons, FiledEntry.entry, insert]
    by_cases same : firstKey.same key = true
    · rw [if_pos ⟨agrees same, same⟩, if_pos same]
      rfl
    · rw [if_neg fun found => same found.2, if_neg same, ← ih others]
      rfl

/-- Keys that are set by their digests make the table that they make without them. -/
theorem fileAll_eq_ok {entries : Table} (inOrder : Filed scheme objects filed)
    (keys : Keyed (IsKey objects) entries) :
    ∃ all, fileAll scheme filed entries = .ok all
      ∧ all.map FiledEntry.entry = insertAll (filed.map FiledEntry.entry) entries := by
  induction entries generalizing filed with
  | nil => exact ⟨filed, rfl, rfl⟩
  | cons entry rest ih =>
    obtain ⟨isKey, others⟩ := List.forall_mem_cons.mp keys
    obtain ⟨digest, digests⟩ := Outcome.not_fails_iff.mp (isKey.not_fails_digest scheme)
    have next := filed_insertFiled inOrder isKey digests entry.2
    obtain ⟨all, set, same⟩ := ih next others
    refine ⟨all, ?_, ?_⟩
    · rw [fileAll, digests, Outcome.ok_bind, set]
    · rw [same, entries_insertFiled inOrder isKey digests entry.2]
      rfl

end

end BrokerMaps.Table
