import BrokerMaps.Proofs.Value.Kept
import BrokerMaps.Proofs.Value.TextKeys
import Mathlib.Data.List.Forall2

/-!
# Named entries

Entries that go by names are set one after the other. A name stands where it was set first and has
the value it was set to last. Entries that are kept are found under the same names, and setting one
of them leaves the others as they were kept.

## Main results

* `Table.map_fst_setAllNamed`, `Table.lookup_setAllNamed`: the names and the values after entries
  were set.
* `Value.identifyEntries_setNamed`: what is found of kept entries, with one of them set, is kept as
  it was, but for that one.
-/
namespace BrokerMaps

/-- A text can always be a key. -/
theorem Value.requireDigest_text (s : String) : (Value.text s).requireDigest = .ok () := by
  simp [requireDigest, digest, DigestScheme.blind]

namespace Table

/-! ## Setting entries -/

/-- Named values with one of them set: a name that is there keeps its place. -/
def setNamed (name : String) (value : Value) : List (String × Value) → List (String × Value)
  | [] => [(name, value)]
  | (first, held) :: rest =>
    if first = name then (first, value) :: rest else (first, held) :: setNamed name value rest

def setAllNamed (named entries : List (String × Value)) : List (String × Value) :=
  entries.foldl (fun built entry => setNamed entry.1 entry.2 built) named

theorem ofNamed_cons (entry : String × Value) (rest : List (String × Value)) :
    ofNamed (entry :: rest) = (.text entry.1, entry.2) :: ofNamed rest := rfl

theorem insert_ofNamed (name : String) (value : Value) (named : List (String × Value)) :
    insert (.text name) value (ofNamed named) = ofNamed (setNamed name value named) := by
  induction named with
  | nil => rfl
  | cons entry rest ih =>
    simp only [ofNamed_cons, insert, ih, setNamed, Value.same_text_text, decide_eq_true_eq]
    split <;> rfl

theorem insertAll_ofNamed (named entries : List (String × Value)) :
    insertAll (ofNamed named) (ofNamed entries) = ofNamed (setAllNamed named entries) := by
  induction entries generalizing named with
  | nil => rfl
  | cons entry rest ih =>
    have step : insertAll (ofNamed named) (ofNamed (entry :: rest))
        = insertAll (insert (.text entry.1) entry.2 (ofNamed named)) (ofNamed rest) := rfl
    rw [step, insert_ofNamed, ih]
    rfl

theorem setAllNamed_append (named first second : List (String × Value)) :
    setAllNamed named (first ++ second) = setAllNamed (setAllNamed named first) second :=
  List.foldl_append

theorem ofNamed_injective : Function.Injective ofNamed :=
  List.map_injective_iff.mpr fun first second same => by
    obtain ⟨names, values⟩ := Prod.mk.inj same
    exact Prod.ext (Value.text.inj names) values

/-- Entries with different names are set as they are. -/
theorem setAllNamed_of_nodup {entries : List (String × Value)}
    (nodup : (entries.map (·.1)).Nodup) : setAllNamed [] entries = entries := by
  have distinct : Distinct ([] ++ ofNamed entries) := distinct_ofNamed_iff.mpr nodup
  have listed : insertAll [] (ofNamed entries) = ofNamed entries := insertAll_eq_append distinct
  exact ofNamed_injective ((insertAll_ofNamed [] entries).symm.trans listed)

/-- A name is found with the value that it was set to last. -/
theorem lookup_setAllNamed (named entries : List (String × Value)) (name : String) :
    (setAllNamed named entries).lookup name
      = (entries.reverse.lookup name).or (named.lookup name) := by
  rw [← find?_ofNamed, ← insertAll_ofNamed, find?_insertAll (textKeyed_ofNamed named),
    find?_ofNamed]

/-- Texts come up first where their names do. -/
theorem firstKeys_ofNamed (entries : List (String × Value)) :
    firstKeys (ofNamed entries) = ((entries.map (·.1)).eraseDups).map Value.text := by
  -- The loop holds the names that it kept so far.
  have loop_map : ∀ names kept : List String,
      List.eraseDupsBy.loop (fun later earlier => Value.same earlier later)
          (names.map Value.text) (kept.map Value.text)
        = (List.eraseDupsBy.loop (· == ·) names kept).map Value.text := by
    intro names
    induction names with
    | nil => exact fun kept => List.map_reverse.symm
    | cons name rest ih =>
      intro kept
      have among : (kept.map Value.text).any (·.same (.text name)) = kept.any (name == ·) := by
        rw [List.any_map]
        refine List.any_congr rfl fun held => ?_
        rw [Function.comp_apply, Value.same_text_text, Bool.eq_iff_iff, decide_eq_true_eq,
          beq_iff_eq, eq_comm]
      simp only [List.map_cons, List.eraseDupsBy.loop, among]
      cases kept.any (name == ·)
      · exact ih (name :: kept)
      · exact ih kept
  rw [firstKeys, keys_ofNamed]
  exact loop_map _ []

/-- The names stand in the order in which they were set first. -/
theorem map_fst_setAllNamed (entries : List (String × Value)) :
    (setAllNamed [] entries).map (·.1) = (entries.map (·.1)).eraseDups := by
  have keys : (ofNamed (setAllNamed [] entries)).map (·.1) = firstKeys (ofNamed entries) := by
    rw [← insertAll_ofNamed]
    exact keys_insertAll [] (ofNamed entries)
  rw [keys_ofNamed, firstKeys_ofNamed] at keys
  exact List.map_injective_iff.mpr (fun _ _ same => Value.text.inj same) keys

theorem nodup_setAllNamed (entries : List (String × Value)) :
    ((setAllNamed [] entries).map (·.1)).Nodup := by
  rw [← distinct_ofNamed_iff, ← insertAll_ofNamed]
  exact distinct_insertAll .nil _

/-! ## Entries under the same names -/

/-- Entries under the same names, whose values are related. -/
def Matched (related : Value → Value → Prop) (first second : List (String × Value)) : Prop :=
  List.Forall₂ (fun entry other => entry.1 = other.1 ∧ related entry.2 other.2) first second

variable {related : Value → Value → Prop} {first second : List (String × Value)}

theorem Matched.setNamed (matched : Matched related first second) (name : String)
    {value other : Value} (relates : related value other) :
    Matched related (setNamed name value first) (setNamed name other second) := by
  induction matched with
  | nil => exact .cons ⟨rfl, relates⟩ .nil
  | cons here rest ih =>
    obtain ⟨same, held⟩ := here
    simp only [Table.setNamed, same]
    split
    · exact .cons ⟨rfl, relates⟩ rest
    · exact .cons ⟨rfl, held⟩ ih

theorem matched_same_iff {entries : List (String × Value)} :
    Matched related entries entries ↔ ∀ entry ∈ entries, related entry.2 entry.2 := by
  rw [Matched, List.forall₂_same]
  simp only [true_and]

/-- The values of entries are related to what they are changed to. -/
theorem matched_map_left {change : Value → Value} {entries : List (String × Value)}
    (relates : ∀ entry ∈ entries, related (change entry.2) entry.2) :
    Matched related (entries.map fun entry => (entry.1, change entry.2)) entries := by
  rw [Matched, List.forall₂_map_left_iff, List.forall₂_same]
  exact fun entry member => ⟨rfl, relates entry member⟩

/-- What is related to the same entries is related, entry by entry. -/
theorem Matched.comp {others : List (String × Value)}
    {relatedToo relatedBoth : Value → Value → Prop} (matched : Matched related first second)
    (matchedToo : Matched relatedToo others second)
    (both : ∀ {value held other}, related value held → relatedToo other held →
      relatedBoth value other) : Matched relatedBoth first others := by
  induction matched generalizing others with
  | nil =>
    cases matchedToo
    exact .nil
  | cons here _ ih =>
    cases matchedToo with
    | cons hereToo laterToo =>
      exact .cons ⟨here.1.trans hereToo.1.symm, both here.2 hereToo.2⟩ (ih laterToo)

theorem Matched.names_eq (matched : Matched related first second) :
    first.map (·.1) = second.map (·.1) := by
  induction matched with
  | nil => rfl
  | cons here _ ih => rw [List.map_cons, List.map_cons, here.1, ih]

theorem Matched.lookup (matched : Matched related first second) (name : String) :
    Option.Rel related (first.lookup name) (second.lookup name) := by
  induction matched with
  | nil => exact .none
  | @cons entry other _ _ here _ ih =>
    obtain ⟨same, held⟩ := here
    rw [List.lookup_cons, List.lookup_cons, same]
    split
    · exact .some held
    · exact ih

end Table

/-! ## Entries that are kept -/

namespace Value

/-- A value that is found where another one is kept. -/
def FoundOf (found kept : Value) : Prop := found.identify = pure kept

variable {found kept : List (String × Value)}

/-- What is found of kept entries stands under their names. -/
theorem exists_refreshEntries_ofNamed {modeNow : DeliveryMode → Value}
    (modes : ∀ m, (modeNow m).identify = pure (.mode m)) (content : Nat → Value)
    (extra : Nat → String → Value) (isKept : ∀ entry ∈ kept, entry.2.IsKept) :
    ∃ found, refreshEntries modeNow content extra (Table.ofNamed kept) = Table.ofNamed found
      ∧ Table.Matched FoundOf found kept := by
  refine ⟨kept.map fun entry => (entry.1, refresh modeNow content extra entry.2), ?_,
    Table.matched_map_left fun entry member =>
      (identify_refresh modes entry.2).trans (isKept entry member)⟩
  clear isKept
  induction kept with
  | nil => rfl
  | cons entry rest ih =>
    rw [Table.ofNamed_cons, refreshEntries, refresh, ih]
    rfl

/-- Named entries are kept under their names. -/
theorem kept_identifyEntries_ofNamed (entries : List (String × Value)) :
    Ensures (fun table => ∃ kept, table = Table.ofNamed kept
      ∧ Table.Matched (fun given held => ∃ next, (given.identify.run next).1 = held) entries kept
      ∧ ∀ entry ∈ kept, entry.2.IsKept) (identifyEntries (Table.ofNamed entries)) := by
  induction entries with
  | nil => exact ensures_pure ⟨[], rfl, .nil, nofun⟩
  | cons entry rest ih =>
    have isText : identify (.text entry.1) = pure (.text entry.1) := rfl
    rw [Table.ofNamed_cons, identifyEntries, isText, pure_bind]
    have held : Ensures (fun held => ∃ next, (entry.2.identify.run next).1 = held)
        (identify entry.2) := fun next => ⟨next, rfl⟩
    refine ensures_bind held fun value keptAs =>
      ensures_bind ih fun _ others => ensures_pure ?_
    obtain ⟨kept, rfl, matched, isKept⟩ := others
    refine ⟨(entry.1, value) :: kept, rfl, .cons ⟨rfl, keptAs⟩ matched, ?_⟩
    obtain ⟨next, rfl⟩ := keptAs
    exact List.forall_mem_cons.mpr ⟨isKept_identify entry.2 next, isKept⟩

theorem identifyEntries_ofNamed (matched : Table.Matched FoundOf found kept) :
    identifyEntries (Table.ofNamed found) = pure (Table.ofNamed kept) := by
  induction matched with
  | nil => rfl
  | @cons entry other rest others here _ ih =>
    obtain ⟨same, isFound⟩ := here
    have isText : identify (.text entry.1) = pure (.text entry.1) := rfl
    rw [Table.ofNamed_cons, identifyEntries, isText, isFound, ih, same]
    rfl

/-- Setting an entry in what is found keeps the other entries as they were kept. -/
theorem identifyEntries_setNamed (matched : Table.Matched FoundOf found kept) (name : String)
    (value : Value) :
    identifyEntries (Table.ofNamed (Table.setNamed name value found)) = (do
      let valueKept ← identify value
      pure (Table.ofNamed (Table.setNamed name valueKept kept))) := by
  have isText : ∀ s, identify (.text s) = pure (.text s) := fun _ => rfl
  induction matched with
  | nil =>
    have none : identifyEntries (Table.ofNamed []) = pure (Table.ofNamed []) := rfl
    simp only [Table.setNamed, Table.ofNamed_cons, identifyEntries, isText, none, pure_bind]
  | @cons entry other rest others here later ih =>
    obtain ⟨same, isFound⟩ := here
    rw [FoundOf] at isFound
    have restFound := identifyEntries_ofNamed later
    simp only [Table.setNamed, ← same]
    split
    · simp only [Table.ofNamed_cons, identifyEntries, isText, restFound, pure_bind]
    · simp only [Table.ofNamed_cons, identifyEntries, isText, isFound, ih, pure_bind, bind_assoc]

end Value
end BrokerMaps
