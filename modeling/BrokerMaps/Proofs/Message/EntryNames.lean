import BrokerMaps.Proofs.Message.Reading
import BrokerMaps.Proofs.Value.Writing

/-!
# Names of entries

An entry can have any text as its name that is not empty. A name is checked when its entry is set,
and the names in the stores of a message when it is built, so building fails just where one of them
is unfit, and then one that is unfit is refused.
-/
namespace BrokerMaps

open Outcome (bind_eq_ok_iff bind_eq_error_iff)

/-- A name that an entry can have: a text that is not empty. -/
def Value.FitsEntry (name : Value) : Prop := ∃ s, name = .text s ∧ s ≠ ""

namespace EntryRole

/-- What a name that no entry can have is refused with. The refusal shows the name, if that can be
written. -/
def refusal (role : EntryRole) (name : Value) : Fault :=
  match name.quoted with
  | .ok shown => .entryName role shown
  | .error fault => fault

variable {role : EntryRole} {name store : Value} {names : List Value} {fault : Fault}

theorem refuse_eq (role : EntryRole) (name : Value) :
    checkName.refuse role name = .error (role.refusal name) := by
  rw [checkName.refuse, refusal]
  cases name.quoted <;> rfl

theorem checkName_of_fits (fits : name.FitsEntry) (role : EntryRole) :
    role.checkName name = .ok () := by
  obtain ⟨s, rfl, notEmpty⟩ := fits
  rw [checkName, if_neg fun empty => notEmpty (String.isEmpty_iff.mp empty)]

theorem checkName_of_not_fits (unfit : ¬ name.FitsEntry) (role : EntryRole) :
    role.checkName name = .error (role.refusal name) := by
  cases name with
  | text s =>
    have empty : s.isEmpty = true :=
      String.isEmpty_iff.mpr (by_contra fun notEmpty => unfit ⟨s, rfl, notEmpty⟩)
    rw [checkName, if_pos empty, refuse_eq]
  | _ => exact refuse_eq role _

theorem checkName_eq_ok_iff : role.checkName name = .ok () ↔ name.FitsEntry := by
  refine ⟨fun checked => by_contra fun unfit => ?_, fun fits => checkName_of_fits fits role⟩
  rw [checkName_of_not_fits unfit] at checked
  cases checked

theorem checkName_eq_error_iff :
    role.checkName name = .error fault ↔ ¬ name.FitsEntry ∧ fault = role.refusal name := by
  by_cases fits : name.FitsEntry
  · simp [checkName_of_fits fits, fits]
  · simp [checkName_of_not_fits fits, fits, eq_comm]

/-- A name that can be written is shown where it is refused. -/
theorem refusal_eq {shown : String} (writes : name.quoted = .ok shown) (role : EntryRole) :
    role.refusal name = .entryName role shown := by
  rw [refusal, writes]

theorem checkNames_eq_ok_iff (iterates : store.iterate = .ok names) :
    role.checkNames store = .ok () ↔ ∀ name ∈ names, name.FitsEntry := by
  rw [checkNames, iterates, Outcome.ok_bind, Outcome.forM_eq_ok_iff]
  simp only [checkName_eq_ok_iff]

/-- The names are refused for one that is unfit. -/
theorem exists_of_checkNames_eq_error (iterates : store.iterate = .ok names)
    (refused : role.checkNames store = .error fault) :
    ∃ name ∈ names, ¬ name.FitsEntry ∧ fault = role.refusal name := by
  rw [checkNames, iterates, Outcome.ok_bind] at refused
  clear iterates
  induction names with
  | nil => cases refused
  | cons name rest ih =>
    rcases bind_eq_error_iff.mp refused with here | ⟨_, -, later⟩
    · exact ⟨name, List.mem_cons_self, checkName_eq_error_iff.mp here⟩
    · obtain ⟨other, member, unfit⟩ := ih later
      exact ⟨other, List.mem_cons_of_mem _ member, unfit⟩

end EntryRole

theorem Value.IsTable.exists_iterate {store : Value} (isTable : store.IsTable) :
    ∃ names, store.iterate = .ok names := by
  obtain ⟨identity?, entries, opened, -⟩ := isTable
  exact ⟨entries.map (·.1), by rw [iterate, opened]⟩

namespace Message

variable {kind : MessageKind} {messageId timestamp : Value} {arguments : List (String × Value)}
  {content : Message Value} {fault : Fault}

/-- A name is in the store of a role. -/
def Names (content : Message Value) (role : EntryRole) (name : Value) : Prop :=
  ∃ store names, content.store? role = some store ∧ store.iterate = .ok names ∧ name ∈ names

/-- Both stores of a message are checked, if it has both. -/
theorem checkNames_eq_ok_iff :
    content.checkNames = .ok () ↔
      ∀ role store, content.store? role = some store → role.checkNames store = .ok () := by
  obtain ⟨header, payload⟩ := content
  rw [checkNames, bind_eq_ok_iff]
  constructor
  · rintro ⟨_, properties, fields⟩ role store has
    cases role with
    | property => cases has; exact properties
    | mapField => cases payload <;> cases has; exact fields
  · intro checked
    refine ⟨(), checked .property _ rfl, ?_⟩
    cases payload with
    | map fields => exact checked .mapField fields rfl
    | _ => rfl

theorem exists_of_checkNames_eq_error (refused : content.checkNames = .error fault) :
    ∃ role store, content.store? role = some store ∧ role.checkNames store = .error fault := by
  obtain ⟨header, payload⟩ := content
  rcases bind_eq_error_iff.mp refused with properties | ⟨_, -, fields⟩
  · exact ⟨.property, _, rfl, properties⟩
  · cases payload with
    | map store => exact ⟨.mapField, store, rfl, fields⟩
    | _ => cases fields

theorem payload_kind_of_set? {payload changed : Payload Value} {name : String} {value : Value}
    (sets : payload.set? name value = some changed) : changed.kind = payload.kind := by
  unfold Payload.set? at sets
  split at sets <;> cases sets <;> rfl

theorem kind_of_set? {message changed : Message Value} {name : String} {value : Value}
    (sets : message.set? name value = some changed) : changed.kind = message.kind := by
  obtain ⟨header, payload⟩ := message
  unfold set? at sets
  split at sets
  next =>
    cases sets
    rfl
  next =>
    obtain ⟨payloadAfter, setsPayload, rfl⟩ := Option.map_eq_some_iff.mp sets
    exact payload_kind_of_set? setsPayload

theorem kind_of_withArguments {message filled : Message Value} {arguments : List (String × Value)}
    (fills : message.withArguments arguments = .ok filled) : filled.kind = message.kind := by
  induction arguments generalizing message with
  | nil =>
    cases fills
    rfl
  | cons argument rest ih =>
    rw [withArguments] at fills
    split at fills
    next changed sets => exact (ih fills).trans (kind_of_set? sets)
    next => cases fills

theorem kind_initial (kind : MessageKind) (messageId timestamp : Value) :
    (initial kind messageId timestamp).kind = kind := by
  cases kind <;> rfl

section
variable (filled : withArguments (initial kind messageId timestamp) arguments = .ok content)
  (tables : ∀ role store, content.store? role = some store → store.IsTable)

include filled

theorem build_eq : build kind messageId timestamp arguments = (do
    content.checkNames
    return content) := by
  rw [build, filled]
  rfl

include tables

/-- A message with tables for its stores is built as it is filled when all names in them are fit,
and not otherwise. -/
theorem build_eq_ok_iff {built : Message Value} :
    build kind messageId timestamp arguments = .ok built ↔
      built = content ∧ ∀ role name, content.Names role name → name.FitsEntry := by
  have checks : build kind messageId timestamp arguments = .ok built
      ↔ built = content ∧ content.checkNames = .ok () := by
    rw [build_eq filled, bind_eq_ok_iff]
    constructor
    · rintro ⟨_, checked, returned⟩
      exact ⟨(Except.ok.inj returned).symm, checked⟩
    · rintro ⟨rfl, checked⟩
      exact ⟨(), checked, rfl⟩
  rw [checks, checkNames_eq_ok_iff]
  refine and_congr_right fun _ => ⟨?_, ?_⟩
  · rintro checked role name ⟨store, names, has, iterates, member⟩
    exact (EntryRole.checkNames_eq_ok_iff iterates).mp (checked role store has) name member
  · intro fits role store has
    obtain ⟨names, iterates⟩ := (tables role store has).exists_iterate
    exact (EntryRole.checkNames_eq_ok_iff iterates).mpr fun name member =>
      fits role name ⟨store, _, has, iterates, member⟩

/-- A message that cannot be built is refused for a name in one of its stores. -/
theorem exists_of_build_eq_error
    (refused : build kind messageId timestamp arguments = .error fault) :
    ∃ role name, content.Names role name ∧ ¬ name.FitsEntry ∧ fault = role.refusal name := by
  rw [build_eq filled] at refused
  rcases bind_eq_error_iff.mp refused with checked | ⟨_, -, returned⟩
  · obtain ⟨role, store, has, storeRefused⟩ := exists_of_checkNames_eq_error checked
    obtain ⟨names, iterates⟩ := (tables role store has).exists_iterate
    obtain ⟨name, member, unfit⟩ :=
      EntryRole.exists_of_checkNames_eq_error iterates storeRefused
    exact ⟨role, name, ⟨store, _, has, iterates, member⟩, unfit⟩
  · cases returned

end

end Message
end BrokerMaps
