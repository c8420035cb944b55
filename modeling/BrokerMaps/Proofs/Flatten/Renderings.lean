import BrokerMaps.Proofs.Flatten.Chunks
import BrokerMaps.Proofs.Text.Integer
import BrokerMaps.Proofs.Text.Utf8
import BrokerMaps.Proofs.Value.Writing
import Mathlib.Algebra.Ring.Nat

/-!
# Chunks as texts and by their lengths

## Main results

* `Flatten.report_text_chunks`: the chunks of an encoded text that is cut between characters only
  are, one after the other, the text.
* `Flatten.report_length_chunks`: chunks that are shown by their lengths do not depend on the body
  but for its length, and their lengths add up to it. They can be read back from the map, only that
  a chunk size that is a truth value is shown as one.

## Proof strategy

`Flatten.report_written_chunks` finds chunks in the map once they can be written, so what remains is
to write them. The parts of an encoded text decode to the parts of the text. The length of a part is
never too long to be written, as it is at most the length of the body. That two reports are the same
follows a message through everything that reads it, down to the one record that is logged: each step
reads the header, or the length of the body, or leaves the body alone.
-/
namespace BrokerMaps

/-! ## Texts -/

namespace Plan

theorem chunkText_text {settings : Settings} {held : Value} {kind : BufferKind}
    {bytes : List UInt8} (rendered : settings.rendering = .text)
    (isBuffer : held.opened = .buffer kind bytes) (bytewise : kind.format = .byte) (size i : Nat) :
    chunkText settings held bytes.length size i =
      .ok (.text (String.ofList (Text.Utf8.decode (chunkAt bytes size i)))) := by
  rw [chunkText, rendered, Rendering.render, sliceBytes_spanAt isBuffer bytewise]
  rfl

end Plan

namespace Flatten

/-- A text that is encoded in the body of a message, byte by byte, is in the map, chunk by chunk,
unless a cut between two chunks goes through a character. No cut does if every character is one
byte, or if there is one chunk only. -/
theorem report_text_chunks {settings : Settings} {header custom body : String} {size : Nat}
    {value held : Value} {content : Message Value} {kind : BufferKind} {s : String}
    {first : List Contribution} (texts : settings.HasTexts header custom body)
    (positive : 0 < size) (integral : settings.chunkSize.integral? = some (size : Int))
    (rendered : settings.rendering = .text) (isMessage : value.IsMessage content)
    (isBytes : content.payload = .bytes held)
    (isBuffer : held.opened = .buffer kind (Text.Utf8.encode s.toList))
    (bytewise : kind.format = .byte) (headed : headerAndCustom settings value = .ok first)
    (aligned : Text.Utf8.Aligned s.toList size ∨ (∀ c ∈ s.toList, c.toNat < 0x80)
      ∨ (Text.Utf8.encode s.toList).length < size) :
    ∃ (map : PropertyMap) (parts : List String),
      (settings.flattener.report value).outcome = .ok (some map)
        ∧ parts.length = (Text.Utf8.encode s.toList).length / size + 1
        ∧ String.join parts = s
        ∧ ∀ i part, parts[i]? = some part →
          Table.find? (.text (body ++ "JMSBytes:" ++ toString (i + 1))) map =
            some (.text part) := by
  have uncut : Text.Utf8.Aligned s.toList size := by
    rcases aligned with uncut | ascii | single
    · exact uncut
    · exact Text.Utf8.aligned_of_ascii ascii size
    · exact Text.Utf8.aligned_of_lt single
  have measured : held.length = .ok (Text.Utf8.encode s.toList).length := by
    simp [Value.length, isBuffer, kind.count_of_bytewise bytewise]
  obtain ⟨map, outcome, found, -⟩ := report_written_chunks texts positive integral isMessage
    isBytes measured headed
    (Plan.write_chunks (fun i _ => Plan.chunkText_text rendered isBuffer bytewise size i) body)
  refine ⟨map, (List.range ((Text.Utf8.encode s.toList).length / size + 1)).map fun i =>
    String.ofList (Text.Utf8.decode (chunkAt (Text.Utf8.encode s.toList) size i)), outcome,
    by simp, ?_, ?_⟩
  · -- Chunks that end between two characters decode to the characters they are made of.
    rw [← String.toList_inj, String.toList_join, List.flatMap_map]
    simp only [String.toList_ofList]
    exact Text.Utf8.flatMap_decode_chunkAt positive uncut
  · intro i part isPart
    obtain ⟨inside, rfl⟩ := getElem?_map_range_eq_some_iff.mp isPart
    exact found _ (Plan.mem_numbered _ inside)

/-- A bytes message by default but for its body. -/
def withBody (body : Value) : Value :=
  .message (.fresh none) ⟨Message.defaultHeader (.text "ID:1") (.int 5), .bytes body⟩

theorem isMessage_withBody (body : Value) :
    (withBody body).IsMessage ⟨Message.defaultHeader (.text "ID:1") (.int 5), .bytes body⟩ :=
  ⟨⟨none, rfl⟩, fun _ => rfl⟩

/-- Chunks of three bytes and no prefixes. -/
def inThrees (rendering : Rendering) : Settings :=
  ⟨.text "", .text "", .text "", .int 3, rendering⟩

theorem hasTexts_inThrees (rendering : Rendering) : (inThrees rendering).HasTexts "" "" "" :=
  ⟨rfl, rfl, rfl⟩

/-- Six bytes in chunks of three, where the second and the last character are of two bytes and of
three. -/
theorem report_text_chunks_accented :
    ∃ (map : PropertyMap) (parts : List String),
      ((inThrees .text).flattener.report
          (withBody (.buffer .bytes (Text.Utf8.encode "né€".toList)))).outcome = .ok (some map)
        ∧ parts.length = 3
        ∧ String.join parts = "né€" := by
  have fits : (headerAndCustom (inThrees .text)
      (withBody (.buffer .bytes (Text.Utf8.encode "né€".toList)))).isOk = true := by
    decide +kernel
  obtain ⟨first, headed⟩ := Outcome.exists_of_isOk fits
  have uncut : Text.Utf8.Aligned "né€".toList 3 := by
    intro i positive bound
    have length : (Text.Utf8.encode "né€".toList).length / 3 = 2 := by decide +kernel
    obtain rfl | rfl : i = 1 ∨ i = 2 := by omega
    · exact Text.Utf8.not_splits_append ['n', 'é'] ['€']
    · exact Text.Utf8.not_splits_append ['n', 'é', '€'] []
  obtain ⟨map, parts, outcome, count, whole, -⟩ :=
    report_text_chunks (s := "né€") (hasTexts_inThrees .text) (show 0 < 3 by decide) rfl rfl
      (isMessage_withBody _) rfl rfl rfl headed (.inl uncut)
  exact ⟨map, parts, outcome, count, whole⟩

end Flatten

/-! ## Lengths -/

/-- The length of the chunk with `i` whole chunks before it. -/
def chunkLength (length size i : Nat) : Nat := if i < length / size then size else length % size

theorem chunkLength_le (length size i : Nat) : chunkLength length size i ≤ length := by
  unfold chunkLength
  split
  next whole =>
    have one : 1 * size ≤ length / size * size := Nat.mul_le_mul_right size (by omega)
    have division := Nat.div_mul_le_self length size
    omega
  next => exact Nat.mod_le length size

/-- The lengths of all chunks add up to the length of the body. -/
theorem sum_chunkLength (length size : Nat) :
    ((List.range (length / size + 1)).map (chunkLength length size)).sum = length := by
  -- All whole chunks are of the chunk size, and the last one is what remains.
  have wholes : (List.range (length / size)).map (chunkLength length size) =
      List.replicate (length / size) size := by
    rw [List.eq_replicate_iff]
    refine ⟨by simp, ?_⟩
    intro n member
    obtain ⟨i, inside, rfl⟩ := List.mem_map.mp member
    exact if_pos (List.mem_range.mp inside)
  have last : chunkLength length size (length / size) = length % size := if_neg (Nat.lt_irrefl _)
  rw [List.range_succ, List.map_append, wholes, List.map_singleton, last, List.sum_append,
    List.sum_replicate_nat, List.sum_singleton]
  exact Nat.div_add_mod' length size

/-- How the length of a chunk is shown. A whole chunk shows the chunk size as it was given, which
may be a truth value. -/
def lengthText (chunkSize : Value) (length size i : Nat) : String :=
  if i < length / size ∧ chunkSize.isTruth = true then "True"
  else toString (chunkLength length size i)

theorem lengthText_eq_true {chunkSize : Value} {length size i : Nat} (whole : i < length / size)
    (isTruth : chunkSize.isTruth = true) : lengthText chunkSize length size i = "True" :=
  if_pos ⟨whole, isTruth⟩

theorem lengthText_eq_toString {chunkSize : Value} {length size i : Nat}
    (other : i = length / size ∨ chunkSize.isTruth = false) :
    lengthText chunkSize length size i = toString (chunkLength length size i) := by
  refine if_neg fun shown => ?_
  rcases other with last | noTruth
  · omega
  · exact Bool.false_ne_true (noTruth.symm.trans shown.2)

namespace Plan

/-- A chunk that is shown by its length has that length for a text, however large the chunk size. -/
theorem chunkText_length {settings : Settings} {length size : Nat}
    (rendered : settings.rendering = .length) (positive : 0 < size)
    (integral : settings.chunkSize.integral? = some (size : Int))
    (reportable : (length : Int) < Value.lengthLimit) (held : Value) (i : Nat) :
    chunkText settings held length size i =
      .ok (.text (lengthText settings.chunkSize length size i)) := by
  have shown : (if i < length / size then settings.chunkSize
      else .int (length % size : Nat)).plain =
        .ok (lengthText settings.chunkSize length size i) := by
    have bound := chunkLength_le length size i
    unfold lengthText chunkLength at *
    split at bound
    next whole =>
      have short : (size : Int) < Value.lengthLimit := by omega
      simp only [whole, true_and, if_true]
      exact Value.plain_of_integral positive integral short
    next last =>
      simp only [last, false_and, if_false]
      exact Value.plain_natCast (by omega)
  rw [chunkText, rendered, Rendering.render, shown]
  rfl

end Plan

/-- A length that is shown as a number can be read back. -/
theorem readInteger?_lengthText {chunkSize : Value} {length size i : Nat}
    (reportable : (length : Int) < Value.lengthLimit)
    (other : i = length / size ∨ chunkSize.isTruth = false) :
    Text.readInteger? (lengthText chunkSize length size i) =
      some (chunkLength length size i : Int) := by
  have bound := chunkLength_le length size i
  rw [lengthText_eq_toString other]
  exact Text.readInteger?_of_integerText? (Value.integerText?_natCast (by omega))

/-- Two headers that read the same. Their properties need not be one table, only list the same
names and give the same values for them. -/
structure Header.Alike (one other : Header Value) : Prop where
  fields : { one with properties := other.properties } = other
  names : Message.entryNames one.properties = Message.entryNames other.properties
  entries : ∀ name, Message.getEntry one.properties name = Message.getEntry other.properties name

namespace Flatten

section
variable {settings : Settings} {value other held another : Value} {content second : Message Value}

/-- What comes before the body is read from the header alone. -/
theorem headerAndCustom_congr (isMessage : value.IsMessage content)
    (isOther : other.IsMessage second) (alike : content.header.Alike second.header) :
    headerAndCustom settings value = headerAndCustom settings other := by
  obtain ⟨header, payload⟩ := content
  obtain ⟨otherHeader, otherPayload⟩ := second
  obtain ⟨properties, rfl⟩ : ∃ properties, otherHeader = { header with properties } :=
    ⟨_, alike.fields.symm⟩
  have fields : ∀ entry ∈ headerEntries, value.field entry.field = other.field entry.field := by
    simp only [headerEntries, List.forall_mem_cons]
    refine ⟨?_, ?_, ?_, ?_, ?_, ?_, ?_, ?_, ?_, ?_, by simp⟩ <;>
      rw [isMessage.field (by decide) rfl, isOther.field (by decide) rfl]
  have headers : headerContributions settings value = headerContributions settings other := by
    rw [headerContributions, headerContributions, Outcome.mapM_congr fun entry member => ?_]
    rw [HeaderEntry.contributions, HeaderEntry.contributions, fields entry member]
  -- The properties may be two tables, but all that is done with them is to list and look up.
  have stored : storedContribution .property settings.customPrefix value header.properties =
      storedContribution .property settings.customPrefix other properties := by
    funext name
    rw [storedContribution, storedContribution, isMessage.checkCallable, isOther.checkCallable,
      alike.entries name]
  have custom : storeContributions .property settings.customPrefix value =
      storeContributions .property settings.customPrefix other := by
    rw [storeContributions, storeContributions, isMessage.storeThrough rfl,
      isOther.storeThrough rfl, Outcome.ok_bind, Outcome.ok_bind, alike.names, stored]
  rw [headerAndCustom, headerAndCustom, headers, custom]

/-- A chunk that is shown by its length does not depend on the body. -/
theorem chunkContribution_length (rendered : settings.rendering = .length) (held another : Value) :
    chunkContribution settings (.ok held) = chunkContribution settings (.ok another) := by
  funext shown
  rw [chunkContribution, chunkContribution, rendered]
  rfl

theorem payloadContributions_length (rendered : settings.rendering = .length)
    (isMessage : value.IsMessage content) (isOther : other.IsMessage second)
    (isBytes : content.payload = .bytes held) (areBytes : second.payload = .bytes another)
    (sameLength : held.length = another.length) :
    payloadContributions settings .bytes value = payloadContributions settings .bytes other := by
  simp only [payloadContributions, bytesContributions, isMessage.field_body isBytes,
    isOther.field_body areBytes, chunkContribution_length rendered held another,
    isMessage.field_body_length isBytes, isOther.field_body_length areBytes, sameLength]

/-- Nothing that a report says depends on what a body holds, not even where it fails. -/
theorem report_congr_length (rendered : settings.rendering = .length)
    (isMessage : value.IsMessage content) (isOther : other.IsMessage second)
    (isBytes : content.payload = .bytes held) (areBytes : second.payload = .bytes another)
    (alike : content.header.Alike second.header) (sameClass : value.className = other.className)
    (sameLength : held.length = another.length) :
    settings.flattener.report value = settings.flattener.report other := by
  have shape : Shape.of? value = some (.message .bytes) := by
    rw [isMessage.shapeOf, Message.kind, isBytes]
    rfl
  have otherShape : Shape.of? other = some (.message .bytes) := by
    rw [isOther.shapeOf, Message.kind, areBytes]
    rfl
  have listed : (Shape.message .bytes).contributions settings.flattener value =
      (Shape.message .bytes).contributions settings.flattener other := by
    rw [Shape.contributions, Shape.contributions, messageContributions_flattener,
      messageContributions_flattener, headerAndCustom_congr isMessage isOther alike,
      payloadContributions_length rendered isMessage isOther isBytes areBytes sameLength]
  -- What is logged counts the chunks, for which the length is enough.
  have logged : splitRecords settings value = splitRecords settings other := by
    rw [splitRecords, splitRecords, isMessage.field_body_length isBytes,
      isOther.field_body_length areBytes, sameLength]
  have flattened : flattenAs settings.flattener (.message .bytes) value =
      flattenAs settings.flattener (.message .bytes) other := by
    rw [flattenAs, flattenAs, listed]
    simp only [Settings.flattener, logged]
  rw [Flattener.report, Flattener.report, shape, otherShape, sameClass]
  simp only [flattened]

/-- A bytes message whose chunks are shown by their lengths is flattened whatever its body is. -/
theorem report_length_texts {header custom body : String} {size length : Nat}
    {first : List Contribution} (texts : settings.HasTexts header custom body)
    (positive : 0 < size) (integral : settings.chunkSize.integral? = some (size : Int))
    (rendered : settings.rendering = .length) (isMessage : value.IsMessage content)
    (isBytes : content.payload = .bytes held) (measured : held.length = .ok length)
    (reportable : (length : Int) < Value.lengthLimit)
    (headed : headerAndCustom settings value = .ok first) :
    ∃ map : PropertyMap, (settings.flattener.report value).outcome = .ok (some map)
      ∧ ∀ i < length / size + 1,
        Table.find? (.text (body ++ "JMSBytes:" ++ toString (i + 1))) map =
          some (.text (lengthText settings.chunkSize length size i)) := by
  have shown := Plan.chunkText_length rendered positive integral reportable held
  obtain ⟨map, outcome, found, -⟩ := report_written_chunks texts positive integral isMessage
    isBytes measured headed (Plan.write_chunks (fun i _ => shown i) body)
  exact ⟨map, outcome, fun i inside => found _ (Plan.mem_numbered _ inside)⟩

/-- The lengths that are shown of chunks add up to the length of the body. -/
theorem report_chunk_lengths {header custom body : String} {size length : Nat}
    {first : List Contribution} (texts : settings.HasTexts header custom body)
    (positive : 0 < size) (integral : settings.chunkSize.integral? = some (size : Int))
    (rendered : settings.rendering = .length) (isMessage : value.IsMessage content)
    (isBytes : content.payload = .bytes held) (measured : held.length = .ok length)
    (reportable : (length : Int) < Value.lengthLimit)
    (headed : headerAndCustom settings value = .ok first) :
    ∃ (map : PropertyMap) (sizes : List Nat),
      (settings.flattener.report value).outcome = .ok (some map)
        ∧ sizes.length = length / size + 1
        ∧ sizes.sum = length
        ∧ ∀ i n, sizes[i]? = some n →
          (i < length / size → n = size) ∧ (i = length / size → n < size)
            ∧ ∃ text, Table.find? (.text (body ++ "JMSBytes:" ++ toString (i + 1))) map =
                some (.text text)
              ∧ (i < length / size → settings.chunkSize.isTruth = true → text = "True")
              ∧ (i = length / size ∨ settings.chunkSize.isTruth = false →
                Text.readInteger? text = some n) := by
  obtain ⟨map, outcome, found⟩ := report_length_texts texts positive integral rendered isMessage
    isBytes measured reportable headed
  refine ⟨map, (List.range (length / size + 1)).map (chunkLength length size), outcome, by simp,
    sum_chunkLength length size, ?_⟩
  intro i n isPart
  obtain ⟨inside, rfl⟩ := getElem?_map_range_eq_some_iff.mp isPart
  refine ⟨fun whole => if_pos whole, fun last => ?_, _, found i inside, lengthText_eq_true,
    readInteger?_lengthText reportable⟩
  -- Only the last chunk is shorter than the chunk size, be it empty.
  rw [chunkLength, if_neg (by omega)]
  exact Nat.mod_lt length positive

/-- Chunks that are shown by their lengths say nothing else about a body: two bytes messages with
headers that read the same and with bodies of one length have the same report, whether it is a map
or a fault. Where the header map can be built it is a map. The lengths of its chunks are the chunk
size for all but the last and add up to the length of the body, and they can be read back. Only a
chunk size that is a truth value is shown as one. -/
theorem report_length_chunks {header custom body : String} {size : Nat}
    (texts : settings.HasTexts header custom body) (positive : 0 < size)
    (integral : settings.chunkSize.integral? = some (size : Int))
    (rendered : settings.rendering = .length)
    (isMessage : value.IsMessage content) (isOther : other.IsMessage second)
    (isBytes : content.payload = .bytes held) (areBytes : second.payload = .bytes another)
    (alike : content.header.Alike second.header) (sameClass : value.className = other.className)
    (sameLength : held.length = another.length) :
    settings.flattener.report value = settings.flattener.report other
      ∧ ∀ length first, held.length = .ok length → (length : Int) < Value.lengthLimit →
        headerAndCustom settings value = .ok first →
        ∃ (map : PropertyMap) (sizes : List Nat),
          (settings.flattener.report value).outcome = .ok (some map)
            ∧ sizes.length = length / size + 1
            ∧ sizes.sum = length
            ∧ ∀ i n, sizes[i]? = some n →
              (i < length / size → n = size) ∧ (i = length / size → n < size)
                ∧ ∃ text, Table.find? (.text (body ++ "JMSBytes:" ++ toString (i + 1))) map =
                    some (.text text)
                  ∧ (i < length / size → settings.chunkSize.isTruth = true → text = "True")
                  ∧ (i = length / size ∨ settings.chunkSize.isTruth = false →
                    Text.readInteger? text = some n) := by
  refine ⟨?_, fun length first measured reportable headed => ?_⟩
  · exact report_congr_length rendered isMessage isOther isBytes areBytes alike sameClass
      sameLength
  · exact report_chunk_lengths texts positive integral rendered isMessage isBytes measured
      reportable headed

end

/-- Seven bytes, and something of length seven that cannot be cut, are both two chunks of three and
one of one. -/
theorem report_length_chunks_withheld :
    (inThrees .length).flattener.report (withBody (.buffer .bytes [1, 2, 3, 4, 5, 6, 7])) =
        (inThrees .length).flattener.report (withBody (.sized 0 7))
      ∧ ∃ (map : PropertyMap) (sizes : List Nat),
        ((inThrees .length).flattener.report (withBody (.sized 0 7))).outcome = .ok (some map)
          ∧ sizes = [3, 3, 1] := by
  have fits : (headerAndCustom (inThrees .length)
      (withBody (.buffer .bytes [1, 2, 3, 4, 5, 6, 7]))).isOk = true := by decide +kernel
  obtain ⟨first, headed⟩ := Outcome.exists_of_isOk fits
  obtain ⟨same, whole⟩ :=
    report_length_chunks (hasTexts_inThrees .length) (show 0 < 3 by decide) rfl rfl
      (isMessage_withBody (.buffer .bytes [1, 2, 3, 4, 5, 6, 7])) (isMessage_withBody (.sized 0 7))
      rfl rfl ⟨rfl, rfl, fun _ => rfl⟩ rfl rfl
  obtain ⟨map, sizes, outcome, count, total, each⟩ :=
    whole 7 first rfl (by decide) headed
  obtain ⟨a, b, c, rfl⟩ := List.length_eq_three.mp count
  have one : a = 3 := (each 0 a rfl).1 (by decide)
  have two : b = 3 := (each 1 b rfl).1 (by decide)
  subst one two
  have last : c = 1 := by
    simp only [List.sum_cons, List.sum_nil] at total
    omega
  exact ⟨same, map, [3, 3, c], same ▸ outcome, by rw [last]⟩

/-- One byte in chunks of a truth value: the whole chunk shows no number. -/
theorem report_length_chunks_truth_value :
    ∃ map : PropertyMap,
      ((Settings.mk (.text "") (.text "") (.text "") (.bool true) .length).flattener.report
          (withBody (.buffer .bytes [97]))).outcome = .ok (some map)
        ∧ Table.find? (.text "JMSBytes:1") map = some (.text "True")
        ∧ Text.readInteger? "True" = none := by
  have fits : (headerAndCustom (Settings.mk (.text "") (.text "") (.text "") (.bool true) .length)
      (withBody (.buffer .bytes [97]))).isOk = true := by decide +kernel
  obtain ⟨first, headed⟩ := Outcome.exists_of_isOk fits
  obtain ⟨map, outcome, found⟩ :=
    report_length_texts ⟨rfl, rfl, rfl⟩ (show 0 < 1 by decide) rfl rfl (isMessage_withBody _) rfl
      rfl (show ((1 : Nat) : Int) < Value.lengthLimit by decide) headed
  exact ⟨map, outcome, found 0 (by decide), by decide +kernel⟩

end Flatten
end BrokerMaps
