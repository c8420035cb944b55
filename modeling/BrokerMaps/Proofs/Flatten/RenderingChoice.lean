import BrokerMaps.Proofs.Flatten.Renderings

/-!
# The choice of a rendering

A body is cut into the same parts whatever they are rendered as, so settings that differ in nothing
but the rendering flatten a bytes message into maps that differ in nothing but the values of its
chunks.

## Main result

`Flatten.report_rendering_choice`: under all renderings a bytes message fails with one fault or is
flattened into maps with the same keys in the same order. The chunks of these maps stand for the
same parts of the body, and everything else in them is the same. Only a chunk size that is a truth
value is shown as one.

## Proof strategy

`Plan.chunkText_eq` is the one place where the renderings are looked at: the two of them that cut
the body and the one that trusts the size of the span have the same part of the body in common.
The map is then built from the header map, which no rendering takes part in, and from numbered
chunks (`chunkMap`), whose keys come from their numbers.
-/
namespace BrokerMaps

/-- What stands for a part of a body in the map, given how its length is shown. -/
def Rendering.ofPart (shownLength : String) : Rendering → List UInt8 → String
  | .text, part => String.ofList (Text.Utf8.decode part)
  | .base64, part => String.ofList (Text.Base64.encode part)
  | .length, _ => shownLength

/-- However the chunks of a buffer are rendered, each is told from its part of the body. -/
theorem Plan.chunkText_eq {settings : Settings} {held : Value} {kind : BufferKind}
    {bytes : List UInt8} {size : Nat} (positive : 0 < size)
    (integral : settings.chunkSize.integral? = some (size : Int))
    (isBuffer : held.opened = .buffer kind bytes) (bytewise : kind.format = .byte)
    (reportable : (bytes.length : Int) < Value.lengthLimit) (i : Nat) :
    chunkText settings held bytes.length size i =
      .ok (.text (settings.rendering.ofPart (lengthText settings.chunkSize bytes.length size i)
        (chunkAt bytes size i))) := by
  cases rendered : settings.rendering with
  | text => exact chunkText_text rendered isBuffer bytewise size i
  | base64 => exact chunkText_base64 rendered isBuffer bytewise size i
  | length => exact chunkText_length rendered positive integral reportable held i

namespace Flatten

/-- The keys of chunks under a prefix, which are numbered from one. -/
def chunkKeys (lead : String) (count : Nat) : List String :=
  (List.range count).map fun i => lead ++ "JMSBytes:" ++ toString (i + 1)

/-- The map of a bytes message that has the prefix `body`: the chunks are set in the header map. -/
def chunkMap (first : List Contribution) (body : String) (bytes : List UInt8) (size : Nat)
    (chunkSize : Value) (rendering : Rendering) : PropertyMap :=
  Table.insertAll (Table.insertAll [] first) <| Table.ofNamed <|
    Plan.numbered body (bytes.length / size + 1) fun i =>
      rendering.ofPart (lengthText chunkSize bytes.length size i) (chunkAt bytes size i)

section
variable {settings : Settings} {header custom body : String} {size : Nat} {value held : Value}
  {content : Message Value} {kind : BufferKind} {bytes : List UInt8} {first : List Contribution}
  (chunkSize : Value)

theorem keys_numbered (lead : String) (count : Nat) (text : Nat → String) :
    (Plan.numbered lead count text).map (·.1) = chunkKeys lead count := by
  simp only [Plan.numbered, chunkKeys, List.map_map, Plan.chunkName, String.append_assoc]
  rfl

theorem nodup_chunkKeys (lead : String) (count : Nat) : (chunkKeys lead count).Nodup := by
  rw [← keys_numbered lead count fun _ => ""]
  simp only [Plan.numbered, List.map_map]
  apply List.nodup_range.map
  intro i j same
  exact Plan.chunkName_injective ((String.append_right_inj lead).mp same)

/-! ## Maps -/

theorem keys_chunkMap (first : List Contribution) (body : String) (bytes : List UInt8)
    (size : Nat) (rendering other : Rendering) :
    (chunkMap first body bytes size chunkSize rendering).map (·.1) =
      (chunkMap first body bytes size chunkSize other).map (·.1) := by
  apply Table.keys_insertAll_congr rfl
  rw [Table.keys_ofNamed, Table.keys_ofNamed, keys_numbered, keys_numbered]

theorem find?_chunkMap (headed : Table.TextKeyed (Table.insertAll [] first)) (body : String)
    (rendering : Rendering) {i : Nat} (inside : i < bytes.length / size + 1) :
    Table.find? (.text (body ++ "JMSBytes:" ++ toString (i + 1)))
        (chunkMap first body bytes size chunkSize rendering) =
      some (.text (rendering.ofPart (lengthText chunkSize bytes.length size i)
        (chunkAt bytes size i))) := by
  have nodup := nodup_chunkKeys body (bytes.length / size + 1)
  rw [← keys_numbered body _ fun i =>
    rendering.ofPart (lengthText chunkSize bytes.length size i) (chunkAt bytes size i)] at nodup
  exact Table.find?_insertAll_of_mem headed nodup (Plan.mem_numbered _ inside)

theorem textKeyed_chunkMap (headed : Table.TextKeyed (Table.insertAll [] first)) (body : String)
    (bytes : List UInt8) (size : Nat) (rendering : Rendering) :
    Table.TextKeyed (chunkMap first body bytes size chunkSize rendering) :=
  Table.textKeyed_insertAll headed _

/-- A key of no chunk is found as it is in the header map. -/
theorem find?_chunkMap_of_other (headed : Table.TextKeyed (Table.insertAll [] first))
    (rendering : Rendering) {key : String}
    (other : key ∉ chunkKeys body (bytes.length / size + 1)) :
    Table.find? (.text key) (chunkMap first body bytes size chunkSize rendering) =
      Table.find? (.text key) (Table.insertAll [] first) := by
  apply Table.find?_insertAll_of_not_mem headed
  rwa [keys_numbered]

/-- The chunks of a map are as many as there are spans. -/
theorem countP_chunkMap (headed : Table.TextKeyed (Table.insertAll [] first)) (body : String)
    (bytes : List UInt8) (size : Nat) (rendering : Rendering) :
    (chunkMap first body bytes size chunkSize rendering).countP (fun entry =>
      (chunkKeys body (bytes.length / size + 1)).any fun key => entry.1.same (.text key)) =
      bytes.length / size + 1 := by
  have texts := textKeyed_chunkMap chunkSize headed body bytes size rendering
  have distinct : Table.Distinct (chunkMap first body bytes size chunkSize rendering) :=
    Table.distinct_insertAll (Table.distinct_insertAll List.Pairwise.nil _) _
  have count : (chunkKeys body (bytes.length / size + 1)).length = bytes.length / size + 1 := by
    simp [chunkKeys]
  rw [Table.countP_eq_length texts distinct (nodup_chunkKeys body _), count]
  intro key member
  obtain ⟨i, counted, rfl⟩ := List.mem_map.mp member
  rw [find?_chunkMap chunkSize headed body rendering (List.mem_range.mp counted)]
  rfl

end

/-! ## Reports -/

section
variable {settings : Settings} {header custom body : String} {size : Nat} {value held : Value}
  {content : Message Value} {kind : BufferKind} {bytes : List UInt8} {first : List Contribution}

/-- No rendering takes part in what comes before the body. -/
theorem headerAndCustom_rendering (settings : Settings) (rendering : Rendering) (value : Value) :
    headerAndCustom { settings with rendering } value = headerAndCustom settings value := rfl

/-- A header that cannot be read is the fault of the whole. -/
theorem outcome_of_header_error (isMessage : value.IsMessage content) {fault : Fault}
    (failed : headerAndCustom settings value = .error fault) :
    (settings.flattener.report value).outcome = .error (wrapFault value.className fault) := by
  have listed : messageContributions settings.flattener content.kind value = .error fault := by
    rw [messageContributions_flattener, failed]
    rfl
  rw [outcome_report isMessage.shapeOf, Shape.contributions, listed]

theorem outcome_eq_chunkMap (texts : settings.HasTexts header custom body) (positive : 0 < size)
    (integral : settings.chunkSize.integral? = some (size : Int))
    (isMessage : value.IsMessage content) (isBytes : content.payload = .bytes held)
    (isBuffer : held.opened = .buffer kind bytes) (bytewise : kind.format = .byte)
    (reportable : (bytes.length : Int) < Value.lengthLimit)
    (headed : headerAndCustom settings value = .ok first) :
    (settings.flattener.report value).outcome =
      .ok (some (chunkMap first body bytes size settings.chunkSize settings.rendering)) := by
  have measured : held.length = .ok bytes.length := by
    simp [Value.length, isBuffer, kind.count_of_bytewise bytewise]
  have written := Plan.write_chunks
    (fun i _ => Plan.chunkText_eq positive integral isBuffer bytewise reportable i) body
  exact outcome_written_chunks texts positive integral isMessage isBytes measured headed written

/-- What is logged counts as many chunks as there are spans. -/
theorem splitRecords_eq (integral : settings.chunkSize.integral? = some (size : Int))
    (isMessage : value.IsMessage content) (isBytes : content.payload = .bytes held)
    (isBuffer : held.opened = .buffer kind bytes) (bytewise : kind.format = .byte) :
    splitRecords settings value = [⟨flattenLogger, .number debugLevel,
      "Split " ++ toString bytes.length ++ " body bytes into "
        ++ toString (bytes.length / size + 1) ++ " chunk(s)"⟩] := by
  have measured : value.field "body_length" = .ok (.int bytes.length) := by
    rw [isMessage.field_body_length isBytes, Value.length, isBuffer]
    simp only [kind.count_of_bytewise bytewise]
    rfl
  rw [splitRecords, measured, integral]
  simp only [Except.toOption, Option.bind_some, Value.integral?, ← Int.ofNat_fdiv]
  rfl

/-- Under settings that differ in the rendering alone, a bytes message whose body is read byte by
byte either fails with one fault or is flattened into maps with the same keys in the same order.
What is found under a key of no chunk is the same in all of them. The chunks are parts that together
are the body, and each map has one entry for each of them: what decodes to the part, its text, or
its length, shown in decimal unless it is a truth value. That many chunks are logged, too. -/
theorem report_rendering_choice (texts : settings.HasTexts header custom body)
    (positive : 0 < size) (integral : settings.chunkSize.integral? = some (size : Int))
    (isMessage : value.IsMessage content) (isBytes : content.payload = .bytes held)
    (isBuffer : held.opened = .buffer kind bytes) (bytewise : kind.format = .byte)
    (reportable : (bytes.length : Int) < Value.lengthLimit) :
    (∃ fault, ∀ rendering : Rendering,
        ({ settings with rendering }.flattener.report value).outcome = .error fault)
      ∨ ∃ (maps : Rendering → PropertyMap) (parts : List (List UInt8)),
        parts.length = bytes.length / size + 1
          ∧ parts.flatten = bytes
          ∧ (∀ rendering : Rendering,
            ({ settings with rendering }.flattener.report value).outcome =
                .ok (some (maps rendering))
              ∧ Table.TextKeyed (maps rendering)
              ∧ ({ settings with rendering }.flattener.report value).records =
                [⟨flattenLogger, .number debugLevel,
                  "Split " ++ toString bytes.length ++ " body bytes into "
                    ++ toString parts.length ++ " chunk(s)"⟩]
              ∧ (maps rendering).countP (fun entry =>
                (chunkKeys body parts.length).any fun key => entry.1.same (.text key)) =
                  parts.length)
          ∧ (∀ rendering other,
            (maps rendering).map (·.1) = (maps other).map (·.1)
              ∧ ∀ key ∉ chunkKeys body parts.length,
                Table.find? (.text key) (maps rendering) = Table.find? (.text key) (maps other))
          ∧ ∀ i part, parts[i]? = some part →
            (∃ encoded, Table.find? (.text (body ++ "JMSBytes:" ++ toString (i + 1)))
                (maps .base64) = some (.text encoded)
              ∧ Text.Base64.decode? encoded.toList = some part)
            ∧ (∃ shown, Table.find? (.text (body ++ "JMSBytes:" ++ toString (i + 1)))
                (maps .length) = some (.text shown)
              ∧ (i < bytes.length / size → settings.chunkSize.isTruth = true → shown = "True")
              ∧ (i = bytes.length / size ∨ settings.chunkSize.isTruth = false →
                shown = toString part.length))
            ∧ Table.find? (.text (body ++ "JMSBytes:" ++ toString (i + 1))) (maps .text) =
              some (.text (String.ofList (Text.Utf8.decode part))) := by
  have hasTexts : ∀ rendering : Rendering,
      { settings with rendering }.HasTexts header custom body :=
    fun _ => ⟨texts.header, texts.custom, texts.body⟩
  -- No rendering takes part in the header map, so if it fails it fails under all of them.
  have before := fun rendering => headerAndCustom_rendering settings rendering value
  cases headed : headerAndCustom settings value with
  | error fault =>
    refine .inl ⟨wrapFault value.className fault, fun rendering => ?_⟩
    exact outcome_of_header_error isMessage ((before rendering).trans headed)
  | ok first =>
    right
    have headerTexts := textKeyed_headerMap texts headed
    have outcome : ∀ rendering : Rendering,
        ({ settings with rendering }.flattener.report value).outcome =
          .ok (some (chunkMap first body bytes size settings.chunkSize rendering)) :=
      fun rendering => outcome_eq_chunkMap (hasTexts rendering) positive integral isMessage isBytes
        isBuffer bytewise reportable ((before rendering).trans headed)
    have shape : Shape.of? value = some (.message .bytes) := by
      rw [isMessage.shapeOf, Message.kind, isBytes]
      rfl
    have count : ((List.range (bytes.length / size + 1)).map (chunkAt bytes size)).length =
        bytes.length / size + 1 := by simp
    -- The parts are the chunks of the body, which no rendering changes either.
    refine ⟨chunkMap first body bytes size settings.chunkSize,
      (List.range (bytes.length / size + 1)).map (chunkAt bytes size), count, ?_, ?_, ?_, ?_⟩
    · rw [← List.flatMap_def, flatMap_chunkAt bytes positive]
    · intro rendering
      rw [count]
      refine ⟨outcome rendering, textKeyed_chunkMap _ headerTexts body bytes size rendering, ?_,
        countP_chunkMap _ headerTexts body bytes size rendering⟩
      rw [records_report shape (outcome rendering)]
      exact splitRecords_eq integral isMessage isBytes isBuffer bytewise
    · intro rendering other
      rw [count]
      refine ⟨keys_chunkMap _ first body bytes size rendering other, fun key beside => ?_⟩
      rw [find?_chunkMap_of_other _ headerTexts rendering beside,
        find?_chunkMap_of_other _ headerTexts other beside]
    · intro i part isPart
      obtain ⟨inside, rfl⟩ := getElem?_map_range_eq_some_iff.mp isPart
      have found := fun rendering =>
        find?_chunkMap settings.chunkSize headerTexts body rendering inside
      have cut : (chunkAt bytes size i).length = chunkLength bytes.length size i :=
        length_chunkAt_eq bytes positive inside
      refine ⟨⟨_, found .base64, ?_⟩, ⟨_, found .length, lengthText_eq_true, ?_⟩, found .text⟩
      · rw [Rendering.ofPart, String.toList_ofList, Text.Base64.decode?_encode]
      · exact cut ▸ lengthText_eq_toString

end

/-- Four bytes in a view are a chunk of three and one of one under all renderings. -/
theorem report_rendering_choice_view :
    ∃ (maps : Rendering → PropertyMap) (parts : List (List UInt8)),
      parts.length = 2
        ∧ parts.flatten = [104, 195, 169, 33]
        ∧ (∀ rendering, ((inThrees rendering).flattener.report
            (withBody (.buffer (.view .ofBytes) [104, 195, 169, 33]))).outcome
          = .ok (some (maps rendering)))
        ∧ ∀ part, parts[1]? = some part →
          Table.find? (.text "JMSBytes:2") (maps .length) =
            some (.text (toString part.length)) := by
  have fits : ((inThrees .text).flattener.report
      (withBody (.buffer (.view .ofBytes) [104, 195, 169, 33]))).outcome.isOk = true := by
    decide +kernel
  obtain ⟨map, flattened⟩ := Outcome.exists_of_isOk fits
  rcases report_rendering_choice (hasTexts_inThrees .text) (show 0 < 3 by decide) rfl
      (isMessage_withBody (.buffer (.view .ofBytes) [104, 195, 169, 33])) rfl rfl rfl
      (by decide) with
    ⟨fault, failed⟩ | ⟨maps, parts, count, whole, reports, -, each⟩
  · cases (failed .text).symm.trans flattened
  · refine ⟨maps, parts, count, whole, fun rendering => (reports rendering).1, ?_⟩
    intro part isPart
    obtain ⟨-, ⟨shown, found, -, decimal⟩, -⟩ := each 1 part isPart
    obtain rfl := decimal (.inr rfl)
    exact found

/-- A body of one byte in chunks of a truth value, and three items of four bytes each in pairs: what
is shown for the first chunk is not how many bytes it is, one here and eight there. -/
theorem report_rendering_choice_truth_value :
    let single : Settings := ⟨.text "", .text "", .text "", .bool true, .length⟩
    let wide : Message Value :=
      bodied (.view ⟨.wide 2 true, true⟩) [1, 0, 0, 0, 2, 0, 0, 0, 3, 0, 0, 0]
    (∃ map : PropertyMap,
        (single.flattener.report (withBody (.buffer .bytes [97]))).outcome = .ok (some map)
          ∧ Table.find? (.text "JMSBytes:1") map = some (.text "True"))
      ∧ ∃ (map encoded : PropertyMap) (text : String) (part : List UInt8),
        ({ pairwise with rendering := .length }.flattener.report
            (.message (.fresh none) wide)).outcome = .ok (some map)
          ∧ Table.find? (.text "JMSBytes:1") map = some (.text "2")
          ∧ (pairwise.flattener.report (.message (.fresh none) wide)).outcome = .ok (some encoded)
          ∧ Table.find? (.text "JMSBytes:1") encoded = some (.text text)
          ∧ Text.Base64.decode? text.toList = some part ∧ part.length = 8 := by
  intro single wide
  constructor
  · have fits : (headerAndCustom single (withBody (.buffer .bytes [97]))).isOk = true := by
      decide +kernel
    obtain ⟨first, headed⟩ := Outcome.exists_of_isOk fits
    obtain ⟨map, outcome, found⟩ :=
      report_length_texts ⟨rfl, rfl, rfl⟩ (show 0 < 1 by decide) rfl rfl (isMessage_withBody _) rfl
        rfl (show ((1 : Nat) : Int) < Value.lengthLimit by decide) headed
    exact ⟨map, outcome, found 0 (by decide)⟩
  · have isMessage : (Value.message (.fresh none) wide).IsMessage wide :=
      ⟨⟨none, rfl⟩, fun _ => rfl⟩
    have fits : (headerAndCustom pairwise (.message (.fresh none) wide)).isOk = true := by
      decide +kernel
    obtain ⟨first, headed⟩ := Outcome.exists_of_isOk fits
    have texts : { pairwise with rendering := .length }.HasTexts "" "" "" := ⟨rfl, rfl, rfl⟩
    -- What is shown counts items, of which there are three.
    obtain ⟨map, outcome, found⟩ :=
      report_length_texts texts (show 0 < 2 by decide) rfl rfl isMessage rfl rfl
        (show ((3 : Nat) : Int) < Value.lengthLimit by decide)
        ((headerAndCustom_rendering pairwise .length _).trans headed)
    -- What is cut out are the bytes of as many items.
    have written : (Plan.chunks pairwise
        (.buffer (.view ⟨.wide 2 true, true⟩) [1, 0, 0, 0, 2, 0, 0, 0, 3, 0, 0, 0]) 3 2).write "" =
          .ok [("JMSBytes:1", .text (String.ofList (Text.Base64.encode [1, 0, 0, 0, 2, 0, 0, 0]))),
            ("JMSBytes:2", .text (String.ofList (Text.Base64.encode [3, 0, 0, 0])))] := rfl
    obtain ⟨encoded, outcomeToo, foundToo, -⟩ :=
      report_written_chunks ⟨rfl, rfl, rfl⟩ (show 0 < 2 by decide) rfl isMessage rfl rfl headed
        written
    refine ⟨map, encoded, _, [1, 0, 0, 0, 2, 0, 0, 0], outcome, found 0 (by decide), outcomeToo,
      foundToo _ (.head _), ?_, rfl⟩
    rw [String.toList_ofList, Text.Base64.decode?_encode]

end Flatten
end BrokerMaps
