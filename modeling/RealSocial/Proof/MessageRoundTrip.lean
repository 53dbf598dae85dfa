import RealSocial.Proof.MessageLength
import RealSocial.Protoc.Classes

namespace RealSocial.Proof

open Library GPBCodedOutputStream GPBCodedInputStream GPBMessage

/-! # Round trips

What holds of the messages of every class. -/

theorem mergeFromData_eq {d : GPBDescriptor} (well : WellFormed d) (message : GPBMessage d) (data : NSData) :
    mergeFromData d message data = (wireFields 0 data).bind (mergeFieldList d 0 message) :=
  mergeData_eq well 0 message data

theorem data_eq (d : GPBDescriptor) (message : GPBMessage d) :
    data d message = some (writeToCodedOutputStream d message) := by
  rw [data, writeToBuffer, length_write, if_pos le_rfl, Nat.sub_self, List.replicate_zero, List.append_nil]

theorem mergeFromData_write {d : GPBDescriptor} (well : WellFormed d) (message : GPBMessage d)
    {other : GPBMessage d} (apart : UnknownApart d other) (short : serializedSize d other < 2 ^ 31) :
    mergeFromData d message (writeToCodedOutputStream d other) =
      if nesting d other ≤ defaultRecursionLimit then some (mergeFrom d message other) else none := by
  rw [mergeFromData_eq well]
  exact merge_wireFields (Nat.zero_le _) message short fun low =>
    mergeFieldList_fieldList well message low apart (fits_of_size short)

/-- A message is read back as it was exactly when the messages in it are not too deep. -/
theorem parse_data {d : GPBDescriptor} (well : WellFormed d) {message : GPBMessage d}
    (apart : UnknownApart d message) (short : serializedSize d message < 2 ^ 31) :
    ∃ bytes, data d message = some bytes ∧ bytes.length = serializedSize d message ∧
      parseFromData d bytes = if nesting d message ≤ defaultRecursionLimit then some message else none := by
  refine ⟨_, data_eq d message, length_write d message, ?_⟩
  rw [parseFromData, mergeFromData_write well _ apart short, mergeFrom_init]

theorem parse_data_pair : ∃ bytes, data RSIdPair.descriptor (some 7, some "a", ∅) = some bytes ∧
    bytes.length = serializedSize RSIdPair.descriptor (some 7, some "a", ∅) ∧
    parseFromData RSIdPair.descriptor bytes =
      if nesting RSIdPair.descriptor (some 7, some "a", ∅) ≤ defaultRecursionLimit then
        some (some 7, some "a", ∅) else none :=
  parse_data (by decide) (by decide) (by decide)

-- an unknown group is kept when the end of it is its own
example : (parseFromData RSIdPair.descriptor [27, 28]).isSome ∧ parseFromData RSIdPair.descriptor [27, 36] = none := by
  decide

/-- Merging the bytes of a message is merging the message. -/
theorem mergeFromData_data {d : GPBDescriptor} (well : WellFormed d) (message : GPBMessage d)
    {other : GPBMessage d} (apart : UnknownApart d other) (short : serializedSize d other < 2 ^ 31)
    (shallow : nesting d other ≤ defaultRecursionLimit) :
    (data d other).bind (mergeFromData d message) = some (mergeFrom d message other) := by
  rw [data_eq, Option.bind_some, mergeFromData_write well message apart short, if_pos shallow]

theorem mergeFromData_data_pair :
    (data RSIdPair.descriptor (none, some "a", ∅)).bind (mergeFromData RSIdPair.descriptor (some 7, some "b", ∅)) =
      some (mergeFrom RSIdPair.descriptor (some 7, some "b", ∅) (none, some "a", ∅)) :=
  mergeFromData_data (by decide) _ (by decide) (by decide) (by decide)

/-! ## Bytes one after the other -/

/-- What a reader has read does not depend on the bytes after it. -/
def Onward {α : Type} (read : NSData → Option (α × NSData)) : Prop :=
  ∀ left value rest, read left = some (value, rest) → ∀ more, read (left ++ more) = some (value, rest ++ more)

theorem onward_map {α β : Type} {read : NSData → Option (α × NSData)} (onward : Onward read) (f : α → β) :
    Onward fun left => (read left).map fun result => (f result.1, result.2) := by
  intro left value rest found more
  obtain ⟨result, first, same⟩ := Option.map_eq_some_iff.mp found
  obtain ⟨rfl, rfl⟩ := Prod.mk.inj same
  simp only [onward _ _ _ first more, Option.map_some]

theorem onward_bind {α β : Type} {read : NSData → Option (α × NSData)} (onward : Onward read)
    {next : α → NSData → Option (β × NSData)} (later : ∀ value, Onward (next value)) :
    Onward fun left => (read left).bind fun result => next result.1 result.2 := by
  intro left value rest found more
  obtain ⟨result, first, second⟩ := Option.bind_eq_some_iff.mp found
  simp only [onward _ _ _ first more, Option.bind_some, later result.1 _ _ _ second more]

theorem onward_readRawVarint64 : Onward readRawVarint64 := by
  have rounds (left : NSData) (shift : Nat) (result value : UInt64) (rest more : NSData)
      (found : readRawVarint64From shift result left = some (value, rest)) :
      readRawVarint64From shift result (left ++ more) = some (value, rest ++ more) := by
    induction left generalizing shift result with
    | nil => cases found
    | cons b left ih =>
        rw [List.cons_append]
        rw [readRawVarint64From] at found ⊢
        split_ifs at found ⊢ with short last
        · obtain ⟨rfl, rfl⟩ := Prod.mk.inj (Option.some.inj found)
          rfl
        · exact ih _ _ found
  exact fun left value rest found more => rounds left 0 0 value rest more found

theorem onward_readRaw (size : Nat) : Onward fun left => readRaw left size := by
  intro left value rest found more
  simp only [readRaw] at found ⊢
  split_ifs at found with enough
  obtain ⟨rfl, rfl⟩ := Prod.mk.inj (Option.some.inj found)
  rw [if_pos (by rw [List.length_append]; omega), List.take_append_of_le_length enough,
    List.drop_append_of_le_length enough]

theorem onward_readRetainedBytes : Onward readRetainedBytes := by
  have sized (size : UInt32) :
      Onward fun left => if size.toNat < 2 ^ 31 then some (size.toNat, left) else none := by
    intro left value rest found more
    simp only at found ⊢
    split_ifs at found ⊢ with short
    obtain ⟨rfl, rfl⟩ := Prod.mk.inj (Option.some.inj found)
    rfl
  exact onward_bind (onward_bind (onward_map onward_readRawVarint64 UInt64.toUInt32) sized) onward_readRaw

theorem onward_readPlain (format : GPBWireFormat) : Onward (readPlain format) := by
  cases format with
  | varint => exact onward_map onward_readRawVarint64 _
  | fixed32 =>
      have word : Onward readRawLittleEndian32 :=
        onward_map (onward_readRaw 4) fun bytes => UInt32.ofNat (Words.ofLittleEndian bytes)
      exact onward_map word WireValue.fixed32
  | fixed64 =>
      have word : Onward readRawLittleEndian64 :=
        onward_map (onward_readRaw 8) fun bytes => UInt64.ofNat (Words.ofLittleEndian bytes)
      exact onward_map word WireValue.fixed64
  | lengthDelimited => exact onward_map onward_readRetainedBytes _
  | startGroup => exact fun left value rest found => by cases found
  | endGroup => exact fun left value rest found => by cases found

theorem onward_tag {tag : UInt32} {left rest : NSData} (read : readRawVarint32 left = some (tag, rest))
    (more : NSData) : readRawVarint32 (left ++ more) = some (tag, rest ++ more) :=
  onward_map onward_readRawVarint64 UInt64.toUInt32 _ _ _ read more

/-- Up to the end of a group what is read does not depend on the bytes after it. -/
theorem FieldsRead.onward {left rest : NSData} {fields : List WireField} {last : UInt32}
    (read : FieldsRead left fields last rest) (ended : last ≠ 0) (more : NSData) :
    FieldsRead (left ++ more) fields last (rest ++ more) := by
  induction read with
  | atEnd => exact absurd rfl ended
  | ended tag => exact .ended (onward_tag tag more)
  | @plain left middle rest out number format value fields last tag found later ih =>
      exact .plain (onward_tag tag more) (onward_readPlain format _ _ _ found more) (ih ended)
  | @group left middle rest out number inside fields last tag found later innerIh ih =>
      exact .group (onward_tag tag more) (innerIh (makeTag_ne_zero number .endGroup)) (ih ended)

theorem onward_readValue (depth : Nat) (number : GPBFieldNumber) (format : GPBWireFormat) :
    Onward (readValue depth number format) := by
  by_cases group : format = .startGroup
  · subst group
    have read : Onward (readGroup depth number) := by
      intro left set rest found more
      obtain ⟨fields, stands, same, shallow⟩ := readGroup_eq_some.mp found
      exact readGroup_eq_some.mpr ⟨fields, stands.onward (makeTag_ne_zero number .endGroup) more, same, shallow⟩
    exact onward_map read WireValue.group
  · have plain : readValue depth number format = readPlain format := funext (readValue_plain depth number group)
    rw [plain]
    exact onward_readPlain format

theorem onward_readField (depth : Nat) (tag : UInt32) : Onward (readField depth tag) := by
  intro left field rest found more
  obtain ⟨number, numbered, found⟩ := Option.bind_eq_some_iff.mp found
  obtain ⟨format, formatted, found⟩ := Option.bind_eq_some_iff.mp found
  rw [readField, numbered, Option.bind_some, formatted, Option.bind_some]
  exact onward_map (onward_readValue depth number format) (WireField.mk number) _ _ _ found more

theorem rest_of_round {depth : Nat} {left middle rest : NSData} {tag : UInt32} {field : WireField}
    (tagged : readRawVarint32 left = some (tag, middle)) (found : readField depth tag middle = some (field, rest)) :
    rest.length < left.length := by
  have first := readRawVarint32_length tagged
  have here := readField_length found
  have byte := List.length_pos_iff.mpr (write_ne_nil field)
  omega

/-- Every round takes bytes, so more rounds than bytes make no difference. -/
theorem readFieldsWithin_enough {depth fuel more : Nat} {left : NSData} (one : left.length < fuel)
    (other : left.length < more) : readFieldsWithin depth fuel left = readFieldsWithin depth more left := by
  induction fuel generalizing more left with
  | zero => exact absurd one (Nat.not_lt_zero _)
  | succ fuel ih =>
      obtain ⟨more, rfl⟩ := Nat.exists_eq_succ_of_ne_zero (Nat.ne_of_gt (Nat.zero_lt_of_lt other))
      rw [readFieldsWithin, readFieldsWithin]
      split_ifs with ended
      · rfl
      · apply Option.bind_congr
        intro tagged found
        apply Option.bind_congr
        intro field read
        have less := rest_of_round found read
        have same : readFieldsWithin depth fuel field.2 = readFieldsWithin depth more field.2 :=
          ih (by omega) (by omega)
        simp only [same]

theorem wireFields_append {depth : Nat} {first : NSData} {fields : List WireField}
    (read : wireFields depth first = some fields) (second : NSData) :
    wireFields depth (first ++ second) = (wireFields depth second).map (fields ++ ·) := by
  refine wireFields_rule (fun left fields =>
    wireFields depth (left ++ second) = (wireFields depth second).map (fields ++ ·)) ?_ ?_ read
  · rw [List.nil_append]
    cases wireFields depth second <;> rfl
  · intro left middle rest tag field fields tagged found others
    have less := rest_of_round tagged found
    have going : left ++ second ≠ [] :=
      List.append_ne_nil_of_left_ne_nil (List.ne_nil_of_length_pos (Nat.zero_lt_of_lt less)) second
    have enough : readFieldsWithin depth (left ++ second).length (rest ++ second) =
        wireFields depth (rest ++ second) := by
      apply readFieldsWithin_enough ?_ (Nat.lt_succ_self _)
      rw [List.length_append, List.length_append]
      omega
    rw [wireFields, readFieldsWithin, if_neg going]
    refine Eq.trans (congrArg (Option.bind · _) (onward_tag tagged second)) ?_
    simp only [Option.bind_some, onward_readField depth tag _ _ _ found second, enough, others, Option.map_map]
    rfl

/-- Reading on is reading the bytes that follow into what was read before. -/
theorem mergeFromData_append {d : GPBDescriptor} (well : WellFormed d) {message read : GPBMessage d}
    {first : NSData} (merged : mergeFromData d message first = some read) (second : NSData) :
    mergeFromData d message (first ++ second) = mergeFromData d read second := by
  rw [mergeFromData_eq well] at merged
  obtain ⟨fields, found, folded⟩ := Option.bind_eq_some_iff.mp merged
  rw [mergeFromData_eq well, mergeFromData_eq well, wireFields_append found, Option.bind_map]
  apply Option.bind_congr
  intro others _
  rw [Function.comp_apply, mergeFieldList_append, folded, Option.bind_some]

theorem mergeFromData_append_pair :
    mergeFromData RSIdPair.descriptor (some 7, none, ∅) ([8, 9] ++ [8, 10]) =
      mergeFromData RSIdPair.descriptor (some 9, none, ∅) [8, 10] :=
  mergeFromData_append (by decide) (by decide) _

/-! ## The order of the fields -/

/-- The fields of each tag come in one order: those of two tags may change places. -/
def SameByTag (fields others : List WireField) : Prop :=
  ∀ number format, tagged number format fields = tagged number format others

theorem sameByTag_swap {field other : WireField} (apart : field.tag ≠ other.tag) :
    SameByTag [field, other] [other, field] := by
  intro number format
  rw [tagged, tagged]
  by_cases mine : field.tag = GPBWireFormatMakeTag number format
  · have yours : ¬ other.tag = GPBWireFormatMakeTag number format := fun same => apart (mine.trans same.symm)
    simp [mine, yours]
  · simp [List.filter_cons, mine]

theorem sameByTag_mem {fields others : List WireField} (same : SameByTag fields others) {field : WireField} :
    field ∈ fields ↔ field ∈ others := by
  rw [mem_iff_tagged, same, ← mem_iff_tagged]

theorem sameByTag_untagged {fields others : List WireField} (same : SameByTag fields others)
    (number : GPBFieldNumber) (format : GPBWireFormat) :
    SameByTag (untagged number format fields) (untagged number format others) := by
  intro other otherFormat
  have both := same other otherFormat
  rw [tagged, tagged] at both
  rw [tagged, untagged, tagged, untagged, List.filter_comm, both, List.filter_comm]

theorem mergeFieldList_sameByTag {d : GPBDescriptor} (depth : Nat) (message : GPBMessage d)
    {fields others : List WireField} (same : SameByTag fields others) :
    mergeFieldList d depth message fields = mergeFieldList d depth message others := by
  induction d generalizing fields others with
  | nil =>
      rw [mergeFieldList_nil, mergeFieldList_nil]
      apply congrArg some
      apply set_ext
      intro number format
      rw [tagged_foldl_addField, tagged_foldl_addField, same number format]
  | value number fieldType type allowed rest ih =>
      obtain ⟨slot, others⟩ := message
      rw [mergeFieldList_value, mergeFieldList_value, same, ih others (sameByTag_untagged same _ _)]
  | message number fieldType msgClass rest _ ih =>
      obtain ⟨slot, others⟩ := message
      rw [mergeFieldList_message, mergeFieldList_message, same, ih others (sameByTag_untagged same _ _)]

/-- Whatever order a writer gives to its fields, the reader reads one message. -/
theorem mergeFromData_anyOrder {d : GPBDescriptor} (well : WellFormed d) (message : GPBMessage d)
    {fields others : List WireField} (fits : ∀ field ∈ fields, field.Fits) (same : SameByTag fields others) :
    mergeFromData d message (fields.flatMap WireField.write) =
      mergeFromData d message (others.flatMap WireField.write) := by
  have fitting : ∀ field ∈ others, field.Fits := fun field member => fits field ((sameByTag_mem same).mpr member)
  have room : 0 ≤ defaultRecursionLimit := Nat.zero_le _
  rw [mergeFromData_eq well, mergeFromData_eq well, wireFields_write room fits, wireFields_write room fitting]
  simp only [sameByTag_mem same]
  split_ifs
  · rw [Option.bind_some, Option.bind_some, mergeFieldList_sameByTag 0 message same]
  · rfl

theorem mergeFromData_anyOrder_pair :
    mergeFromData RSIdPair.descriptor (init RSIdPair.descriptor) (List.flatMap WireField.write
        [⟨⟨1, by decide⟩, .varint 7⟩, ⟨⟨2, by decide⟩, .lengthDelimited [97]⟩]) =
      mergeFromData RSIdPair.descriptor (init RSIdPair.descriptor) (List.flatMap WireField.write
        [⟨⟨2, by decide⟩, .lengthDelimited [97]⟩, ⟨⟨1, by decide⟩, .varint 7⟩]) := by
  refine mergeFromData_anyOrder (by decide) _ ?_ (sameByTag_swap (by decide))
  intro field member
  obtain rfl | rfl : field = ⟨⟨1, by decide⟩, .varint 7⟩ ∨ field = ⟨⟨2, by decide⟩, .lengthDelimited [97]⟩ := by
    simpa using member
  · trivial
  · exact (by decide : [97].length < 2 ^ 31)

/-! ## Messages that are passed on -/

theorem parseFromData_length {d : GPBDescriptor} (well : WellFormed d) {bytes : NSData} {message : GPBMessage d}
    (read : parseFromData d bytes = some message) (short : bytes.length < 2 ^ 31) :
    ∃ written, data d message = some written ∧ written.length ≤ bytes.length := by
  refine ⟨_, data_eq d message, ?_⟩
  rw [length_write]
  exact serializedSize_parse well read short

theorem parseFromData_length_pair : ∃ written,
    data RSIdPair.descriptor (some 7, none, ∅) = some written ∧ written.length ≤ [8, 135, 0].length :=
  have well : WellFormed RSIdPair.descriptor := by decide
  have read : parseFromData RSIdPair.descriptor [8, 135, 0] = some (some 7, none, ∅) := by decide
  parseFromData_length well read (by decide)

/-- A class that knows less passes a message on to one that knows more as if it had not been between. -/
theorem parseFromData_relayed {older newer : GPBDescriptor} (kept : Older older newer) (well : WellFormed newer)
    {bytes : NSData} {message : GPBMessage older} (read : parseFromData older bytes = some message)
    (short : bytes.length < 2 ^ 31) :
    (data older message).bind (parseFromData newer) = parseFromData newer bytes := by
  have wellOlder := wellFormed_of_older kept well
  have size := serializedSize_parse wellOlder read short
  have below : serializedSize older message < 2 ^ 31 := lt_of_le_of_lt size short
  rw [parseFromData, mergeFromData_eq wellOlder] at read
  obtain ⟨fields, found, folded⟩ := Option.bind_eq_some_iff.mp read
  have relayed := relayed_of_fold wellOlder folded (fits_of_size below)
  have room : 0 ≤ defaultRecursionLimit := Nat.zero_le _
  have low := low_of_init room folded (shallow_of_wireFields found room)
  rw [data_eq, Option.bind_some, parseFromData, parseFromData, mergeFromData_eq well, mergeFromData_eq well, found,
    wireFields_message below room, if_pos low, Option.bind_some, Option.bind_some]
  exact mergeFieldList_relayed kept well relayed (init newer)

theorem parseFromData_relayed_response : ∃ message,
    parseFromData RSRespClass.RSRegisterFaceResp.descriptor [18, 2, 8, 7] = some message ∧
    (data RSRespClass.RSRegisterFaceResp.descriptor message).bind
        (parseFromData RSRespClass.RSAddStarResp.descriptor) =
      parseFromData RSRespClass.RSAddStarResp.descriptor [18, 2, 8, 7] := by
  have accepted : (parseFromData RSRespClass.RSRegisterFaceResp.descriptor [18, 2, 8, 7]).isSome := by decide
  obtain ⟨message, read⟩ := Option.isSome_iff_exists.mp accepted
  have kept : Older RSRespClass.RSRegisterFaceResp.descriptor RSRespClass.RSAddStarResp.descriptor :=
    .message (.value (.value .nil)) (.addedMessage .nil)
  exact ⟨message, read, parseFromData_relayed kept (by decide) read (by decide)⟩

end RealSocial.Proof
