import RealSocial.Proof.UnknownFields

namespace RealSocial.Proof

open Library GPBCodedOutputStream GPBCodedInputStream GPBUnknownFieldSet

/-! # Groups on the wire

A group is read field by field up to the tag of its end. What is read are the fields that stand there, however
the reader gets to them, as long as the groups in them are not too deep. -/

theorem write_unknownList (set : GPBUnknownFieldSet) :
    set.writeToCodedOutputStream = (unknownList set).flatMap WireField.write := by
  rw [writeToCodedOutputStream, fold_eq, List.flatMap_map, unknownList, List.flatMap_assoc]
  apply List.flatMap_congr
  intro entry _
  simp only [GPBUnknownField.writeToOutput, GPBUnknownField.withGroups, listed, listedIn, List.flatMap_append,
    List.flatMap_map]
  rfl

theorem mem_tagged {number : GPBFieldNumber} {format : GPBWireFormat} {fields : List WireField} {field : WireField} :
    field ∈ tagged number format fields ↔ field ∈ fields ∧ field.tag = GPBWireFormatMakeTag number format := by
  rw [tagged, List.mem_filter, decide_eq_true_iff]

theorem unknownList_empty : unknownList ∅ = [] := by
  rw [unknownList, fields_empty]
  rfl

theorem mem_iff_tagged {field : WireField} {fields : List WireField} :
    field ∈ fields ↔ field ∈ tagged field.number field.value.format fields :=
  (mem_tagged.trans (and_iff_left rfl)).symm

theorem mem_unknownList_foldl {set : GPBUnknownFieldSet} {fields : List WireField} {field : WireField} :
    field ∈ unknownList (fields.foldl addField set) ↔ field ∈ unknownList set ∨ field ∈ fields := by
  rw [mem_iff_tagged, tagged_foldl_addField, List.mem_append, ← mem_iff_tagged, ← mem_iff_tagged]

theorem foldl_addField_unknownList (set : GPBUnknownFieldSet) : (unknownList set).foldl addField ∅ = set := by
  apply set_ext
  intro number format
  rw [tagged_foldl_addField, unknownList_empty]
  rfl

/-! ## How deep groups are -/

theorem foldr_max_le {values : List Nat} {bound : Nat} :
    values.foldr max 0 ≤ bound ↔ ∀ value ∈ values, value ≤ bound := by
  induction values with
  | nil => simp
  | cons value values ih => rw [List.foldr_cons, List.forall_mem_cons, ← ih, Nat.max_le]

theorem forall_mem_listed {number : GPBFieldNumber} {field : GPBUnknownField GPBUnknownFieldSet} {bound : Nat} :
    (∀ item ∈ listed number field, item.value.nesting ≤ bound) ↔
      ∀ group ∈ field.groupList, groupNesting group + 1 ≤ bound := by
  simp only [listed, listedIn, List.forall_mem_append, List.forall_mem_map, WireValue.nesting]
  simp

theorem groupNesting_le {set : GPBUnknownFieldSet} {bound : Nat} :
    groupNesting set ≤ bound ↔ ∀ field ∈ unknownList set, field.value.nesting ≤ bound := by
  rw [groupNesting, fold_eq, foldr_max_le, List.forall_mem_map, unknownList]
  simp only [List.forall_mem_flatMap, List.forall_mem_map, forall_mem_listed, GPBUnknownField.withGroups]
  rfl

theorem groupNesting_foldl {fields : List WireField} {bound : Nat} :
    groupNesting (fields.foldl addField ∅) ≤ bound ↔ ∀ field ∈ fields, field.value.nesting ≤ bound := by
  rw [groupNesting_le]
  simp only [mem_unknownList_foldl, unknownList_empty, List.not_mem_nil, false_or]

/-! ## The fields that stand in the bytes -/

/-- The fields from the first byte on, up to the end (with the tag 0) or to the tag of the end of a group, and
the bytes after it. -/
inductive FieldsRead : NSData → List WireField → UInt32 → NSData → Prop where
  | atEnd : FieldsRead [] [] 0 []
  | ended {left rest : NSData} {number : GPBFieldNumber}
      (tag : readRawVarint32 left = some (GPBWireFormatMakeTag number .endGroup, rest)) :
      FieldsRead left [] (GPBWireFormatMakeTag number .endGroup) rest
  | plain {left middle rest out : NSData} {number : GPBFieldNumber} {format : GPBWireFormat} {value : WireValue}
      {fields : List WireField} {last : UInt32}
      (tag : readRawVarint32 left = some (GPBWireFormatMakeTag number format, middle))
      (found : readPlain format middle = some (value, rest)) (later : FieldsRead rest fields last out) :
      FieldsRead left (⟨number, value⟩ :: fields) last out
  | group {left middle rest out : NSData} {number : GPBFieldNumber} {inside fields : List WireField} {last : UInt32}
      (tag : readRawVarint32 left = some (GPBWireFormatMakeTag number .startGroup, middle))
      (found : FieldsRead middle inside (GPBWireFormatMakeTag number .endGroup) rest)
      (later : FieldsRead rest fields last out) :
      FieldsRead left (⟨number, .group (inside.foldl addField ∅)⟩ :: fields) last out

theorem readPlain_length {format : GPBWireFormat} {value : WireValue} {left rest : NSData}
    (number : GPBFieldNumber) (read : readPlain format left = some (value, rest)) :
    (value.writeNoTag number).length + rest.length ≤ left.length := by
  cases format with
  | varint =>
      obtain ⟨⟨word, rest⟩, found, same⟩ := Option.map_eq_some_iff.mp read
      obtain ⟨rfl, rfl⟩ := Prod.mk.inj same
      rw [WireValue.writeNoTag, writeUInt64NoTag, writeRawVarint64_eq]
      exact readRawVarint64_length found
  | fixed32 =>
      obtain ⟨⟨word, rest⟩, found, same⟩ := Option.map_eq_some_iff.mp read
      obtain ⟨rfl, rfl⟩ := Prod.mk.inj same
      have whole : 4 + rest.length = left.length := readRaw_map_length found fun _ => rfl
      exact le_of_eq whole
  | fixed64 =>
      obtain ⟨⟨word, rest⟩, found, same⟩ := Option.map_eq_some_iff.mp read
      obtain ⟨rfl, rfl⟩ := Prod.mk.inj same
      have whole : 8 + rest.length = left.length := readRaw_map_length found fun _ => rfl
      exact le_of_eq whole
  | lengthDelimited =>
      obtain ⟨⟨bytes, rest⟩, found, same⟩ := Option.map_eq_some_iff.mp read
      obtain ⟨rfl, rfl⟩ := Prod.mk.inj same
      exact readRetainedBytes_length found
  | startGroup => cases read
  | endGroup => cases read

theorem tag_length {tag : UInt32} {left rest : NSData} (read : readRawVarint32 left = some (tag, rest)) :
    rest.length < left.length := by
  have bound := readRawVarint32_length read
  have byte : 0 < (writeRawVarint32 tag).length := by
    rw [writeRawVarint32_eq]
    exact List.length_pos_iff.mpr (Wire.varint_ne_nil _)
  omega

theorem FieldsRead.length_le {left rest : NSData} {fields : List WireField} {last : UInt32}
    (read : FieldsRead left fields last rest) : rest.length ≤ left.length := by
  induction read with
  | atEnd => exact le_rfl
  | ended tag => exact (tag_length tag).le
  | @plain left middle rest out number format value fields last tag found later ih =>
      have first := tag_length tag
      have here := readPlain_length number found
      omega
  | group tag found later inner ih =>
      have first := tag_length tag
      omega

/-! ## The reader finds these fields -/

theorem makeTag_ne_zero (number : GPBFieldNumber) (format : GPBWireFormat) :
    GPBWireFormatMakeTag number format ≠ 0 := by
  intro zero
  have word := toNat_makeTag number format
  rw [zero] at word
  have positive := number.2.1
  change 0 = _ at word
  omega

theorem valid_makeTag (number : GPBFieldNumber) (format : GPBWireFormat) :
    GPBWireFormatMakeTag number format &&& 7 ≤ 5 ∧ GPBWireFormatMakeTag number format >>> 3 ≠ 0 := by
  constructor
  · have low := wireType_makeTag number format
    rw [GPBWireFormatGetTagWireType] at low
    rw [low]
    cases format <;> decide
  · intro zero
    have numbered := fieldNumber_makeTag number format
    rw [GPBWireFormatGetTagFieldNumber, zero] at numbered
    cases numbered

theorem exists_makeTag {tag : UInt32} (valid : tag &&& 7 ≤ 5 ∧ tag >>> 3 ≠ 0) :
    ∃ number format, tag = GPBWireFormatMakeTag number format := by
  have bound : 0 < (tag >>> 3).toNat ∧ (tag >>> 3).toNat < 2 ^ 29 := by
    constructor
    · exact Nat.pos_of_ne_zero fun zero => valid.2 (UInt32.toNat_inj.mp zero)
    · have word := UInt32.toNat_lt tag
      rw [toNat_fieldNumber]
      omega
  have numbered : GPBWireFormatGetTagFieldNumber tag = some ⟨(tag >>> 3).toNat, bound⟩ := by
    simp only [GPBWireFormatGetTagFieldNumber, dif_pos bound]
  obtain ⟨format, same⟩ : ∃ format : GPBWireFormat, format.rawValue = GPBWireFormatGetTagWireType tag := by
    have low : (GPBWireFormatGetTagWireType tag).toNat ≤ 5 := valid.1
    interval_cases code : (GPBWireFormatGetTagWireType tag).toNat
    · exact ⟨.varint, UInt32.toNat_inj.mp code.symm⟩
    · exact ⟨.fixed64, UInt32.toNat_inj.mp code.symm⟩
    · exact ⟨.lengthDelimited, UInt32.toNat_inj.mp code.symm⟩
    · exact ⟨.startGroup, UInt32.toNat_inj.mp code.symm⟩
    · exact ⟨.endGroup, UInt32.toNat_inj.mp code.symm⟩
    · exact ⟨.fixed32, UInt32.toNat_inj.mp code.symm⟩
  have formatted : formatOf tag = some format := by
    rw [formatOf, ← same]
    cases format <;> rfl
  exact ⟨_, format, (makeTag_of_read numbered formatted).symm⟩

theorem readTag_eq (input : GPBCodedInputStreamState) :
    readTag input =
      if input.left = [] then some (0, { input with lastTag := 0 })
      else
        (readRawVarint32 input.left).bind fun (tag, left) =>
          if tag &&& 7 ≤ 5 ∧ tag >>> 3 ≠ 0 then some (tag, { input with left, lastTag := tag }) else none := by
  simp only [readTag, isAtEnd, decide_eq_true_iff]

/-- What adding a field that is read means for the state of the reader. -/
theorem mergeFieldFrom_makeTag (set : GPBUnknownFieldSet)
    (merge : GPBUnknownFieldSet → GPBCodedInputStreamState → Option (GPBUnknownFieldSet × GPBCodedInputStreamState))
    (number : GPBFieldNumber) (format : GPBWireFormat) (input : GPBCodedInputStreamState) :
    mergeFieldFrom set merge (GPBWireFormatMakeTag number format) input =
      match format with
      | .startGroup => (readUnknownGroup merge number ∅ input).map fun (group, input) =>
          (true, addField set ⟨number, .group group⟩, input)
      | .endGroup => some (false, set, input)
      | format => (readPlain format input.left).map fun (value, left) =>
          (true, addField set ⟨number, value⟩, { input with left }) := by
  rw [mergeFieldFrom, fieldNumber_makeTag, Option.bind_some, wireType_makeTag]
  cases format with
  | startGroup => rfl
  | endGroup => rfl
  | _ =>
      simp only [readPlain, Option.map_map]
      rfl

theorem readUnknownGroup_eq_some {M : Type}
    {merge : M → GPBCodedInputStreamState → Option (M × GPBCodedInputStreamState)} {number : GPBFieldNumber}
    {message group : M} {input out : GPBCodedInputStreamState} :
    readUnknownGroup merge number message input = some (group, out) ↔
      input.recursionDepth < defaultRecursionLimit ∧
        ∃ inner, merge message { input with recursionDepth := input.recursionDepth + 1 } = some (group, inner) ∧
          inner.lastTag = GPBWireFormatMakeTag number .endGroup ∧
          out = { input with left := inner.left, lastTag := inner.lastTag } := by
  rw [readUnknownGroup]
  split_ifs with room
  · rw [Option.bind_eq_some_iff, Prod.exists]
    simp only [Option.ite_none_right_eq_some, Option.some.injEq, Prod.mk.injEq]
    constructor
    · rintro ⟨message, inner, read, ended, rfl, rfl⟩
      exact ⟨room, inner, read, ended, rfl⟩
    · rintro ⟨-, inner, read, ended, rfl⟩
      exact ⟨group, inner, read, ended, rfl, rfl⟩
  · simp [room]

theorem shallow_of_readPlain {format : GPBWireFormat} {left rest : NSData} {value : WireValue}
    (number : GPBFieldNumber) (found : readPlain format left = some (value, rest)) {depth : Nat}
    (room : depth ≤ defaultRecursionLimit) : WireField.Shallow ⟨number, value⟩ depth := by
  have plain := format_of_readPlain found
  have flat : value.nesting = 0 := by
    cases value with
    | group set =>
        subst plain
        cases found
    | _ => rfl
  rwa [WireField.Shallow, flat, Nat.zero_add]

theorem deeper_of_group {number : GPBFieldNumber} {set : GPBUnknownFieldSet} {depth : Nat}
    (shallow : WireField.Shallow ⟨number, .group set⟩ depth) : depth + 1 ≤ defaultRecursionLimit := by
  rw [WireField.Shallow, WireValue.nesting] at shallow
  omega

theorem shallow_group {number : GPBFieldNumber} {fields : List WireField} {depth : Nat}
    (room : depth + 1 ≤ defaultRecursionLimit) :
    WireField.Shallow ⟨number, .group (fields.foldl addField ∅)⟩ depth ↔
      ∀ field ∈ fields, field.Shallow (depth + 1) := by
  rw [WireField.Shallow, WireValue.nesting, Nat.add_assoc, Nat.add_comm 1, ← Nat.le_sub_iff_add_le room,
    groupNesting_foldl]
  apply forall₂_congr
  intro field _
  rw [WireField.Shallow, Nat.le_sub_iff_add_le room]

inductive MergeRound (fuel : Nat) (set : GPBUnknownFieldSet) (input : GPBCodedInputStreamState) :
    GPBUnknownFieldSet × GPBCodedInputStreamState → Prop where
  | atEnd (ended : input.left = []) : MergeRound fuel set input (set, { input with lastTag := 0 })
  | ended {number : GPBFieldNumber} {left : NSData}
      (tag : readRawVarint32 input.left = some (GPBWireFormatMakeTag number .endGroup, left)) :
      MergeRound fuel set input (set, { input with left, lastTag := GPBWireFormatMakeTag number .endGroup })
  | plain {number : GPBFieldNumber} {format : GPBWireFormat} {left rest : NSData} {value : WireValue}
      {lastTag : UInt32} {result : GPBUnknownFieldSet × GPBCodedInputStreamState}
      (tag : readRawVarint32 input.left = some (GPBWireFormatMakeTag number format, left))
      (found : readPlain format left = some (value, rest))
      (later : mergeFromCodedInputStream fuel (addField set ⟨number, value⟩)
        { input with left := rest, lastTag } = some result) : MergeRound fuel set input result
  | group {number : GPBFieldNumber} {left : NSData} {lastTag : UInt32} {group : GPBUnknownFieldSet}
      {inner : GPBCodedInputStreamState} {result : GPBUnknownFieldSet × GPBCodedInputStreamState}
      (tag : readRawVarint32 input.left = some (GPBWireFormatMakeTag number .startGroup, left))
      (room : input.recursionDepth < defaultRecursionLimit)
      (found : mergeFromCodedInputStream fuel ∅
        { left, lastTag, recursionDepth := input.recursionDepth + 1 } = some (group, inner))
      (ended : inner.lastTag = GPBWireFormatMakeTag number .endGroup)
      (later : mergeFromCodedInputStream fuel (addField set ⟨number, .group group⟩)
        { input with left := inner.left, lastTag := inner.lastTag } = some result) : MergeRound fuel set input result

theorem mergeRound_of_merge {fuel : Nat} {set : GPBUnknownFieldSet} {input : GPBCodedInputStreamState}
    {result : GPBUnknownFieldSet × GPBCodedInputStreamState}
    (read : mergeFromCodedInputStream (fuel + 1) set input = some result) : MergeRound fuel set input result := by
  rw [mergeFromCodedInputStream, Option.bind_eq_some_iff] at read
  obtain ⟨⟨tag, next⟩, tagged, read⟩ := read
  rw [readTag_eq] at tagged
  split_ifs at tagged with ended
  · obtain ⟨rfl, rfl⟩ := Prod.mk.inj (Option.some.inj tagged)
    obtain rfl := Option.some.inj read
    exact .atEnd ended
  · obtain ⟨⟨tag, left⟩, found, tagged⟩ := Option.bind_eq_some_iff.mp tagged
    simp only [Option.ite_none_right_eq_some, Option.some.injEq, Prod.mk.injEq] at tagged
    obtain ⟨valid, rfl, rfl⟩ := tagged
    obtain ⟨number, format, rfl⟩ := exists_makeTag valid
    simp only [if_neg (makeTag_ne_zero number format), mergeFieldFrom_makeTag] at read
    obtain ⟨⟨merged, added, next⟩, step, read⟩ := Option.bind_eq_some_iff.mp read
    cases format with
    | startGroup =>
        obtain ⟨⟨group, next⟩, opened, same⟩ := Option.map_eq_some_iff.mp step
        obtain ⟨room, inner, inside, closed, rfl⟩ := readUnknownGroup_eq_some.mp opened
        cases same
        exact .group found room inside closed read
    | endGroup =>
        cases step
        cases read
        exact .ended found
    | _ =>
        obtain ⟨⟨value, rest⟩, here, same⟩ := Option.map_eq_some_iff.mp step
        cases same
        exact .plain found here read

/-- What the loop has read are fields that stand there. -/
theorem fieldsRead_of_merge {fuel : Nat} {set after : GPBUnknownFieldSet} {input out : GPBCodedInputStreamState}
    (read : mergeFromCodedInputStream fuel set input = some (after, out))
    (room : input.recursionDepth ≤ defaultRecursionLimit) :
    out.recursionDepth = input.recursionDepth ∧ ∃ fields, FieldsRead input.left fields out.lastTag out.left ∧
      after = fields.foldl addField set ∧ ∀ field ∈ fields, field.Shallow input.recursionDepth := by
  induction fuel generalizing set after input out with
  | zero => cases read
  | succ fuel ih =>
      obtain ⟨left, lastTag, depth⟩ := input
      generalize result : (after, out) = merged at read
      cases mergeRound_of_merge read with
      | atEnd ended =>
          cases result
          obtain rfl : left = [] := ended
          exact ⟨rfl, [], .atEnd, rfl, List.forall_mem_nil _⟩
      | ended tag =>
          cases result
          exact ⟨rfl, [], .ended tag, rfl, List.forall_mem_nil _⟩
      | @plain number format _ _ value _ _ tag found later =>
          cases result
          obtain ⟨same, fields, there, rfl, shallow⟩ := ih later room
          have here : WireField.Shallow ⟨number, value⟩ depth := shallow_of_readPlain number found room
          exact ⟨same, ⟨number, value⟩ :: fields, .plain tag found there, rfl,
            List.forall_mem_cons.mpr ⟨here, shallow⟩⟩
      | @group number _ _ group inner _ tag deeper found ended later =>
          cases result
          obtain ⟨-, inside, stands, rfl, low⟩ := ih found (Nat.succ_le_of_lt deeper)
          obtain ⟨same, fields, there, rfl, shallow⟩ := ih later room
          rw [ended] at stands
          have here : WireField.Shallow ⟨number, .group (inside.foldl addField ∅)⟩ depth :=
            (shallow_group (Nat.succ_le_of_lt deeper)).mpr low
          exact ⟨same, _ :: fields, .group tag stands there, rfl, List.forall_mem_cons.mpr ⟨here, shallow⟩⟩

theorem merge_of_tag {left middle : NSData} {number : GPBFieldNumber} {format : GPBWireFormat}
    (tag : readRawVarint32 left = some (GPBWireFormatMakeTag number format, middle)) (fuel depth : Nat)
    (set : GPBUnknownFieldSet) (lastTag : UInt32) :
    mergeFromCodedInputStream (fuel + 1) set ⟨left, lastTag, depth⟩ =
      (mergeFieldFrom set (mergeFromCodedInputStream fuel) (GPBWireFormatMakeTag number format)
        ⟨middle, GPBWireFormatMakeTag number format, depth⟩).bind fun (merged, set, input) =>
          if merged then mergeFromCodedInputStream fuel set input else some (set, input) := by
  have going : left ≠ [] := List.ne_nil_of_length_pos (Nat.zero_lt_of_lt (tag_length tag))
  rw [mergeFromCodedInputStream, readTag_eq, if_neg going]
  simp only [tag, Option.bind_some, if_pos (valid_makeTag number format), if_neg (makeTag_ne_zero number format)]

/-- The loop reads the fields that stand there, when the groups in them are not too deep. -/
theorem merge_of_fieldsRead {left rest : NSData} {fields : List WireField} {last : UInt32}
    (stands : FieldsRead left fields last rest) {fuel depth : Nat} (enough : left.length ≤ fuel)
    (room : depth ≤ defaultRecursionLimit) (shallow : ∀ field ∈ fields, field.Shallow depth)
    (set : GPBUnknownFieldSet) (lastTag : UInt32) :
    mergeFromCodedInputStream (fuel + 1) set ⟨left, lastTag, depth⟩ =
      some (fields.foldl addField set, ⟨rest, last, depth⟩) := by
  induction stands generalizing fuel depth set lastTag with
  | atEnd => rfl
  | @ended left rest number tag =>
      rw [merge_of_tag tag, mergeFieldFrom_makeTag]
      rfl
  | @plain left middle rest out number format value fields last tag found later ih =>
      have first := tag_length tag
      obtain ⟨fuel, rfl⟩ := Nat.exists_eq_succ_of_ne_zero (Nat.ne_of_gt (lt_of_lt_of_le (Nat.zero_lt_of_lt first) enough))
      obtain ⟨-, others⟩ := List.forall_mem_cons.mp shallow
      have shorter := readPlain_length number found
      have next := ih (by omega : rest.length ≤ fuel) room others (addField set ⟨number, value⟩)
        (GPBWireFormatMakeTag number format)
      rw [merge_of_tag tag, mergeFieldFrom_makeTag]
      cases format with
      | startGroup => cases found
      | endGroup => cases found
      | _ =>
          simp only [found, Option.map_some, Option.bind_some]
          exact next
  | @group left middle rest out number inside fields last tag found later innerIh ih =>
      have first := tag_length tag
      obtain ⟨fuel, rfl⟩ := Nat.exists_eq_succ_of_ne_zero (Nat.ne_of_gt (lt_of_lt_of_le (Nat.zero_lt_of_lt first) enough))
      obtain ⟨here, others⟩ := List.forall_mem_cons.mp shallow
      have shorter := found.length_le
      have deeper := deeper_of_group here
      have inner := innerIh (by omega : middle.length ≤ fuel) deeper ((shallow_group deeper).mp here) ∅
        (GPBWireFormatMakeTag number .startGroup)
      have next := ih (by omega : rest.length ≤ fuel) room others
        (addField set ⟨number, .group (inside.foldl addField ∅)⟩) (GPBWireFormatMakeTag number .endGroup)
      have opened : readUnknownGroup (mergeFromCodedInputStream (fuel + 1)) number ∅
          ⟨middle, GPBWireFormatMakeTag number .startGroup, depth⟩ =
            some (inside.foldl addField ∅, ⟨rest, GPBWireFormatMakeTag number .endGroup, depth⟩) :=
        readUnknownGroup_eq_some.mpr ⟨deeper, ⟨rest, _, depth + 1⟩, inner, rfl, rfl⟩
      rw [merge_of_tag tag, mergeFieldFrom_makeTag]
      simp only [opened, Option.map_some, Option.bind_some]
      exact next

theorem readGroup_eq_some {depth : Nat} {number : GPBFieldNumber} {left rest : NSData} {set : GPBUnknownFieldSet} :
    readGroup depth number left = some (set, rest) ↔
      ∃ fields, FieldsRead left fields (GPBWireFormatMakeTag number .endGroup) rest ∧
        set = fields.foldl addField ∅ ∧ WireField.Shallow ⟨number, .group set⟩ depth := by
  rw [readGroup, Option.map_eq_some_iff]
  constructor
  · rintro ⟨⟨set, out⟩, read, same⟩
    obtain ⟨rfl, rfl⟩ := Prod.mk.inj same
    obtain ⟨deeper, inner, merged, ended, rfl⟩ := readUnknownGroup_eq_some.mp read
    obtain ⟨-, fields, stands, rfl, shallow⟩ := fieldsRead_of_merge merged (Nat.succ_le_of_lt deeper)
    rw [ended] at stands
    exact ⟨fields, stands, rfl, (shallow_group (Nat.succ_le_of_lt deeper)).mpr shallow⟩
  · rintro ⟨fields, stands, rfl, shallow⟩
    have deeper := deeper_of_group shallow
    have read := merge_of_fieldsRead stands le_rfl deeper ((shallow_group deeper).mp shallow) ∅ 0
    exact ⟨_, readUnknownGroup_eq_some.mpr ⟨deeper, ⟨rest, _, depth + 1⟩, read, rfl, rfl⟩, rfl⟩

theorem mergeFieldFrom_field (set : GPBUnknownFieldSet) (number : GPBFieldNumber) {format : GPBWireFormat}
    (field : format ≠ .endGroup) (input : GPBCodedInputStreamState) :
    (mergeFieldFrom set (mergeFromCodedInputStream (input.left.length + 1)) (GPBWireFormatMakeTag number format)
        input).map (fun read => (read.1, read.2.1, read.2.2.left, read.2.2.recursionDepth)) =
      (readField input.recursionDepth (GPBWireFormatMakeTag number format) input.left).map fun read =>
        (true, addField set read.1, read.2, input.recursionDepth) := by
  rw [mergeFieldFrom_makeTag, readField_makeTag]
  cases format with
  | endGroup => exact absurd rfl field
  | startGroup =>
      have unmarked : mergeFromCodedInputStream (input.left.length + 1) ∅
          { input with recursionDepth := input.recursionDepth + 1 } =
            mergeFromCodedInputStream (input.left.length + 1) ∅
              { left := input.left, recursionDepth := input.recursionDepth + 1 } := rfl
      simp only [readValue, readGroup, readUnknownGroup, unmarked, Option.map_map]
      split_ifs
      · simp only [Option.map_bind]
        apply Option.bind_congr
        intro inner _
        simp only [Function.comp_apply]
        split_ifs <;> rfl
      · rfl
  | _ =>
      simp only [readValue, Option.map_map]
      rfl

/-! ## What is written is read back -/

theorem tag_unique {left middle middle' : NSData} {number number' : GPBFieldNumber} {format format' : GPBWireFormat}
    (tag : readRawVarint32 left = some (GPBWireFormatMakeTag number format, middle))
    (tag' : readRawVarint32 left = some (GPBWireFormatMakeTag number' format', middle')) :
    number = number' ∧ format = format' ∧ middle = middle' := by
  obtain ⟨same, middles⟩ := Prod.mk.inj (Option.some.inj (tag.symm.trans tag'))
  exact ⟨(makeTag_inj.mp same).1, (makeTag_inj.mp same).2, middles⟩

theorem FieldsRead.unique {left rest rest' : NSData} {fields fields' : List WireField} {last last' : UInt32}
    (one : FieldsRead left fields last rest) (other : FieldsRead left fields' last' rest') :
    fields = fields' ∧ last = last' ∧ rest = rest' := by
  induction one generalizing fields' last' rest' with
  | atEnd =>
      cases other with
      | atEnd => exact ⟨rfl, rfl, rfl⟩
      | ended tag => exact absurd (tag_length tag) (Nat.not_lt_zero _)
      | plain tag => exact absurd (tag_length tag) (Nat.not_lt_zero _)
      | group tag => exact absurd (tag_length tag) (Nat.not_lt_zero _)
  | ended tag =>
      cases other with
      | atEnd => exact absurd (tag_length tag) (Nat.not_lt_zero _)
      | ended tag' =>
          obtain ⟨rfl, -, rfl⟩ := tag_unique tag tag'
          exact ⟨rfl, rfl, rfl⟩
      | plain tag' found =>
          obtain ⟨-, rfl, -⟩ := tag_unique tag tag'
          cases found
      | group tag' => cases (tag_unique tag tag').2.1
  | plain tag found later ih =>
      cases other with
      | atEnd => exact absurd (tag_length tag) (Nat.not_lt_zero _)
      | ended tag' =>
          obtain ⟨-, rfl, -⟩ := tag_unique tag tag'
          cases found
      | plain tag' found' later' =>
          obtain ⟨rfl, rfl, rfl⟩ := tag_unique tag tag'
          obtain ⟨rfl, rfl⟩ := Prod.mk.inj (Option.some.inj (found.symm.trans found'))
          obtain ⟨rfl, rfl, rfl⟩ := ih later'
          exact ⟨rfl, rfl, rfl⟩
      | group tag' =>
          obtain ⟨-, rfl, -⟩ := tag_unique tag tag'
          cases found
  | group tag found later innerIh ih =>
      cases other with
      | atEnd => exact absurd (tag_length tag) (Nat.not_lt_zero _)
      | ended tag' => cases (tag_unique tag tag').2.1
      | plain tag' found' =>
          obtain ⟨-, rfl, -⟩ := tag_unique tag tag'
          cases found'
      | group tag' found' later' =>
          obtain ⟨rfl, -, rfl⟩ := tag_unique tag tag'
          obtain ⟨rfl, -, rfl⟩ := innerIh found'
          obtain ⟨rfl, rfl, rfl⟩ := ih later'
          exact ⟨rfl, rfl, rfl⟩

theorem readPlain_write {value : WireValue} (number : GPBFieldNumber) (rest : NSData) (fits : value.Fits)
    (plain : value.format ≠ .startGroup) :
    readPlain value.format (value.writeNoTag number ++ rest) = some (value, rest) := by
  cases value with
  | varint value =>
      rw [WireValue.format, readPlain, WireValue.writeNoTag, writeUInt64NoTag, readRawVarint64_write,
        Option.map_some]
  | fixed32 value =>
      rw [WireValue.format, readPlain, WireValue.writeNoTag, writeFixed32NoTag, readRawLittleEndian32_write,
        Option.map_some]
  | fixed64 value =>
      rw [WireValue.format, readPlain, WireValue.writeNoTag, writeFixed64NoTag, readRawLittleEndian64_write,
        Option.map_some]
  | lengthDelimited value =>
      rw [WireValue.format, readPlain, WireValue.writeNoTag, readRetainedBytes_write rest fits, Option.map_some]
  | group value => exact absurd rfl plain

theorem fits_of_write {fields : List WireField} (short : (fields.flatMap WireField.write).length < 2 ^ 31)
    {field : WireField} (member : field ∈ fields) : field.Fits := by
  have part : field.write.length ≤ (fields.flatMap WireField.write).length := by
    obtain ⟨before, after, rfl⟩ := List.append_of_mem member
    rw [List.flatMap_append, List.flatMap_cons, List.length_append, List.length_append]
    omega
  obtain ⟨number, value⟩ := field
  cases value with
  | varint value => trivial
  | fixed32 value => trivial
  | fixed64 value => trivial
  | lengthDelimited value =>
      have inside : value.length ≤ (WireField.write ⟨number, .lengthDelimited value⟩).length := by
        simp only [WireField.write, WireValue.writeNoTag, writeBytesNoTag, List.length_append]
        omega
      exact lt_of_le_of_lt (le_trans inside part) short
  | group value =>
      have inside : value.writeToCodedOutputStream.length ≤ (WireField.write ⟨number, .group value⟩).length := by
        simp only [WireField.write, WireValue.writeNoTag, writeUnknownGroupNoTag, List.length_append]
        omega
      exact lt_of_le_of_lt (le_trans inside part) short

/-- What the field writes is read as the field, whatever is read after it. -/
def ReadsOn (field : WireField) : Prop :=
  ∀ rest fields last out, FieldsRead rest fields last out →
    FieldsRead (field.write ++ rest) (field :: fields) last out

theorem tag_of_write (field : WireField) (rest : NSData) :
    readRawVarint32 (field.write ++ rest) =
      some (GPBWireFormatMakeTag field.number field.value.format, field.value.writeNoTag field.number ++ rest) := by
  rw [WireField.write, List.append_assoc, writeTagWithFormat, readRawVarint32_write]

theorem fieldsRead_write {fields : List WireField} (each : ∀ field ∈ fields, ReadsOn field) {rest out : NSData}
    {others : List WireField} {last : UInt32} (later : FieldsRead rest others last out) :
    FieldsRead (fields.flatMap WireField.write ++ rest) (fields ++ others) last out := by
  induction fields with
  | nil => exact later
  | cons field fields ih =>
      obtain ⟨first, following⟩ := List.forall_mem_cons.mp each
      rw [List.flatMap_cons, List.append_assoc]
      exact first _ _ _ _ (ih following)

theorem mem_groups_of_unknownList {set group : GPBUnknownFieldSet} {number : GPBFieldNumber}
    (member : ⟨number, .group group⟩ ∈ unknownList set) :
    ∃ field ∈ set.fields.entries, group ∈ field.2.1.groupList := by
  obtain ⟨entry, among, listed⟩ := List.mem_flatMap.mp member
  have here : group ∈ entry.2.1.groupList ∧ entry.1 = number := by
    simpa [RealSocial.Proof.listed, listedIn] using listed
  exact ⟨entry, among, here.1⟩

theorem readsOn_plain {field : WireField} (fits : field.Fits) (plain : field.value.format ≠ .startGroup) :
    ReadsOn field := by
  intro rest fields last out later
  exact .plain (tag_of_write field rest) (readPlain_write field.number rest fits plain) later

theorem readsOn_group {set : GPBUnknownFieldSet} {number : GPBFieldNumber}
    (inside : ∀ rest, FieldsRead (WireValue.writeNoTag number (.group set) ++ rest) (unknownList set)
      (GPBWireFormatMakeTag number .endGroup) rest) : ReadsOn ⟨number, .group set⟩ := by
  intro rest fields last out later
  have read := FieldsRead.group (tag_of_write ⟨number, .group set⟩ rest) (inside rest) later
  rwa [foldl_addField_unknownList] at read

/-- The fields of a group are read up to its end. -/
theorem fieldsRead_group (set : GPBUnknownFieldSet) (fits : set.writeToCodedOutputStream.length < 2 ^ 31)
    (number : GPBFieldNumber) (rest : NSData) :
    FieldsRead (WireValue.writeNoTag number (.group set) ++ rest) (unknownList set)
      (GPBWireFormatMakeTag number .endGroup) rest := by
  induction set using ofGroups generalizing number rest with
  | step set ih =>
      have short := fits
      rw [write_unknownList] at short
      have each : ∀ field ∈ unknownList set, ReadsOn field := by
        intro field member
        have fitting := fits_of_write short member
        obtain ⟨other, value⟩ := field
        cases value with
        | group group =>
            obtain ⟨entry, among, there⟩ := mem_groups_of_unknownList member
            exact readsOn_group (ih entry among group there fitting other)
        | _ => exact readsOn_plain fitting GPBWireFormat.noConfusion
      have ended : readRawVarint32 (writeTagWithFormat number .endGroup ++ rest) =
          some (GPBWireFormatMakeTag number .endGroup, rest) := by
        rw [writeTagWithFormat, readRawVarint32_write]
      have read := fieldsRead_write each (.ended ended)
      rwa [List.append_nil, ← write_unknownList, ← List.append_assoc] at read

theorem readGroup_write (set : GPBUnknownFieldSet) (fits : set.writeToCodedOutputStream.length < 2 ^ 31)
    (depth : Nat) (number : GPBFieldNumber) (rest : NSData) :
    readGroup depth number (WireValue.writeNoTag number (.group set) ++ rest) =
      if WireField.Shallow ⟨number, .group set⟩ depth then some (set, rest) else none := by
  have stands := fieldsRead_group set fits number rest
  split_ifs with shallow
  · exact readGroup_eq_some.mpr ⟨_, stands, (foldl_addField_unknownList set).symm, shallow⟩
  · apply Option.eq_none_iff_forall_ne_some.mpr
    rintro ⟨read, left⟩ found
    obtain ⟨fields, there, rfl, low⟩ := readGroup_eq_some.mp found
    rw [(there.unique stands).1, foldl_addField_unknownList] at low
    exact shallow low

theorem readField_write {field : WireField} {depth : Nat} (room : depth ≤ defaultRecursionLimit) (rest : NSData)
    (fits : field.Fits) :
    (readRawVarint32 (field.write ++ rest)).bind (fun read => readField depth read.1 read.2) =
      if field.Shallow depth then some (field, rest) else none := by
  rw [tag_of_write, Option.bind_some, readField_makeTag]
  obtain ⟨number, value⟩ := field
  cases value with
  | group set =>
      rw [WireValue.format, readValue, readGroup_write set fits]
      split_ifs <;> rfl
  | _ =>
      have low : 0 + depth ≤ defaultRecursionLimit := (Nat.zero_add depth).symm ▸ room
      have read := readPlain_write number rest fits GPBWireFormat.noConfusion
      exact (congrArg (Option.map _) read).trans (if_pos low).symm

/-! ## Lists of fields -/

theorem readFieldsWithin_write {fields : List WireField} {depth fuel : Nat} (room : depth ≤ defaultRecursionLimit)
    (fits : ∀ field ∈ fields, field.Fits) (enough : fields.length < fuel) :
    readFieldsWithin depth fuel (fields.flatMap WireField.write) =
      if ∀ field ∈ fields, field.Shallow depth then some fields else none := by
  induction fields generalizing fuel with
  | nil =>
      obtain ⟨fuel, rfl⟩ := Nat.exists_eq_succ_of_ne_zero (Nat.ne_of_gt enough)
      exact (if_pos (List.forall_mem_nil _)).symm
  | cons field fields ih =>
      obtain ⟨fuel, rfl⟩ := Nat.exists_eq_succ_of_ne_zero (Nat.ne_of_gt (Nat.zero_lt_of_lt enough))
      obtain ⟨first, others⟩ := List.forall_mem_cons.mp fits
      have rest := ih others (Nat.lt_of_succ_lt_succ enough)
      have here := readField_write room (fields.flatMap WireField.write) first
      have written : field.write ++ fields.flatMap WireField.write ≠ [] :=
        List.append_ne_nil_of_left_ne_nil (write_ne_nil field) _
      rw [List.flatMap_cons, readFieldsWithin, if_neg written, ← Option.bind_assoc, here]
      simp only [List.forall_mem_cons]
      by_cases shallow : field.Shallow depth
      · rw [if_pos shallow]
        simp only [Option.bind_some, rest, shallow, true_and]
        split_ifs <;> rfl
      · rw [if_neg shallow, if_neg fun both => shallow both.1]
        rfl

theorem length_le_flatMap_write (fields : List WireField) :
    fields.length ≤ (fields.flatMap WireField.write).length := by
  induction fields with
  | nil => exact Nat.le_refl 0
  | cons field fields ih =>
      have byte := List.length_pos_iff.mpr (write_ne_nil field)
      rw [List.flatMap_cons, List.length_append, List.length_cons]
      omega

theorem shallow_of_readField {depth : Nat} {tag : UInt32} {left rest : NSData} {field : WireField}
    (read : readField depth tag left = some (field, rest)) (room : depth ≤ defaultRecursionLimit) :
    field.Shallow depth := by
  obtain ⟨number, value⟩ := field
  obtain ⟨-, found⟩ := value_of_readField read
  by_cases group : value.format = .startGroup
  · rw [group] at found
    obtain ⟨⟨set, rest⟩, inside, same⟩ := Option.map_eq_some_iff.mp found
    obtain ⟨rfl, rfl⟩ := Prod.mk.inj same
    obtain ⟨fields, -, -, shallow⟩ := readGroup_eq_some.mp inside
    exact shallow
  · rw [readValue_plain depth number group] at found
    exact shallow_of_readPlain number found room

theorem shallow_of_wireFields {depth : Nat} {data : NSData} {fields : List WireField}
    (read : wireFields depth data = some fields) (room : depth ≤ defaultRecursionLimit) :
    ∀ field ∈ fields, field.Shallow depth := by
  refine wireFields_rule (fun _ fields => ∀ field ∈ fields, field.Shallow depth) ?_ ?_ read
  · exact List.forall_mem_nil _
  · intro left middle rest tag field fields _ found others
    exact List.forall_mem_cons.mpr ⟨shallow_of_readField found room, others⟩

/-- Fields that are written are read back, when the groups in them are not too deep. -/
theorem wireFields_write {fields : List WireField} {depth : Nat} (room : depth ≤ defaultRecursionLimit)
    (fits : ∀ field ∈ fields, field.Fits) :
    wireFields depth (fields.flatMap WireField.write) =
      if ∀ field ∈ fields, field.Shallow depth then some fields else none :=
  readFieldsWithin_write room fits (Nat.lt_succ_of_le (length_le_flatMap_write fields))

end RealSocial.Proof
