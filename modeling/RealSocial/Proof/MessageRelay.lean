import RealSocial.Proof.MessageMerge

namespace RealSocial.Proof

open Library GPBCodedOutputStream GPBCodedInputStream GPBMessage

/-! # What an older class passes on

A message that is read and written again by a class that does not know all of its fields loses none of them: a
class that knows more reads from it what it would have read from the original. -/

/-- A class, and the class with fields added to it and to the classes of its messages. -/
inductive Older : GPBDescriptor → GPBDescriptor → Prop where
  | nil : Older .nil .nil
  | value {number : GPBFieldNumber} {fieldType : GPBFieldType} {type : GPBDataType}
      {allowed : fieldType = .repeated → type.isObject} {older newer : GPBDescriptor} (rest : Older older newer) :
      Older (.value number fieldType type allowed older) (.value number fieldType type allowed newer)
  | message {number : GPBFieldNumber} {fieldType : GPBFieldType} {olderClass newerClass older newer : GPBDescriptor}
      (inside : Older olderClass newerClass) (rest : Older older newer) :
      Older (.message number fieldType olderClass older) (.message number fieldType newerClass newer)
  | addedValue {number : GPBFieldNumber} {fieldType : GPBFieldType} {type : GPBDataType}
      {allowed : fieldType = .repeated → type.isObject} {older newer : GPBDescriptor} (rest : Older older newer) :
      Older older (.value number fieldType type allowed newer)
  | addedMessage {number : GPBFieldNumber} {fieldType : GPBFieldType} {msgClass older newer : GPBDescriptor}
      (rest : Older older newer) : Older older (.message number fieldType msgClass newer)

/-- `sent` is what the class writes of the fields `received`: slot by slot, and then the rest as it came. -/
def Relayed : (d : GPBDescriptor) → (depth : Nat) → (sent received : List WireField) → Prop
  | .nil, _, sent, received => ∀ number format, tagged number format sent = tagged number format received
  | .value number fieldType type _ rest, depth, sent, received =>
      (∃ slot, (tagged number type.wireFormat received).foldlM (putField fieldType type) fieldType.empty = some slot ∧
        tagged number type.wireFormat sent =
          (fieldType.values slot).map fun value => ⟨number, encodeValue type value⟩) ∧
      Relayed rest depth (untagged number type.wireFormat sent) (untagged number type.wireFormat received)
  | .message number fieldType msgClass rest, depth, sent, received =>
      (∃ slot, (tagged number .lengthDelimited received).foldlM (absorbField msgClass depth fieldType)
          fieldType.empty = some slot ∧
        (∀ value ∈ fieldType.values slot, serializedSize msgClass value < 2 ^ 31) ∧
        tagged number .lengthDelimited sent = (fieldType.values slot).map fun value =>
          ⟨number, .lengthDelimited (writeToCodedOutputStream msgClass value)⟩) ∧
      Relayed rest depth (untagged number .lengthDelimited sent) (untagged number .lengthDelimited received)

/-! ## The tags of other fields -/

theorem tagged_untagged {number other : GPBFieldNumber} (format otherFormat : GPBWireFormat)
    (apart : number ≠ other) (fields : List WireField) :
    tagged number format (untagged other otherFormat fields) = tagged number format fields := by
  rw [tagged, tagged, untagged, List.filter_filter]
  apply List.filter_congr
  intro field _
  by_cases mine : field.tag = GPBWireFormatMakeTag number format
  · have yours : field.tag ≠ GPBWireFormatMakeTag other otherFormat := by
      rw [mine]
      exact fun same => apart (makeTag_inj.mp same).1
    simp [mine, mine ▸ yours]
  · simp [mine]

theorem untagged_comm (number other : GPBFieldNumber) (format otherFormat : GPBWireFormat)
    (fields : List WireField) :
    untagged number format (untagged other otherFormat fields) =
      untagged other otherFormat (untagged number format fields) := by
  rw [untagged, untagged, List.filter_comm]
  rfl

theorem relayed_tagged {d : GPBDescriptor} {depth : Nat} {sent received : List WireField} {number : GPBFieldNumber}
    (format : GPBWireFormat) (unknown : number ∉ numbers d) (relayed : Relayed d depth sent received) :
    tagged number format sent = tagged number format received := by
  induction d generalizing sent received with
  | nil => exact relayed number format
  | value other fieldType type allowed rest ih =>
      have apart : number ≠ other := fun same => unknown (same ▸ List.mem_cons_self)
      have inner := ih (fun known => unknown (List.mem_cons_of_mem _ known)) relayed.2
      rwa [tagged_untagged _ _ apart, tagged_untagged _ _ apart] at inner
  | message other fieldType msgClass rest _ ih =>
      have apart : number ≠ other := fun same => unknown (same ▸ List.mem_cons_self)
      have inner := ih (fun known => unknown (List.mem_cons_of_mem _ known)) relayed.2
      rwa [tagged_untagged _ _ apart, tagged_untagged _ _ apart] at inner

theorem relayed_untagged {d : GPBDescriptor} {depth : Nat} {sent received : List WireField}
    {number : GPBFieldNumber} (format : GPBWireFormat) (unknown : number ∉ numbers d)
    (relayed : Relayed d depth sent received) :
    Relayed d depth (untagged number format sent) (untagged number format received) := by
  induction d generalizing sent received with
  | nil =>
      intro other otherFormat
      have same := relayed other otherFormat
      rw [tagged, tagged] at same
      rw [tagged, untagged, tagged, untagged, List.filter_comm, same, List.filter_comm]
  | value other fieldType type allowed rest ih =>
      have apart : other ≠ number := fun same => unknown (same ▸ List.mem_cons_self)
      rw [Relayed, tagged_untagged _ _ apart, tagged_untagged _ _ apart, untagged_comm other, untagged_comm other]
      exact ⟨relayed.1, ih (fun known => unknown (List.mem_cons_of_mem _ known)) relayed.2⟩
  | message other fieldType msgClass rest _ ih =>
      have apart : other ≠ number := fun same => unknown (same ▸ List.mem_cons_self)
      rw [Relayed, tagged_untagged _ _ apart, tagged_untagged _ _ apart, untagged_comm other, untagged_comm other]
      exact ⟨relayed.1, ih (fun known => unknown (List.mem_cons_of_mem _ known)) relayed.2⟩

/-! ## What is written of what was read -/

theorem unknownFields_init (d : GPBDescriptor) : unknownFields d (init d) = ∅ := by
  induction d with
  | nil => rfl
  | value number fieldType type allowed rest ih => exact ih
  | message number fieldType msgClass rest _ ih => exact ih

theorem mem_untagged {number : GPBFieldNumber} {format : GPBWireFormat} {fields : List WireField}
    {field : WireField} :
    field ∈ untagged number format fields ↔ field ∈ fields ∧ field.tag ≠ GPBWireFormatMakeTag number format := by
  rw [untagged, List.mem_filter, decide_eq_true_iff]

/-- The unknown fields are those that were there and some of those that were read. -/
theorem unknown_of_fold {d : GPBDescriptor} {depth : Nat} {before after : GPBMessage d} {fields : List WireField}
    (folded : mergeFieldList d depth before fields = some after) {field : WireField}
    (member : field ∈ unknownList (unknownFields d after)) :
    field ∈ unknownList (unknownFields d before) ∨ field ∈ fields := by
  induction d generalizing fields with
  | nil =>
      rw [mergeFieldList_nil, Option.some.injEq] at folded
      subst folded
      have here : field ∈ tagged field.number field.value.format (unknownList (fields.foldl addField before)) :=
        mem_tagged.mpr ⟨member, rfl⟩
      rw [tagged_foldl_addField, List.mem_append] at here
      exact here.imp (fun old => (mem_tagged.mp old).1) fun new => (mem_tagged.mp new).1
  | value number fieldType type allowed rest ih =>
      obtain ⟨slot, others⟩ := before
      rw [mergeFieldList_value, Option.bind_eq_some_iff] at folded
      obtain ⟨slot, -, rested⟩ := folded
      rw [Option.map_eq_some_iff] at rested
      obtain ⟨others, rested, rfl⟩ := rested
      exact (ih rested member).imp_right fun new => (mem_untagged.mp new).1
  | message number fieldType msgClass rest _ ih =>
      obtain ⟨slot, others⟩ := before
      rw [mergeFieldList_message, Option.bind_eq_some_iff] at folded
      obtain ⟨slot, -, rested⟩ := folded
      rw [Option.map_eq_some_iff] at rested
      obtain ⟨others, rested, rfl⟩ := rested
      exact (ih rested member).imp_right fun new => (mem_untagged.mp new).1

theorem unknown_untagged {d : GPBDescriptor} {depth : Nat} {message : GPBMessage d} {number : GPBFieldNumber}
    {format : GPBWireFormat} {fields : List WireField}
    (folded : mergeFieldList d depth (init d) (untagged number format fields) = some message) :
    ∀ field ∈ unknownList (unknownFields d message), field.tag ≠ GPBWireFormatMakeTag number format := by
  intro field member
  cases unknown_of_fold folded member with
  | inl old =>
      rw [unknownFields_init, unknownList_empty] at old
      cases old
  | inr new => exact (mem_untagged.mp new).2

theorem relayed_of_fold {d : GPBDescriptor} (well : WellFormed d) {depth : Nat} {received : List WireField}
    {message : GPBMessage d} (folded : mergeFieldList d depth (init d) received = some message)
    (fits : ∀ field ∈ fieldList d message, field.Fits) : Relayed d depth (fieldList d message) received := by
  induction d generalizing received with
  | nil =>
      rw [mergeFieldList_nil, Option.some.injEq] at folded
      subst folded
      intro number format
      rw [fieldList, tagged_foldl_addField]
      rfl
  | value number fieldType type allowed rest ih =>
      rw [init, mergeFieldList_value, Option.bind_eq_some_iff] at folded
      obtain ⟨slot, put, rested⟩ := folded
      rw [Option.map_eq_some_iff] at rested
      obtain ⟨others, rested, rfl⟩ := rested
      have apart := tag_ne_of_rest well.1 (unknown_untagged rested)
      have inner := ih well.2 rested fun field member => fits field (List.mem_append_right _ member)
      rw [fieldList, Relayed, tagged_map _ (tag_encodeValue number type) _ apart,
        untagged_map _ (tag_encodeValue number type) _ apart]
      exact ⟨⟨slot, put, rfl⟩, inner⟩
  | message number fieldType msgClass rest _ ih =>
      rw [init, mergeFieldList_message, Option.bind_eq_some_iff] at folded
      obtain ⟨slot, absorbed, rested⟩ := folded
      rw [Option.map_eq_some_iff] at rested
      obtain ⟨others, rested, rfl⟩ := rested
      have apart := tag_ne_of_rest well.1 (unknown_untagged rested)
      have inner := ih well.2.2 rested fun field member => fits field (List.mem_append_right _ member)
      have sizes : ∀ value ∈ fieldType.values slot, serializedSize msgClass value < 2 ^ 31 := by
        intro value member
        rw [← length_write]
        exact fits _ (List.mem_append_left _ (List.mem_map_of_mem member))
      rw [fieldList, Relayed, tagged_map _ (tag_message number msgClass) _ apart,
        untagged_map _ (tag_message number msgClass) _ apart]
      exact ⟨⟨slot, absorbed, sizes, rfl⟩, inner⟩

theorem low_of_fold {d : GPBDescriptor} {depth : Nat} {before after : GPBMessage d} {fields : List WireField}
    (room : depth ≤ defaultRecursionLimit) (folded : mergeFieldList d depth before fields = some after)
    (low : groupNesting (unknownFields d before) + depth ≤ defaultRecursionLimit)
    (shallow : ∀ field ∈ fields, field.Shallow depth) :
    groupNesting (unknownFields d after) + depth ≤ defaultRecursionLimit := by
  rw [← Nat.le_sub_iff_add_le room, groupNesting_le] at low ⊢
  intro field member
  cases unknown_of_fold folded member with
  | inl old => exact low field old
  | inr new => exact (Nat.le_sub_iff_add_le room).mpr (shallow field new)

theorem low_of_init {d : GPBDescriptor} {depth : Nat} {message : GPBMessage d} {fields : List WireField}
    (room : depth ≤ defaultRecursionLimit) (folded : mergeFieldList d depth (init d) fields = some message)
    (shallow : ∀ field ∈ fields, field.Shallow depth) :
    groupNesting (unknownFields d message) + depth ≤ defaultRecursionLimit := by
  refine low_of_fold room folded ?_ shallow
  rw [unknownFields_init, ← Nat.le_sub_iff_add_le room, groupNesting_le, unknownList_empty]
  exact List.forall_mem_nil _

/-! ## Slots -/

theorem putField_from {fieldType : GPBFieldType} {type : GPBDataType} {fields : List WireField}
    {read : fieldType.Slot type.Value}
    (folded : fields.foldlM (putField fieldType type) fieldType.empty = some read)
    (slot : fieldType.Slot type.Value) :
    fields.foldlM (putField fieldType type) slot = some (fieldType.mergeFrom (fun _ value => value) slot read) := by
  induction fields using List.reverseRecOn generalizing read with
  | nil =>
      obtain rfl := Option.some.inj folded
      cases fieldType with
      | single => cases slot <;> rfl
      | repeated => exact congrArg some (List.append_nil slot).symm
  | append_singleton fields field ih =>
      rw [List.foldlM_append] at folded ⊢
      obtain ⟨before, earlier, last⟩ := Option.bind_eq_some_iff.mp folded
      rw [ih earlier]
      simp only [List.foldlM_cons, List.foldlM_nil, bind_pure] at last ⊢
      obtain ⟨value, decoded, rfl⟩ := Option.map_eq_some_iff.mp last
      refine Eq.trans (congrArg (Option.map _) decoded) ?_
      cases fieldType with
      | single => cases slot <;> rfl
      | repeated => exact congrArg some (List.append_assoc slot before [value])

/-- The fields that a field of a message holds. -/
def inside (depth : Nat) (field : WireField) : Option (List WireField) :=
  match field.value with
  | .lengthDelimited data => if depth < defaultRecursionLimit then wireFields (depth + 1) data else none
  | _ => none

theorem inside_message (number : GPBFieldNumber) {d : GPBDescriptor} {depth : Nat} {message : GPBMessage d}
    (room : depth < defaultRecursionLimit) (short : serializedSize d message < 2 ^ 31)
    (low : groupNesting (unknownFields d message) + (depth + 1) ≤ defaultRecursionLimit) :
    inside depth ⟨number, .lengthDelimited (writeToCodedOutputStream d message)⟩ = some (fieldList d message) := by
  simp only [inside, if_pos room, wireFields_message short room, if_pos low]

theorem room_of_inside {depth : Nat} {field : WireField} {fields : List WireField}
    (found : inside depth field = some fields) : depth < defaultRecursionLimit := by
  rw [inside] at found
  split at found
  · by_contra full
    rw [if_neg full] at found
    cases found
  · cases found

theorem shallow_of_inside {depth : Nat} {field : WireField} {fields : List WireField}
    (found : inside depth field = some fields) : ∀ field ∈ fields, field.Shallow (depth + 1) := by
  have room := room_of_inside found
  rw [inside] at found
  split at found
  · rw [if_pos room] at found
    exact shallow_of_wireFields found room
  · cases found

theorem shallow_of_parts {depth : Nat} {fields : List WireField} {parts : List (List WireField)}
    (found : fields.mapM (inside depth) = some parts) : ∀ field ∈ parts.flatten, field.Shallow (depth + 1) := by
  induction fields generalizing parts with
  | nil =>
      obtain rfl := Option.some.inj found
      exact List.forall_mem_nil _
  | cons field fields ih =>
      rw [List.mapM_cons] at found
      obtain ⟨part, first, found⟩ := Option.bind_eq_some_iff.mp found
      obtain ⟨others, later, same⟩ := Option.bind_eq_some_iff.mp found
      obtain rfl := Option.some.inj same
      rw [List.flatten_cons, List.forall_mem_append]
      exact ⟨shallow_of_inside first, ih later⟩

theorem absorbField_single {msgClass : GPBDescriptor} (well : WellFormed msgClass) (depth : Nat)
    (slot : Option (GPBMessage msgClass)) (field : WireField) :
    absorbField msgClass depth .single slot field = (inside depth field).bind fun fields =>
      (mergeFieldList msgClass (depth + 1) (slot.getD (init msgClass)) fields).map some := by
  rw [absorbField, inside]
  cases field.value with
  | lengthDelimited data =>
      by_cases room : depth < defaultRecursionLimit
      · simp only [if_pos room, absorb, mergeData_eq well, Option.map_bind]
        rfl
      · simp only [if_neg room, Option.bind_none]
  | _ => rfl

theorem absorbField_repeated {msgClass : GPBDescriptor} (well : WellFormed msgClass) (depth : Nat)
    (slot : List (GPBMessage msgClass)) (field : WireField) :
    absorbField msgClass depth .repeated slot field = (inside depth field).bind fun fields =>
      (mergeFieldList msgClass (depth + 1) (init msgClass) fields).map fun value => slot ++ [value] := by
  rw [absorbField, inside]
  cases field.value with
  | lengthDelimited data =>
      by_cases room : depth < defaultRecursionLimit
      · simp only [if_pos room, absorb, mergeData_eq well, Option.map_bind]
        rfl
      · simp only [if_neg room, Option.bind_none]
  | _ => rfl

/-- The fields of a single message that comes in parts are those of the parts. -/
theorem absorbField_parts {msgClass : GPBDescriptor} (well : WellFormed msgClass) (depth : Nat)
    (slot : Option (GPBMessage msgClass)) (field : WireField) (fields : List WireField) :
    (field :: fields).foldlM (absorbField msgClass depth .single) slot =
      ((field :: fields).mapM (inside depth)).bind fun parts =>
        (mergeFieldList msgClass (depth + 1) (slot.getD (init msgClass)) parts.flatten).map some := by
  induction fields generalizing field slot with
  | nil =>
      rw [List.foldlM_cons, absorbField_single well]
      cases found : inside depth field with
      | none => simp [found]
      | some part => simp [found]
  | cons next fields ih =>
      rw [List.foldlM_cons, absorbField_single well, List.mapM_cons]
      cases inside depth field with
      | none => rfl
      | some part =>
          cases merged : mergeFieldList msgClass (depth + 1) (slot.getD (init msgClass)) part with
          | none =>
              cases (next :: fields).mapM (inside depth) with
              | none => simp [merged]
              | some parts => simp [merged, mergeFieldList_append]
          | some value =>
              have rest := ih (some value) next
              cases all : (next :: fields).mapM (inside depth) with
              | none => simpa [all, merged] using rest
              | some parts => simpa [all, merged, mergeFieldList_append] using rest

/-! ## Reading on -/

theorem relay_single {older newer : GPBDescriptor} (wellOlder : WellFormed older) (wellNewer : WellFormed newer)
    {depth : Nat}
    (inner : ∀ {sent received : List WireField}, Relayed older (depth + 1) sent received →
      ∀ message, mergeFieldList newer (depth + 1) message sent = mergeFieldList newer (depth + 1) message received)
    (number : GPBFieldNumber) {fields : List WireField} {read : Option (GPBMessage older)}
    (folded : fields.foldlM (absorbField older depth .single) none = some read)
    (sizes : ∀ value ∈ read.toList, serializedSize older value < 2 ^ 31) (slot : Option (GPBMessage newer)) :
    (read.toList.map fun value =>
        (⟨number, .lengthDelimited (writeToCodedOutputStream older value)⟩ : WireField)).foldlM
        (absorbField newer depth .single) slot =
      fields.foldlM (absorbField newer depth .single) slot := by
  cases fields with
  | nil =>
      obtain rfl := Option.some.inj folded
      rfl
  | cons field fields =>
      rw [absorbField_parts wellOlder] at folded
      obtain ⟨parts, found, merged⟩ := Option.bind_eq_some_iff.mp folded
      obtain ⟨value, joined, rfl⟩ := Option.map_eq_some_iff.mp merged
      have short := sizes value (List.mem_singleton_self value)
      have room : depth < defaultRecursionLimit := by
        rw [List.mapM_cons] at found
        obtain ⟨part, first, -⟩ := Option.bind_eq_some_iff.mp found
        exact room_of_inside first
      have relayed := relayed_of_fold wellOlder joined (fits_of_size short)
      have written := inside_message number room short (low_of_init room joined (shallow_of_parts found))
      rw [Option.toList_some, List.map_singleton, absorbField_parts wellNewer, absorbField_parts wellNewer, found]
      simp [written, inner relayed]

theorem relay_repeated {older newer : GPBDescriptor} (wellOlder : WellFormed older)
    (wellNewer : WellFormed newer) {depth : Nat}
    (inner : ∀ {sent received : List WireField}, Relayed older (depth + 1) sent received →
      ∀ message, mergeFieldList newer (depth + 1) message sent = mergeFieldList newer (depth + 1) message received)
    (number : GPBFieldNumber) {fields : List WireField} {read : List (GPBMessage older)}
    (folded : fields.foldlM (absorbField older depth .repeated) [] = some read)
    (sizes : ∀ value ∈ read, serializedSize older value < 2 ^ 31) (slot : List (GPBMessage newer)) :
    (read.map fun value =>
        (⟨number, .lengthDelimited (writeToCodedOutputStream older value)⟩ : WireField)).foldlM
        (absorbField newer depth .repeated) slot =
      fields.foldlM (absorbField newer depth .repeated) slot := by
  induction fields using List.reverseRecOn generalizing read with
  | nil =>
      obtain rfl := Option.some.inj folded
      rfl
  | append_singleton fields field ih =>
      rw [List.foldlM_append] at folded ⊢
      obtain ⟨before, earlier, last⟩ := Option.bind_eq_some_iff.mp folded
      simp only [List.foldlM_cons, List.foldlM_nil, bind_pure] at last ⊢
      rw [absorbField_repeated wellOlder] at last
      obtain ⟨part, found, merged⟩ := Option.bind_eq_some_iff.mp last
      obtain ⟨value, single, rfl⟩ := Option.map_eq_some_iff.mp merged
      have short := sizes value (List.mem_append_right _ (List.mem_singleton_self value))
      have relayed := relayed_of_fold wellOlder single (fits_of_size short)
      have room := room_of_inside found
      have written := inside_message number room short (low_of_init room single (shallow_of_inside found))
      rw [← ih earlier fun value member => sizes value (List.mem_append_left _ member), List.map_append,
        List.foldlM_append]
      congr 1
      funext slot
      simp only [List.map_cons, List.map_nil, List.foldlM_cons, List.foldlM_nil, bind_pure,
        absorbField_repeated wellNewer, written, found, Option.bind_some, inner relayed]

theorem numbers_of_older {older newer : GPBDescriptor} (kept : Older older newer) :
    ∀ number ∈ numbers older, number ∈ numbers newer := by
  induction kept with
  | nil => exact fun _ member => member
  | value rest ih =>
      intro number member
      exact (List.mem_cons.mp member).elim (fun same => same ▸ List.mem_cons_self)
        fun there => List.mem_cons_of_mem _ (ih number there)
  | message msgClass rest _ ih =>
      intro number member
      exact (List.mem_cons.mp member).elim (fun same => same ▸ List.mem_cons_self)
        fun there => List.mem_cons_of_mem _ (ih number there)
  | addedValue rest ih => exact fun number member => List.mem_cons_of_mem _ (ih number member)
  | addedMessage rest ih => exact fun number member => List.mem_cons_of_mem _ (ih number member)

theorem wellFormed_of_older {older newer : GPBDescriptor} (kept : Older older newer) (well : WellFormed newer) :
    WellFormed older := by
  induction kept with
  | nil => trivial
  | value rest ih => exact ⟨fun known => well.1 (numbers_of_older rest _ known), ih well.2⟩
  | message msgClass rest classIh ih =>
      exact ⟨fun known => well.1 (numbers_of_older rest _ known), classIh well.2.1, ih well.2.2⟩
  | addedValue rest ih => exact ih well.2
  | addedMessage rest ih => exact ih well.2.2

theorem mergeFieldList_relayed {older newer : GPBDescriptor} (kept : Older older newer) (well : WellFormed newer)
    {depth : Nat} {sent received : List WireField} (relayed : Relayed older depth sent received)
    (message : GPBMessage newer) :
    mergeFieldList newer depth message sent = mergeFieldList newer depth message received := by
  induction kept generalizing depth sent received with
  | nil =>
      rw [mergeFieldList_nil, mergeFieldList_nil]
      apply congrArg some
      apply set_ext
      intro number format
      rw [tagged_foldl_addField, tagged_foldl_addField, relayed number format]
  | @value number fieldType type allowed older newer rest ih =>
      obtain ⟨slot, others⟩ := message
      obtain ⟨⟨read, folded, written⟩, relayed⟩ := relayed
      rw [mergeFieldList_value, mergeFieldList_value, ih well.2 relayed, written, putField_values,
        putField_from folded]
  | @message number fieldType olderClass newerClass older newer msgClass rest classIh ih =>
      obtain ⟨slot, others⟩ := message
      obtain ⟨⟨read, folded, sizes, written⟩, relayed⟩ := relayed
      have inner : ∀ {sent received : List WireField}, Relayed olderClass (depth + 1) sent received →
          ∀ message, mergeFieldList newerClass (depth + 1) message sent =
            mergeFieldList newerClass (depth + 1) message received :=
        fun relayed message => classIh well.2.1 relayed message
      have wellOlder := wellFormed_of_older msgClass well.2.1
      have slots : (tagged number .lengthDelimited sent).foldlM (absorbField newerClass depth fieldType) slot =
          (tagged number .lengthDelimited received).foldlM (absorbField newerClass depth fieldType) slot := by
        rw [written]
        cases fieldType with
        | single => exact relay_single wellOlder well.2.1 inner number folded sizes slot
        | repeated => exact relay_repeated wellOlder well.2.1 inner number folded sizes slot
      rw [mergeFieldList_message, mergeFieldList_message, ih well.2.2 relayed, slots]
  | @addedValue number fieldType type allowed older newer rest ih =>
      obtain ⟨slot, others⟩ := message
      have unknown : number ∉ numbers older := fun known => well.1 (numbers_of_older rest _ known)
      rw [mergeFieldList_value, mergeFieldList_value, relayed_tagged _ unknown relayed,
        ih well.2 (relayed_untagged _ unknown relayed)]
  | @addedMessage number fieldType msgClass older newer rest ih =>
      obtain ⟨slot, others⟩ := message
      have unknown : number ∉ numbers older := fun known => well.1 (numbers_of_older rest _ known)
      rw [mergeFieldList_message, mergeFieldList_message, relayed_tagged _ unknown relayed,
        ih well.2.2 (relayed_untagged _ unknown relayed)]

end RealSocial.Proof
