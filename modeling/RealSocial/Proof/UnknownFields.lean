import RealSocial.Proof.WireFields

namespace RealSocial.Proof

open Library GPBCodedOutputStream GPBCodedInputStream GPBUnknownFieldSet

/-! # The unknown fields as fields on the wire

They are written by their numbers, and of one number by their formats: what is kept of the order in which they
came is the order among the fields of one tag. -/

def listedIn (number : GPBFieldNumber) (field : GPBUnknownField GPBUnknownFieldSet) :
    GPBWireFormat → List WireField
  | .varint => field.varintList.map fun value => ⟨number, .varint value⟩
  | .fixed32 => field.fixed32List.map fun value => ⟨number, .fixed32 value⟩
  | .fixed64 => field.fixed64List.map fun value => ⟨number, .fixed64 value⟩
  | .lengthDelimited => field.lengthDelimitedList.map fun value => ⟨number, .lengthDelimited value⟩
  | .startGroup => field.groupList.map fun value => ⟨number, .group value⟩
  | .endGroup => []

def listed (number : GPBFieldNumber) (field : GPBUnknownField GPBUnknownFieldSet) : List WireField :=
  listedIn number field .varint ++ listedIn number field .fixed32 ++ listedIn number field .fixed64 ++
    listedIn number field .lengthDelimited ++ listedIn number field .startGroup

def unknownList (set : GPBUnknownFieldSet) : List WireField :=
  set.fields.entries.flatMap fun entry => listed entry.1 entry.2.1

def tagged (number : GPBFieldNumber) (format : GPBWireFormat) (fields : List WireField) : List WireField :=
  fields.filter fun field => field.tag = GPBWireFormatMakeTag number format

def addField (set : GPBUnknownFieldSet) (field : WireField) : GPBUnknownFieldSet :=
  match field.value with
  | .varint value => addVarint set field.number value
  | .fixed32 value => addFixed32 set field.number value
  | .fixed64 value => addFixed64 set field.number value
  | .lengthDelimited value => addLengthDelimited set field.number value
  | .group value => addGroup set field.number value

/-! ## Fields of one tag -/

theorem tag_eq_iff {field : WireField} {number : GPBFieldNumber} {format : GPBWireFormat} :
    field.tag = GPBWireFormatMakeTag number format ↔ field.number = number ∧ field.value.format = format :=
  makeTag_inj

theorem tagged_append (number : GPBFieldNumber) (format : GPBWireFormat) (fields others : List WireField) :
    tagged number format (fields ++ others) = tagged number format fields ++ tagged number format others :=
  List.filter_append ..

theorem number_of_listed {number : GPBFieldNumber} {field : GPBUnknownField GPBUnknownFieldSet} {item : WireField}
    (member : item ∈ listed number field) : item.number = number := by
  simp only [listed, listedIn, List.mem_append, List.mem_map] at member
  obtain (((⟨value, -, rfl⟩ | ⟨value, -, rfl⟩) | ⟨value, -, rfl⟩) | ⟨value, -, rfl⟩) | ⟨value, -, rfl⟩ := member <;>
    rfl

theorem tagged_listedIn (number : GPBFieldNumber) (field : GPBUnknownField GPBUnknownFieldSet)
    (format other : GPBWireFormat) :
    tagged number format (listedIn number field other) =
      if other = format then listedIn number field other else [] := by
  have formats : ∀ item ∈ listedIn number field other, item.number = number ∧ item.value.format = other := by
    intro item member
    cases other with
    | endGroup => cases member
    | _ =>
        obtain ⟨value, -, rfl⟩ := List.mem_map.mp member
        exact ⟨rfl, rfl⟩
  by_cases same : other = format
  · rw [if_pos same, tagged, List.filter_eq_self]
    intro item member
    exact decide_eq_true (tag_eq_iff.mpr ⟨(formats item member).1, (formats item member).2.trans same⟩)
  · rw [if_neg same, tagged, List.filter_eq_nil_iff]
    intro item member holds
    exact same ((formats item member).2.symm.trans (tag_eq_iff.mp (of_decide_eq_true holds)).2)

theorem tagged_listed (number : GPBFieldNumber) (field : GPBUnknownField GPBUnknownFieldSet)
    (format : GPBWireFormat) : tagged number format (listed number field) = listedIn number field format := by
  simp only [listed, tagged_append, tagged_listedIn]
  cases format with
  | endGroup => rfl
  | _ => simp

theorem tagged_unknownList (set : GPBUnknownFieldSet) (number : GPBFieldNumber) (format : GPBWireFormat) :
    tagged number format (unknownList set) =
      listedIn number ((set.fields.find number).elim {} Subtype.val) format := by
  have there := SortedMap.filter_flatMap WireField.number
    (fun number (field : { field : GPBUnknownField GPBUnknownFieldSet // field ≠ {} }) => listed number field.1)
    (fun _ _ _ member => number_of_listed member) set.fields number
    (fun field => field.tag = GPBWireFormatMakeTag number format)
    (fun _ holds => (tag_eq_iff.mp (of_decide_eq_true holds)).1)
  rw [tagged, unknownList, there]
  cases set.fields.find number with
  | none => cases format <;> rfl
  | some field => exact tagged_listed number field.1 format

/-! ## What adding and merging do to them -/

theorem find_mutableFieldForNumber (set : GPBUnknownFieldSet) (number other : GPBFieldNumber)
    (add : GPBUnknownField GPBUnknownFieldSet → GPBUnknownField GPBUnknownFieldSet)
    (added : ∀ field, add field ≠ {}) :
    ((mutableFieldForNumber set number add added).fields.find other).elim {} Subtype.val =
      if other = number then add ((set.fields.find number).elim {} Subtype.val)
      else (set.fields.find other).elim {} Subtype.val := by
  rw [mutableFieldForNumber, fields_ofFields, SortedMap.find_alter]
  split_ifs <;> rfl

theorem tagged_addField (set : GPBUnknownFieldSet) (field : WireField) (number : GPBFieldNumber)
    (format : GPBWireFormat) :
    tagged number format (unknownList (addField set field)) =
      tagged number format (unknownList set) ++ tagged number format [field] := by
  obtain ⟨owner, value⟩ := field
  rw [tagged_unknownList, tagged_unknownList]
  by_cases same : number = owner
  · subst same
    cases value <;> cases format <;>
      simp [addField, addVarint, addFixed32, addFixed64, addLengthDelimited, addGroup, find_mutableFieldForNumber,
        GPBUnknownField.addVarint, GPBUnknownField.addFixed32, GPBUnknownField.addFixed64,
        GPBUnknownField.addLengthDelimited, GPBUnknownField.addGroup, listedIn, tagged, tag_eq_iff,
        WireValue.format]
  · have apart : tagged number format [⟨owner, value⟩] = [] := by
      simp [tagged, tag_eq_iff, Ne.symm same]
    rw [apart, List.append_nil]
    cases value <;>
      simp [addField, addVarint, addFixed32, addFixed64, addLengthDelimited, addGroup, find_mutableFieldForNumber,
        same]

theorem tagged_foldl_addField (fields : List WireField) (set : GPBUnknownFieldSet) (number : GPBFieldNumber)
    (format : GPBWireFormat) :
    tagged number format (unknownList (fields.foldl addField set)) =
      tagged number format (unknownList set) ++ tagged number format fields := by
  induction fields generalizing set with
  | nil => exact (List.append_nil _).symm
  | cons field fields ih =>
      rw [List.foldl_cons, ih, tagged_addField, List.append_assoc, ← tagged_append, List.singleton_append]

theorem field_ext {number : GPBFieldNumber} {field other : GPBUnknownField GPBUnknownFieldSet}
    (same : ∀ format, listedIn number field format = listedIn number other format) : field = other := by
  obtain ⟨varints, fixed32s, fixed64s, lengthDelimiteds, groups⟩ := field
  have one := same .varint
  have two := same .fixed32
  have three := same .fixed64
  have four := same .lengthDelimited
  have five := same .startGroup
  simp only [listedIn] at one two three four five
  rw [List.map_inj_right (by simp)] at one two three four five
  rw [one, two, three, four, five]

theorem set_ext {set other : GPBUnknownFieldSet}
    (same : ∀ number format, tagged number format (unknownList set) = tagged number format (unknownList other)) :
    set = other := by
  apply ext_fields
  apply SortedMap.ext_find
  intro number
  have values : (set.fields.find number).elim {} Subtype.val = (other.fields.find number).elim {} Subtype.val := by
    apply field_ext
    intro format
    rw [← tagged_unknownList, ← tagged_unknownList, same]
  cases mine : set.fields.find number with
  | none =>
      cases yours : other.fields.find number with
      | none => rfl
      | some field =>
          rw [mine, yours] at values
          exact absurd values.symm field.2
  | some field =>
      cases yours : other.fields.find number with
      | none =>
          rw [mine, yours] at values
          exact absurd values field.2
      | some _ =>
          rw [mine, yours] at values
          exact congrArg some (Subtype.ext values)

theorem mergeUnknownFields_eq (set other : GPBUnknownFieldSet) :
    mergeUnknownFields set other = (unknownList other).foldl addField set := by
  have merged : ∀ (entries : List (GPBFieldNumber × { field : GPBUnknownField GPBUnknownFieldSet // field ≠ {} }))
      (set : GPBUnknownFieldSet) (number : GPBFieldNumber) (format : GPBWireFormat),
      tagged number format (unknownList (entries.foldl (fun set entry =>
        mutableFieldForNumber set entry.1 (·.mergeFromField entry.2)
          fun old => old.mergeFromField_ne _ entry.2.2) set)) =
        tagged number format (unknownList set) ++
          tagged number format (entries.flatMap fun entry => listed entry.1 entry.2.1) := by
    intro entries
    induction entries with
    | nil => intro set number format; exact (List.append_nil _).symm
    | cons entry entries ih =>
        intro set number format
        obtain ⟨owner, field⟩ := entry
        rw [List.foldl_cons, ih, List.flatMap_cons, tagged_append, ← List.append_assoc]
        congr 1
        rw [tagged_unknownList, tagged_unknownList, find_mutableFieldForNumber]
        by_cases same : number = owner
        · subst same
          rw [if_pos rfl, tagged_listed]
          cases format <;> simp [listedIn, GPBUnknownField.mergeFromField]
        · have apart : tagged number format (listed owner field.1) = [] := by
            rw [tagged, List.filter_eq_nil_iff]
            intro item member holds
            have numbered := (tag_eq_iff.mp (of_decide_eq_true holds)).1
            exact same (numbered.symm.trans (number_of_listed member))
          rw [if_neg same, apart, List.append_nil]
  apply set_ext
  intro number format
  rw [tagged_foldl_addField]
  exact merged other.fields.entries set number format

theorem unknownList_mergeFrom (set other : GPBUnknownFieldSet) :
    GPBUnknownFieldSet.mergeFrom set other = (unknownList other).foldl addField set := by
  rw [GPBUnknownFieldSet.mergeFrom]
  split_ifs with empty
  · subst empty
    apply set_ext
    intro number format
    rw [tagged_foldl_addField]
    exact (List.nil_append _).symm
  · exact mergeUnknownFields_eq set other

end RealSocial.Proof
