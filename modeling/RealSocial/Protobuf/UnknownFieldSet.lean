import Mathlib.Order.Basic
import RealSocial.Library.SortedMap
import RealSocial.Protobuf.CodedInputStream

namespace RealSocial

open Library GPBCodedOutputStream GPBCodedInputStream

/-! # Fields that a message does not know -/

def GPBWireFormatGetTagWireType (tag : UInt32) : UInt32 := tag &&& 7

-- `checkNumber` raises for zero
def GPBWireFormatGetTagFieldNumber (tag : UInt32) : Option GPBFieldNumber :=
  let number := (tag >>> 3).toNat
  if valid : 0 < number ∧ number < 2 ^ 29 then some ⟨number, valid⟩ else none

/-! ## One field -/

structure GPBUnknownField (Group : Type) where
  varintList : List UInt64 := []
  fixed32List : List UInt32 := []
  fixed64List : List UInt64 := []
  lengthDelimitedList : List NSData := []
  groupList : List Group := []
  deriving DecidableEq, Repr

namespace GPBUnknownField

variable {Group Other : Type} (field : GPBUnknownField Group)

def addVarint (value : UInt64) : GPBUnknownField Group := { field with varintList := field.varintList ++ [value] }

def addFixed32 (value : UInt32) : GPBUnknownField Group :=
  { field with fixed32List := field.fixed32List ++ [value] }

def addFixed64 (value : UInt64) : GPBUnknownField Group :=
  { field with fixed64List := field.fixed64List ++ [value] }

def addLengthDelimited (value : NSData) : GPBUnknownField Group :=
  { field with lengthDelimitedList := field.lengthDelimitedList ++ [value] }

def addGroup (value : Group) : GPBUnknownField Group := { field with groupList := field.groupList ++ [value] }

def mergeFromField (other : GPBUnknownField Group) : GPBUnknownField Group where
  varintList := field.varintList ++ other.varintList
  fixed32List := field.fixed32List ++ other.fixed32List
  fixed64List := field.fixed64List ++ other.fixed64List
  lengthDelimitedList := field.lengthDelimitedList ++ other.lengthDelimitedList
  groupList := field.groupList ++ other.groupList

def withGroups (groups : List Other) : GPBUnknownField Other where
  varintList := field.varintList
  fixed32List := field.fixed32List
  fixed64List := field.fixed64List
  lengthDelimitedList := field.lengthDelimitedList
  groupList := groups

-- a group stands for what its fields write
def writeToOutput (field : GPBUnknownField NSData) (number : GPBFieldNumber) : NSData :=
  field.varintList.flatMap (writeUInt64 number) ++ field.fixed32List.flatMap (writeFixed32 number) ++
    field.fixed64List.flatMap (writeFixed64 number) ++ field.lengthDelimitedList.flatMap (writeBytes number) ++
    field.groupList.flatMap (writeUnknownGroup number)

-- a group stands for its computed size
def serializedSize (field : GPBUnknownField Nat) (number : GPBFieldNumber) : Nat :=
  (field.varintList.map (GPBComputeSize GPBComputeUInt64SizeNoTag number)).sum +
    (field.fixed32List.map (GPBComputeSize GPBComputeFixed32SizeNoTag number)).sum +
    (field.fixed64List.map (GPBComputeSize GPBComputeFixed64SizeNoTag number)).sum +
    (field.lengthDelimitedList.map (GPBComputeSize GPBComputeBytesSizeNoTag number)).sum +
    (field.groupList.map (GPBComputeUnknownGroupSize number)).sum

theorem addVarint_ne (value : UInt64) : field.addVarint value ≠ {} := by
  intro empty
  simpa [addVarint] using congrArg varintList empty

theorem addFixed32_ne (value : UInt32) : field.addFixed32 value ≠ {} := by
  intro empty
  simpa [addFixed32] using congrArg fixed32List empty

theorem addFixed64_ne (value : UInt64) : field.addFixed64 value ≠ {} := by
  intro empty
  simpa [addFixed64] using congrArg fixed64List empty

theorem addLengthDelimited_ne (value : NSData) : field.addLengthDelimited value ≠ {} := by
  intro empty
  simpa [addLengthDelimited] using congrArg lengthDelimitedList empty

theorem addGroup_ne (value : Group) : field.addGroup value ≠ {} := by
  intro empty
  simpa [addGroup] using congrArg groupList empty

theorem mergeFromField_ne (other : GPBUnknownField Group) (some : other ≠ {}) : field.mergeFromField other ≠ {} := by
  intro empty
  apply some
  obtain ⟨varints, fixed32s, fixed64s, lengthDelimiteds, groups⟩ := other
  simp only [mergeFromField, GPBUnknownField.mk.injEq, List.append_eq_nil_iff] at empty
  simp [empty]

theorem withGroups_ne {groups : List Other} (some : field ≠ {})
    (kept : field.groupList ≠ [] → groups ≠ []) : field.withGroups groups ≠ {} := by
  intro empty
  apply some
  obtain ⟨varints, fixed32s, fixed64s, lengthDelimiteds, groups'⟩ := field
  simp only [withGroups, GPBUnknownField.mk.injEq] at empty kept
  have none : groups' = [] := by
    by_contra there
    exact kept there empty.2.2.2.2
  simp [empty, none]

end GPBUnknownField

/-! ## The fields of a set and of the groups in it -/

inductive UnknownFieldTree where
  | mk (fields : List (GPBFieldNumber × GPBUnknownField UnknownFieldTree))

namespace UnknownFieldTree

def fields : UnknownFieldTree → List (GPBFieldNumber × GPBUnknownField UnknownFieldTree)
  | mk fields => fields

mutual

def decEq : (tree other : UnknownFieldTree) → Decidable (tree = other)
  | mk fields, mk others =>
      have := decEqFields fields others
      decidable_of_iff (fields = others) (mk.injEq _ _).symm.to_iff

def decEqFields : (fields others : List (GPBFieldNumber × GPBUnknownField UnknownFieldTree)) →
    Decidable (fields = others)
  | [], [] => isTrue rfl
  | [], _ :: _ => isFalse (List.cons_ne_nil _ _).symm
  | _ :: _, [] => isFalse (List.cons_ne_nil _ _)
  | (number, ⟨varints, fixed32s, fixed64s, lengthDelimiteds, groups⟩) :: fields,
    (number', ⟨varints', fixed32s', fixed64s', lengthDelimiteds', groups'⟩) :: others =>
      have := decEqGroups groups groups'
      have := decEqFields fields others
      decidable_of_iff ((number = number' ∧ varints = varints' ∧ fixed32s = fixed32s' ∧ fixed64s = fixed64s' ∧
        lengthDelimiteds = lengthDelimiteds' ∧ groups = groups') ∧ fields = others) (by simp)

def decEqGroups : (groups others : List UnknownFieldTree) → Decidable (groups = others)
  | [], [] => isTrue rfl
  | [], _ :: _ => isFalse (List.cons_ne_nil _ _).symm
  | _ :: _, [] => isFalse (List.cons_ne_nil _ _)
  | group :: groups, other :: others =>
      have := decEq group other
      have := decEqGroups groups others
      decidable_of_iff (group = other ∧ groups = others) (by simp)

end

instance : DecidableEq UnknownFieldTree := decEq

mutual

/-- What `f` makes of the fields, once it has been made of the groups in them. -/
def fold {β : Type} (f : List (GPBFieldNumber × GPBUnknownField β) → β) : UnknownFieldTree → β
  | mk fields => f (foldFields f fields)

def foldFields {β : Type} (f : List (GPBFieldNumber × GPBUnknownField β) → β) :
    List (GPBFieldNumber × GPBUnknownField UnknownFieldTree) → List (GPBFieldNumber × GPBUnknownField β)
  | [] => []
  | (number, ⟨varints, fixed32s, fixed64s, lengthDelimiteds, groups⟩) :: fields =>
      (number, ⟨varints, fixed32s, fixed64s, lengthDelimiteds, foldGroups f groups⟩) :: foldFields f fields

def foldGroups {β : Type} (f : List (GPBFieldNumber × GPBUnknownField β) → β) : List UnknownFieldTree → List β
  | [] => []
  | group :: groups => fold f group :: foldGroups f groups

end

/-- The numbers go up and every field has a value, in the groups too. -/
inductive Ordered : UnknownFieldTree → Prop where
  | mk {fields : List (GPBFieldNumber × GPBUnknownField UnknownFieldTree)}
      (sorted : fields.Pairwise fun field other => field.1 < other.1) (some : ∀ field ∈ fields, field.2 ≠ {})
      (groups : ∀ field ∈ fields, ∀ group ∈ field.2.groupList, Ordered group) : Ordered (mk fields)

section Fold

variable {β : Type} (f : List (GPBFieldNumber × GPBUnknownField β) → β)

theorem foldGroups_eq (groups : List UnknownFieldTree) : foldGroups f groups = groups.map (fold f) := by
  induction groups with
  | nil => rfl
  | cons group groups ih => rw [foldGroups, ih, List.map_cons]

theorem foldFields_eq (fields : List (GPBFieldNumber × GPBUnknownField UnknownFieldTree)) :
    foldFields f fields = fields.map fun field => (field.1, field.2.withGroups (field.2.groupList.map (fold f))) := by
  induction fields with
  | nil => rfl
  | cons field fields ih =>
      obtain ⟨number, varints, fixed32s, fixed64s, lengthDelimiteds, groups⟩ := field
      rw [foldFields, ih, foldGroups_eq, List.map_cons, GPBUnknownField.withGroups]

end Fold

end UnknownFieldTree

/-- The fields by their numbers. A field is there from the first value that is added to it. -/
def GPBUnknownFieldSet := { tree : UnknownFieldTree // tree.Ordered }

instance : DecidableEq GPBUnknownFieldSet := inferInstanceAs (DecidableEq { tree : UnknownFieldTree // tree.Ordered })

abbrev GPBUnknownFields := SortedMap GPBFieldNumber { field : GPBUnknownField GPBUnknownFieldSet // field ≠ {} }

namespace GPBUnknownFieldSet

/-! ## The dictionary of a set -/

theorem ordered_fields {tree : UnknownFieldTree} (ordered : tree.Ordered) :
    (tree.fields.Pairwise fun field other => field.1 < other.1) ∧
      ∀ field ∈ tree.fields, field.2 ≠ {} ∧ ∀ group ∈ field.2.groupList, group.Ordered := by
  cases ordered with
  | mk sorted some groups => exact ⟨sorted, fun field member => ⟨some field member, groups field member⟩⟩

/-- A field of the tree with its groups as sets. -/
def fieldOf (field : GPBUnknownField UnknownFieldTree)
    (ordered : field ≠ {} ∧ ∀ group ∈ field.groupList, group.Ordered) :
    { field : GPBUnknownField GPBUnknownFieldSet // field ≠ {} } :=
  ⟨field.withGroups (field.groupList.attachWith _ ordered.2),
    field.withGroups_ne ordered.1 fun some none => some (List.attachWith_eq_nil_iff.mp none)⟩

def treeOf (field : GPBUnknownField GPBUnknownFieldSet) : GPBUnknownField UnknownFieldTree :=
  field.withGroups (field.groupList.map Subtype.val)

def fields (set : GPBUnknownFieldSet) : GPBUnknownFields where
  entries := set.1.fields.pmap (fun field ordered => (field.1, fieldOf field.2 ordered)) (ordered_fields set.2).2
  sorted := by
    rw [List.pairwise_pmap]
    exact (ordered_fields set.2).1.imp fun before _ _ => before

def ofFields (fields : GPBUnknownFields) : GPBUnknownFieldSet where
  val := .mk (fields.entries.map fun field => (field.1, treeOf field.2.1))
  property := by
    constructor
    · rw [List.pairwise_map]
      exact fields.sorted
    · rw [List.forall_mem_map]
      intro field _
      exact field.2.1.withGroups_ne field.2.2 fun some none => some (List.map_eq_nil_iff.mp none)
    · rw [List.forall_mem_map]
      intro field _ group member
      obtain ⟨set, -, rfl⟩ := List.mem_map.mp member
      exact set.2

theorem treeOf_fieldOf (field : GPBUnknownField UnknownFieldTree)
    (ordered : field ≠ {} ∧ ∀ group ∈ field.groupList, group.Ordered) : treeOf (fieldOf field ordered).1 = field := by
  have groups : (field.groupList.attachWith _ ordered.2).map Subtype.val = field.groupList :=
    List.attachWith_map_subtype_val _
  rw [treeOf, fieldOf]
  simp only [GPBUnknownField.withGroups, groups]

theorem fieldOf_treeOf (field : { field : GPBUnknownField GPBUnknownFieldSet // field ≠ {} })
    (ordered : treeOf field.1 ≠ {} ∧ ∀ group ∈ (treeOf field.1).groupList, group.Ordered) :
    fieldOf (treeOf field.1) ordered = field := by
  obtain ⟨⟨varints, fixed32s, fixed64s, lengthDelimiteds, groups⟩, some⟩ := field
  have same : (groups.map Subtype.val).attachWith _ ordered.2 = groups := by
    apply List.map_injective_iff.mpr Subtype.val_injective
    exact List.attachWith_map_subtype_val _
  apply Subtype.ext
  exact congrArg (GPBUnknownField.mk varints fixed32s fixed64s lengthDelimiteds) same

@[simp] theorem ofFields_fields (set : GPBUnknownFieldSet) : ofFields (fields set) = set := by
  obtain ⟨⟨entries⟩, ordered⟩ := set
  apply Subtype.ext
  apply congrArg UnknownFieldTree.mk
  simp only [GPBUnknownFieldSet.fields, UnknownFieldTree.fields, List.map_pmap, treeOf_fieldOf]
  exact (List.pmap_eq_map ..).trans (List.map_id _)

@[simp] theorem fields_ofFields (fields : GPBUnknownFields) : (ofFields fields).fields = fields := by
  apply SortedMap.ext
  simp only [GPBUnknownFieldSet.fields, ofFields, UnknownFieldTree.fields, List.pmap_map, fieldOf_treeOf]
  exact (List.pmap_eq_map ..).trans (List.map_id _)

instance : EmptyCollection GPBUnknownFieldSet := ⟨ofFields ∅⟩

@[simp] theorem fields_empty : (∅ : GPBUnknownFieldSet).fields = ∅ := fields_ofFields ∅

theorem ext_fields {set other : GPBUnknownFieldSet} (same : set.fields = other.fields) : set = other := by
  rw [← ofFields_fields set, same, ofFields_fields]

/-- What is so of a set when it is so of the groups in it is so of every set. -/
theorem ofGroups {holds : GPBUnknownFieldSet → Prop}
    (step : ∀ set : GPBUnknownFieldSet,
      (∀ field ∈ set.fields.entries, ∀ group ∈ field.2.1.groupList, holds group) → holds set)
    (set : GPBUnknownFieldSet) : holds set := by
  obtain ⟨tree, ordered⟩ := set
  induction ordered with
  | @mk entries sorted some groups ih =>
      apply step
      intro field member group among
      obtain ⟨entry, there, rfl⟩ := List.mem_pmap.mp member
      exact ih entry there group.1 ((List.mem_attachWith _ _).mp among)

def fold {β : Type} (f : List (GPBFieldNumber × GPBUnknownField β) → β) (set : GPBUnknownFieldSet) : β :=
  set.1.fold f

theorem fold_eq {β : Type} (f : List (GPBFieldNumber × GPBUnknownField β) → β) (set : GPBUnknownFieldSet) :
    set.fold f = f (set.fields.entries.map fun field =>
      (field.1, field.2.1.withGroups (field.2.1.groupList.map (fold f)))) := by
  obtain ⟨⟨entries⟩, ordered⟩ := set
  change f (UnknownFieldTree.foldFields f entries) = _
  rw [UnknownFieldTree.foldFields_eq]
  simp only [GPBUnknownFieldSet.fields, UnknownFieldTree.fields, List.map_pmap]
  have groups (field : GPBUnknownField UnknownFieldTree)
      (ordered : field ≠ {} ∧ ∀ group ∈ field.groupList, group.Ordered) :
      (fieldOf field ordered).1.groupList.map (fold f) = field.groupList.map (UnknownFieldTree.fold f) := by
    calc (fieldOf field ordered).1.groupList.map (fold f)
        = ((field.groupList.attachWith _ ordered.2).map Subtype.val).map (UnknownFieldTree.fold f) :=
          (List.map_map ..).symm
      _ = field.groupList.map (UnknownFieldTree.fold f) := by rw [List.attachWith_map_subtype_val]
  simp only [groups]
  exact congrArg f (List.pmap_eq_map ..).symm

/-! ## Adding and merging -/

variable (set : GPBUnknownFieldSet)

def mutableFieldForNumber (number : GPBFieldNumber)
    (add : GPBUnknownField GPBUnknownFieldSet → GPBUnknownField GPBUnknownFieldSet)
    (added : ∀ field, add field ≠ {}) : GPBUnknownFieldSet :=
  ofFields (set.fields.alter number fun existing => ⟨add (existing.elim {} Subtype.val), added _⟩)

def addVarint (number : GPBFieldNumber) (value : UInt64) : GPBUnknownFieldSet :=
  mutableFieldForNumber set number (·.addVarint value) fun field => field.addVarint_ne value

def addFixed32 (number : GPBFieldNumber) (value : UInt32) : GPBUnknownFieldSet :=
  mutableFieldForNumber set number (·.addFixed32 value) fun field => field.addFixed32_ne value

def addFixed64 (number : GPBFieldNumber) (value : UInt64) : GPBUnknownFieldSet :=
  mutableFieldForNumber set number (·.addFixed64 value) fun field => field.addFixed64_ne value

def addLengthDelimited (number : GPBFieldNumber) (value : NSData) : GPBUnknownFieldSet :=
  mutableFieldForNumber set number (·.addLengthDelimited value) fun field => field.addLengthDelimited_ne value

def addGroup (number : GPBFieldNumber) (value : GPBUnknownFieldSet) : GPBUnknownFieldSet :=
  mutableFieldForNumber set number (·.addGroup value) fun field => field.addGroup_ne value

def mergeUnknownFields (other : GPBUnknownFieldSet) : GPBUnknownFieldSet :=
  other.fields.entries.foldl (fun set (number, field) =>
    mutableFieldForNumber set number (·.mergeFromField field) fun old => old.mergeFromField_ne _ field.2) set

/-- The unknown fields in `mergeFrom:` of a message. -/
def mergeFrom (other : GPBUnknownFieldSet) : GPBUnknownFieldSet :=
  if set = ∅ then other else mergeUnknownFields set other

/-! ## Reading and writing -/

/-- The answer is NO for the tag of the end of a group. The fields of a group are read by the function that is
given. -/
def mergeFieldFrom
    (mergeFromCodedInputStream : GPBUnknownFieldSet → GPBCodedInputStreamState →
      Option (GPBUnknownFieldSet × GPBCodedInputStreamState))
    (tag : UInt32) (input : GPBCodedInputStreamState) :
    Option (Bool × GPBUnknownFieldSet × GPBCodedInputStreamState) :=
  (GPBWireFormatGetTagFieldNumber tag).bind fun number =>
    match GPBWireFormatGetTagWireType tag with
    | 0 => (readInt64 input.left).map fun (value, left) => (true, addVarint set number value, { input with left })
    | 1 => (readFixed64 input.left).map fun (value, left) => (true, addFixed64 set number value, { input with left })
    | 2 => (readRetainedBytes input.left).map fun (value, left) =>
        (true, addLengthDelimited set number value, { input with left })
    | 3 => (readUnknownGroup mergeFromCodedInputStream number ∅ input).map fun (group, input) =>
        (true, addGroup set number group, input)
    | 4 => some (false, set, input)
    | 5 => (readFixed32 input.left).map fun (value, left) => (true, addFixed32 set number value, { input with left })
    | _ => none

/-- Every tag takes a byte, also in the groups, so there are not more rounds in a row than bytes, and one at the
end. -/
def mergeFromCodedInputStream : (fuel : Nat) → GPBUnknownFieldSet → GPBCodedInputStreamState →
    Option (GPBUnknownFieldSet × GPBCodedInputStreamState)
  | 0, _, _ => none
  | fuel + 1, set, input =>
      (readTag input).bind fun (tag, input) =>
        if tag = 0 then some (set, input)
        else
          (mergeFieldFrom set (mergeFromCodedInputStream fuel) tag input).bind fun (merged, set, input) =>
            if merged then mergeFromCodedInputStream fuel set input else some (set, input)

def writeToCodedOutputStream : NSData :=
  set.fold fun fields => fields.flatMap fun (number, field) => field.writeToOutput number

def serializedSize : Nat := set.fold fun fields => (fields.map fun (number, field) => field.serializedSize number).sum

end GPBUnknownFieldSet

end RealSocial
