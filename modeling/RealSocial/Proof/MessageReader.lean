import RealSocial.Proof.MessageFields

namespace RealSocial.Proof

open Library GPBCodedOutputStream GPBCodedInputStream GPBMessage

/-! # The reader and its index

The index into the fields of the class goes around and is kept from one tag to the next. Whatever it is, a tag
is found when the class has it. -/

theorem searchFields_found {keys : List (Option UInt32)} {tag : UInt32} {tries startingIndex i next : Nat}
    (found : searchFields keys tag tries startingIndex = (some i, next)) : keys[i]? = some (some tag) := by
  induction tries generalizing startingIndex with
  | zero => cases found
  | succ tries ih =>
      rw [searchFields] at found
      generalize (if keys.length ≤ startingIndex then 0 else startingIndex) = start at found
      by_cases here : keys[start]? = some (some tag)
      · rw [if_pos here] at found
        obtain rfl := Option.some.inj (Prod.mk.inj found).1
        exact here
      · rw [if_neg here] at found
        exact ih found

/-- The fields from the index on and around that were looked at. -/
theorem searchFields_around {keys : List (Option UInt32)} {tag : UInt32} {tries startingIndex : Nat}
    (missing : (searchFields keys tag tries startingIndex).1 = none) (k : Nat) (looked : k < tries) :
    keys[((if keys.length ≤ startingIndex then 0 else startingIndex) + k) % keys.length]? ≠ some (some tag) := by
  induction tries generalizing startingIndex k with
  | zero => exact absurd looked (Nat.not_lt_zero k)
  | succ tries ih =>
      rw [searchFields] at missing
      generalize first : (if keys.length ≤ startingIndex then 0 else startingIndex) = start at missing ⊢
      by_cases here : keys[start]? = some (some tag)
      · rw [if_pos here] at missing
        cases missing
      · rw [if_neg here] at missing
        cases keys with
        | nil => simp
        | cons key keys =>
            have inside : start < (key :: keys).length := by
              rw [← first]
              split_ifs with wrapped
              · exact Nat.succ_pos _
              · exact not_le.mp wrapped
            cases k with
            | zero => rwa [Nat.add_zero, Nat.mod_eq_of_lt inside]
            | succ k =>
                have later := ih missing k (Nat.lt_of_succ_lt_succ looked)
                have place : (start + (k + 1)) % (key :: keys).length =
                    ((if (key :: keys).length ≤ start + 1 then 0 else start + 1) + k) % (key :: keys).length := by
                  split_ifs with wrapped
                  · have last : start + 1 = (key :: keys).length := Nat.le_antisymm inside wrapped
                    rw [Nat.zero_add, ← last, Nat.add_comm k 1, ← Nat.add_assoc, Nat.add_mod_left]
                  · rw [Nat.add_assoc, Nat.add_comm 1]
                rwa [place]

theorem searchFields_absent {keys : List (Option UInt32)} {tag : UInt32} {startingIndex : Nat}
    (missing : (searchFields keys tag keys.length startingIndex).1 = none) : some tag ∉ keys := by
  intro member
  obtain ⟨j, inside, there⟩ := List.mem_iff_getElem.mp member
  generalize first : (if keys.length ≤ startingIndex then 0 else startingIndex) = start
  have before : start < keys.length := by
    rw [← first]
    split_ifs with wrapped
    · exact Nat.zero_lt_of_lt inside
    · exact not_le.mp wrapped
  have looked := searchFields_around missing ((j + keys.length - start) % keys.length)
    (Nat.mod_lt _ (Nat.zero_lt_of_lt inside))
  have place : (start + (j + keys.length - start) % keys.length) % keys.length = j := by
    rw [Nat.add_mod_mod, Nat.add_sub_cancel' (by omega), Nat.add_mod_right, Nat.mod_eq_of_lt inside]
  rw [first, place, List.getElem?_eq_getElem inside, there] at looked
  exact looked rfl

/-! ## Fields that the class does not have -/

theorem mergeField_unknown {d : GPBDescriptor} (depth : Nat) (message : GPBMessage d) {field : WireField}
    (absent : ∀ entry ∈ d.tags, entry.1 ≠ field.tag) :
    mergeField d depth message field =
      some (setUnknownFields d (addField (unknownFields d message) field) message) := by
  induction d with
  | nil => rfl
  | value number fieldType type allowed rest ih =>
      have apart := absent _ List.mem_cons_self
      have inner := ih message.2 fun entry member => absent entry (List.mem_cons_of_mem _ member)
      rw [mergeField, if_neg (Ne.symm apart), inner]
      rfl
  | message number fieldType msgClass rest _ ih =>
      have apart := absent _ List.mem_cons_self
      have inner := ih message.2 fun entry member => absent entry (List.mem_cons_of_mem _ member)
      rw [mergeField, if_neg (Ne.symm apart), inner]
      rfl

theorem parseUnknownField_eq {d : GPBDescriptor} {number : GPBFieldNumber} {format : GPBWireFormat}
    (absent : ∀ entry ∈ d.tags, entry.1 ≠ GPBWireFormatMakeTag number format) (message : GPBMessage d)
    (input : GPBCodedInputStreamState) (field : format ≠ .endGroup) :
    (parseUnknownField d (GPBWireFormatMakeTag number format) message input).map
        (fun read => (read.1, settle read.2)) =
      (readField input.recursionDepth (GPBWireFormatMakeTag number format) input.left).bind fun (field, left) =>
        (mergeField d input.recursionDepth message field).map fun message =>
          (true, message, left, input.recursionDepth) := by
  have wireType : GPBWireFormatGetTagWireType (GPBWireFormatMakeTag number format) ≠ 4 := by
    rw [wireType_makeTag]
    cases format with
    | endGroup => exact absurd rfl field
    | _ => decide
  have added := congrArg (Option.map fun read => (read.1, setUnknownFields d read.2.1 message, read.2.2))
    (mergeFieldFrom_field (unknownFields d message) number field input)
  rw [Option.map_map, Option.map_map] at added
  rw [parseUnknownField, if_pos wireType, Option.map_map]
  refine added.trans ?_
  cases found : readField input.recursionDepth (GPBWireFormatMakeTag number format) input.left with
  | none => rfl
  | some read =>
      obtain ⟨field, left⟩ := read
      rw [← tag_of_readField found] at absent
      simp only [Option.map_some, Option.bind_some, mergeField_unknown input.recursionDepth message absent]
      rfl

theorem merged_of_parseUnknownField {d : GPBDescriptor} {number : GPBFieldNumber} {format : GPBWireFormat}
    (absent : ∀ entry ∈ d.tags, entry.1 ≠ GPBWireFormatMakeTag number format) {message : GPBMessage d}
    {input : GPBCodedInputStreamState} (field : format ≠ .endGroup)
    {read : Bool × GPBMessage d × GPBCodedInputStreamState}
    (found : parseUnknownField d (GPBWireFormatMakeTag number format) message input = some read) : read.1 = true := by
  have same := parseUnknownField_eq absent message input field
  rw [found, Option.map_some, eq_comm, Option.bind_eq_some_iff] at same
  obtain ⟨_, -, merged⟩ := same
  obtain ⟨_, -, merged⟩ := Option.map_eq_some_iff.mp merged
  exact (congrArg Prod.fst merged).symm

/-! ## The loop -/

theorem readField_invalid (depth : Nat) {tag : UInt32} (left : NSData)
    (invalid : ¬ (tag &&& 7 ≤ 5 ∧ tag >>> 3 ≠ 0)) : readField depth tag left = none := by
  rw [readField]
  by_cases zero : tag >>> 3 = 0
  · have unnumbered : GPBWireFormatGetTagFieldNumber tag = none := by
      simp [GPBWireFormatGetTagFieldNumber, zero]
    rw [unnumbered, Option.bind_none]
  · have high : ¬ tag &&& 7 ≤ 5 := fun low => invalid ⟨low, zero⟩
    have unformatted : formatOf tag = none := by
      rw [formatOf, GPBWireFormatGetTagWireType]
      split <;> first | rfl | simp_all
    rw [unformatted]
    cases GPBWireFormatGetTagFieldNumber tag <;> rfl

theorem readField_endGroup (depth : Nat) (number : GPBFieldNumber) (left : NSData) :
    readField depth (GPBWireFormatMakeTag number .endGroup) left = none := by
  rw [readField_makeTag]
  rfl

/-- The fields that are read and then merged, with the first of them merged first. -/
theorem readFields_first (d : GPBDescriptor) (depth fuel : Nat) (message : GPBMessage d)
    (first : Option (WireField × NSData)) :
    (first.bind fun (field, left) => (readFieldsWithin depth fuel left).map (field :: ·)).bind
        (mergeFieldList d depth message) =
      first.bind fun (field, left) => (mergeField d depth message field).bind fun message =>
        (readFieldsWithin depth fuel left).bind (mergeFieldList d depth message) := by
  cases first with
  | none => rfl
  | some read =>
      obtain ⟨field, left⟩ := read
      simp only [Option.bind_some, Option.bind_map]
      cases readFieldsWithin depth fuel left with
      | none => cases mergeField d depth message field <;> rfl
      | some fields =>
          simp only [Option.bind_some, Function.comp_apply, mergeFieldList, List.foldlM_cons]
          rfl

/-- Whatever the index is, the loop merges the fields one after the other. -/
theorem mergeLoop_eq {d : GPBDescriptor} (well : WellFormed d) (fuel startingIndex : Nat)
    (message : GPBMessage d) (input : GPBCodedInputStreamState) :
    (mergeLoop d.tags (mergeFieldAt d) (parseUnknownField d) fuel startingIndex message input).bind finish =
      (readFieldsWithin input.recursionDepth fuel input.left).bind
        (mergeFieldList d input.recursionDepth message) := by
  induction fuel generalizing startingIndex message input with
  | zero => rfl
  | succ fuel ih =>
      rw [mergeLoop, readFieldsWithin, readTag]
      by_cases ended : input.left = []
      · simp [isAtEnd, ended, finish, mergeFieldList]
      · have going : isAtEnd input = false := decide_eq_false ended
        rw [going, if_neg ended, if_neg Bool.false_ne_true, Option.bind_assoc, Option.bind_assoc,
          Option.bind_assoc]
        apply Option.bind_congr
        intro read _
        obtain ⟨tag, left⟩ := read
        simp only [readFields_first]
        by_cases valid : tag &&& 7 ≤ 5 ∧ tag >>> 3 ≠ 0
        · have nonzero : tag ≠ 0 := by
            rintro rfl
            exact valid.2 rfl
          simp only [if_pos valid, Option.bind_some, if_neg nonzero]
          cases search : searchFields (d.tags.map fun field => some field.1) tag d.tags.length startingIndex with
          | mk found next =>
              cases found with
              | some i =>
                  obtain ⟨entry, there, same⟩ : ∃ entry, d.tags[i]? = some entry ∧ entry.1 = tag := by
                    have key := searchFields_found search
                    rw [List.getElem?_map, Option.map_eq_some_iff] at key
                    obtain ⟨entry, there, same⟩ := key
                    exact ⟨entry, there, Option.some.inj same⟩
                  subst same
                  have merged := congrArg (Option.bind · fun read =>
                      (readFieldsWithin read.2.2 fuel read.2.1).bind (mergeFieldList d read.2.2 read.1))
                    (mergeFieldAt_eq well there message { input with left, lastTag := entry.1 })
                  rw [Option.bind_map, Option.bind_assoc] at merged
                  rw [Option.bind_assoc]
                  refine Eq.trans (Option.bind_congr fun read _ => ih _ read.1 read.2) (Eq.trans merged ?_)
                  apply Option.bind_congr
                  intro read _
                  rw [Option.bind_map]
                  rfl
              | none =>
                  have absent : ∀ entry ∈ d.tags, entry.1 ≠ tag := by
                    intro entry member same
                    have missing : some tag ∉ d.tags.map fun field => some field.1 :=
                      searchFields_absent (by rw [List.length_map, search])
                    exact missing (List.mem_map.mpr ⟨entry, member, congrArg some same⟩)
                  obtain ⟨number, format, rfl⟩ := exists_makeTag valid
                  by_cases group : format = .endGroup
                  · subst group
                    have stopped : ¬ GPBWireFormatGetTagWireType (GPBWireFormatMakeTag number .endGroup) ≠ 4 :=
                      not_not.mpr (wireType_makeTag number .endGroup)
                    simp only [parseUnknownField, if_neg stopped, Option.bind_some, Bool.false_eq_true,
                      if_false, finish, if_neg nonzero, readField_endGroup, Option.bind_none]
                  · have merged := congrArg (Option.bind · fun read =>
                        if read.1 then
                          (readFieldsWithin read.2.2.2 fuel read.2.2.1).bind (mergeFieldList d read.2.2.2 read.2.1)
                        else none)
                      (parseUnknownField_eq absent message
                        { input with left, lastTag := GPBWireFormatMakeTag number format } group)
                    rw [Option.bind_map, Option.bind_assoc] at merged
                    rw [Option.bind_assoc]
                    refine Eq.trans (Option.bind_congr fun read found => ?_) (Eq.trans merged ?_)
                    · have added := merged_of_parseUnknownField absent group found
                      simp only [Function.comp_apply, added, if_true]
                      exact ih _ read.2.1 read.2.2
                    · apply Option.bind_congr
                      intro read _
                      rw [Option.bind_map]
                      rfl
        · simp only [if_neg valid, readField_invalid _ left valid, Option.bind_none]

theorem mergeData_eq {d : GPBDescriptor} (well : WellFormed d) (depth : Nat) (message : GPBMessage d)
    (data : NSData) :
    mergeData d depth message data = (wireFields depth data).bind (mergeFieldList d depth message) :=
  mergeLoop_eq well (data.length + 1) 0 message { left := data, recursionDepth := depth }

end RealSocial.Proof
