import RealSocial.Proof.ContactCache
import RealSocial.Proof.SpaceTimeline
import RealSocial.System.Device

namespace RealSocial.Proof

open Library Device RSContactService RSContactStore RSSpaceLineViewModel

/-! # What the second account on a device reads -/

section Statement

variable (data : RSSpace → NSData) (order : WCDB.OrderDescending RSSpaceModel.updateTimeColumn)
  (first second : RSLoginResp) (slots : List AccountSlot)

/-- Sessions of the first account that differ only in what the server sent leave the second account,
whatever its own session does, with the same reads. -/
def Isolated : Prop :=
  ∀ sent sent' own : List AccountEvent, sent.map AccountEvent.slot = slots →
    sent'.map AccountEvent.slot = slots →
    (twoSessions data first sent second own).map (reads order) =
      (twoSessions data first sent' second own).map (reads order)

def SlotWrites : AccountSlot → Prop
  | .syncResponse ok => ok = true
  | .allContacts ok => ok = true
  | .allSpace ok => ∃ i, ok i = true
  | .getContactByUid _ => False

end Statement

variable {data : RSSpace → NSData}

/-! ## Sessions that write nothing -/

theorem saveToDB_unwritten {ok : Nat → Bool} (none_written : ∀ i, ok i = false) (resp : RSGetAllSpaceResp)
    (table : SpaceTable) : (saveToDB data ok resp table).2 = table := by
  simp only [saveToDB, WCDB.runTransaction, none_written, saveSpace_unwritten]
  exact List.foldl_fixed _

theorem step_unwritten {event : AccountEvent} (unwritten : ¬ SlotWrites event.slot) (login : RSLoginService) :
    Device.step data (some { login }) event = some { login } := by
  cases event with
  | syncResponse ok resp =>
      have failed : ok = false := by simpa [SlotWrites, AccountEvent.slot] using unwritten
      simp [Device.step, saveContacts, RSContactStore.step, failed, saveContactList_failed]
  | allContacts ok resp =>
      have failed : ok = false := by simpa [SlotWrites, AccountEvent.slot] using unwritten
      simp [Device.step, saveContacts, RSContactStore.step, failed, saveContactList_failed]
  | allSpace ok resp =>
      have failed : ∀ i, ok i = false := by simpa [SlotWrites, AccountEvent.slot] using unwritten
      simp [Device.step, saveToDB_unwritten failed]
  | getContactByUid uid => rfl

theorem run_unwritten {events : List AccountEvent} (login : RSLoginService)
    (unwritten : ∀ event ∈ events, ¬ SlotWrites event.slot) :
    run (Device.step data) (some { login }) events = some { login } := by
  induction events with
  | nil => rfl
  | cons event events ih =>
      rw [List.forall_mem_cons] at unwritten
      rw [run_cons, step_unwritten unwritten.1, ih unwritten.2]

/-! ## Sessions that write something -/

def emptyEvent : AccountSlot → AccountEvent
  | .syncResponse ok => .syncResponse ok {}
  | .allContacts ok => .allContacts ok {}
  | .allSpace ok => .allSpace ok {}
  | .getContactByUid uid => .getContactByUid uid

theorem slot_emptyEvent (slot : AccountSlot) : (emptyEvent slot).slot = slot := by
  cases slot <;> rfl

theorem step_emptyEvent {device : Device} (named : held "" device.contactStore.contacts = none)
    (slot : AccountSlot) : ∃ kept, Device.step data (some device) (emptyEvent slot) = some kept ∧
      kept.contactStore.contacts = device.contactStore.contacts ∧ kept.spaces = device.spaces := by
  cases slot with
  | syncResponse ok => exact ⟨_, rfl, rfl, rfl⟩
  | allContacts ok => exact ⟨_, rfl, rfl, rfl⟩
  | allSpace ok => exact ⟨_, rfl, rfl, rfl⟩
  | getContactByUid uid =>
      simp only [emptyEvent, Device.step, RSContactStore.step, looked, getContactByUid_eq named]
      exact ⟨_, rfl, rfl, rfl⟩

theorem run_emptyEvents (slots : List AccountSlot) {device : Device}
    (named : held "" device.contactStore.contacts = none) :
    ∃ kept, run (Device.step data) (some device) (slots.map emptyEvent) = some kept ∧
      kept.contactStore.contacts = device.contactStore.contacts ∧ kept.spaces = device.spaces := by
  induction slots generalizing device with
  | nil => exact ⟨device, rfl, rfl, rfl⟩
  | cons slot slots ih =>
      obtain ⟨after, stepped, contacts, spaces⟩ := @step_emptyEvent data device named slot
      obtain ⟨kept, ran, contacts', spaces'⟩ := ih (by rw [contacts]; exact named)
      refine ⟨kept, ?_, contacts'.trans contacts, spaces'.trans spaces⟩
      rw [List.map_cons, run_cons, stepped, ran]

theorem foldl_unwritten {ok : Nat → Bool} (spaces : List RSSpace) (start : Nat) (table : SpaceTable)
    (unwritten : ∀ i, i < start + spaces.length → ok i = false) :
    (spaces.zipIdx start).foldl (fun table (space, i) => saveSpace data (ok i) space table) table = table := by
  induction spaces generalizing start with
  | nil => rfl
  | cons space spaces ih =>
      rw [List.length_cons] at unwritten
      have same : saveSpace data (ok start) space table = table := by
        rw [unwritten start (by omega), saveSpace_unwritten]
      rw [List.zipIdx_cons, List.foldl_cons]
      simp only [same]
      apply ih
      intro i below
      exact unwritten i (by omega)

def recentSpace : RSSpace := { updateTime := 1 }

theorem saveToDB_recentSpace {ok : Nat → Bool} (written : ∃ i, ok i = true) :
    ∃ resp, (saveToDB data ok resp ∅).2.rows = [RSSpaceModel.initWithSpace data recentSpace] := by
  have first := Nat.find_spec written
  have before : ∀ i, i < 0 + (List.replicate (Nat.find written) recentSpace).length → ok i = false := by
    intro i below
    rw [Nat.zero_add, List.length_replicate] at below
    simpa using Nat.find_min written below
  refine ⟨{ listArray := List.replicate (Nat.find written) recentSpace ++ [recentSpace] }, ?_⟩
  simp only [saveToDB, WCDB.runTransaction, List.zipIdx_append, List.foldl_append]
  rw [foldl_unwritten _ 0 ∅ before]
  simp only [List.length_replicate, Nat.zero_add, List.zipIdx_singleton, List.foldl_cons, List.foldl_nil, first]
  rfl

theorem timeline_recentSpace (order : WCDB.OrderDescending RSSpaceModel.updateTimeColumn) {table : SpaceTable}
    (rows : table.rows = [RSSpaceModel.initWithSpace data recentSpace]) :
    getSpacesFromDBIn24Hour order 86400 table ≠ [] := by
  have passes : PassesFilter 86400 (RSSpaceModel.initWithSpace data recentSpace) := by
    have seconds : (RSSpaceModel.initWithSpace data recentSpace).updateSeconds = 1 := rfl
    rw [PassesFilter, column_of_lt (by rw [seconds]; decide), hour24, sub_self, if_pos (le_refl 0),
      Int.floor_zero, seconds]
    decide
  have shown : RSSpaceModel.initWithSpace data recentSpace ∈ passing order 86400 table := by
    rw [mem_passing, rows]
    exact ⟨List.mem_singleton_self _, passes⟩
  change (List.take 50 (passing order 86400 table)).map RSSpaceModel.extract ≠ []
  intro empty
  rw [List.map_eq_nil_iff, List.take_eq_nil_iff] at empty
  rcases empty with impossible | empty
  · contradiction
  · rw [empty] at shown
    contradiction

theorem timeline_empty (order : WCDB.OrderDescending RSSpaceModel.updateTimeColumn) (now : ℚ) :
    getSpacesFromDBIn24Hour order now ∅ = [] := by
  have empty : passing order now ∅ = [] := (order.perm []).eq_nil
  change (List.take 50 (passing order now ∅)).map RSSpaceModel.extract = []
  rw [empty]
  rfl

def Visible (order : WCDB.OrderDescending RSSpaceModel.updateTimeColumn) (device : Device) : Prop :=
  held "" device.contactStore.contacts = none ∧
  (getExistContact device.contactStore.contacts ≠ [] ∨ getSpacesFromDBIn24Hour order 86400 device.spaces ≠ [])

theorem exists_visible (order : WCDB.OrderDescending RSSpaceModel.updateTimeColumn) {slot : AccountSlot}
    (writes : SlotWrites slot) {device : Device} (contacts : device.contactStore.contacts = ∅)
    (spaces : device.spaces = ∅) :
    ∃ event after, event.slot = slot ∧ Device.step data (some device) event = some after ∧
      Visible order after := by
  have bob : ∀ table : ContactTable, table = ∅ →
      held "" (saveContactList true [{ userName := "bob" }] table).2 = none ∧
      getExistContact (saveContactList true [{ userName := "bob" }] table).2 ≠ [] := by
    rintro table rfl
    decide
  cases slot with
  | syncResponse ok =>
      obtain rfl : ok = true := writes
      refine ⟨.syncResponse true { contactListArray := [{ userName := "bob" }] }, _, rfl, rfl, ?_⟩
      exact ⟨(bob _ contacts).1, .inl (bob _ contacts).2⟩
  | allContacts ok =>
      obtain rfl : ok = true := writes
      refine ⟨.allContacts true { contactArray := [{ userName := "bob" }] }, _, rfl, rfl, ?_⟩
      exact ⟨(bob _ contacts).1, .inl (bob _ contacts).2⟩
  | allSpace ok =>
      obtain ⟨resp, rows⟩ := @saveToDB_recentSpace data ok writes
      rw [← spaces] at rows
      refine ⟨.allSpace ok resp, _, rfl, rfl, ?_, .inr (timeline_recentSpace order rows)⟩
      change held "" device.contactStore.contacts = none
      rw [contacts]
      rfl
  | getContactByUid uid => contradiction

theorem isolated_iff (data : RSSpace → NSData) (order : WCDB.OrderDescending RSSpaceModel.updateTimeColumn)
    (first second : RSLoginResp) (slots : List AccountSlot) :
    Isolated data order first second slots ↔ ∀ slot ∈ slots, ¬ SlotWrites slot := by
  constructor
  · intro isolated slot member writes
    obtain ⟨before, after, rfl⟩ := List.append_of_mem member
    let start : Device := { login := ({} : RSLoginService).updateWithLoginResp first }
    have fresh : held "" start.contactStore.contacts = none := rfl
    -- up to the slot nothing is sent, then something visible, and after it nothing again
    obtain ⟨middle, ran, contacts, spaces⟩ := @run_emptyEvents data before start fresh
    obtain ⟨event, written, same, stepped, named, visible⟩ :=
      @exists_visible data order slot writes middle contacts spaces
    obtain ⟨last, ranLast, contactsLast, spacesLast⟩ := @run_emptyEvents data after written named
    obtain ⟨quiet, ranQuiet, contactsQuiet, spacesQuiet⟩ :=
      @run_emptyEvents data (before ++ slot :: after) start fresh
    have differ := isolated (before.map emptyEvent ++ event :: after.map emptyEvent)
      ((before ++ slot :: after).map emptyEvent) []
      (by simp [slot_emptyEvent, Function.comp_def, same]) (by simp [slot_emptyEvent, Function.comp_def])
    have sentRun : session data first (before.map emptyEvent ++ event :: after.map emptyEvent) (some {}) =
        some last := by
      rw [session, run_append, run_cons]
      change run _ (Device.step data (run _ (some start) _) event) _ = _
      rw [ran, stepped, ranLast]
    have quietRun : session data first ((before ++ slot :: after).map emptyEvent) (some {}) = some quiet :=
      ranQuiet
    rw [twoSessions, twoSessions, sentRun, quietRun] at differ
    have same_reads := Option.some.inj differ
    rcases visible with contact | space
    · have existing := congrArg Reads.existContacts same_reads
      change getExistContact last.contactStore.contacts = getExistContact quiet.contactStore.contacts at existing
      rw [contactsLast, contactsQuiet] at existing
      exact contact existing
    · have shown := congrFun (congrArg Reads.timeline same_reads) 86400
      change getSpacesFromDBIn24Hour order 86400 last.spaces =
        getSpacesFromDBIn24Hour order 86400 quiet.spaces at shown
      rw [spacesLast, spacesQuiet] at shown
      exact space (shown.trans (timeline_empty order 86400))
  · intro unwritten sent sent' own slots_eq slots_eq'
    have quiet : ∀ events : List AccountEvent, events.map AccountEvent.slot = slots →
        session data first events (some {}) =
          some { login := ({} : RSLoginService).updateWithLoginResp first } := by
      rintro events rfl
      apply run_unwritten
      intro event member
      exact unwritten event.slot (List.mem_map_of_mem member)
    rw [twoSessions, twoSessions, quiet sent slots_eq, quiet sent' slots_eq']

theorem contacts_of_alice_shown_to_bob :
    ¬ Isolated (fun _ => [1]) stableOrder { userName := "alice", sessionKey := [1] }
      { userName := "bob", sessionKey := [2] } [.allContacts true] := by
  intro isolated
  have differ := isolated [.allContacts true { contactArray := [{ userName := "carol" }] }]
    [.allContacts true {}] [] rfl rfl
  have existing := congrArg (Option.map Reads.existContacts) differ
  revert existing
  simp only [Option.map_map]
  decide

end RealSocial.Proof
