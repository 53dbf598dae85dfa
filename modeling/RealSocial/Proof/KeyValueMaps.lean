import RealSocial.Library.Run
import RealSocial.System.KeyValueRuns

namespace RealSocial.Proof

open Library KeyValueRuns

/-! # One map for each account and a global one -/

/-- A read returns the last value that was saved for its key in its scope. -/
def ReadsLast (run : KeyValueRuns) : KeyValueEvent → Prop
  | .dataWithKey key =>
      RSKeyValueService.dataWithKey run.uid key run.table = lastSaved ⟨.account run.uid, key⟩ run.saves
  | .globalDataWithKey key =>
      RSKeyValueService.globalDataWithKey key run.table = lastSaved ⟨.global, key⟩ run.saves
  | _ => True

/-- The last save in the row of the name was under the name itself and not empty, or it left what the name
should hold. -/
def OwnsRow (name : KeyValueName) (saves : List (KeyValueName × NSData)) : Prop :=
  ∀ save, lastAtCode KeyValueName.rowKey name.rowKey saves = some save →
    (save.1 = name ∧ save.2 ≠ []) ∨ (save.1 ≠ name ∧ WCDB.unarchive save.2 = lastSaved name saves)

def ReadsOwnRow (run : KeyValueRuns) : KeyValueEvent → Prop
  | .dataWithKey key => OwnsRow ⟨.account run.uid, key⟩ run.saves
  | .globalDataWithKey key => OwnsRow ⟨.global, key⟩ run.saves
  | _ => True

theorem dataWithRealKey_eq (realKey : String) (table : KeyValueTable) :
    RSKeyValueService.dataWithRealKey realKey table =
      ((table.find (WCDB.cString realKey)).map RSKeyValueModel.data).bind WCDB.unarchive := by
  rw [RSKeyValueService.dataWithRealKey, WCDB.getObjects_key, Option.bind_map]
  rfl

theorem unarchive_eq_self {data : NSData} : WCDB.unarchive data = some data ↔ data ≠ [] := by
  cases data with
  | nil => simp [WCDB.unarchive]
  | cons byte data => simp [WCDB.unarchive]

/-! ## The table and the saves -/

/-- Each row holds the data of the last save in it. -/
def Recorded (run : KeyValueRuns) : Prop :=
  ∀ rowKey, (run.table.find rowKey).map RSKeyValueModel.data =
    (lastAtCode KeyValueName.rowKey rowKey run.saves).map Prod.snd

theorem recorded_saved {run : KeyValueRuns} (recordedSoFar : Recorded run) (ok : Bool) (name : KeyValueName)
    (data : NSData) :
    Recorded { run with
      table := (RSKeyValueService.saveDataRealKey ok data name.realKey run.table).2
      saves := recorded ok name data run.saves } := by
  intro rowKey
  cases ok with
  | false => exact recordedSoFar rowKey
  | true =>
      change ((run.table.insertOrReplace { key := name.rowKey, data }).find rowKey).map _ =
        (lastAtCode _ rowKey ((name, data) :: run.saves)).map _
      rw [Table.find_insertOrReplace, lastAtCode_cons]
      by_cases same : name.rowKey = rowKey
      · rw [if_pos same, if_pos same]
        rfl
      · rw [if_neg same, if_neg same]
        exact recordedSoFar rowKey

theorem recorded_step (run : KeyValueRuns) (event : KeyValueEvent) (recordedSoFar : Recorded run) :
    Recorded (run.step event) := by
  cases event with
  | login uid => exact recordedSoFar
  | saveData ok data key => exact recorded_saved recordedSoFar ok ⟨.account run.uid, key⟩ data
  | saveGlobalData ok data key => exact recorded_saved recordedSoFar ok ⟨.global, key⟩ data
  | dataWithKey key => exact recordedSoFar
  | globalDataWithKey key => exact recordedSoFar

theorem read_eq_last_iff {run : KeyValueRuns} (recordedSoFar : Recorded run) (name : KeyValueName) :
    RSKeyValueService.dataWithRealKey name.realKey run.table = lastSaved name run.saves ↔
      OwnsRow name run.saves := by
  rw [dataWithRealKey_eq, show WCDB.cString name.realKey = name.rowKey from rfl, recordedSoFar]
  unfold OwnsRow
  cases last : lastAtCode KeyValueName.rowKey name.rowKey run.saves with
  | none => simp [lastSaved_eq_none_of_code last]
  | some save =>
      obtain ⟨saved, data⟩ := save
      rw [Option.map_some, Option.bind_some]
      by_cases own : saved = name
      · subst own
        rw [lastSaved_of_own last, unarchive_eq_self]
        simp
      · simp [own]

theorem readsLast_iff {run : KeyValueRuns} (recordedSoFar : Recorded run) (event : KeyValueEvent) :
    ReadsLast run event ↔ ReadsOwnRow run event := by
  cases event with
  | dataWithKey key => exact read_eq_last_iff recordedSoFar ⟨.account run.uid, key⟩
  | globalDataWithKey key => exact read_eq_last_iff recordedSoFar ⟨.global, key⟩
  | login uid => exact Iff.rfl
  | saveData ok data key => exact Iff.rfl
  | saveGlobalData ok data key => exact Iff.rfl

theorem recorded_init (uid : String) : Recorded { uid } := fun _ => rfl

theorem reads_last_iff (uid : String) (events : List KeyValueEvent) :
    EveryStep step ReadsLast { uid } events ↔ EveryStep step ReadsOwnRow { uid } events := by
  have recordedAll : EveryState step Recorded { uid } events :=
    everyState_of_invariant recorded_step (recorded_init uid) events
  constructor
  · exact everyStep_of_everyState (fun run event good => (readsLast_iff good event).mp) recordedAll
  · exact everyStep_of_everyState (fun run event good => (readsLast_iff good event).mpr) recordedAll

-- the account of wang_li reads what the account of li saved
def sharedDraft : List KeyValueEvent :=
  [.saveData true [1] "draft_wang", .login "wang_li", .dataWithKey "draft"]

theorem other_account_reads_draft :
    (run step { uid := "li" } sharedDraft).table.find "draft_wang_li" = some ⟨"draft_wang_li", [1]⟩ ∧
    ¬ EveryStep step ReadsLast { uid := "li" } sharedDraft := by
  refine ⟨by decide, ?_⟩
  rintro ⟨-, -, readsLast, -⟩
  have nothing : RSKeyValueService.dataWithKey "wang_li" "draft"
      (run step { uid := "li" } (sharedDraft.take 2)).table = none := readsLast
  revert nothing
  decide

/-! ## Names that do not meet -/

def Plain : KeyValueScope → Prop
  | .account uid => '_' ∉ uid.toList ∧ uid ≠ "global"
  | .global => True

def scopeText : KeyValueScope → String
  | .account uid => uid
  | .global => "global"

/-- No zero ends the text of a row before its end. -/
def Uncut (scope : KeyValueScope) (key : String) : Prop :=
  Char.ofNat 0 ∉ (scopeText scope).toList ∧ Char.ofNat 0 ∉ key.toList

theorem realKey_inj {uid uid' key key' : String} (clean : '_' ∉ uid.toList) (clean' : '_' ∉ uid'.toList)
    (same : RSKeyValueService.realKey uid key = RSKeyValueService.realKey uid' key') :
    key = key' ∧ uid = uid' := by
  have texts : key.toList ++ '_' :: uid.toList = key'.toList ++ '_' :: uid'.toList := by
    simpa [RSKeyValueService.realKey] using congrArg String.toList same
  obtain ⟨keys, uids⟩ := append_cons_inj texts clean clean'
  exact ⟨String.toList_inj.mp keys, String.toList_inj.mp uids⟩

-- a global name has the text of the account called global
theorem realGlobalKey_eq (key : String) :
    RSKeyValueService.realGlobalKey key = RSKeyValueService.realKey "global" key := by
  rw [RSKeyValueService.realGlobalKey, RSKeyValueService.realKey, String.append_assoc]
  rfl

theorem realKey_eq_scopeText (name : KeyValueName) :
    name.realKey = RSKeyValueService.realKey (scopeText name.scope) name.key := by
  obtain ⟨scope, key⟩ := name
  cases scope with
  | account uid => rfl
  | global => exact realGlobalKey_eq key

theorem rowKey_of_uncut {name : KeyValueName} (uncut : Uncut name.scope name.key) :
    name.rowKey = name.realKey := by
  apply WCDB.cString_of_no_zero
  rw [realKey_eq_scopeText, RSKeyValueService.realKey]
  simpa using And.intro uncut.2 uncut.1

theorem plain_scopeText {scope : KeyValueScope} (plain : Plain scope) : '_' ∉ (scopeText scope).toList := by
  cases scope with
  | account uid => exact plain.1
  | global => decide

theorem scopeText_inj {scope scope' : KeyValueScope} (plain : Plain scope) (plain' : Plain scope')
    (same : scopeText scope = scopeText scope') : scope = scope' := by
  cases scope with
  | account uid =>
      cases scope' with
      | account uid' => exact congrArg KeyValueScope.account same
      | global => exact absurd same plain.2
  | global =>
      cases scope' with
      | account uid' => exact absurd same.symm plain'.2
      | global => rfl

structure PlainName (name : KeyValueName) : Prop where
  scope : Plain name.scope
  uncut : Uncut name.scope name.key

theorem eq_of_rowKey_eq {name name' : KeyValueName} (plain : PlainName name) (plain' : PlainName name')
    (same : name.rowKey = name'.rowKey) : name = name' := by
  rw [rowKey_of_uncut plain.uncut, rowKey_of_uncut plain'.uncut, realKey_eq_scopeText,
    realKey_eq_scopeText] at same
  obtain ⟨keys, texts⟩ := realKey_inj (plain_scopeText plain.scope) (plain_scopeText plain'.scope) same
  have scopes := scopeText_inj plain.scope plain'.scope texts
  obtain ⟨scope, key⟩ := name
  obtain ⟨scope', key'⟩ := name'
  exact congrArg₂ KeyValueName.mk scopes keys

/-- The uid and the keys of the names that are used. -/
structure PlainRun (run : KeyValueRuns) : Prop where
  uid : Plain (.account run.uid) ∧ Char.ofNat 0 ∉ run.uid.toList
  saves : ∀ save ∈ run.saves, PlainName save.1 ∧ save.2 ≠ []

theorem PlainRun.account {run : KeyValueRuns} (plain : PlainRun run) {key : String}
    (clean : Char.ofNat 0 ∉ key.toList) : PlainName ⟨.account run.uid, key⟩ :=
  ⟨plain.uid.1, plain.uid.2, clean⟩

theorem plainName_global {key : String} (clean : Char.ofNat 0 ∉ key.toList) : PlainName ⟨.global, key⟩ := by
  have cleanGlobal : Char.ofNat 0 ∉ "global".toList := by decide
  exact ⟨trivial, cleanGlobal, clean⟩

theorem PlainRun.ownsRow {run : KeyValueRuns} (plain : PlainRun run) {name : KeyValueName}
    (plainName : PlainName name) : OwnsRow name run.saves := by
  intro save last
  obtain ⟨member, same⟩ := mem_of_lastAtCode last
  obtain ⟨plainSave, nonempty⟩ := plain.saves save member
  exact Or.inl ⟨eq_of_rowKey_eq plainSave plainName same, nonempty⟩

/-- No uid has an underscore or is the word global, no data is empty, and no uid or key has a zero. -/
def PlainEvent : KeyValueEvent → Prop
  | .login uid => Plain (.account uid) ∧ Char.ofNat 0 ∉ uid.toList
  | .saveData _ data key => data ≠ [] ∧ Char.ofNat 0 ∉ key.toList
  | .saveGlobalData _ data key => data ≠ [] ∧ Char.ofNat 0 ∉ key.toList
  | .dataWithKey key => Char.ofNat 0 ∉ key.toList
  | .globalDataWithKey key => Char.ofNat 0 ∉ key.toList

theorem PlainRun.step {run : KeyValueRuns} {event : KeyValueEvent} (plain : PlainRun run)
    (plainEvent : PlainEvent event) : PlainRun (run.step event) := by
  have saved : ∀ (ok : Bool) (name : KeyValueName) (data : NSData), PlainName name → data ≠ [] →
      ∀ save ∈ recorded ok name data run.saves, PlainName save.1 ∧ save.2 ≠ [] := by
    intro ok name data plainName nonempty save member
    cases ok with
    | false => exact plain.saves save member
    | true =>
        rcases List.mem_cons.mp member with rfl | old
        · exact ⟨plainName, nonempty⟩
        · exact plain.saves save old
  cases event with
  | login uid => exact ⟨plainEvent, plain.saves⟩
  | saveData ok data key => exact ⟨plain.uid, saved ok _ data (plain.account plainEvent.2) plainEvent.1⟩
  | saveGlobalData ok data key =>
      exact ⟨plain.uid, saved ok _ data (plainName_global plainEvent.2) plainEvent.1⟩
  | dataWithKey key => exact plain
  | globalDataWithKey key => exact plain

theorem plain_reads_last {uid : String} {events : List KeyValueEvent}
    (plain : Plain (.account uid) ∧ Char.ofNat 0 ∉ uid.toList)
    (plainEvents : ∀ event ∈ events, PlainEvent event) : EveryStep step ReadsLast { uid } events := by
  have plainStart : PlainRun { uid } := ⟨plain, fun save member => absurd member List.not_mem_nil⟩
  have steps : EveryStep step (fun _ event => PlainEvent event) { uid } events :=
    everyStep_of_forall plainEvents _
  have goodStates : EveryState step (fun run => PlainRun run ∧ Recorded run) { uid } events := by
    apply everyState_of_steps _ ⟨plainStart, recorded_init uid⟩ steps
    intro run event good allowed
    exact ⟨good.1.step allowed, recorded_step run event good.2⟩
  refine everyStep_of_everyState (fun run event good allowed => ?_) goodStates steps
  obtain ⟨good, recordedSoFar⟩ := good
  rw [readsLast_iff recordedSoFar]
  cases event with
  | dataWithKey key => exact good.ownsRow (good.account allowed)
  | globalDataWithKey key => exact good.ownsRow (plainName_global allowed)
  | login uid => trivial
  | saveData ok data key => trivial
  | saveGlobalData ok data key => trivial

end RealSocial.Proof
