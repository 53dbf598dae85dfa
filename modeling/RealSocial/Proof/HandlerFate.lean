import RealSocial.Library.Machine
import RealSocial.SDWebImage.Downloader

namespace RealSocial.Proof

open Library SDWebImageDownloader

/-! # What becomes of the handlers that share downloads -/

def calledWith (number : Nat) (actions : List SDWebImageDownloaderAction) : List SDDownload :=
  actions.filterMap fun
    | .called token download => if token = number then some download else none
    | _ => none

def toCall (number : Nat) (mainQueue : List (Nat × SDDownload)) : List SDDownload :=
  mainQueue.filterMap fun entry => if entry.1 = number then some entry.2 else none

/-- What a handler was called with, and is to be called with. -/
def heardBy (number : Nat) (downloader : SDWebImageDownloader) (actions : List SDWebImageDownloaderAction) :
    List SDDownload :=
  calledWith number actions ++ toCall number downloader.mainQueue

def Untaken (operation : Nat) (actions : List SDWebImageDownloaderAction) : Prop :=
  ∀ download, .took operation download ∉ actions

inductive HandlerFate (number : Nat) (token : SDWebImageDownloadToken) (downloader : SDWebImageDownloader)
    (actions : List SDWebImageDownloaderAction) : Prop
  | waiting {operation : SDWebImageDownloaderOperation}
      (here : downloader.operations[token.downloadOperation]? = some operation)
      (listed : number ∈ operation.callbackBlocks) (runs : operation.cancelled = false)
      (untaken : Untaken token.downloadOperation actions) (silent : heardBy number downloader actions = [])
  | answered {download : SDDownload}
      (order : [.added number token.downloadOperation, .took token.downloadOperation download].Sublist actions)
      (once : heardBy number downloader actions = [download])
  | lost {download : SDDownload}
      (order : [.took token.downloadOperation download, .added number token.downloadOperation].Sublist actions)
      (silent : heardBy number downloader actions = [])
  | cancelled (asked : .cancelled number ∈ actions)
      (few : heardBy number downloader actions = [] ∨ ∃ download,
        .took token.downloadOperation download ∈ actions ∧ heardBy number downloader actions = [download])

section Heard

variable {downloader later : SDWebImageDownloader} {actions more : List SDWebImageDownloaderAction} {number : Nat}
  {token : SDWebImageDownloadToken}

theorem calledWith_append (number : Nat) (first second : List SDWebImageDownloaderAction) :
    calledWith number (first ++ second) = calledWith number first ++ calledWith number second :=
  List.filterMap_append

theorem toCall_append (number : Nat) (first second : List (Nat × SDDownload)) :
    toCall number (first ++ second) = toCall number first ++ toCall number second := List.filterMap_append

theorem toCall_map {blocks : List Nat} (distinct : blocks.Nodup) (number : Nat) (download : SDDownload) :
    toCall number (blocks.map fun token => (token, download)) = if number ∈ blocks then [download] else [] := by
  induction blocks with
  | nil => rfl
  | cons first blocks ih =>
      obtain ⟨new, distinct⟩ := List.nodup_cons.mp distinct
      have rest := ih distinct
      unfold toCall at rest ⊢
      rw [List.map_cons, List.filterMap_cons]
      by_cases own : first = number
      · subst own
        rw [if_neg new] at rest
        simp [rest]
      · simp [own, rest, Ne.symm own]

theorem Untaken.append {operation : Nat} (untaken : Untaken operation actions) (others : Untaken operation more) :
    Untaken operation (actions ++ more) := by
  intro download member
  exact (List.mem_append.mp member).elim (untaken download) (others download)

theorem Untaken.left {operation : Nat} (untaken : Untaken operation (actions ++ more)) : Untaken operation actions :=
  fun download member => untaken download (List.mem_append_left more member)

/-- What the other handlers' operations are told does not change what becomes of a handler. -/
theorem HandlerFate.extend (fate : HandlerFate number token downloader actions)
    (kept : ∀ operation, downloader.operations[token.downloadOperation]? = some operation →
      number ∈ operation.callbackBlocks → operation.cancelled = false → Untaken token.downloadOperation actions →
      ∃ operation', later.operations[token.downloadOperation]? = some operation' ∧
        number ∈ operation'.callbackBlocks ∧ operation'.cancelled = false)
    (untaken : Untaken token.downloadOperation more)
    (same : heardBy number later (actions ++ more) = heardBy number downloader actions) :
    HandlerFate number token later (actions ++ more) := by
  cases fate with
  | waiting here listed runs before silent =>
      obtain ⟨operation', here', listed', runs'⟩ := kept _ here listed runs before
      exact .waiting here' listed' runs' (before.append untaken) (same.trans silent)
  | answered order once => exact .answered (order.trans (List.sublist_append_left ..)) (same.trans once)
  | lost order silent => exact .lost (order.trans (List.sublist_append_left ..)) (same.trans silent)
  | cancelled asked few =>
      refine .cancelled (List.mem_append_left more asked) ?_
      rw [same]
      cases few with
      | inl none => exact .inl none
      | inr one =>
          obtain ⟨download, took, once⟩ := one
          exact .inr ⟨download, List.mem_append_left more took, once⟩

end Heard

/-! # What holds of the operations -/

def Taken (stage : SDOperationStage) : Prop := stage = .answered ∨ stage = .done ∨ stage = .reset

structure OperationKept (number : Nat) (operation : SDWebImageDownloaderOperation)
    (tokens : List SDWebImageDownloadToken) (actions : List SDWebImageDownloaderAction) : Prop where
  listed : ∀ token ∈ operation.callbackBlocks, ∃ made, tokens[token]? = some made ∧ made.downloadOperation = number
  distinct : operation.callbackBlocks.Nodup
  taken : Taken operation.stage ↔ ∃ download, .took number download ∈ actions
  stopped : operation.stage = .stopped → operation.cancelled = true

def RunsFor (url : NSURL) (number : Nat) (downloader : SDWebImageDownloader) : Prop :=
  ∃ operation, downloader.operations[number]? = some operation ∧ operation.url = url ∧ operation.cancelled = false

structure OperationsKept (downloader : SDWebImageDownloader) (actions : List SDWebImageDownloaderAction) : Prop where
  operations : ∀ number operation, downloader.operations[number]? = some operation →
    OperationKept number operation downloader.tokens actions
  entries : ∀ url number, downloader.URLOperations url = some number → RunsFor url number downloader
  adding : ∀ token, downloader.adding = some token → RunsFor token.url token.downloadOperation downloader
  tokens : ∀ token ∈ downloader.tokens, ∃ operation,
    downloader.operations[token.downloadOperation]? = some operation ∧ operation.url = token.url
  took : ∀ number download, .took number download ∈ actions → number < downloader.operations.length

structure DownloadsKept (downloader : SDWebImageDownloader) (actions : List SDWebImageDownloaderAction) : Prop
    extends OperationsKept downloader actions where
  made : ∀ number token, downloader.tokens[number]? = some token → .added number token.downloadOperation ∈ actions
  fates : ∀ number token, downloader.tokens[number]? = some token → HandlerFate number token downloader actions
  unmade : ∀ number, downloader.tokens.length ≤ number → heardBy number downloader actions = []

theorem downloadsKept_init : DownloadsKept {} [] := by
  refine ⟨⟨?_, ?_, ?_, ?_, ?_⟩, ?_, ?_, ?_⟩
  · simp
  · simp
  · simp
  · simp
  · simp
  · simp
  · simp
  · intro number _
    rfl

section Operations

variable {downloader later : SDWebImageDownloader} {actions more : List SDWebImageDownloaderAction} {number : Nat}
  {operation operation' : SDWebImageDownloaderOperation}

theorem OperationKept.extend {tokens : List SDWebImageDownloadToken}
    (kept : OperationKept number operation tokens actions) (others : List SDWebImageDownloadToken) (untaken : Untaken number more) :
    OperationKept number operation (tokens ++ others) (actions ++ more) := by
  refine ⟨?_, kept.distinct, ?_, kept.stopped⟩
  · intro token member
    obtain ⟨made, here, own⟩ := kept.listed token member
    exact ⟨made, by rw [List.getElem?_append_left (List.getElem?_eq_some_iff.mp here).1, here], own⟩
  · rw [kept.taken]
    constructor
    · rintro ⟨download, took⟩
      exact ⟨download, List.mem_append_left more took⟩
    · rintro ⟨download, took⟩
      exact ⟨download, (List.mem_append.mp took).resolve_right (untaken download)⟩

theorem OperationsKept.set (kept : OperationsKept downloader actions) (others : List SDWebImageDownloadToken)
    (here : downloader.operations[number]? = some operation)
    (operations : later.operations = downloader.operations.set number operation')
    (own : OperationKept number operation' later.tokens (actions ++ more)) (url : operation'.url = operation.url)
    (runs : operation'.cancelled = operation.cancelled ∨
      (∀ url, later.URLOperations url ≠ some number) ∧ later.adding = none)
    (entries : ∀ url entry, later.URLOperations url = some entry → downloader.URLOperations url = some entry)
    (adding : ∀ token, later.adding = some token → downloader.adding = some token)
    (tokens : later.tokens = downloader.tokens ++ others)
    (new : ∀ token ∈ others, token.downloadOperation = number ∧ token.url = operation.url)
    (untaken : ∀ other, number ≠ other → Untaken other more) : OperationsKept later (actions ++ more) := by
  have bound : number < downloader.operations.length := (List.getElem?_eq_some_iff.mp here).1
  have changed : later.operations[number]? = some operation' := by
    rw [operations, List.getElem?_set_self bound]
  have unchanged : ∀ other, number ≠ other → later.operations[other]? = downloader.operations[other]? := by
    intro other apart
    rw [operations, List.getElem?_set_ne apart]
  have moved : ∀ url' other, (number = other → operation'.cancelled = operation.cancelled) →
      RunsFor url' other downloader → RunsFor url' other later := by
    rintro url' other same ⟨found, there, its, runs⟩
    by_cases apart : number = other
    · subst apart
      obtain rfl : operation = found := Option.some.inj (here.symm.trans there)
      exact ⟨operation', changed, url.trans its, (same rfl).trans runs⟩
    · exact ⟨found, (unchanged other apart).trans there, its, runs⟩
  constructor
  · intro other found there
    by_cases apart : number = other
    · subst apart
      obtain rfl : operation' = found := Option.some.inj (changed.symm.trans there)
      exact own
    · rw [tokens]
      exact (kept.operations other found ((unchanged other apart).symm.trans there)).extend others (untaken other apart)
  · intro url' entry found
    apply moved url' entry ?_ (kept.entries url' entry (entries url' entry found))
    rintro rfl
    exact runs.resolve_right fun gone => gone.1 url' found
  · intro token found
    apply moved token.url token.downloadOperation ?_ (kept.adding token (adding token found))
    rintro -
    refine runs.resolve_right fun gone => ?_
    rw [gone.2] at found
    cases found
  · intro token member
    rw [tokens] at member
    rcases List.mem_append.mp member with member | member
    · obtain ⟨found, there, same⟩ := kept.tokens token member
      by_cases apart : number = token.downloadOperation
      · rw [← apart] at there ⊢
        obtain rfl : operation = found := Option.some.inj (here.symm.trans there)
        exact ⟨operation', changed, url.trans same⟩
      · exact ⟨found, (unchanged _ apart).trans there, same⟩
    · obtain ⟨rfl, same⟩ := new token member
      exact ⟨operation', changed, url.trans same.symm⟩
  · intro other download took
    rw [operations, List.length_set]
    by_cases apart : number = other
    · exact apart ▸ bound
    · exact kept.took other download ((List.mem_append.mp took).resolve_right (untaken other apart download))

/-- What happens to an operation while no handlers are added, taken or cancelled. -/
structure GoesOn (actions : List SDWebImageDownloaderAction) (number : Nat)
    (before after : SDWebImageDownloaderOperation) : Prop where
  url : after.url = before.url
  callbackBlocks : after.callbackBlocks.Sublist before.callbackBlocks
  listed : before.cancelled = false → Untaken number actions → after.callbackBlocks = before.callbackBlocks
  cancelled : after.cancelled = before.cancelled
  taken : Taken after.stage ↔ Taken before.stage
  stopped : after.stage = .stopped → before.stage = .stopped ∨ before.cancelled = true

theorem DownloadsKept.continues (kept : DownloadsKept downloader actions)
    (here : downloader.operations[number]? = some operation) (continues : GoesOn actions number operation operation')
    (operations : later.operations = downloader.operations.set number operation')
    (entries : ∀ url entry, later.URLOperations url = some entry → downloader.URLOperations url = some entry)
    (adding : later.adding = downloader.adding) (tokens : later.tokens = downloader.tokens)
    (mainQueue : later.mainQueue = downloader.mainQueue) (untaken : ∀ operation, Untaken operation more)
    (uncalled : ∀ token, calledWith token more = []) : DownloadsKept later (actions ++ more) := by
  have heard : ∀ token, heardBy token later (actions ++ more) = heardBy token downloader actions := by
    intro token
    rw [heardBy, heardBy, calledWith_append, uncalled, List.append_nil, mainQueue]
  refine ⟨?_, ?_, ?_, ?_⟩
  · have before := (kept.operations number operation here).extend [] (untaken number)
    rw [List.append_nil] at before
    refine kept.toOperationsKept.set [] here operations ⟨?_, ?_, ?_, ?_⟩ continues.url (.inl continues.cancelled) entries
      (fun token => by rw [adding]; exact id) (tokens.trans (List.append_nil _).symm) (by simp)
      fun other _ => untaken other
    · rw [tokens]
      exact fun token member => before.listed token (continues.callbackBlocks.subset member)
    · exact before.distinct.sublist continues.callbackBlocks
    · exact continues.taken.trans before.taken
    · intro stopped
      rw [continues.cancelled]
      exact (continues.stopped stopped).elim before.stopped id
  · intro token made member
    rw [tokens] at member
    exact List.mem_append_left more (kept.made token made member)
  · intro token made member
    rw [tokens] at member
    apply (kept.fates token made member).extend ?_ (untaken made.downloadOperation) (heard token)
    intro found there listed runs before
    rw [operations]
    by_cases apart : number = made.downloadOperation
    · rw [← apart] at there before ⊢
      obtain rfl : operation = found := Option.some.inj (here.symm.trans there)
      refine ⟨operation', List.getElem?_set_self (List.getElem?_eq_some_iff.mp here).1, ?_,
        continues.cancelled.trans runs⟩
      rw [continues.listed runs before]
      exact listed
    · exact ⟨found, (List.getElem?_set_ne apart).trans there, listed, runs⟩
  · intro token past
    rw [tokens] at past
    rw [heard]
    exact kept.unmade token past

theorem continues_refl (actions : List SDWebImageDownloaderAction) (number : Nat)
    (operation : SDWebImageDownloaderOperation) : GoesOn actions number operation operation :=
  ⟨rfl, List.Sublist.refl _, fun _ _ => rfl, rfl, Iff.rfl, Or.inl⟩

theorem continues_start : GoesOn actions number operation operation.start := by
  unfold SDWebImageDownloaderOperation.start
  cases stage : operation.stage with
  | ready =>
      by_cases cancelled : operation.cancelled = true
      · simp only [if_pos cancelled]
        refine ⟨rfl, List.nil_sublist _, ?_, rfl, ?_, fun _ => Or.inr cancelled⟩
        · intro runs
          rw [cancelled] at runs
          cases runs
        · simp [Taken, stage, SDWebImageDownloaderOperation.reset]
      · simp only [if_neg cancelled]
        refine ⟨rfl, List.Sublist.refl _, fun _ _ => rfl, rfl, ?_, ?_⟩
        · simp [Taken, stage]
        · simp
  | executing => exact continues_refl ..
  | completing => exact continues_refl ..
  | answered => exact continues_refl ..
  | done => exact continues_refl ..
  | reset => exact continues_refl ..
  | stopped => exact continues_refl ..

theorem continues_stage {stage : SDOperationStage} {dataTask finished : Bool} (ongoing : stage ≠ .stopped)
    (same : Taken stage ↔ Taken operation.stage) :
    GoesOn actions number operation { operation with stage, dataTask, finished } :=
  ⟨rfl, List.Sublist.refl _, fun _ _ => rfl, rfl, same, fun stopped => absurd stopped ongoing⟩

theorem DownloadsKept.stays (kept : DownloadsKept downloader actions) :
    DownloadsKept downloader (actions ++ []) := by rwa [List.append_nil]

theorem DownloadsKept.set (kept : DownloadsKept downloader actions)
    (here : downloader.operations[number]? = some operation)
    (continues : GoesOn actions number operation operation') :
    DownloadsKept (downloader.setOperation number operation') (actions ++ []) :=
  kept.continues here continues rfl (fun _ _ => id) rfl rfl rfl (fun _ _ => List.not_mem_nil) fun _ => rfl

theorem DownloadsKept.not_taken (kept : DownloadsKept downloader actions) (here : downloader.operations[number]? = some operation)
    (stage : ¬ Taken operation.stage) : Untaken number actions :=
  fun download took => stage ((kept.operations number operation here).taken.mpr ⟨download, took⟩)

theorem heardBy_callCompletionBlocks (kept : DownloadsKept downloader actions)
    (here : downloader.operations[number]? = some operation) (download : SDDownload) (token : Nat) :
    heardBy token (downloader.callCompletionBlocks number operation download) (actions ++ [.took number download]) =
      heardBy token downloader actions ++ if token ∈ operation.callbackBlocks then [download] else [] := by
  have silent : calledWith token [.took number download] = [] := rfl
  rw [heardBy, calledWith_append, silent, List.append_nil, callCompletionBlocks, toCall_append,
    toCall_map (kept.operations number operation here).distinct, ← List.append_assoc]
  rfl

theorem DownloadsKept.unlisted (kept : DownloadsKept downloader actions)
    (here : downloader.operations[number]? = some operation) {token : Nat}
    (other : ∀ made, downloader.tokens[token]? = some made → number ≠ made.downloadOperation) :
    token ∉ operation.callbackBlocks := by
  intro listed
  obtain ⟨made, member, own⟩ := (kept.operations number operation here).listed token listed
  exact other made member own.symm

theorem DownloadsKept.takes (kept : DownloadsKept downloader actions)
    (here : downloader.operations[number]? = some operation) (completing : operation.stage = .completing)
    (download : SDDownload) :
    DownloadsKept (downloader.callCompletionBlocks number operation download)
      (actions ++ [.took number download]) := by
  have before : Untaken number actions := kept.not_taken here (by simp [Taken, completing])
  have elsewhere : ∀ other, number ≠ other → Untaken other [.took number download] := by
    intro other apart download' took
    simp only [List.mem_singleton, SDWebImageDownloaderAction.took.injEq] at took
    exact apart took.1.symm
  refine ⟨?_, ?_, ?_, ?_⟩
  · have old := kept.operations number operation here
    refine kept.toOperationsKept.set [] here rfl ⟨old.listed, old.distinct, ?_, ?_⟩ rfl (.inl rfl) (fun _ _ => id)
      (fun _ => id) (List.append_nil _).symm (by simp) elsewhere
    · simp [Taken]
    · simp
  · intro token made member
    exact List.mem_append_left _ (kept.made token made member)
  · intro token made member
    have heard := heardBy_callCompletionBlocks kept here download token
    have fate := kept.fates token made member
    by_cases apart : number = made.downloadOperation
    · cases fate with
      | waiting there listed runs untaken silent =>
          rw [← apart] at there
          obtain rfl := Option.some.inj (here.symm.trans there)
          rw [silent, if_pos listed, List.nil_append] at heard
          refine .answered ?_ heard
          have added := kept.made token made member
          rw [← apart] at added ⊢
          exact (List.singleton_sublist.mpr added).append (List.Sublist.refl _)
      | @answered download' order once =>
          rw [← apart] at order
          exact absurd (order.subset (by simp)) (before download')
      | @lost download' order silent =>
          rw [← apart] at order
          exact absurd (order.subset (by simp)) (before download')
      | cancelled asked few =>
          refine .cancelled (List.mem_append_left _ asked) ?_
          rw [heard]
          cases few with
          | inl silent =>
              rw [silent, List.nil_append]
              split_ifs
              · exact .inr ⟨download, by rw [← apart]; simp, rfl⟩
              · exact .inl rfl
          | inr one =>
              obtain ⟨download', took, -⟩ := one
              rw [← apart] at took
              exact absurd took (before download')
    · have unlisted : token ∉ operation.callbackBlocks := by
        apply kept.unlisted here
        intro made' member'
        obtain rfl := Option.some.inj (member.symm.trans member')
        exact apart
      apply fate.extend
      · intro found there listed runs _
        exact ⟨found, (List.getElem?_set_ne apart).trans there, listed, runs⟩
      · exact elsewhere _ apart
      · rw [heard, if_neg unlisted, List.append_nil]
  · intro token past
    have unlisted : token ∉ operation.callbackBlocks := by
      apply kept.unlisted here
      intro made member
      exact absurd (List.getElem?_eq_some_iff.mp member).1 (Nat.not_lt.mpr past)
    rw [heardBy_callCompletionBlocks kept here download token, if_neg unlisted, List.append_nil]
    exact kept.unmade token past

theorem downloadsKept_operationStep (kept : DownloadsKept downloader actions)
    (here : downloader.operations[number]? = some operation) (event : SDWebImageDownloaderEvent) :
    DownloadsKept (downloader.operationStep number operation event).1
      (actions ++ (downloader.operationStep number operation event).2) := by
  cases event with
  | addProgressCallback url => exact kept.stays
  | addHandlers => exact kept.stays
  | cancel token => exact kept.stays
  | completed => exact kept.stays
  | start _ => exact kept.set here continues_start
  | didComplete _ =>
      simp only [operationStep]
      split_ifs with stage
      · exact kept.set here (continues_stage (by simp) (by simp [Taken, stage]))
      · exact kept.stays
  | callCompletionBlocks _ download =>
      simp only [operationStep]
      split_ifs with stage
      · exact kept.takes here stage download
      · exact kept.stays
  | done _ =>
      simp only [operationStep]
      split_ifs with stage
      · exact kept.set here (continues_stage (by simp) (by simp [Taken, stage]))
      · exact kept.stays
  | reset _ =>
      simp only [operationStep]
      split_ifs with stage
      · obtain ⟨download, took⟩ := (kept.operations number operation here).taken.mp (.inr (.inl stage))
        refine kept.set here ⟨rfl, List.nil_sublist _, fun _ untaken => absurd took (untaken download), rfl, ?_, ?_⟩
        · simp [Taken, stage, SDWebImageDownloaderOperation.reset]
        · simp [SDWebImageDownloaderOperation.reset]
      · exact kept.stays
  | completionBlock _ =>
      simp only [operationStep]
      split_ifs with ended
      · have continues : GoesOn actions number operation { operation with completionBlock := false } :=
          ⟨rfl, List.Sublist.refl _, fun _ _ => rfl, rfl, Iff.rfl, Or.inl⟩
        refine kept.continues here continues rfl ?_ rfl rfl rfl ?_ ?_
        · intro url entry found
          unfold completionBlock at found
          by_cases own : url = operation.url
          · simp [own] at found
          · simpa [own] using found
        · intro other download took
          simp at took
        · intro token
          cases downloader.URLOperations operation.url <;> rfl
      · exact kept.stays

theorem DownloadsKept.finds (kept : DownloadsKept downloader actions) (url : NSURL) :
    DownloadsKept (downloader.addProgressCallback url) (actions ++ []) := by
  rw [List.append_nil, addProgressCallback]
  cases entry : downloader.URLOperations url with
  | some found =>
      have runs := kept.entries url found entry
      refine ⟨⟨kept.operations, kept.entries, ?_, kept.tokens, kept.took⟩, kept.made, ?_, kept.unmade⟩
      · rintro token ⟨⟩
        exact runs
      · intro token made member
        have fate : HandlerFate token made { downloader with adding := some ⟨url, found⟩ } (actions ++ []) :=
          (kept.fates token made member).extend (fun operation here listed runs _ => ⟨operation, here, listed, runs⟩)
            (fun _ => List.not_mem_nil) (by rw [List.append_nil]; rfl)
        rwa [List.append_nil] at fate
  | none =>
      let later : SDWebImageDownloader := { downloader with
        operations := downloader.operations ++ [{ url }]
        URLOperations := Function.update downloader.URLOperations url (some downloader.operations.length)
        adding := some ⟨url, downloader.operations.length⟩ }
      have older : ∀ (number : Nat) (operation : SDWebImageDownloaderOperation), downloader.operations[number]? = some operation →
          later.operations[number]? = some operation := by
        intro number operation here
        exact (List.getElem?_append_left (List.getElem?_eq_some_iff.mp here).1).trans here
      have moved : ∀ url' number, RunsFor url' number downloader → RunsFor url' number later := by
        rintro url' number ⟨operation, here, same, runs⟩
        exact ⟨operation, older number operation here, same, runs⟩
      have newest : RunsFor url downloader.operations.length later :=
        ⟨{ url }, List.getElem?_concat_length .., rfl, rfl⟩
      refine ⟨⟨?_, ?_, ?_, ?_, ?_⟩, kept.made, ?_, kept.unmade⟩
      · intro number operation here
        rcases getElem?_snoc here with before | ⟨rfl, rfl⟩
        · exact kept.operations number operation before
        · have bound := Nat.lt_irrefl downloader.operations.length
          refine ⟨by simp, List.nodup_nil, ?_, by simp⟩
          constructor
          · simp [Taken]
          · rintro ⟨download, took⟩
            exact absurd (kept.took _ download took) bound
      · intro url' number found
        by_cases own : url' = url
        · subst own
          obtain rfl : downloader.operations.length = number := by simpa using found
          exact newest
        · exact moved url' number (kept.entries url' number (by simpa [own] using found))
      · rintro token ⟨⟩
        exact newest
      · intro token member
        obtain ⟨operation, here, same⟩ := kept.tokens token member
        exact ⟨operation, older _ operation here, same⟩
      · intro number download took
        rw [List.length_append]
        exact Nat.lt_add_right 1 (kept.took number download took)
      · intro token made member
        have fate : HandlerFate token made later (actions ++ []) :=
          (kept.fates token made member).extend
            (fun operation here listed runs _ => ⟨operation, older _ operation here, listed, runs⟩)
            (fun _ => List.not_mem_nil) (by rw [List.append_nil]; rfl)
        rwa [List.append_nil] at fate

theorem DownloadsKept.adds (kept : DownloadsKept downloader actions) {token : SDWebImageDownloadToken}
    (adding : downloader.adding = some token)
    (here : downloader.operations[token.downloadOperation]? = some operation) :
    DownloadsKept (downloader.addHandlers token operation)
      (actions ++ [.added downloader.tokens.length token.downloadOperation]) := by
  let more : List SDWebImageDownloaderAction := [.added downloader.tokens.length token.downloadOperation]
  have untaken : ∀ other, Untaken other more := by
    intro other download took
    simp [more] at took
  have heard : ∀ number, heardBy number (downloader.addHandlers token operation) (actions ++ more) =
      heardBy number downloader actions := by
    intro number
    have silent : calledWith number more = [] := rfl
    rw [heardBy, calledWith_append, silent, List.append_nil]
    rfl
  have own : (downloader.addHandlers token operation).operations[token.downloadOperation]? = some
      { operation with callbackBlocks := operation.callbackBlocks ++ [downloader.tokens.length] } :=
    List.getElem?_set_self (List.getElem?_eq_some_iff.mp here).1
  have runs : operation.url = token.url ∧ operation.cancelled = false := by
    obtain ⟨found, there, same, runs⟩ := kept.adding token adding
    obtain rfl := Option.some.inj (here.symm.trans there)
    exact ⟨same, runs⟩
  have old := kept.operations token.downloadOperation operation here
  have fates : ∀ number made, downloader.tokens[number]? = some made →
      HandlerFate number made (downloader.addHandlers token operation) (actions ++ more) := by
    intro number made member
    apply (kept.fates number made member).extend ?_ (untaken _) (heard number)
    intro found there listed runs _
    by_cases apart : token.downloadOperation = made.downloadOperation
    · rw [← apart] at there ⊢
      obtain rfl := Option.some.inj (here.symm.trans there)
      exact ⟨_, own, List.mem_append_left _ listed, runs⟩
    · exact ⟨found, (List.getElem?_set_ne apart).trans there, listed, runs⟩
  have newest : HandlerFate downloader.tokens.length token (downloader.addHandlers token operation)
      (actions ++ more) := by
    have silent := (heard downloader.tokens.length).trans (kept.unmade _ (Nat.le_refl _))
    by_cases taken : Taken operation.stage
    · obtain ⟨download, took⟩ := old.taken.mp taken
      exact .lost ((List.singleton_sublist.mpr took).append (List.Sublist.refl more)) silent
    · have before : Untaken token.downloadOperation actions := kept.not_taken here taken
      exact .waiting own (by simp) runs.2 (before.append (untaken _)) silent
  have ofToken : ∀ number made, (downloader.addHandlers token operation).tokens[number]? = some made →
      downloader.tokens[number]? = some made ∨ number = downloader.tokens.length ∧ made = token := by
    intro number made member
    exact getElem?_snoc member
  refine ⟨?_, ?_, ?_, ?_⟩
  · refine kept.toOperationsKept.set [token] here rfl ⟨?_, ?_, ?_, old.stopped⟩ rfl (.inl rfl)
      (fun _ _ => id) (by simp [addHandlers]) rfl (by simp [runs.1]) fun other _ => untaken other
    · intro number member
      rcases List.mem_append.mp member with member | member
      · exact (old.extend [token] (untaken _)).listed number member
      · obtain rfl := List.mem_singleton.mp member
        exact ⟨token, List.getElem?_concat_length .., rfl⟩
    · refine List.nodup_append.mpr ⟨old.distinct, by simp, ?_⟩
      rintro number listed last member rfl
      obtain rfl := List.mem_singleton.mp member
      obtain ⟨made, here, -⟩ := old.listed _ listed
      exact Nat.lt_irrefl _ (List.getElem?_eq_some_iff.mp here).1
    · exact (old.extend [] (untaken _)).taken
  · intro number made member
    rcases ofToken number made member with older | ⟨rfl, rfl⟩
    · exact List.mem_append_left _ (kept.made number made older)
    · simp
  · intro number made member
    rcases ofToken number made member with older | ⟨rfl, rfl⟩
    · exact fates number made older
    · exact newest
  · intro number past
    rw [heard]
    apply kept.unmade
    exact Nat.le_of_succ_le (by simpa [addHandlers] using past)

theorem DownloadsKept.calls (kept : DownloadsKept downloader actions) {token : Nat} {download : SDDownload}
    {rest : List (Nat × SDDownload)} (mainQueue : downloader.mainQueue = (token, download) :: rest) :
    DownloadsKept { downloader with mainQueue := rest } (actions ++ [.called token download]) := by
  let more : List SDWebImageDownloaderAction := [.called token download]
  have untaken : ∀ other, Untaken other more := by
    intro other download took
    simp [more] at took
  have heard : ∀ number, heardBy number { downloader with mainQueue := rest } (actions ++ more) =
      heardBy number downloader actions := by
    intro number
    rw [heardBy, heardBy, calledWith_append, mainQueue, List.append_assoc]
    by_cases own : token = number
    · simp [more, calledWith, toCall, own]
    · simp [more, calledWith, toCall, own]
  refine ⟨⟨?_, kept.entries, kept.adding, kept.tokens, ?_⟩, ?_, ?_, ?_⟩
  · intro number operation here
    have extended := (kept.operations number operation here).extend [] (untaken number)
    rwa [List.append_nil] at extended
  · intro number download' took
    exact kept.took number download' ((List.mem_append.mp took).resolve_right (untaken number download'))
  · intro number made member
    exact List.mem_append_left _ (kept.made number made member)
  · intro number made member
    exact (kept.fates number made member).extend (fun operation here listed runs _ => ⟨operation, here, listed, runs⟩)
      (untaken _) (heard number)
  · intro number past
    rw [heard]
    exact kept.unmade number past

/-- What taking a handler away does to an operation. -/
structure Cancels (token : Nat) (before : SDWebImageDownloaderOperation) (cancelled : Bool)
    (after : SDWebImageDownloaderOperation) : Prop where
  url : after.url = before.url
  stage : after.stage = before.stage
  callbackBlocks : after.callbackBlocks.Sublist before.callbackBlocks
  others : ∀ other ∈ before.callbackBlocks, other ≠ token → cancelled = false ∧ other ∈ after.callbackBlocks
  runs : cancelled = false → after.cancelled = before.cancelled
  cancelled : before.cancelled = true → after.cancelled = true

theorem cancels_cancel (token : Nat) :
    Cancels token operation (operation.cancel token).1 (operation.cancel token).2 := by
  unfold SDWebImageDownloaderOperation.cancel
  by_cases last : (operation.callbackBlocks.filter (· ≠ token)).length = 0
  · simp only [if_pos last]
    have none := List.eq_nil_of_length_eq_zero last
    have alone : ∀ other ∈ operation.callbackBlocks, other = token := by
      intro other listed
      by_contra apart
      have kept : other ∈ operation.callbackBlocks.filter (· ≠ token) :=
        List.mem_filter.mpr ⟨listed, by simpa using apart⟩
      rw [none] at kept
      cases kept
    unfold SDWebImageDownloaderOperation.cancelInternal
    split_ifs with finished
    · exact ⟨rfl, rfl, List.filter_sublist, fun other listed apart => absurd (alone other listed) apart,
        fun never => absurd never (by simp), id⟩
    · exact ⟨rfl, rfl, List.nil_sublist _, fun other listed apart => absurd (alone other listed) apart,
        fun never => absurd never (by simp), fun _ => rfl⟩
  · simp only [if_neg last]
    refine ⟨rfl, rfl, List.filter_sublist, ?_, fun _ => rfl, id⟩
    intro other listed apart
    exact ⟨rfl, List.mem_filter.mpr ⟨listed, by simpa using apart⟩⟩

theorem HandlerFate.cancel {token : SDWebImageDownloadToken} (fate : HandlerFate number token downloader actions)
    (asked : .cancelled number ∈ more)
    (same : heardBy number later (actions ++ more) = heardBy number downloader actions) :
    HandlerFate number token later (actions ++ more) := by
  refine .cancelled (List.mem_append_right _ asked) ?_
  rw [same]
  cases fate with
  | waiting _ _ _ _ silent => exact .inl silent
  | @answered download order once => exact .inr ⟨download, List.mem_append_left _ (order.subset (by simp)), once⟩
  | lost _ silent => exact .inl silent
  | cancelled _ few =>
      cases few with
      | inl silent => exact .inl silent
      | inr one =>
          obtain ⟨download, took, once⟩ := one
          exact .inr ⟨download, List.mem_append_left _ took, once⟩

theorem cancel_entry {token found : Nat} {made : SDWebImageDownloadToken}
    (entry : downloader.URLOperations made.url = some found) (here : downloader.operations[found]? = some operation) :
    downloader.cancel token made = { downloader with
      operations := downloader.operations.set found (operation.cancel token).2
      URLOperations := if (operation.cancel token).1 then Function.update downloader.URLOperations made.url none
        else downloader.URLOperations } := by
  unfold SDWebImageDownloader.cancel
  rw [entry]
  simp only [here]
  cases (operation.cancel token).1 <;> rfl

theorem DownloadsKept.cancels (kept : DownloadsKept downloader actions) (idle : downloader.adding = none) {token : Nat}
    {made : SDWebImageDownloadToken} (member : downloader.tokens[token]? = some made) :
    DownloadsKept (downloader.cancel token made) (actions ++ [.cancelled token]) := by
  let more : List SDWebImageDownloaderAction := [.cancelled token]
  have untaken : ∀ other, Untaken other more := by
    intro other download took
    simp [more] at took
  have heard : ∀ later : SDWebImageDownloader, later.mainQueue = downloader.mainQueue → ∀ number,
      heardBy number later (actions ++ more) = heardBy number downloader actions := by
    intro later same number
    have silent : calledWith number more = [] := rfl
    rw [heardBy, heardBy, calledWith_append, silent, List.append_nil, same]
  cases entry : downloader.URLOperations made.url with
  | none =>
      have same : downloader.cancel token made = downloader := by
        unfold SDWebImageDownloader.cancel
        rw [entry]
      rw [same]
      refine ⟨⟨?_, kept.entries, kept.adding, kept.tokens, ?_⟩, ?_, ?_, ?_⟩
      · intro number operation here
        have extended := (kept.operations number operation here).extend [] (untaken number)
        rwa [List.append_nil] at extended
      · intro number download took
        exact kept.took number download ((List.mem_append.mp took).resolve_right (untaken number download))
      · intro number made' here
        exact List.mem_append_left _ (kept.made number made' here)
      · intro number made' here
        by_cases own : number = token
        · subst own
          exact (kept.fates number made' here).cancel (List.mem_singleton_self _) (heard _ rfl number)
        · exact (kept.fates number made' here).extend
            (fun operation there listed runs _ => ⟨operation, there, listed, runs⟩) (untaken _) (heard _ rfl number)
      · intro number past
        exact (heard _ rfl number).trans (kept.unmade number past)
  | some found =>
      obtain ⟨operation, here, url, runs⟩ := kept.entries made.url found entry
      have cancels := @cancels_cancel operation token
      have equation := @cancel_entry downloader operation token found made entry here
      have old := kept.operations found operation here
      rw [equation]
      refine ⟨?_, ?_, ?_, ?_⟩
      · refine kept.toOperationsKept.set [] here rfl ⟨?_, ?_, ?_, ?_⟩ cancels.url ?_ ?_ (fun _ => id)
          (List.append_nil _).symm (by simp) fun other _ => untaken other
        · exact fun number listed => old.listed number (cancels.callbackBlocks.subset listed)
        · exact old.distinct.sublist cancels.callbackBlocks
        · rw [cancels.stage]
          exact (old.extend [] (untaken found)).taken
        · rw [cancels.stage]
          exact fun stopped => cancels.cancelled (old.stopped stopped)
        · cases gone : (operation.cancel token).1 with
          | false => exact .inl (cancels.runs gone)
          | true =>
              refine .inr ⟨?_, idle⟩
              intro url' own
              by_cases same : url' = made.url
              · simp [same] at own
              · obtain ⟨operation', there, url'', -⟩ := kept.entries url' found (by simpa [same] using own)
                obtain rfl := Option.some.inj (here.symm.trans there)
                exact same (url''.symm.trans url)
        · intro url' number own
          split_ifs at own
          · by_cases same : url' = made.url
            · simp [same] at own
            · simpa [same] using own
          · exact own
      · intro number made' there
        exact List.mem_append_left _ (kept.made number made' there)
      · intro number made' there
        have fate := kept.fates number made' there
        by_cases own : number = token
        · subst own
          exact fate.cancel (List.mem_singleton_self _) (heard _ rfl number)
        · refine fate.extend ?_ (untaken _) (heard _ rfl number)
          intro operation' its listed runs' _
          by_cases apart : found = made'.downloadOperation
          · rw [← apart] at its ⊢
            obtain rfl := Option.some.inj (here.symm.trans its)
            obtain ⟨remains, still⟩ := cancels.others number listed own
            exact ⟨_, List.getElem?_set_self (List.getElem?_eq_some_iff.mp here).1, still,
              (cancels.runs remains).trans runs'⟩
          · exact ⟨operation', (List.getElem?_set_ne apart).trans its, listed, runs'⟩
      · intro number past
        exact (heard _ rfl number).trans (kept.unmade number past)

theorem downloadsKept_mainStep (kept : DownloadsKept downloader actions) (event : SDWebImageDownloaderEvent) :
    DownloadsKept (downloader.mainStep event).1 (actions ++ (downloader.mainStep event).2) := by
  cases event with
  | addProgressCallback url =>
      simp only [mainStep]
      split_ifs
      · exact kept.finds url
      · exact kept.stays
  | addHandlers =>
      simp only [mainStep]
      cases adding : downloader.adding with
      | none => exact kept.stays
      | some token =>
          obtain ⟨operation, here, -⟩ := kept.adding token adding
          simp only [here]
          exact kept.adds adding here
  | cancel number =>
      simp only [mainStep]
      cases adding : downloader.adding with
      | some token => exact kept.stays
      | none =>
          cases member : downloader.tokens[number]? with
          | none => exact kept.stays
          | some token => exact kept.cancels adding member
  | completed =>
      simp only [mainStep]
      cases adding : downloader.adding with
      | some token => exact kept.stays
      | none =>
          cases mainQueue : downloader.mainQueue with
          | nil => exact kept.stays
          | cons first rest =>
              obtain ⟨token, download⟩ := first
              have called := kept.calls mainQueue
              rw [adding] at called
              exact called
  | start _ => exact kept.stays
  | didComplete _ => exact kept.stays
  | callCompletionBlocks _ download => exact kept.stays
  | done _ => exact kept.stays
  | reset _ => exact kept.stays
  | completionBlock _ => exact kept.stays

end Operations

theorem downloadsKept_step {downloader : SDWebImageDownloader} {actions : List SDWebImageDownloaderAction}
    (kept : DownloadsKept downloader actions) (event : SDWebImageDownloaderEvent) :
    DownloadsKept (downloader.step event).1 (actions ++ (downloader.step event).2) := by
  unfold SDWebImageDownloader.step
  cases event.operation with
  | none => exact downloadsKept_mainStep kept event
  | some number =>
      cases here : downloader.operations[number]? with
      | none =>
          simp only [here]
          exact kept.stays
      | some operation =>
          simp only [here]
          exact downloadsKept_operationStep kept here event

theorem downloadsKept_run (events : List SDWebImageDownloaderEvent) :
    DownloadsKept (Machine.after step {} events) (Machine.sent step {} events) :=
  Machine.invariant (P := fun _ downloader actions => DownloadsKept downloader actions) downloadsKept_init
    (fun _ _ _ event kept => downloadsKept_step kept event) events

/-- A handler still waits in a download that goes on, or was called once with what its download brought, or came after
the handlers of its download had been taken and is never called, or was cancelled. Cancelling others changes nothing. -/
theorem handler_fate (events : List SDWebImageDownloaderEvent) {number : Nat} {token : SDWebImageDownloadToken}
    (made : (Machine.after step {} events).tokens[number]? = some token) :
    HandlerFate number token (Machine.after step {} events) (Machine.sent step {} events) ∧
      ∃ operation, (Machine.after step {} events).operations[token.downloadOperation]? = some operation ∧
        operation.url = token.url ∧
        (operation.cancelled = false → Untaken token.downloadOperation (Machine.sent step {} events) →
          operation.stage = .ready ∨ operation.stage = .executing ∨ operation.stage = .completing) := by
  have kept := downloadsKept_run events
  obtain ⟨operation, here, url⟩ := kept.tokens token (List.mem_of_getElem? made)
  refine ⟨kept.fates number token made, operation, here, url, ?_⟩
  intro runs untaken
  have old := kept.operations token.downloadOperation operation here
  cases stage : operation.stage with
  | ready => exact .inl rfl
  | executing => exact .inr (.inl rfl)
  | completing => exact .inr (.inr rfl)
  | answered =>
      obtain ⟨download, took⟩ := old.taken.mp (.inl stage)
      exact absurd took (untaken download)
  | done =>
      obtain ⟨download, took⟩ := old.taken.mp (.inr (.inl stage))
      exact absurd took (untaken download)
  | reset =>
      obtain ⟨download, took⟩ := old.taken.mp (.inr (.inr stage))
      exact absurd took (untaken download)
  | stopped =>
      rw [old.stopped stage] at runs
      cases runs

/-- The second handler is added when the first has been taken, but the operation is still found. -/
abbrev lateHandler : List SDWebImageDownloaderEvent :=
  [.addProgressCallback "a", .addHandlers, .start 0, .didComplete 0, .callCompletionBlocks 0 .image,
    .addProgressCallback "a", .addHandlers, .done 0, .reset 0, .completionBlock 0, .completed]

theorem handler_fate_late : HandlerFate 1 ⟨"a", 0⟩ (Machine.after step {} lateHandler)
    (Machine.sent step {} lateHandler) ∧
      ∃ operation, (Machine.after step {} lateHandler).operations[0]? = some operation ∧ operation.url = "a" ∧
        (operation.cancelled = false → Untaken 0 (Machine.sent step {} lateHandler) →
          operation.stage = .ready ∨ operation.stage = .executing ∨ operation.stage = .completing) :=
  @handler_fate lateHandler 1 ⟨"a", 0⟩ (by decide +kernel)

example : heardBy 0 (Machine.after step {} lateHandler) (Machine.sent step {} lateHandler) = [.image] ∧
    heardBy 1 (Machine.after step {} lateHandler) (Machine.sent step {} lateHandler) = [] := by decide +kernel

end RealSocial.Proof
