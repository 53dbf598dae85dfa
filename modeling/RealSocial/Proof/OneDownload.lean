import RealSocial.Proof.HandlerFate

namespace RealSocial.Proof

open Library SDWebImageDownloader

/-! # Whether a url is downloaded twice at a time -/

def Running (operation : SDWebImageDownloaderOperation) : Prop :=
  operation.finished = false ∧ operation.cancelled = false

def Registered (downloader : SDWebImageDownloader) : Prop :=
  ∀ number operation, downloader.operations[number]? = some operation → Running operation →
    downloader.URLOperations operation.url = some number

section Registered

variable {downloader : SDWebImageDownloader} {actions : List SDWebImageDownloaderAction} {number : Nat}
  {operation : SDWebImageDownloaderOperation}

theorem Registered.set (registered : Registered downloader) (operation' : SDWebImageDownloaderOperation)
    (here : downloader.operations[number]? = some operation) (url : operation'.url = operation.url) (runs : Running operation' → Running operation) :
    Registered (downloader.setOperation number operation') := by
  intro other found there running
  by_cases apart : number = other
  · subst apart
    obtain rfl := Option.some.inj
      ((List.getElem?_set_self (List.getElem?_eq_some_iff.mp here).1).symm.trans there)
    rw [url]
    exact registered number operation here (runs running)
  · exact registered other found ((List.getElem?_set_ne apart).symm.trans there) running

theorem running_start (running : Running operation.start) : Running operation := by
  unfold SDWebImageDownloaderOperation.start at running
  cases stage : operation.stage with
  | ready =>
      simp only [stage] at running
      split_ifs at running
      · exact absurd running.1 (by simp [SDWebImageDownloaderOperation.reset])
      · exact running
  | executing => simpa only [stage] using running
  | completing => simpa only [stage] using running
  | answered => simpa only [stage] using running
  | done => simpa only [stage] using running
  | reset => simpa only [stage] using running
  | stopped => simpa only [stage] using running

theorem url_start : operation.start.url = operation.url := by
  unfold SDWebImageDownloaderOperation.start
  cases operation.stage with
  | ready => by_cases cancelled : operation.cancelled = true <;> simp [cancelled, SDWebImageDownloaderOperation.reset]
  | executing => rfl
  | completing => rfl
  | answered => rfl
  | done => rfl
  | reset => rfl
  | stopped => rfl

theorem running_cancel {token : Nat} (running : Running (operation.cancel token).2) :
    (operation.cancel token).1 = false ∧ Running operation := by
  unfold SDWebImageDownloaderOperation.cancel at running ⊢
  by_cases last : (operation.callbackBlocks.filter (· ≠ token)).length = 0
  · simp only [if_pos last] at running
    unfold SDWebImageDownloaderOperation.cancelInternal at running
    split_ifs at running with finished
    · exact absurd (running.1.symm.trans finished) (by simp)
    · exact absurd running.2 (by simp [SDWebImageDownloaderOperation.reset])
  · simp only [if_neg last] at running ⊢
    exact ⟨trivial, running⟩

theorem Registered.completionBlock (registered : Registered downloader)
    (here : downloader.operations[number]? = some operation) (finished : operation.finished = true)
    (own : ∀ entry, downloader.URLOperations operation.url = some entry → entry = number) :
    Registered (downloader.completionBlock number operation) := by
  intro other found there running
  have apart : number ≠ other := by
    rintro rfl
    obtain rfl := Option.some.inj
      ((List.getElem?_set_self (List.getElem?_eq_some_iff.mp here).1).symm.trans there)
    exact absurd (running.1.symm.trans finished) (by simp)
  have entry := registered other found ((List.getElem?_set_ne apart).symm.trans there) running
  have different : found.url ≠ operation.url := by
    intro same
    rw [same] at entry
    exact apart (own other entry).symm
  exact (Function.update_of_ne different ..).trans entry

theorem registered_operationStep (registered : Registered downloader)
    (here : downloader.operations[number]? = some operation) (event : SDWebImageDownloaderEvent)
    (own : ∀ remover entry, .removed remover entry ∈ (downloader.operationStep number operation event).2 →
      entry = remover) : Registered (downloader.operationStep number operation event).1 := by
  cases event with
  | addProgressCallback url => exact registered
  | addHandlers => exact registered
  | cancel token => exact registered
  | completed => exact registered
  | start _ => exact registered.set _ here url_start running_start
  | didComplete _ =>
      simp only [operationStep]
      split_ifs
      · exact registered.set _ here rfl id
      · exact registered
  | callCompletionBlocks _ download =>
      simp only [operationStep]
      split_ifs
      · exact registered.set { operation with stage := .answered } here rfl id
      · exact registered
  | done _ =>
      simp only [operationStep]
      split_ifs
      · exact registered.set _ here rfl fun running => absurd running.1 (by simp)
      · exact registered
  | reset _ =>
      simp only [operationStep]
      split_ifs
      · exact registered.set _ here rfl id
      · exact registered
  | completionBlock _ =>
      simp only [operationStep] at own ⊢
      split_ifs at own ⊢ with ended
      · apply registered.completionBlock here (by simpa using (Bool.and_eq_true_iff.mp ended).1)
        intro entry found
        exact own number entry (by simp [found])
      · exact registered

theorem Registered.cancel (registered : Registered downloader) (kept : DownloadsKept downloader actions) (token : Nat)
    (made : SDWebImageDownloadToken) : Registered (downloader.cancel token made) := by
  cases entry : downloader.URLOperations made.url with
  | none =>
      have same : downloader.cancel token made = downloader := by
        unfold SDWebImageDownloader.cancel
        rw [entry]
      rw [same]
      exact registered
  | some found =>
      obtain ⟨operation, here, url, -⟩ := kept.entries made.url found entry
      rw [@cancel_entry downloader operation token found made entry here]
      intro other operation' there running
      by_cases apart : found = other
      · subst apart
        obtain rfl := Option.some.inj
          ((List.getElem?_set_self (List.getElem?_eq_some_iff.mp here).1).symm.trans there)
        obtain ⟨remains, ran⟩ := running_cancel running
        have same := (@cancels_cancel operation token).url
        simp only [remains, same]
        exact registered found operation here ran
      · have before := registered other operation' ((List.getElem?_set_ne apart).symm.trans there) running
        have different : operation'.url ≠ made.url := by
          intro same
          rw [same, entry] at before
          exact apart (Option.some.inj before)
        show (if _ then _ else _ : NSURL → Option Nat) operation'.url = some other
        split_ifs
        · exact (Function.update_of_ne different ..).trans before
        · exact before

theorem registered_mainStep (registered : Registered downloader) (kept : DownloadsKept downloader actions)
    (event : SDWebImageDownloaderEvent) : Registered (downloader.mainStep event).1 := by
  cases event with
  | addProgressCallback url =>
      simp only [mainStep]
      split_ifs
      · unfold addProgressCallback
        cases entry : downloader.URLOperations url with
        | some found => exact registered
        | none =>
            intro number operation here running
            have here : (downloader.operations ++ [({ url } : SDWebImageDownloaderOperation)])[number]? =
                some operation := here
            rcases getElem?_snoc here with older | ⟨rfl, rfl⟩
            · have before := registered number operation older running
              have different : operation.url ≠ url := by
                rintro rfl
                rw [entry] at before
                cases before
              exact (Function.update_of_ne different ..).trans before
            · exact Function.update_self ..
      · exact registered
  | addHandlers =>
      simp only [mainStep]
      cases adding : downloader.adding with
      | none => exact registered
      | some token =>
          obtain ⟨operation, here, -⟩ := kept.adding token adding
          simp only [here]
          exact registered.set { operation with
            callbackBlocks := operation.callbackBlocks ++ [downloader.tokens.length] } here rfl id
  | cancel number =>
      simp only [mainStep]
      cases adding : downloader.adding with
      | some token => exact registered
      | none =>
          cases member : downloader.tokens[number]? with
          | none => exact registered
          | some token => exact registered.cancel kept number token
  | completed =>
      simp only [mainStep]
      cases downloader.adding with
      | some token => exact registered
      | none =>
          cases downloader.mainQueue with
          | nil => exact registered
          | cons first rest => exact registered
  | start _ => exact registered
  | didComplete _ => exact registered
  | callCompletionBlocks _ download => exact registered
  | done _ => exact registered
  | reset _ => exact registered
  | completionBlock _ => exact registered

theorem registered_step (registered : Registered downloader) (kept : DownloadsKept downloader actions)
    (event : SDWebImageDownloaderEvent)
    (own : ∀ remover entry, .removed remover entry ∈ (downloader.step event).2 → entry = remover) :
    Registered (downloader.step event).1 := by
  unfold SDWebImageDownloader.step at own ⊢
  cases about : event.operation with
  | none => exact registered_mainStep registered kept event
  | some number =>
      cases here : downloader.operations[number]? with
      | none =>
          simp only [here]
          exact registered
      | some operation =>
          simp only [about, here] at own ⊢
          exact registered_operationStep registered here event own

end Registered

theorem registered_run (events : List SDWebImageDownloaderEvent)
    (own : ∀ remover entry, .removed remover entry ∈ Machine.sent step {} events → entry = remover) :
    Registered (Machine.after step {} events) := by
  refine (Machine.invariant (P := fun _ downloader actions => DownloadsKept downloader actions ∧
    ((∀ remover entry, .removed remover entry ∈ actions → entry = remover) → Registered downloader))
    ⟨downloadsKept_init, ?_⟩ ?_ events).2 own
  · intro _ number operation here
    simp at here
  · rintro _ downloader actions event ⟨kept, registered⟩
    refine ⟨downloadsKept_step kept event, ?_⟩
    intro own
    apply registered_step _ kept event
    · exact fun remover entry removed => own remover entry (List.mem_append_right _ removed)
    · exact registered fun remover entry removed => own remover entry (List.mem_append_left _ removed)

/-- As long as no completion block has removed the entry of another operation, no url is downloaded twice at a time. -/
theorem one_download (events : List SDWebImageDownloaderEvent)
    (own : ∀ remover entry, .removed remover entry ∈ Machine.sent step {} events → entry = remover) :
    (Machine.after step {} events).operations.Pairwise fun first second =>
      first.url = second.url → ¬ (Running first ∧ Running second) := by
  have registered := registered_run events own
  rw [List.pairwise_iff_getElem]
  rintro i j iBound jBound less same ⟨first, second⟩
  have entry := registered i _ (List.getElem?_eq_getElem iBound) first
  rw [same, registered j _ (List.getElem?_eq_getElem jBound) second, Option.some.injEq] at entry
  exact Nat.ne_of_gt less entry

/-- The url is asked for again after its first download has ended. -/
abbrev askedAgain : List SDWebImageDownloaderEvent := lateHandler ++ [.addProgressCallback "a", .addHandlers, .start 1]

theorem one_download_again : (Machine.after step {} askedAgain).operations.Pairwise fun first second =>
    first.url = second.url → ¬ (Running first ∧ Running second) := by
  apply one_download askedAgain
  have sent : Machine.sent step {} askedAgain =
      [.added 0 0, .took 0 .image, .added 1 0, .removed 0 0, .called 0 .image, .added 2 1] := by decide +kernel
  rw [sent]
  simp

-- after a download was cancelled and asked for again, its completion block removes the entry of the new one
example : (Machine.after step {} [.addProgressCallback "a", .addHandlers, .start 0, .cancel 0,
    .addProgressCallback "a", .addHandlers, .start 1, .completionBlock 0,
    .addProgressCallback "a", .addHandlers, .start 2]).operations.map
      (fun operation => (operation.url, operation.cancelled, operation.dataTask)) =
    [("a", true, false), ("a", false, true), ("a", false, true)] := by decide +kernel

end RealSocial.Proof
