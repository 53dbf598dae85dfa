import Mathlib.Data.List.Nodup
import Mathlib.Tactic.Tauto
import RealSocial.Library.Run
import RealSocial.Services.ImageDownloadService

namespace RealSocial

namespace ImageDownloads

/-! # What one event does to the downloads -/

variable (state : ImageDownloads)

def inFlight : List Nat := state.manager.running.map SDWebImageOperation.call

def called : List Nat := state.invoked.map Prod.fst

def full : Bool := state.queue.length ≥ state.service.maxOperation

def evicted : List RSImageDownloadOperation := if state.full then state.queue.take 1 else []

def kept : List RSImageDownloadOperation := if state.full then state.queue.drop 1 else state.queue

def handled (operations : List RSImageDownloadOperation) : List Nat :=
  (operations.filter RSImageDownloadOperation.completionHandler).map RSImageDownloadOperation.call

theorem evicted_append_kept : state.evicted ++ state.kept = state.queue := by
  unfold evicted kept
  split_ifs
  · exact List.take_append_drop 1 state.queue
  · rfl

theorem inFlight_eq : state.inFlight = (state.manager.loaded.map SDWebImageOperation.call).filter
    fun call => call ∉ state.manager.calledBack ∧ call ∉ state.manager.cancelled := by
  rw [inFlight, SDWebImageManager.running, List.filter_map]
  rfl

structure Adds (operation : RSImageDownloadOperation) (before after : ImageDownloads) : Prop where
  maxOperation : after.service.maxOperation = before.service.maxOperation
  queue : after.queue = before.kept ++ [operation]
  loaded : after.manager.loaded = before.manager.loaded
  calledBack : after.manager.calledBack = before.manager.calledBack
  cancelled : after.manager.cancelled =
    before.manager.cancelled ++ before.evicted.map RSImageDownloadOperation.call
  calls : after.calls = before.calls
  called : after.called = before.called ++ handled before.evicted

theorem adds_addOperation (operation : RSImageDownloadOperation) :
    Adds operation state (state.addOperation operation) := by
  cases isFull : state.full with
  | false =>
      have room : ¬ state.queue.length ≥ state.service.maxOperation := by simpa [full] using isFull
      have added : state.addOperation operation = state.setQueue (state.queue ++ [operation]) := by
        rw [addOperation, if_neg room]
      have none : state.evicted = [] := by simp [evicted, isFull]
      have all : state.kept = state.queue := by simp [kept, isFull]
      rw [added]
      exact ⟨rfl, by rw [all]; rfl, rfl, rfl, by simp [none, setQueue], rfl, by simp [none, handled, setQueue, called]⟩
  | true =>
      have noRoom : state.queue.length ≥ state.service.maxOperation := by simpa [full] using isFull
      have added : state.addOperation operation =
          state.cancelFirst.setQueue (state.cancelFirst.queue ++ [operation]) := by
        rw [addOperation, if_pos noRoom]
      rw [added]
      cases queued : state.queue with
      | nil =>
          have same : state.cancelFirst = state := by rw [cancelFirst, queued]
          have none : state.evicted = [] := by simp [evicted, queued]
          have all : state.kept = state.queue := by simp [kept, queued]
          rw [same]
          exact ⟨rfl, by rw [all]; rfl, rfl, rfl, by simp [none, setQueue], rfl,
            by simp [none, handled, setQueue, called]⟩
      | cons first rest =>
          have one : state.evicted = [first] := by simp [evicted, isFull, queued]
          have others : state.kept = rest := by simp [kept, isFull, queued]
          rcases first with ⟨call, url, completionHandler⟩
          cases completionHandler with
          | false =>
              have same : state.cancelFirst =
                  { state with manager := state.manager.cancel call }.setQueue rest := by
                rw [cancelFirst, queued]
                rfl
              rw [same]
              exact ⟨rfl, by rw [others]; rfl, rfl, rfl, by rw [one]; rfl, rfl,
                by rw [one]; exact (List.append_nil _).symm⟩
          | true =>
              have same : state.cancelFirst = { state with
                  manager := state.manager.cancel call
                  invoked := state.invoked ++ [(call, SDDownload.error "image download too much")] }.setQueue rest := by
                rw [cancelFirst, queued]
                rfl
              rw [same]
              exact ⟨rfl, by rw [others]; rfl, rfl, rfl, by rw [one]; rfl, rfl,
                by rw [one]; simp [called, handled, setQueue]⟩

/-- Whether the load of a new operation calls back before it returns. -/
def callsBackAtOnce (url : Option NSURL) (inMemory : Bool) : Bool :=
  state.manager.isFailedUrl url || inMemory

structure Starts (url : Option NSURL) (completionHandler inMemory : Bool)
    (before after : ImageDownloads) : Prop where
  maxOperation : after.service.maxOperation = before.service.maxOperation
  queue : after.queue = before.kept ++ [⟨before.calls.length, url, completionHandler⟩]
  loaded : after.manager.loaded = before.manager.loaded ++ [⟨before.calls.length, url⟩]
  calledBack : after.manager.calledBack = before.manager.calledBack ++
    if before.callsBackAtOnce url inMemory then [before.calls.length] else []
  cancelled : after.manager.cancelled =
    before.manager.cancelled ++ before.evicted.map RSImageDownloadOperation.call
  calls : after.calls = before.calls ++ [completionHandler]
  called : after.called = before.called ++
    (if before.callsBackAtOnce url inMemory && completionHandler then [before.calls.length] else []) ++
    handled before.evicted

/-- The load, and the block when it runs before the load returns. -/
def loaded (url : Option NSURL) (completionHandler inMemory : Bool) : ImageDownloads :=
  let call := state.calls.length
  let (download, manager) := state.manager.loadImageWithURL call url inMemory
  let begun := { state with calls := state.calls ++ [completionHandler], manager }
  match download with
  | some download => begun.completed (some ⟨call, url, completionHandler⟩) download
  | none => begun

structure Loads (url : Option NSURL) (completionHandler inMemory : Bool)
    (before after : ImageDownloads) : Prop where
  service : after.service = before.service
  manager : after.manager = { before.manager with
    loaded := before.manager.loaded ++ [⟨before.calls.length, url⟩]
    calledBack := before.manager.calledBack ++
      if before.callsBackAtOnce url inMemory then [before.calls.length] else [] }
  calls : after.calls = before.calls ++ [completionHandler]
  called : after.called = before.called ++
    if before.callsBackAtOnce url inMemory && completionHandler then [before.calls.length] else []

variable {state}

theorem completed_fresh {operation : RSImageDownloadOperation}
    (fresh : ∀ queued ∈ state.queue, queued.call ≠ operation.call) (download : SDDownload) :
    state.completed (some operation) download =
      state.invoke operation.call operation.completionHandler download := by
  have same : state.queue.filter (fun queued => queued.call ≠ operation.call) = state.queue := by
    rw [List.filter_eq_self]
    simpa using fresh
  simp only [completed, removeOperation, same]
  rfl

theorem loads_loaded {completionHandler : Bool}
    (fresh : ∀ queued ∈ state.queue, queued.call < state.calls.length) (url : Option NSURL)
    (inMemory : Bool) : Loads url completionHandler inMemory state (state.loaded url completionHandler inMemory) := by
  have unseen : ∀ queued ∈ state.queue, queued.call ≠ state.calls.length :=
    fun queued member => Nat.ne_of_lt (fresh queued member)
  have failed : ∀ loaded, SDWebImageManager.isFailedUrl url { state.manager with loaded } =
      state.manager.isFailedUrl url := fun _ => rfl
  cases atOnce : state.callsBackAtOnce url inMemory with
  | false =>
      obtain ⟨valid, unstored⟩ : state.manager.isFailedUrl url = false ∧ inMemory = false := by
        simpa [callsBackAtOnce] using atOnce
      have same : state.loaded url completionHandler inMemory = { state with
          calls := state.calls ++ [completionHandler]
          manager := { state.manager with
            loaded := state.manager.loaded ++ [⟨state.calls.length, url⟩] } } := by
        simp only [loaded, SDWebImageManager.loadImageWithURL, failed, valid, unstored]
        rfl
      rw [same]
      exact ⟨rfl, by simp [atOnce], rfl, by simp [atOnce, called]⟩
  | true =>
      obtain ⟨download, same⟩ : ∃ download, state.loaded url completionHandler inMemory =
          ({ state with
            calls := state.calls ++ [completionHandler]
            manager := { state.manager with
              loaded := state.manager.loaded ++ [⟨state.calls.length, url⟩]
              calledBack := state.manager.calledBack ++ [state.calls.length] } } : ImageDownloads).invoke
            state.calls.length completionHandler download := by
        simp only [loaded, SDWebImageManager.loadImageWithURL, failed]
        cases invalid : state.manager.isFailedUrl url with
        | true => exact ⟨_, completed_fresh unseen _⟩
        | false =>
            have stored : inMemory = true := by simpa [callsBackAtOnce, invalid] using atOnce
            rw [stored]
            exact ⟨_, completed_fresh unseen _⟩
      rw [same]
      cases completionHandler with
      | false => exact ⟨rfl, by rw [atOnce]; rfl, rfl, by rw [atOnce]; exact (List.append_nil _).symm⟩
      | true => exact ⟨rfl, by rw [atOnce]; rfl, rfl, by rw [atOnce]; simp [invoke, called]⟩

theorem starts_download {completionHandler cached : Bool}
    (fresh : ∀ operation ∈ state.queue, operation.call < state.calls.length)
    (started : (cached && completionHandler) = false) (url : Option NSURL) (inMemory : Bool) :
    Starts url completionHandler (cached && inMemory) state
      (step state (.download url completionHandler cached inMemory)) := by
  let before := state.loaded url completionHandler (cached && inMemory)
  have loads := @loads_loaded state completionHandler fresh url (cached && inMemory)
  have adds := adds_addOperation before ⟨state.calls.length, url, completionHandler⟩
  have same : step state (.download url completionHandler cached inMemory) =
      before.addOperation ⟨state.calls.length, url, completionHandler⟩ := by
    simp only [step, downloadImageWithUrl, started]
    rfl
  have queue : before.queue = state.queue := congrArg RSImageDownloadService.downloadOperationQueue loads.service
  have isFull : before.full = state.full := by rw [full, full, queue, loads.service]
  have evicts : before.evicted = state.evicted := by rw [evicted, evicted, queue, isFull]
  have keeps : before.kept = state.kept := by rw [kept, kept, queue, isFull]
  rw [same]
  constructor
  · rw [adds.maxOperation, loads.service]
  · rw [adds.queue, keeps]
  · rw [adds.loaded, loads.manager]
  · rw [adds.calledBack, loads.manager]
  · rw [adds.cancelled, loads.manager, evicts]
  · rw [adds.calls, loads.calls]
  · rw [adds.called, loads.called, evicts]

structure Answers (before after : ImageDownloads) : Prop where
  service : after.service = before.service
  manager : after.manager = before.manager
  calls : after.calls = before.calls ++ [true]
  called : after.called = before.called ++ [before.calls.length]

theorem answers_download {completionHandler cached : Bool} (answered : (cached && completionHandler) = true)
    (url : Option NSURL) (inMemory : Bool) :
    Answers state (step state (.download url completionHandler cached inMemory)) := by
  obtain ⟨rfl, rfl⟩ : cached = true ∧ completionHandler = true := by simpa using answered
  exact ⟨rfl, rfl, rfl, List.map_append⟩

structure Completes (operation : RSImageDownloadOperation) (before after : ImageDownloads) : Prop where
  maxOperation : after.service.maxOperation = before.service.maxOperation
  queue : after.queue = before.queue.filter fun queued => queued.call ≠ operation.call
  loaded : after.manager.loaded = before.manager.loaded
  calledBack : after.manager.calledBack = before.manager.calledBack ++ [operation.call]
  cancelled : after.manager.cancelled = before.manager.cancelled
  calls : after.calls = before.calls
  called : after.called = before.called ++ handled [operation]

theorem step_completed_gone {call : Nat} (gone : call ∉ state.inFlight) (download : SDDownload)
    (blacklists : Bool) : step state (.completed call download blacklists) = state := by
  have none : state.manager.running.find? (fun operation => operation.call = call) = none := by
    rw [List.find?_eq_none]
    intro operation running here
    exact gone (List.mem_map.mpr ⟨operation, running, by simpa using here⟩)
  rw [step, none]

theorem callBack_fields (operation : SDWebImageOperation) (download : SDDownload) (blacklists : Bool)
    (manager : SDWebImageManager) :
    (manager.callBack operation download blacklists).loaded = manager.loaded ∧
    (manager.callBack operation download blacklists).calledBack = manager.calledBack ++ [operation.call] ∧
    (manager.callBack operation download blacklists).cancelled = manager.cancelled := by
  unfold SDWebImageManager.callBack
  cases download with
  | image => exact ⟨rfl, rfl, rfl⟩
  | error description => cases blacklists <;> exact ⟨rfl, rfl, rfl⟩

theorem completes_step {call : Nat} (flies : call ∈ state.inFlight)
    (queued : call ∈ state.queue.map RSImageDownloadOperation.call) (download : SDDownload)
    (blacklists : Bool) : ∃ operation ∈ state.queue, operation.call = call ∧
      Completes operation state (step state (.completed call download blacklists)) := by
  obtain ⟨running, found⟩ : ∃ running,
      state.manager.running.find? (fun operation => operation.call = call) = some running := by
    obtain ⟨running, member, rfl⟩ := List.mem_map.mp flies
    exact Option.isSome_iff_exists.mp (List.find?_isSome.mpr ⟨running, member, by simp⟩)
  obtain ⟨operation, alive⟩ : ∃ operation,
      state.queue.find? (fun queued => queued.call = call) = some operation := by
    obtain ⟨operation, member, rfl⟩ := List.mem_map.mp queued
    exact Option.isSome_iff_exists.mp (List.find?_isSome.mpr ⟨operation, member, by simp⟩)
  have named : running.call = call := by simpa using List.find?_some found
  have own : operation.call = call := by simpa using List.find?_some alive
  obtain ⟨loaded, calledBack, cancelled⟩ := callBack_fields running download blacklists state.manager
  refine ⟨operation, List.mem_of_find?_eq_some alive, own, ?_⟩
  simp only [step, found, alive, completed]
  rcases operation with ⟨call', url, completionHandler⟩
  obtain rfl : call' = call := own
  cases completionHandler with
  | false => exact ⟨rfl, rfl, loaded, named ▸ calledBack, cancelled, rfl, (List.append_nil _).symm⟩
  | true => exact ⟨rfl, rfl, loaded, named ▸ calledBack, cancelled, rfl, by simp [called, handled, invoke,
      removeOperation, setQueue]⟩

end ImageDownloads

namespace Proof

open Library ImageDownloads

/-! # The downloads in flight -/

variable {before after : ImageDownloads} {url : Option NSURL} {completionHandler inMemory : Bool}

structure Accounted (state : ImageDownloads) : Prop where
  maxOperation : state.service.maxOperation = 20
  ordered : (state.queue.map RSImageDownloadOperation.call).Pairwise (· < ·)
  queueCalls : ∀ operation ∈ state.queue, state.calls[operation.call]? = some operation.completionHandler
  loadedCalls : ∀ operation ∈ state.manager.loaded, operation.call < state.calls.length
  calledBackCalls : ∀ call ∈ state.manager.calledBack, call < state.calls.length
  cancelledCalls : ∀ call ∈ state.manager.cancelled, call < state.calls.length
  queued : ∀ call ∈ state.inFlight, call ∈ state.queue.map RSImageDownloadOperation.call
  pending : ∀ call, state.calls[call]? = some true → (call ∉ state.called ↔ call ∈ state.inFlight)
  calledHandlers : ∀ call ∈ state.called, state.calls[call]? = some true

theorem accounted_init : Accounted {} := by
  constructor <;> simp [queue, inFlight, called, SDWebImageManager.running]

theorem Accounted.queue_lt {state : ImageDownloads} (accounted : Accounted state)
    {operation : RSImageDownloadOperation} (member : operation ∈ state.queue) :
    operation.call < state.calls.length := by
  obtain ⟨bound, -⟩ := List.getElem?_eq_some_iff.mp (accounted.queueCalls operation member)
  exact bound

theorem Accounted.inFlight_lt {state : ImageDownloads} (accounted : Accounted state) {call : Nat}
    (flies : call ∈ state.inFlight) : call < state.calls.length := by
  obtain ⟨operation, member, rfl⟩ := List.mem_map.mp (accounted.queued call flies)
  exact accounted.queue_lt member

theorem Accounted.called_lt {state : ImageDownloads} (accounted : Accounted state) {call : Nat}
    (called : call ∈ state.called) : call < state.calls.length := by
  obtain ⟨bound, -⟩ := List.getElem?_eq_some_iff.mp (accounted.calledHandlers call called)
  exact bound

theorem Accounted.next_uncalled {state : ImageDownloads} (accounted : Accounted state) :
    state.calls.length ∉ state.called :=
  fun member => Nat.lt_irrefl _ (accounted.called_lt member)

theorem Accounted.next_grounded {state : ImageDownloads} (accounted : Accounted state) :
    state.calls.length ∉ state.inFlight :=
  fun member => Nat.lt_irrefl _ (accounted.inFlight_lt member)

theorem evicted_subset {state : ImageDownloads} {operation : RSImageDownloadOperation}
    (member : operation ∈ state.evicted) : operation ∈ state.queue := by
  rw [← evicted_append_kept]
  exact List.mem_append_left _ member

theorem kept_subset {state : ImageDownloads} {operation : RSImageDownloadOperation}
    (member : operation ∈ state.kept) : operation ∈ state.queue := by
  rw [← evicted_append_kept]
  exact List.mem_append_right _ member

theorem kept_eq_filter {state : ImageDownloads} (accounted : Accounted state) :
    (state.queue.map RSImageDownloadOperation.call).filter
      (fun call => call ∉ state.evicted.map RSImageDownloadOperation.call) =
      state.kept.map RSImageDownloadOperation.call := by
  have nodup : ((state.evicted ++ state.kept).map RSImageDownloadOperation.call).Nodup := by
    rw [evicted_append_kept]
    exact accounted.ordered.imp Nat.ne_of_lt
  rw [List.map_append, List.nodup_append] at nodup
  obtain ⟨-, -, apart⟩ := nodup
  rw [← evicted_append_kept, List.map_append, List.filter_append]
  have none : (state.evicted.map RSImageDownloadOperation.call).filter
      (fun call => call ∉ state.evicted.map RSImageDownloadOperation.call) = [] := by
    rw [List.filter_eq_nil_iff]
    intro call member
    simpa using member
  have all : (state.kept.map RSImageDownloadOperation.call).filter
      (fun call => call ∉ state.evicted.map RSImageDownloadOperation.call) =
      state.kept.map RSImageDownloadOperation.call := by
    rw [List.filter_eq_self]
    intro call member
    simpa using fun evicted => apart call evicted call member rfl
  rw [none, all, List.nil_append]

theorem later_of_starts (starts : Starts url completionHandler inMemory before after) :
    before.calls.length < after.calls.length := by
  simp [starts.calls]

theorem inFlight_starts (accounted : Accounted before)
    (starts : Starts url completionHandler inMemory before after) :
    after.inFlight =
      before.inFlight.filter (fun call => call ∉ before.evicted.map RSImageDownloadOperation.call) ++
        if before.callsBackAtOnce url inMemory then [] else [before.calls.length] := by
  rw [inFlight_eq, inFlight_eq, starts.loaded, starts.calledBack, starts.cancelled, List.map_append,
    List.filter_append, List.filter_filter]
  congr 1
  · apply List.filter_congr
    intro call member
    obtain ⟨operation, loaded, rfl⟩ := List.mem_map.mp member
    have old := accounted.loadedCalls operation loaded
    have other : operation.call ∉ if before.callsBackAtOnce url inMemory then [before.calls.length] else [] := by
      split_ifs
      · simpa using Nat.ne_of_lt old
      · simp
    rw [Bool.eq_iff_iff]
    simp only [Bool.and_eq_true, decide_eq_true_eq, List.mem_append, not_or]
    tauto
  · have fresh : before.calls.length ∉ before.manager.calledBack :=
      fun member => Nat.lt_irrefl _ (accounted.calledBackCalls _ member)
    have uncancelled : before.calls.length ∉ before.manager.cancelled :=
      fun member => Nat.lt_irrefl _ (accounted.cancelledCalls _ member)
    have unevicted : ∀ operation ∈ before.evicted, operation.call ≠ before.calls.length :=
      fun operation evicted => Nat.ne_of_lt (accounted.queue_lt (evicted_subset evicted))
    cases atOnce : before.callsBackAtOnce url inMemory with
    | false => simpa [fresh, uncancelled] using unevicted
    | true => simp

theorem inFlight_completes {operation : RSImageDownloadOperation}
    (completes : Completes operation before after) :
    after.inFlight = before.inFlight.filter fun call => call ≠ operation.call := by
  rw [inFlight_eq, inFlight_eq, completes.loaded, completes.calledBack, completes.cancelled,
    List.filter_filter]
  apply List.filter_congr
  intro call _
  rw [Bool.eq_iff_iff]
  simp only [Bool.and_eq_true, decide_eq_true_eq, List.mem_append, List.mem_singleton, not_or]
  tauto

theorem mem_inFlight_starts (accounted : Accounted before)
    (starts : Starts url completionHandler inMemory before after) (call : Nat) :
    call ∈ after.inFlight ↔
      (call ∈ before.inFlight ∧ call ∉ before.evicted.map RSImageDownloadOperation.call) ∨
        (call = before.calls.length ∧ before.callsBackAtOnce url inMemory = false) := by
  rw [inFlight_starts accounted starts, List.mem_append, List.mem_filter, decide_eq_true_eq]
  cases before.callsBackAtOnce url inMemory <;> simp

theorem mem_handled {state : ImageDownloads} (accounted : Accounted state)
    {operations : List RSImageDownloadOperation} (subset : operations ⊆ state.queue) (call : Nat) :
    call ∈ handled operations ↔
      call ∈ operations.map RSImageDownloadOperation.call ∧ state.calls[call]? = some true := by
  simp only [handled, List.mem_map, List.mem_filter]
  constructor
  · rintro ⟨operation, ⟨member, handler⟩, rfl⟩
    exact ⟨⟨operation, member, rfl⟩, handler ▸ accounted.queueCalls operation (subset member)⟩
  · rintro ⟨⟨operation, member, rfl⟩, handler⟩
    rw [accounted.queueCalls operation (subset member), Option.some.injEq] at handler
    exact ⟨operation, ⟨member, handler⟩, rfl⟩

theorem calls_concat {calls : List Bool} {new handler : Bool} {call : Nat} :
    (calls ++ [new])[call]? = some handler ↔
      calls[call]? = some handler ∨ (call = calls.length ∧ new = handler) := by
  rw [List.getElem?_append]
  split_ifs with old
  · have other : call ≠ calls.length := Nat.ne_of_lt old
    simp [other]
  · have missing : calls[call]? = none := List.getElem?_eq_none (Nat.le_of_not_lt old)
    rw [missing]
    by_cases same : call = calls.length
    · simp [same]
    · have later : [new][call - calls.length]? = none :=
        List.getElem?_eq_none (by rw [List.length_singleton]; omega)
      simp [later, same]

theorem mem_called_starts (accounted : Accounted before)
    (starts : Starts url completionHandler inMemory before after) (call : Nat) :
    call ∈ after.called ↔ call ∈ before.called ∨
      (call = before.calls.length ∧ before.callsBackAtOnce url inMemory ∧ completionHandler) ∨
      (call ∈ before.evicted.map RSImageDownloadOperation.call ∧ before.calls[call]? = some true) := by
  rw [starts.called, List.mem_append, List.mem_append, or_assoc,
    mem_handled accounted fun operation member => evicted_subset member]
  cases before.callsBackAtOnce url inMemory with
  | false => simp
  | true => cases completionHandler <;> simp

theorem Accounted.starts (accounted : Accounted before)
    (starts : Starts url completionHandler inMemory before after) : Accounted after where
  maxOperation := starts.maxOperation.trans accounted.maxOperation
  ordered := by
    rw [starts.queue, List.map_append, List.pairwise_append]
    have kept : (before.kept.map RSImageDownloadOperation.call).Pairwise (· < ·) := by
      rw [← kept_eq_filter accounted]
      exact accounted.ordered.filter _
    refine ⟨kept, List.pairwise_singleton _ _, ?_⟩
    intro call inKept new isNew
    obtain ⟨operation, member, rfl⟩ := List.mem_map.mp inKept
    obtain rfl : new = before.calls.length := by simpa using isNew
    exact accounted.queue_lt (kept_subset member)
  queueCalls := by
    intro operation member
    rw [starts.queue, List.mem_append, List.mem_singleton] at member
    rw [starts.calls]
    rcases member with old | rfl
    · rw [List.getElem?_append_left (accounted.queue_lt (kept_subset old))]
      exact accounted.queueCalls operation (kept_subset old)
    · simp
  loadedCalls := by
    intro operation member
    rw [starts.loaded, List.mem_append, List.mem_singleton] at member
    rcases member with old | rfl
    · exact Nat.lt_trans (accounted.loadedCalls operation old) (later_of_starts starts)
    · exact later_of_starts starts
  calledBackCalls := by
    intro call member
    rw [starts.calledBack, List.mem_append] at member
    rcases member with old | new
    · exact Nat.lt_trans (accounted.calledBackCalls call old) (later_of_starts starts)
    · split_ifs at new
      · obtain rfl : call = before.calls.length := by simpa using new
        exact later_of_starts starts
      · cases new
  cancelledCalls := by
    intro call member
    rw [starts.cancelled, List.mem_append] at member
    rcases member with old | new
    · exact Nat.lt_trans (accounted.cancelledCalls call old) (later_of_starts starts)
    · obtain ⟨operation, evicted, rfl⟩ := List.mem_map.mp new
      exact Nat.lt_trans (accounted.queue_lt (evicted_subset evicted)) (later_of_starts starts)
  queued := by
    intro call flies
    rw [mem_inFlight_starts accounted starts] at flies
    rw [starts.queue, List.map_append, List.mem_append]
    rcases flies with ⟨old, unevicted⟩ | ⟨rfl, -⟩
    · left
      rw [← kept_eq_filter accounted, List.mem_filter, decide_eq_true_eq]
      exact ⟨accounted.queued call old, unevicted⟩
    · right
      simp
  pending := by
    intro call handler
    rw [starts.calls, calls_concat] at handler
    rw [mem_called_starts accounted starts, mem_inFlight_starts accounted starts]
    rcases handler with old | ⟨rfl, rfl⟩
    · have other : call ≠ before.calls.length := by
        obtain ⟨bound, -⟩ := List.getElem?_eq_some_iff.mp old
        exact Nat.ne_of_lt bound
      have pending := accounted.pending call old
      simp only [other, old]
      tauto
    · simp [accounted.next_uncalled, accounted.next_grounded]
  calledHandlers := by
    intro call member
    rw [mem_called_starts accounted starts] at member
    rw [starts.calls, calls_concat]
    rcases member with old | ⟨new, -, handler⟩ | ⟨-, handler⟩
    · exact Or.inl (accounted.calledHandlers call old)
    · exact Or.inr ⟨new, handler⟩
    · exact Or.inl handler

theorem Accounted.completes {operation : RSImageDownloadOperation}
    (accounted : Accounted before) (member : operation ∈ before.queue)
    (completes : Completes operation before after) : Accounted after where
  maxOperation := completes.maxOperation.trans accounted.maxOperation
  ordered := by
    rw [completes.queue]
    exact (accounted.ordered.sublist (List.filter_sublist.map _))
  queueCalls := by
    intro queued stays
    rw [completes.queue] at stays
    rw [completes.calls]
    exact accounted.queueCalls queued (List.mem_of_mem_filter stays)
  loadedCalls := by
    rw [completes.loaded, completes.calls]
    exact accounted.loadedCalls
  calledBackCalls := by
    intro call calledBack
    rw [completes.calledBack, List.mem_append, List.mem_singleton] at calledBack
    rw [completes.calls]
    rcases calledBack with old | rfl
    · exact accounted.calledBackCalls call old
    · exact accounted.queue_lt member
  cancelledCalls := by
    rw [completes.cancelled, completes.calls]
    exact accounted.cancelledCalls
  queued := by
    intro call flies
    rw [inFlight_completes completes, List.mem_filter, decide_eq_true_eq] at flies
    obtain ⟨queued, inQueue, rfl⟩ := List.mem_map.mp (accounted.queued call flies.1)
    rw [completes.queue]
    exact List.mem_map_of_mem (List.mem_filter.mpr ⟨inQueue, by simpa using flies.2⟩)
  pending := by
    intro call handler
    rw [completes.calls] at handler
    rw [completes.called, List.mem_append, mem_handled accounted (by simpa using member),
      inFlight_completes completes, List.mem_filter, decide_eq_true_eq]
    have pending := accounted.pending call handler
    simp only [List.map_cons, List.map_nil, List.mem_singleton]
    tauto
  calledHandlers := by
    intro call called
    rw [completes.called, List.mem_append, mem_handled accounted (by simpa using member)] at called
    rw [completes.calls]
    rcases called with old | ⟨-, handler⟩
    · exact accounted.calledHandlers call old
    · exact handler

theorem inFlight_answers (answers : Answers before after) : after.inFlight = before.inFlight :=
  congrArg (fun manager => manager.running.map SDWebImageOperation.call) answers.manager

theorem Accounted.answers (accounted : Accounted before) (answers : Answers before after) :
    Accounted after := by
  have queue : after.queue = before.queue :=
    congrArg RSImageDownloadService.downloadOperationQueue answers.service
  have later : before.calls.length < after.calls.length := by simp [answers.calls]
  constructor
  · rw [answers.service, accounted.maxOperation]
  · rw [queue]
    exact accounted.ordered
  · intro operation member
    rw [answers.calls]
    exact calls_concat.mpr (.inl (accounted.queueCalls operation (queue ▸ member)))
  · rw [answers.manager]
    exact fun operation member => Nat.lt_trans (accounted.loadedCalls operation member) later
  · rw [answers.manager]
    exact fun call member => Nat.lt_trans (accounted.calledBackCalls call member) later
  · rw [answers.manager]
    exact fun call member => Nat.lt_trans (accounted.cancelledCalls call member) later
  · rw [queue, inFlight_answers answers]
    exact accounted.queued
  · intro call handler
    rw [answers.calls, calls_concat] at handler
    rw [answers.called, inFlight_answers answers, List.mem_append, List.mem_singleton]
    rcases handler with old | ⟨rfl, -⟩
    · obtain ⟨bound, -⟩ := List.getElem?_eq_some_iff.mp old
      have other := Nat.ne_of_lt bound
      have pending := accounted.pending call old
      tauto
    · simp [accounted.next_grounded]
  · intro call member
    rw [answers.called, List.mem_append, List.mem_singleton] at member
    rw [answers.calls, calls_concat]
    rcases member with old | new
    · exact Or.inl (accounted.calledHandlers call old)
    · exact Or.inr ⟨new, rfl⟩

/-- The effect of each event on an accounted state. -/
inductive Effect (state : ImageDownloads) : ImageDownloadEvent → ImageDownloads → Prop where
  | answered {url : Option NSURL} {completionHandler cached inMemory : Bool} {after : ImageDownloads}
      (cache : (cached && completionHandler) = true) (answers : Answers state after) :
      Effect state (.download url completionHandler cached inMemory) after
  | started {url : Option NSURL} {completionHandler cached inMemory : Bool} {after : ImageDownloads}
      (load : (cached && completionHandler) = false)
      (starts : Starts url completionHandler (cached && inMemory) state after) :
      Effect state (.download url completionHandler cached inMemory) after
  | completed {operation : RSImageDownloadOperation} {download : SDDownload} {blacklists : Bool}
      {after : ImageDownloads} (member : operation ∈ state.queue) (flies : operation.call ∈ state.inFlight)
      (completes : Completes operation state after) :
      Effect state (.completed operation.call download blacklists) after
  | gone {call : Nat} {download : SDDownload} {blacklists : Bool} :
      Effect state (.completed call download blacklists) state

theorem Accounted.effect {state : ImageDownloads} (accounted : Accounted state)
    (event : ImageDownloadEvent) : Effect state event (step state event) := by
  cases event with
  | download url completionHandler cached inMemory =>
      cases answer : cached && completionHandler with
      | false =>
          exact .started answer (starts_download (fun _ => accounted.queue_lt) answer url inMemory)
      | true => exact .answered answer (answers_download answer url inMemory)
  | completed call download blacklists =>
      by_cases flies : call ∈ state.inFlight
      · obtain ⟨operation, member, rfl, completes⟩ :=
          completes_step flies (accounted.queued call flies) download blacklists
        exact .completed member flies completes
      · rw [step_completed_gone flies]
        exact .gone

theorem accounted_step (state : ImageDownloads) (event : ImageDownloadEvent)
    (accounted : Accounted state) : Accounted (step state event) := by
  have effect := accounted.effect event
  generalize step state event = after at effect ⊢
  cases effect with
  | answered _ answers => exact accounted.answers answers
  | started _ starts => exact accounted.starts starts
  | completed member _ completes => exact accounted.completes member completes
  | gone => exact accounted

/-! ## Handlers -/

def HandledOnce (state : ImageDownloads) : Prop :=
  ∀ call, state.calls[call]? = some true →
    state.called.count call ≤ 1 ∧ (state.inFlight = [] → state.called.count call = 1)

/-- The load of a new operation finds the queue full, and the first operation there has a handler
and has already called back. -/
def EvictsFinished (state : ImageDownloads) : ImageDownloadEvent → Prop
  | .download _ completionHandler cached _ => (cached && completionHandler) = false ∧
      ∃ operation ∈ state.evicted, operation.completionHandler ∧ operation.call ∉ state.inFlight
  | .completed .. => False

theorem Accounted.handledOnce_iff {state : ImageDownloads} (accounted : Accounted state) :
    HandledOnce state ↔ state.called.Nodup := by
  rw [List.nodup_iff_count_le_one]
  constructor
  · intro once call
    by_cases called : call ∈ state.called
    · exact (once call (accounted.calledHandlers call called)).1
    · rw [List.count_eq_zero_of_not_mem called]
      exact Nat.zero_le 1
  · intro most call handler
    refine ⟨most call, ?_⟩
    intro landed
    have called : call ∈ state.called := by
      by_contra uncalled
      have flies := (accounted.pending call handler).mp uncalled
      rw [landed] at flies
      cases flies
    have least := List.count_pos_iff.mpr called
    have bound := most call
    omega

theorem nodup_snoc {names : List Nat} {name : Nat} (once : names.Nodup) (fresh : name ∉ names) :
    (names ++ [name]).Nodup := by
  rw [← List.concat_eq_append]
  exact once.concat fresh

theorem nodup_starts (accounted : Accounted before)
    (starts : Starts url completionHandler inMemory before after) (once : before.called.Nodup) :
    after.called.Nodup ↔
      ∀ operation ∈ before.evicted, operation.completionHandler → operation.call ∈ before.inFlight := by
  have subset : before.evicted ⊆ before.queue := fun operation member => evicted_subset member
  have own : (before.called ++
      if before.callsBackAtOnce url inMemory && completionHandler then [before.calls.length] else []).Nodup := by
    split_ifs
    · exact nodup_snoc once accounted.next_uncalled
    · rwa [List.append_nil]
  have news : (handled before.evicted).Nodup := by
    have queue : (before.queue.map RSImageDownloadOperation.call).Nodup := accounted.ordered.imp Nat.ne_of_lt
    rw [← evicted_append_kept, List.map_append] at queue
    exact queue.of_append_left.sublist (List.filter_sublist.map _)
  rw [starts.called, List.nodup_append]
  constructor
  · rintro ⟨-, -, apart⟩ operation member handler
    have passed : before.calls[operation.call]? = some true :=
      handler ▸ accounted.queueCalls operation (subset member)
    have again : operation.call ∈ handled before.evicted :=
      (mem_handled accounted subset _).mpr ⟨List.mem_map_of_mem member, passed⟩
    rw [← accounted.pending operation.call passed]
    exact fun called => apart _ (List.mem_append_left _ called) _ again rfl
  · intro flying
    refine ⟨own, news, ?_⟩
    intro call called call' again same
    subst same
    obtain ⟨operation, handler, rfl⟩ := List.mem_map.mp again
    obtain ⟨member, handler⟩ := List.mem_filter.mp handler
    have flies := flying operation member handler
    have passed : before.calls[operation.call]? = some true :=
      handler ▸ accounted.queueCalls operation (subset member)
    rcases List.mem_append.mp called with old | new
    · exact (accounted.pending operation.call passed).mpr flies old
    · split_ifs at new
      · have bound := accounted.inFlight_lt flies
        rw [List.mem_singleton] at new
        omega
      · cases new

theorem handledOnce_step (state : ImageDownloads) (event : ImageDownloadEvent)
    (accounted : Accounted state) (once : HandledOnce state) :
    HandledOnce (step state event) ↔ ¬ EvictsFinished state event := by
  rw [(accounted_step state event accounted).handledOnce_iff]
  rw [accounted.handledOnce_iff] at once
  have effect := accounted.effect event
  generalize step state event = after at effect ⊢
  cases effect with
  | answered cache answers =>
      rw [answers.called]
      simp [EvictsFinished, cache, nodup_snoc once accounted.next_uncalled]
  | started load starts =>
      rw [nodup_starts accounted starts once]
      simp [EvictsFinished, load]
  | @completed operation _ _ _ member flies completes =>
      have next : after.called.Nodup := by
        rw [completes.called]
        rcases handler : operation.completionHandler with _ | _
        · simpa [handled, handler] using once
        · have passed := accounted.queueCalls operation member
          rw [handler] at passed
          have uncalled := (accounted.pending operation.call passed).mpr flies
          simpa [handled, handler] using nodup_snoc once uncalled
      simp [EvictsFinished, next]
  | gone => simp [EvictsFinished, once]

theorem handledOnce_init : HandledOnce {} := by simp [HandledOnce]

theorem handlers_once_iff (events : List ImageDownloadEvent) :
    EveryState step HandledOnce {} events ↔
      EveryStep step (fun state event => ¬ EvictsFinished state event) {} events :=
  everyState_iff_everyStep accounted_step handledOnce_step accounted_init handledOnce_init events

-- a url that cannot be parsed, and then as many downloads as the queue holds
def downloadsAfterNil : List ImageDownloadEvent :=
  .download none true false false :: List.replicate 20 (.download (some "http://p/sea") true false false)

set_option maxRecDepth 8000 in
theorem handler_invoked_again :
    (run step {} downloadsAfterNil).called.count 0 = 2 ∧
    ¬ EveryState step HandledOnce {} downloadsAfterNil := by
  have twice : (run step {} downloadsAfterNil).called.count 0 = 2 := by decide
  have handler : (run step {} downloadsAfterNil).calls[0]? = some true := by decide
  refine ⟨twice, ?_⟩
  intro every
  have once := (every.last 0 handler).1
  omega

/-! ## The queue -/

structure QueueAccurate (state : ImageDownloads) : Prop where
  queue : state.queue.map RSImageDownloadOperation.call = state.inFlight
  ordered : state.inFlight.Pairwise (· < ·)
  bounded : state.inFlight.length ≤ state.service.maxOperation

def CancelsOldest (state : ImageDownloads) (event : ImageDownloadEvent) : Prop :=
  ∀ call ∈ (step state event).manager.cancelled, call ∉ state.manager.cancelled →
    state.inFlight.head? = some call

/-- The call starts an operation that calls back before its load returns. -/
def StartsFinished (state : ImageDownloads) : ImageDownloadEvent → Prop
  | .download url completionHandler cached inMemory =>
      (cached && completionHandler) = false ∧ state.callsBackAtOnce url (cached && inMemory)
  | .completed .. => False

theorem cancelsOldest_of_accurate {state : ImageDownloads} {event : ImageDownloadEvent}
    (accounted : Accounted state) (accurate : QueueAccurate state) : CancelsOldest state event := by
  intro call cancelled uncancelled
  have effect := accounted.effect event
  generalize step state event = after at effect cancelled
  cases effect with
  | answered _ answers =>
      rw [answers.manager] at cancelled
      exact absurd cancelled uncancelled
  | started _ starts =>
      rw [starts.cancelled, List.mem_append] at cancelled
      obtain ⟨operation, evicted, rfl⟩ := List.mem_map.mp (cancelled.resolve_left uncancelled)
      rw [← accurate.queue]
      unfold ImageDownloads.evicted at evicted
      split_ifs at evicted
      · cases queued : state.queue with
        | nil => simp [queued] at evicted
        | cons first rest =>
            obtain rfl : operation = first := by simpa [queued] using evicted
            rfl
      · cases evicted
  | completed _ _ completes =>
      rw [completes.cancelled] at cancelled
      exact absurd cancelled uncancelled
  | gone => exact absurd cancelled uncancelled

theorem length_kept_lt {state : ImageDownloads} (accounted : Accounted state)
    (bounded : state.queue.length ≤ state.service.maxOperation) :
    state.kept.length < state.service.maxOperation := by
  have positive := accounted.maxOperation
  unfold kept full
  split_ifs with noRoom
  · rw [List.length_drop]
    omega
  · simpa using noRoom

theorem inFlight_starts_of_accurate (accounted : Accounted before) (accurate : QueueAccurate before)
    (starts : Starts url completionHandler inMemory before after) :
    after.inFlight = before.kept.map RSImageDownloadOperation.call ++
      if before.callsBackAtOnce url inMemory then [] else [before.calls.length] := by
  rw [inFlight_starts accounted starts, ← accurate.queue, kept_eq_filter accounted]

theorem queueAccurate_starts (accounted : Accounted before) (accurate : QueueAccurate before)
    (starts : Starts url completionHandler inMemory before after) :
    QueueAccurate after ↔ before.callsBackAtOnce url inMemory = false := by
  have inFlight := inFlight_starts_of_accurate accounted accurate starts
  have queue : after.queue.map RSImageDownloadOperation.call =
      before.kept.map RSImageDownloadOperation.call ++ [before.calls.length] := by
    rw [starts.queue, List.map_append, List.map_singleton]
  constructor
  · intro accurateAfter
    have same := accurateAfter.queue
    rw [queue, inFlight] at same
    cases atOnce : before.callsBackAtOnce url inMemory with
    | false => rfl
    | true => simp [atOnce] at same
  · intro later
    have same : after.queue.map RSImageDownloadOperation.call = after.inFlight := by
      rw [queue, inFlight, later]
      rfl
    have length : before.queue.length = before.inFlight.length := by
      rw [← accurate.queue, List.length_map]
    have room := length_kept_lt accounted (length ▸ accurate.bounded)
    refine ⟨same, same ▸ (accounted.starts starts).ordered, ?_⟩
    rw [← same, queue, starts.maxOperation, List.length_append, List.length_map, List.length_singleton]
    exact room

theorem queueAccurate_completes {operation : RSImageDownloadOperation}
    (accurate : QueueAccurate before) (completes : Completes operation before after) :
    QueueAccurate after := by
  have inFlight := inFlight_completes completes
  constructor
  · rw [inFlight, completes.queue, ← accurate.queue, List.filter_map]
    rfl
  · rw [inFlight]
    exact accurate.ordered.filter _
  · rw [inFlight, completes.maxOperation]
    exact Nat.le_trans (List.length_filter_le _ _) accurate.bounded

theorem queueAccurate_answers (accurate : QueueAccurate before) (answers : Answers before after) :
    QueueAccurate after := by
  have inFlight := inFlight_answers answers
  constructor
  · rw [inFlight, ← accurate.queue, queue, answers.service]
    rfl
  · rw [inFlight]
    exact accurate.ordered
  · rw [inFlight, answers.service]
    exact accurate.bounded

theorem queueAccurate_step (state : ImageDownloads) (event : ImageDownloadEvent)
    (accounted : Accounted state) (accurate : QueueAccurate state) :
    QueueAccurate (step state event) ↔ ¬ StartsFinished state event := by
  have effect := accounted.effect event
  generalize step state event = after at effect ⊢
  cases effect with
  | answered cache answers =>
      simp [StartsFinished, cache, queueAccurate_answers accurate answers]
  | started load starts =>
      rw [queueAccurate_starts accounted accurate starts]
      simp [StartsFinished, load]
  | completed _ _ completes => simp [StartsFinished, queueAccurate_completes accurate completes]
  | gone => simp [StartsFinished, accurate]

theorem queueAccurate_init : QueueAccurate {} := by
  constructor <;> simp [queue, inFlight, SDWebImageManager.running]

theorem queue_accurate_iff (events : List ImageDownloadEvent) :
    EveryState step QueueAccurate {} events ∧ EveryStep step CancelsOldest {} events ↔
      EveryStep step (fun state event => ¬ StartsFinished state event) {} events := by
  have states := everyState_iff_everyStep accounted_step queueAccurate_step accounted_init
    queueAccurate_init events
  rw [states, and_iff_left_iff_imp]
  intro steps
  have both : EveryState step (fun state => Accounted state ∧ QueueAccurate state) {} events :=
    everyState_of_steps
      (fun state event good allowed => ⟨accounted_step state event good.1,
        (queueAccurate_step state event good.1 good.2).mpr allowed⟩)
      ⟨accounted_init, queueAccurate_init⟩ steps
  exact everyStep_of_everyState (fun _ _ good _ => cancelsOldest_of_accurate good.1 good.2) both steps

theorem finished_operation_stays_queued :
    (run step {} [.download none true false false]).queue.map RSImageDownloadOperation.call = [0] ∧
    (run step {} [.download none true false false]).inFlight = [] ∧
    ¬ (EveryState step QueueAccurate {} [.download none true false false] ∧
      EveryStep step CancelsOldest {} [.download none true false false]) := by
  have queue : (run step {} [.download none true false false]).queue.map RSImageDownloadOperation.call = [0] := by
    decide
  have inFlight : (run step {} [.download none true false false]).inFlight = [] := by decide
  refine ⟨queue, inFlight, ?_⟩
  rintro ⟨states, -⟩
  have accurate := states.last.queue
  rw [queue, inFlight] at accurate
  cases accurate

end Proof

end RealSocial
