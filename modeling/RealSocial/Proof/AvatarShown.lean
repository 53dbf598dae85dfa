import RealSocial.Features.AvatarImage
import RealSocial.Proof.ImageDownload

namespace RealSocial

namespace SDWebImageManager

/-! # The loads that may still call back -/

variable {manager : SDWebImageManager}

def Flies (manager : SDWebImageManager) (call : Nat) : Prop :=
  call ∈ manager.loaded.map SDWebImageOperation.call ∧ call ∉ manager.calledBack ∧ call ∉ manager.cancelled

def known (manager : SDWebImageManager) : List Nat :=
  manager.loaded.map SDWebImageOperation.call ++ manager.calledBack ++ manager.cancelled

theorem known_of_flies {call : Nat} (flies : manager.Flies call) : call ∈ manager.known := by
  simp only [known, List.mem_append]
  exact .inl (.inl flies.1)

theorem find_landed {call : Nat} (landed : ¬ manager.Flies call) :
    manager.running.find? (fun operation => operation.call = call) = none := by
  rw [List.find?_eq_none]
  intro operation member here
  obtain ⟨loaded, alive⟩ := List.mem_filter.mp member
  have own : operation.call = call := by simpa using here
  have alive : operation.call ∉ manager.calledBack ∧ operation.call ∉ manager.cancelled := by simpa using alive
  rw [own] at alive
  exact landed ⟨List.mem_map.mpr ⟨operation, loaded, own⟩, alive.1, alive.2⟩

theorem find_flies {call : Nat} (flies : manager.Flies call) : ∃ operation ∈ manager.loaded, operation.call = call ∧
    manager.running.find? (fun operation => operation.call = call) = some operation := by
  obtain ⟨operation, loaded, own⟩ := List.mem_map.mp flies.1
  have member : operation ∈ manager.running := by
    apply List.mem_filter.mpr
    simp [loaded, own, flies.2.1, flies.2.2]
  have found := List.find?_isSome (p := fun operation => decide (operation.call = call)).mpr
    ⟨operation, member, by simpa using own⟩
  obtain ⟨first, same⟩ := Option.isSome_iff_exists.mp found
  exact ⟨first, (List.mem_filter.mp (List.mem_of_find?_eq_some same)).1, by simpa using List.find?_some same, same⟩

theorem flies_cancel (cancelled call : Nat) :
    (manager.cancel cancelled).Flies call ↔ manager.Flies call ∧ call ≠ cancelled := by
  simp only [Flies, cancel, List.mem_append, List.mem_singleton, not_or]
  tauto

theorem flies_callBack (operation : SDWebImageOperation) (download : SDDownload) (blacklists : Bool) (call : Nat) :
    (manager.callBack operation download blacklists).Flies call ↔ manager.Flies call ∧ call ≠ operation.call := by
  obtain ⟨loaded, calledBack, cancelled⟩ := ImageDownloads.callBack_fields operation download blacklists manager
  simp only [Flies, loaded, calledBack, cancelled, List.mem_append, List.mem_singleton, not_or]
  tauto

/-- What the block of a load is given before the load returns. -/
def atOnce (manager : SDWebImageManager) (url : Option NSURL) (inMemory : Bool) : Option SDDownload :=
  if manager.isFailedUrl url then some (.error "NSURLErrorFileDoesNotExist")
  else if inMemory then some .image else none

theorem atOnce_congr {other : SDWebImageManager} (same : other.failedURLs = manager.failedURLs) (url : Option NSURL)
    (inMemory : Bool) : other.atOnce url inMemory = manager.atOnce url inMemory := by
  have failed : other.isFailedUrl url = manager.isFailedUrl url := by
    cases url with
    | none => rfl
    | some url => rw [isFailedUrl, isFailedUrl, same]
  rw [atOnce, atOnce, failed]

theorem loadImageWithURL_eq (call : Nat) (url : Option NSURL) (inMemory : Bool) :
    manager.loadImageWithURL call url inMemory = (manager.atOnce url inMemory,
      { manager with
        loaded := manager.loaded ++ [⟨call, url⟩]
        calledBack := manager.calledBack ++ if (manager.atOnce url inMemory).isSome then [call] else [] }) := by
  have same : isFailedUrl url { manager with loaded := manager.loaded ++ [⟨call, url⟩] } =
      manager.isFailedUrl url := rfl
  simp only [loadImageWithURL, same]
  cases failed : manager.isFailedUrl url with
  | true => simp [atOnce, failed]
  | false => cases inMemory <;> simp [atOnce, failed]

def loading (manager : SDWebImageManager) (call : Nat) (url : Option NSURL) (inMemory : Bool) :
    SDWebImageManager :=
  match url with
  | none => manager
  | some url => (manager.loadImageWithURL call (some url) inMemory).2

theorem failedURLs_loading (call : Nat) (url : Option NSURL) (inMemory : Bool) :
    (manager.loading call url inMemory).failedURLs = manager.failedURLs := by
  cases url with
  | none => rfl
  | some url => rw [loading, loadImageWithURL_eq]

theorem loaded_loading {call : Nat} {url : Option NSURL} {inMemory : Bool} {operation : SDWebImageOperation}
    (member : operation ∈ (manager.loading call url inMemory).loaded) :
    operation ∈ manager.loaded ∨ operation = ⟨call, url⟩ := by
  cases url with
  | none => exact .inl member
  | some url =>
      rw [loading, loadImageWithURL_eq] at member
      simpa using member

theorem known_loading {call known : Nat} {url : Option NSURL} {inMemory : Bool}
    (member : known ∈ (manager.loading call url inMemory).known) : known ∈ manager.known ∨ known = call := by
  cases url with
  | none => exact .inl member
  | some url =>
      rw [loading, loadImageWithURL_eq] at member
      have back : known ∈ (if (manager.atOnce (some url) inMemory).isSome then [call] else []) → known = call := by
        split_ifs <;> simp
      simp only [SDWebImageManager.known, List.map_append, List.mem_append, List.map_cons, List.map_nil,
        List.mem_singleton] at member ⊢
      tauto

theorem flies_loading {call : Nat} (fresh : call ∉ manager.known) (url : Option NSURL) (inMemory : Bool)
    (loaded : Nat) : (manager.loading call url inMemory).Flies loaded ↔
      manager.Flies loaded ∨ loaded = call ∧ manager.atOnce url inMemory = none := by
  simp only [known, List.mem_append, not_or] at fresh
  obtain ⟨⟨unloaded, silent⟩, uncancelled⟩ := fresh
  cases url with
  | none => simp [loading, atOnce, isFailedUrl]
  | some url =>
      rw [loading, loadImageWithURL_eq]
      simp only [Flies, List.map_append, List.mem_append, List.map_cons, List.map_nil, List.mem_singleton, not_or]
      cases answer : manager.atOnce (some url) inMemory with
      | none =>
          constructor
          · rintro ⟨known | rfl, ⟨quiet, -⟩, alive⟩
            · exact .inl ⟨known, quiet, alive⟩
            · exact .inr ⟨rfl, rfl⟩
          · rintro (⟨known, quiet, alive⟩ | ⟨rfl, -⟩)
            · exact ⟨.inl known, ⟨quiet, by simp⟩, alive⟩
            · exact ⟨.inr rfl, ⟨silent, by simp⟩, uncancelled⟩
      | some download =>
          have other : ∀ known ∈ manager.loaded.map SDWebImageOperation.call, known ≠ call := by
            rintro known member rfl
            exact unloaded member
          constructor
          · rintro ⟨known | rfl, ⟨quiet, new⟩, alive⟩
            · exact .inl ⟨known, quiet, alive⟩
            · simp at new
          · rintro (⟨known, quiet, alive⟩ | ⟨-, never⟩)
            · exact ⟨.inl known, ⟨quiet, by simpa using other loaded known⟩, alive⟩
            · cases never

end SDWebImageManager

namespace RSAvatarImageView

/-! # What setting an image does -/

variable (avatar : RSAvatarImageView)

def cancelling (part : AvatarPart) : SDWebImageManager := (avatar.cancelImageLoadOperation part).manager

variable {avatar} {part : AvatarPart}

theorem cancelImageLoadOperation_eq : avatar.cancelImageLoadOperation part =
    { avatar with manager := avatar.cancelling part }.setImageLoadOperation part none := by
  unfold cancelling cancelImageLoadOperation
  cases operation : (avatar.views part).imageLoadOperation with
  | some call => rfl
  | none =>
      have same : { avatar.views part with imageLoadOperation := none } = avatar.views part := by rw [← operation]
      simp only [setImageLoadOperation, same, Function.update_eq_self]

theorem failedURLs_cancelling : (avatar.cancelling part).failedURLs = avatar.manager.failedURLs := by
  unfold cancelling cancelImageLoadOperation
  cases (avatar.views part).imageLoadOperation <;> rfl

theorem loaded_cancelling : (avatar.cancelling part).loaded = avatar.manager.loaded := by
  unfold cancelling cancelImageLoadOperation
  cases (avatar.views part).imageLoadOperation <;> rfl

theorem flies_cancelling (call : Nat) : (avatar.cancelling part).Flies call ↔
    avatar.manager.Flies call ∧ (avatar.views part).imageLoadOperation ≠ some call := by
  unfold cancelling cancelImageLoadOperation
  cases (avatar.views part).imageLoadOperation with
  | none => simp
  | some cancelled =>
      rw [ne_eq, Option.some.injEq, eq_comm]
      exact SDWebImageManager.flies_cancel cancelled call

theorem known_cancelling {known : Nat} (member : known ∈ (avatar.cancelling part).known) :
    known ∈ avatar.manager.known ∨ (avatar.views part).imageLoadOperation = some known := by
  unfold cancelling cancelImageLoadOperation at member
  cases operation : (avatar.views part).imageLoadOperation with
  | none =>
      rw [operation] at member
      exact .inl member
  | some cancelled =>
      rw [operation] at member
      have member : known ∈ (avatar.manager.cancel cancelled).known := member
      simp only [SDWebImageManager.known, SDWebImageManager.cancel, List.mem_append, List.mem_singleton,
        Option.some.injEq] at member ⊢
      tauto

structure Sets (part : AvatarPart) (url : Option NSURL) (inMemory : Bool) (before after : RSAvatarImageView) :
    Prop where
  calls : after.calls = before.calls ++ [part]
  imageViewHidden : after.imageViewHidden = before.imageViewHidden
  oneAvatarIsSubview : after.oneAvatarIsSubview = before.oneAvatarIsSubview
  twoAvatarIsSubview : after.twoAvatarIsSubview = before.twoAvatarIsSubview
  manager : after.manager = (before.cancelling part).loading before.calls.length url inMemory
  others : ∀ other, other ≠ part → after.views other = before.views other
  image : (after.views part).image =
    if before.manager.atOnce url inMemory = some .image then .loaded ⟨before.calls.length, url⟩ else .defaultAvatar
  imageLoadOperation : (after.views part).imageLoadOperation = url.map fun _ => before.calls.length

theorem sets_setImageWithURL (avatar : RSAvatarImageView) (part : AvatarPart) (url : Option NSURL) (inMemory : Bool) :
    Sets part url inMemory avatar (avatar.setImageWithURL part url inMemory) := by
  have answer := SDWebImageManager.atOnce_congr (@failedURLs_cancelling avatar part) url inMemory
  unfold setImageWithURL
  rw [cancelImageLoadOperation_eq]
  cases url with
  | none =>
      constructor
      · rfl
      · rfl
      · rfl
      · rfl
      · rfl
      · intro other apart
        simp [setImage, setImageLoadOperation, apart]
      · simp [setImage, SDWebImageManager.atOnce, SDWebImageManager.isFailedUrl]
      · simp [setImage, setImageLoadOperation]
  | some url =>
      unfold loadImage
      dsimp only [setImage, setImageLoadOperation]
      rw [SDWebImageManager.loadImageWithURL_eq, answer]
      dsimp only
      constructor
      · split_ifs <;> rfl
      · split_ifs <;> rfl
      · split_ifs <;> rfl
      · split_ifs <;> rfl
      · rw [SDWebImageManager.loading, SDWebImageManager.loadImageWithURL_eq, answer]
        split_ifs <;> rfl
      · intro other apart
        split_ifs <;> simp [apart]
      · split_ifs <;> simp
      · simp

structure Completes (operation : SDWebImageOperation) (download : SDDownload)
    (before after : RSAvatarImageView) : Prop where
  calls : after.calls = before.calls
  shownParts : after.shownParts = before.shownParts
  loaded : after.manager.loaded = before.manager.loaded
  known : ∀ known ∈ after.manager.known, known ∈ before.manager.known
  flies : ∀ other, after.manager.Flies other ↔ before.manager.Flies other ∧ other ≠ operation.call
  imageLoadOperation : ∀ part, (after.views part).imageLoadOperation = (before.views part).imageLoadOperation
  image : ∀ part, (after.views part).image =
    if download = .image ∧ before.calls[operation.call]? = some part then .loaded operation
    else (before.views part).image

theorem completed_landed {call : Nat} (landed : ¬ avatar.manager.Flies call) (download : SDDownload)
    (blacklists : Bool) : avatar.completed call download blacklists = avatar := by
  rw [completed, SDWebImageManager.find_landed landed]

theorem completes_completed {call : Nat} (flies : avatar.manager.Flies call) (download : SDDownload)
    (blacklists : Bool) : ∃ operation ∈ avatar.manager.loaded, operation.call = call ∧
      Completes operation download avatar (avatar.completed call download blacklists) := by
  obtain ⟨operation, member, rfl, found⟩ := SDWebImageManager.find_flies flies
  refine ⟨operation, member, rfl, ?_⟩
  have landed := @SDWebImageManager.flies_callBack avatar.manager operation download blacklists
  obtain ⟨loaded, calledBack, cancelled⟩ :=
    ImageDownloads.callBack_fields operation download blacklists avatar.manager
  have known : ∀ known ∈ (avatar.manager.callBack operation download blacklists).known,
      known ∈ avatar.manager.known := by
    intro known member
    have here := SDWebImageManager.known_of_flies flies
    simp only [SDWebImageManager.known, loaded, calledBack, cancelled, List.mem_append,
      List.mem_singleton] at member here ⊢
    rcases member with (member | member | rfl) | member
    · exact .inl (.inl member)
    · exact .inl (.inr member)
    · exact here
    · exact .inr member
  rw [completed, found]
  cases download with
  | error description =>
      refine ⟨rfl, rfl, loaded, known, landed, fun _ => rfl, ?_⟩
      intro part
      simp
  | image =>
      cases called : avatar.calls[operation.call]? with
      | none =>
          simp only [called]
          refine ⟨rfl, rfl, loaded, known, landed, fun _ => rfl, ?_⟩
          intro part
          simp [called]
      | some part =>
          simp only [called]
          refine ⟨rfl, rfl, loaded, known, landed, ?_, ?_⟩
          · intro other
            by_cases same : other = part <;> simp [setImage, same]
          · intro other
            by_cases same : other = part
            · simp [setImage, same, called]
            · simp [setImage, same, called, Ne.symm same]

end RSAvatarImageView

namespace Proof

open Library RSAvatarImageView

/-! # What can be seen of an avatar -/

variable {URLWithString : String → Option NSURL} {avatar before after : RSAvatarImageView}
  {part other : AvatarPart} {url : Option NSURL} {inMemory : Bool} {call : Nat} {download : SDDownload}
  {operation late : SDWebImageOperation} {waits : Bool} {image : AvatarImage}

/-- Only the newest call of a view may still call back, and that view can cancel it. -/
structure Cancellable (avatar : RSAvatarImageView) : Prop where
  known : ∀ call ∈ avatar.manager.known, call < avatar.calls.length
  operations : ∀ part call, (avatar.views part).imageLoadOperation = some call → avatar.calls[call]? = some part
  flies : ∀ part call, avatar.manager.Flies call → avatar.calls[call]? = some part →
    (avatar.views part).imageLoadOperation = some call

theorem cancellable_init : Cancellable {} := by
  constructor
  · simp [SDWebImageManager.known]
  · simp
  · simp

theorem Cancellable.operation_lt (cancellable : Cancellable avatar)
    (operation : (avatar.views part).imageLoadOperation = some call) : call < avatar.calls.length :=
  (List.getElem?_eq_some_iff.mp (cancellable.operations part call operation)).1

theorem Cancellable.fresh (cancellable : Cancellable before) :
    before.calls.length ∉ (before.cancelling part).known := by
  intro member
  rcases known_cancelling member with known | operation
  · exact Nat.lt_irrefl _ (cancellable.known _ known)
  · exact Nat.lt_irrefl _ (cancellable.operation_lt operation)

theorem flies_sets (cancellable : Cancellable before) (sets : Sets part url inMemory before after) (call : Nat) :
    after.manager.Flies call ↔
      (before.manager.Flies call ∧ (before.views part).imageLoadOperation ≠ some call) ∨
        call = before.calls.length ∧ before.manager.atOnce url inMemory = none := by
  rw [sets.manager, SDWebImageManager.flies_loading cancellable.fresh, flies_cancelling,
    SDWebImageManager.atOnce_congr failedURLs_cancelling]

theorem Cancellable.sets (cancellable : Cancellable before) (sets : Sets part url inMemory before after) :
    Cancellable after := by
  have older : ∀ call part', call ≠ before.calls.length →
      (after.calls[call]? = some part' ↔ before.calls[call]? = some part') := by
    intro call part' other
    rw [sets.calls, List.getElem?_append]
    split_ifs with bound
    · rfl
    · rw [List.getElem?_eq_none (by simp; omega), List.getElem?_eq_none (by omega)]
  have newest : after.calls[before.calls.length]? = some part := by simp [sets.calls]
  constructor
  · intro call member
    rw [sets.manager] at member
    rw [sets.calls, List.length_append, List.length_singleton, Nat.lt_succ_iff]
    rcases SDWebImageManager.known_loading member with member | rfl
    · rcases known_cancelling member with known | operation
      · exact Nat.le_of_lt (cancellable.known call known)
      · exact Nat.le_of_lt (cancellable.operation_lt operation)
    · exact Nat.le_refl _
  · intro part' call operation
    by_cases own : part' = part
    · rw [own, sets.imageLoadOperation] at operation
      obtain ⟨-, -, rfl⟩ := Option.map_eq_some_iff.mp operation
      rw [own, newest]
    · rw [sets.others part' own] at operation
      have earlier := cancellable.operation_lt operation
      rw [older call part' (Nat.ne_of_lt earlier)]
      exact cancellable.operations part' call operation
  · intro part' call flies called
    rcases (flies_sets cancellable sets call).mp flies with ⟨flew, uncancelled⟩ | ⟨rfl, waits⟩
    · have earlier := cancellable.known call (SDWebImageManager.known_of_flies flew)
      rw [older call part' (Nat.ne_of_lt earlier)] at called
      have operation := cancellable.flies part' call flew called
      have apart : part' ≠ part := by
        rintro rfl
        exact uncancelled operation
      rw [sets.others part' apart, operation]
    · rw [newest, Option.some.injEq] at called
      rw [← called, sets.imageLoadOperation]
      cases url with
      | none => simp [SDWebImageManager.atOnce, SDWebImageManager.isFailedUrl] at waits
      | some url => rfl

theorem Cancellable.completes (cancellable : Cancellable before)
    (completes : Completes operation download before after) :
    Cancellable after := by
  constructor
  · intro call' member
    rw [completes.calls]
    exact cancellable.known call' (completes.known call' member)
  · intro part call' operation
    rw [completes.imageLoadOperation] at operation
    rw [completes.calls]
    exact cancellable.operations part call' operation
  · intro part call' flies called
    rw [completes.calls] at called
    rw [completes.imageLoadOperation]
    exact cancellable.flies part call' ((completes.flies call').mp flies).1 called

/-- The views whose images an event sets, what each is given, and whether its image is in memory. -/
def wanted (URLWithString : String → Option NSURL) : AvatarEvent → List (AvatarPart × Option NSURL × Bool)
  | .setUrl url inMemory => [(.imageView, URLWithString url, inMemory .imageView)]
  | .setUrls (oneUrl :: second :: urls) inMemory =>
      let twoUrl := (second :: urls).getLast (List.cons_ne_nil second urls)
      [(.oneAvatar, URLWithString oneUrl, inMemory .oneAvatar),
        (.twoAvatar, URLWithString twoUrl, inMemory .twoAvatar)]
  | .setUrls [oneUrl] inMemory => [(.imageView, URLWithString oneUrl, inMemory .imageView)]
  | _ => []

/-- What the manager first calls back a load with. -/
def answerOf (call : Nat) (events : List AvatarEvent) : Option SDDownload :=
  events.findSome? fun
    | .completed answered download _ => if answered = call then some download else none
    | _ => none

/-- The image of a view that was given that url, when the manager was as told and such events have come since. -/
def avatarImageOf (manager : SDWebImageManager) (url : Option NSURL) (inMemory : Bool) (call : Nat)
    (events : List AvatarEvent) : AvatarImage :=
  if (manager.atOnce url inMemory).or (answerOf call events) = some .image then .loaded ⟨call, url⟩
  else .defaultAvatar

/-- The newest load of a view, whether it still waits, and the image so far. -/
structure Showing (part : AvatarPart) (operation : SDWebImageOperation) (waits : Bool) (image : AvatarImage)
    (avatar : RSAvatarImageView) : Prop where
  called : avatar.calls[operation.call]? = some part
  image : (avatar.views part).image = image
  waits : avatar.manager.Flies operation.call ↔ waits = true
  alone : ∀ other, avatar.calls[other]? = some part → avatar.manager.Flies other → other = operation.call
  own : ∀ loaded ∈ avatar.manager.loaded, loaded.call = operation.call → loaded = operation

theorem Cancellable.loaded_lt (cancellable : Cancellable avatar) (loaded : operation ∈ avatar.manager.loaded) :
    operation.call < avatar.calls.length := by
  apply cancellable.known
  simp only [SDWebImageManager.known, List.mem_append, List.mem_map]
  exact .inl (.inl ⟨operation, loaded, rfl⟩)

theorem loaded_sets (sets : Sets part url inMemory before after) (loaded : operation ∈ after.manager.loaded) :
    operation ∈ before.manager.loaded ∨ operation = ⟨before.calls.length, url⟩ := by
  rw [sets.manager] at loaded
  rw [← @loaded_cancelling before part]
  exact SDWebImageManager.loaded_loading loaded

theorem showing_sets (cancellable : Cancellable before) (sets : Sets part url inMemory before after) :
    Showing part ⟨before.calls.length, url⟩ (before.manager.atOnce url inMemory).isNone
      (if before.manager.atOnce url inMemory = some .image then .loaded ⟨before.calls.length, url⟩
        else .defaultAvatar) after := by
  constructor
  · simp [sets.calls]
  · exact sets.image
  · rw [flies_sets cancellable sets, Option.isNone_iff_eq_none]
    constructor
    · rintro (⟨flew, -⟩ | ⟨-, waits⟩)
      · exact absurd (cancellable.known _ (SDWebImageManager.known_of_flies flew)) (Nat.lt_irrefl _)
      · exact waits
    · intro waits
      exact .inr ⟨rfl, waits⟩
  · intro other called flies
    rcases (flies_sets cancellable sets other).mp flies with ⟨flew, uncancelled⟩ | ⟨newest, -⟩
    · have earlier := cancellable.known other (SDWebImageManager.known_of_flies flew)
      rw [sets.calls, List.getElem?_append_left earlier] at called
      exact absurd (cancellable.flies part other flew called) uncancelled
    · exact newest
  · intro loaded member same
    rcases loaded_sets sets member with older | newest
    · exact absurd same (Nat.ne_of_lt (cancellable.loaded_lt older))
    · exact newest

theorem Showing.sets (showing : Showing part operation waits image before) (cancellable : Cancellable before)
    (sets : Sets other url inMemory before after) (apart : part ≠ other) :
    Showing part operation waits image after := by
  have earlier : operation.call < before.calls.length := (List.getElem?_eq_some_iff.mp showing.called).1
  constructor
  · rw [sets.calls, List.getElem?_append_left earlier, showing.called]
  · rw [sets.others part apart, showing.image]
  · rw [flies_sets cancellable sets, ← showing.waits]
    constructor
    · rintro (⟨flew, -⟩ | ⟨newest, -⟩)
      · exact flew
      · exact absurd newest (Nat.ne_of_lt earlier)
    · intro flew
      refine .inl ⟨flew, ?_⟩
      intro cancelled
      have own := cancellable.operations other operation.call cancelled
      rw [showing.called, Option.some.injEq] at own
      exact apart own
  · intro call called flies
    rcases (flies_sets cancellable sets call).mp flies with ⟨flew, -⟩ | ⟨rfl, -⟩
    · have known := cancellable.known call (SDWebImageManager.known_of_flies flew)
      rw [sets.calls, List.getElem?_append_left known] at called
      exact showing.alone call called flew
    · rw [sets.calls, List.getElem?_concat_length, Option.some.injEq] at called
      exact absurd called.symm apart
  · intro loaded member same
    rcases loaded_sets sets member with older | rfl
    · exact showing.own loaded older same
    · exact absurd same.symm (Nat.ne_of_lt earlier)

theorem Showing.answered (showing : Showing part operation true image before)
    (completes : Completes operation download before after) :
    Showing part operation false (if download = .image then .loaded operation else image) after := by
  constructor
  · rw [completes.calls, showing.called]
  · rw [completes.image, showing.called, showing.image]
    simp
  · rw [completes.flies]
    simp
  · intro other called flies
    rw [completes.calls] at called
    exact showing.alone other called ((completes.flies other).mp flies).1
  · rw [completes.loaded]
    exact showing.own

theorem Showing.elsewhere (showing : Showing part operation waits image before)
    (apart : late.call ≠ operation.call) (flies : before.manager.Flies late.call)
    (completes : Completes late download before after) : Showing part operation waits image after := by
  constructor
  · rw [completes.calls, showing.called]
  · rw [completes.image, showing.image, if_neg]
    rintro ⟨-, called⟩
    exact apart (showing.alone late.call called flies)
  · rw [completes.flies, ← showing.waits]
    exact and_iff_left apart.symm
  · intro other called flies
    rw [completes.calls] at called
    exact showing.alone other called ((completes.flies other).mp flies).1
  · rw [completes.loaded]
    exact showing.own

theorem step_failedURLs (avatar : RSAvatarImageView) {event : AvatarEvent} (unset : wanted URLWithString event = [])
    (unanswered : ∀ call download blacklists, event ≠ .completed call download blacklists) :
    ∃ failedURLs, step URLWithString avatar event =
      { avatar with manager := { avatar.manager with failedURLs } } := by
  cases event with
  | setUrl url inMemory => simp [wanted] at unset
  | setUrls urls inMemory =>
      match urls with
      | [] => exact ⟨avatar.manager.failedURLs, rfl⟩
      | [oneUrl] => simp [wanted] at unset
      | oneUrl :: second :: urls => simp [wanted] at unset
  | completed call download blacklists => exact absurd rfl (unanswered call download blacklists)
  | failedElsewhere url => exact ⟨avatar.manager.failedURLs ++ [url], rfl⟩

theorem answerOf_other {event : AvatarEvent}
    (unanswered : ∀ download blacklists, event ≠ .completed call download blacklists) :
    answerOf call [event] = none := by
  cases event with
  | completed answered download blacklists =>
      have apart : answered ≠ call := by
        rintro rfl
        exact unanswered download blacklists rfl
      simp [answerOf, apart]
  | setUrl url inMemory => rfl
  | setUrls urls inMemory => rfl
  | failedElsewhere url => rfl

theorem Showing.completed (showing : Showing part operation waits image avatar) (call : Nat)
    (download : SDDownload) (blacklists : Bool) :
    Showing part operation (waits && decide (call ≠ operation.call))
      (if waits = true ∧ call = operation.call ∧ download = .image then .loaded operation else image)
      (avatar.completed call download blacklists) := by
  by_cases flies : avatar.manager.Flies call
  · obtain ⟨answered, member, rfl, completes⟩ := completes_completed flies download blacklists
    by_cases newest : answered.call = operation.call
    · obtain rfl := showing.own answered member newest
      obtain rfl := showing.waits.mp flies
      simpa using showing.answered completes
    · simpa [newest] using showing.elsewhere newest flies completes
  · rw [completed_landed flies]
    by_cases newest : call = operation.call
    · subst newest
      obtain rfl : waits = false := by
        rw [← Bool.not_eq_true, ← showing.waits]
        exact flies
      simpa using showing
    · simpa [newest] using showing

theorem Showing.step (showing : Showing part operation waits image avatar) {event : AvatarEvent}
    (unset : wanted URLWithString event = []) :
    Showing part operation (waits && (answerOf operation.call [event]).isNone)
      (if waits = true ∧ answerOf operation.call [event] = some .image then .loaded operation else image)
      (RSAvatarImageView.step URLWithString avatar event) := by
  by_cases unanswered : ∀ call download blacklists, event ≠ .completed call download blacklists
  · obtain ⟨failedURLs, same⟩ := step_failedURLs avatar unset unanswered
    rw [same, answerOf_other (unanswered operation.call)]
    simp only [Option.isNone_none, Bool.and_true, reduceCtorEq, and_false, if_false]
    exact ⟨showing.called, showing.image, showing.waits, showing.alone, showing.own⟩
  · push Not at unanswered
    obtain ⟨call, download, blacklists, rfl⟩ := unanswered
    have here := showing.completed call download blacklists
    by_cases newest : call = operation.call
    · simpa [answerOf, newest, RSAvatarImageView.step] using here
    · simpa [answerOf, newest, RSAvatarImageView.step] using here

theorem shownParts_step {event : AvatarEvent} (unset : wanted URLWithString event = []) :
    (step URLWithString avatar event).shownParts = avatar.shownParts := by
  by_cases unanswered : ∀ call download blacklists, event ≠ .completed call download blacklists
  · obtain ⟨failedURLs, same⟩ := step_failedURLs avatar unset unanswered
    rw [same]
    rfl
  · push Not at unanswered
    obtain ⟨call, download, blacklists, rfl⟩ := unanswered
    by_cases flies : avatar.manager.Flies call
    · obtain ⟨operation, -, -, completes⟩ := completes_completed flies download blacklists
      exact completes.shownParts
    · exact congrArg shownParts (completed_landed flies download blacklists)

theorem answerOf_cons (call : Nat) (event : AvatarEvent) (events : List AvatarEvent) :
    answerOf call (event :: events) = (answerOf call [event]).or (answerOf call events) := by
  simp only [answerOf, List.findSome?_cons, List.findSome?_nil]
  split <;> simp_all

/-- What a view shows after events that set no image. -/
theorem Showing.run (showing : Showing part operation waits image avatar) {events : List AvatarEvent}
    (unset : ∀ event ∈ events, wanted URLWithString event = []) :
    ((run (RSAvatarImageView.step URLWithString) avatar events).views part).image =
      if waits = true ∧ answerOf operation.call events = some .image then .loaded operation else image := by
  induction events generalizing avatar waits image with
  | nil => simpa [answerOf] using showing.image
  | cons event events ih =>
      have here := showing.step (unset event List.mem_cons_self)
      rw [run_cons, ih here (fun later member => unset later (List.mem_cons_of_mem event member)),
        answerOf_cons operation.call event events]
      cases waits with
      | false => simp
      | true => cases answer : answerOf operation.call [event] <;> simp

theorem Cancellable.step (cancellable : Cancellable avatar) (event : AvatarEvent) :
    Cancellable (RSAvatarImageView.step URLWithString avatar event) := by
  have one : ∀ oneUrl inMemory, Cancellable (avatar.setUrl URLWithString inMemory oneUrl) := by
    intro oneUrl inMemory
    have here : Cancellable { avatar with
        oneAvatarIsSubview := false, twoAvatarIsSubview := false, imageViewHidden := false } :=
      ⟨cancellable.known, cancellable.operations, cancellable.flies⟩
    exact here.sets (sets_setImageWithURL _ .imageView (URLWithString oneUrl) (inMemory .imageView))
  cases event with
  | setUrl url inMemory => exact one url inMemory
  | setUrls urls inMemory =>
      match urls with
      | [] => exact cancellable
      | [oneUrl] => exact one oneUrl inMemory
      | oneUrl :: second :: urls =>
          have first := cancellable.sets
            (sets_setImageWithURL avatar .oneAvatar (URLWithString oneUrl) (inMemory .oneAvatar))
          have here : Cancellable { avatar.setImageWithURL .oneAvatar (URLWithString oneUrl)
              (inMemory .oneAvatar) with oneAvatarIsSubview := true } :=
            ⟨first.known, first.operations, first.flies⟩
          have both := here.sets (sets_setImageWithURL _ .twoAvatar
            (URLWithString ((second :: urls).getLast (List.cons_ne_nil second urls))) (inMemory .twoAvatar))
          exact ⟨both.known, both.operations, both.flies⟩
  | completed call download blacklists =>
      by_cases flies : avatar.manager.Flies call
      · obtain ⟨operation, -, -, completes⟩ := completes_completed flies download blacklists
        exact cancellable.completes completes
      · have same : RSAvatarImageView.step URLWithString avatar (.completed call download blacklists) = avatar :=
          completed_landed flies download blacklists
        rw [same]
        exact cancellable
  | failedElsewhere url => exact ⟨cancellable.known, cancellable.operations, cancellable.flies⟩

/-- What an event leaves in the views that it gives urls. -/
structure Given (avatar : RSAvatarImageView) (given : List (AvatarPart × Option NSURL × Bool))
    (after : RSAvatarImageView) : Prop where
  shownParts : after.shownParts = given.map Prod.fst
  showing : ∀ index part url inMemory, given[index]? = some (part, url, inMemory) →
    Showing part ⟨avatar.calls.length + index, url⟩ (avatar.manager.atOnce url inMemory).isNone
      (if avatar.manager.atOnce url inMemory = some .image then .loaded ⟨avatar.calls.length + index, url⟩
        else .defaultAvatar) after

theorem given_setUrl (cancellable : Cancellable avatar) (url : String) (inMemory : AvatarPart → Bool) :
    Given avatar [(.imageView, URLWithString url, inMemory .imageView)]
      (avatar.setUrl URLWithString inMemory url) := by
  have here : Cancellable { avatar with
      oneAvatarIsSubview := false, twoAvatarIsSubview := false, imageViewHidden := false } :=
    ⟨cancellable.known, cancellable.operations, cancellable.flies⟩
  have sets := sets_setImageWithURL { avatar with
    oneAvatarIsSubview := false, twoAvatarIsSubview := false, imageViewHidden := false } .imageView
    (URLWithString url) (inMemory .imageView)
  constructor
  · rw [shownParts, setUrl, sets.imageViewHidden, sets.oneAvatarIsSubview, sets.twoAvatarIsSubview]
    rfl
  · intro index part url' inMemory' member
    cases index with
    | zero =>
        obtain ⟨rfl, rfl, rfl⟩ : _ ∧ _ ∧ _ := by simpa using member
        have shown := showing_sets here sets
        exact shown
    | succ index => simp at member

theorem given_setUrls (cancellable : Cancellable avatar) (oneUrl second : String) (urls : List String)
    (inMemory : AvatarPart → Bool) :
    Given avatar (wanted URLWithString (.setUrls (oneUrl :: second :: urls) inMemory))
      (avatar.setUrls URLWithString inMemory (oneUrl :: second :: urls)) := by
  let one := { avatar.setImageWithURL .oneAvatar (URLWithString oneUrl) (inMemory .oneAvatar) with
    oneAvatarIsSubview := true }
  let twoUrl := (second :: urls).getLast (List.cons_ne_nil second urls)
  have first := sets_setImageWithURL avatar .oneAvatar (URLWithString oneUrl)
    (inMemory .oneAvatar)
  have between : Cancellable one :=
    ⟨(cancellable.sets first).known, (cancellable.sets first).operations, (cancellable.sets first).flies⟩
  have last := sets_setImageWithURL one .twoAvatar (URLWithString twoUrl)
    (inMemory .twoAvatar)
  have shown := showing_sets cancellable first
  have still : Showing .oneAvatar ⟨avatar.calls.length, URLWithString oneUrl⟩ _ _ one :=
    ⟨shown.called, shown.image, shown.waits, shown.alone, shown.own⟩
  have both := still.sets between last (by simp)
  have newest := showing_sets between last
  have later : one.calls.length = avatar.calls.length + 1 := by
    show (avatar.setImageWithURL .oneAvatar (URLWithString oneUrl) (inMemory .oneAvatar)).calls.length = _
    rw [first.calls, List.length_append, List.length_singleton]
  have answer : one.manager.atOnce (URLWithString twoUrl) (inMemory .twoAvatar) =
      avatar.manager.atOnce (URLWithString twoUrl) (inMemory .twoAvatar) := by
    apply SDWebImageManager.atOnce_congr
    show (avatar.setImageWithURL .oneAvatar (URLWithString oneUrl) (inMemory .oneAvatar)).manager.failedURLs = _
    rw [first.manager, SDWebImageManager.failedURLs_loading, failedURLs_cancelling]
  have beside : (avatar.setUrls URLWithString inMemory (oneUrl :: second :: urls)).oneAvatarIsSubview = true :=
    last.oneAvatarIsSubview
  rw [later, answer] at newest
  constructor
  · rw [shownParts, beside]
    rfl
  · intro index part url inMemory' member
    cases index with
    | zero =>
        obtain ⟨rfl, rfl, rfl⟩ : _ ∧ _ ∧ _ := by simpa [wanted] using member
        exact ⟨both.called, both.image, both.waits, both.alone, both.own⟩
    | succ index =>
        cases index with
        | zero =>
            obtain ⟨rfl, rfl, rfl⟩ : _ ∧ _ ∧ _ := by simpa [wanted] using member
            exact ⟨newest.called, newest.image, newest.waits, newest.alone, newest.own⟩
        | succ index => simp [wanted] at member

theorem given_step (cancellable : Cancellable avatar) {event : AvatarEvent}
    (set : wanted URLWithString event ≠ []) :
    Given avatar (wanted URLWithString event) (step URLWithString avatar event) := by
  cases event with
  | setUrl url inMemory => exact given_setUrl cancellable url inMemory
  | setUrls urls inMemory =>
      match urls with
      | [] => exact absurd rfl set
      | [oneUrl] => exact given_setUrl cancellable oneUrl inMemory
      | oneUrl :: second :: urls => exact given_setUrls cancellable oneUrl second urls inMemory
  | completed call download blacklists => exact absurd rfl set
  | failedElsewhere url => exact absurd rfl set

theorem shownParts_run {events : List AvatarEvent} (unset : ∀ event ∈ events, wanted URLWithString event = []) :
    (run (step URLWithString) avatar events).shownParts = avatar.shownParts := by
  have kept : ∀ later event, later.shownParts = avatar.shownParts → wanted URLWithString event = [] →
      (step URLWithString later event).shownParts = avatar.shownParts :=
    fun later event same unset => (shownParts_step unset).trans same
  exact run_of_events kept rfl unset

theorem avatarImageOf_eq {manager : SDWebImageManager} {events : List AvatarEvent} :
    (if (manager.atOnce url inMemory).isNone = true ∧ answerOf call events = some .image then
        AvatarImage.loaded ⟨call, url⟩
      else if manager.atOnce url inMemory = some .image then .loaded ⟨call, url⟩ else .defaultAvatar) =
      avatarImageOf manager url inMemory call events := by
  unfold avatarImageOf
  cases manager.atOnce url inMemory with
  | none => by_cases arrived : answerOf call events = some .image <;> simp [arrived]
  | some download => simp

/-- Whatever loads were under way, the views of the last setting can be seen, and each shows what the load of its
newest url brought, or the placeholder. -/
theorem avatar_shown (URLWithString : String → Option NSURL) (before after : List AvatarEvent)
    (event : AvatarEvent) (set : wanted URLWithString event ≠ [])
    (unset : ∀ later ∈ after, wanted URLWithString later = []) :
    (run (step URLWithString) {} (before ++ event :: after)).shownParts = (wanted URLWithString event).map Prod.fst ∧
      (run (step URLWithString) {} (before ++ event :: after)).shownImages =
        (wanted URLWithString event).mapIdx fun index given =>
          avatarImageOf (run (step URLWithString) {} before).manager given.2.1 given.2.2
            ((run (step URLWithString) {} before).calls.length + index) after := by
  rw [run_append, run_cons]
  have cancellable : Cancellable (run (step URLWithString) {} before) :=
    invariant_run (fun _ event here => here.step event) cancellable_init before
  have given := given_step cancellable set
  have parts := (shownParts_run unset).trans given.shownParts
  refine ⟨parts, ?_⟩
  rw [shownImages, parts, List.map_map]
  apply List.ext_getElem?
  intro index
  rw [List.getElem?_map, List.getElem?_mapIdx]
  cases here : (wanted URLWithString event)[index]? with
  | none => rfl
  | some entry =>
      obtain ⟨part, url, inMemory⟩ := entry
      have showing := given.showing index part url inMemory here
      rw [Option.map_some, Option.map_some, Option.some.injEq, Function.comp_apply, showing.run unset, avatarImageOf_eq]

/-- Two urls follow each other before the images of the first come in. -/
theorem avatar_shown_newest :
    (run (step some) {} [.setUrl "first" fun _ => false, .setUrls ["one", "two", "three"] fun _ => false,
      .completed 0 .image false, .completed 2 .image false]).shownParts = [.oneAvatar, .twoAvatar] ∧
    (run (step some) {} [.setUrl "first" fun _ => false, .setUrls ["one", "two", "three"] fun _ => false,
      .completed 0 .image false, .completed 2 .image false]).shownImages =
      [.defaultAvatar, .loaded ⟨2, some "three"⟩] := by
  have shown := avatar_shown some [.setUrl "first" fun _ => false] [.completed 0 .image false, .completed 2 .image false]
    (.setUrls ["one", "two", "three"] fun _ => false) (by simp [wanted]) (by simp [wanted])
  exact ⟨shown.1, shown.2.trans (by decide +kernel)⟩

end Proof

end RealSocial
