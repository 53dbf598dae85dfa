import Mathlib.Tactic.NormNum
import RealSocial.Library.Run
import RealSocial.Proof.CarouselSteps

namespace RealSocial.Proof

open Library RSPhotoBrower

/-! # What the two image views show -/

/-- No index was out of bounds, and each view shows the placeholder or the image of its index. -/
def ImagesSafe (dataSources : List String) (browser : Option RSPhotoBrower) : Prop :=
  ∃ reached, browser = some reached ∧ Sound dataSources reached

variable {dataSources : List String} {browser : RSPhotoBrower}

theorem imagesSafe_advance (valid : String → Bool) (state : Option RSPhotoBrower)
    (event : PhotoBrowerEvent) (safe : ImagesSafe dataSources state) :
    ImagesSafe dataSources (advance valid state event) := by
  obtain ⟨browser, rfl, sound⟩ := safe
  change ImagesSafe dataSources (step valid browser event)
  cases event with
  | layout bounds => exact ⟨_, rfl, sound.sameViews (sameViews_layoutSubviews bounds browser)⟩
  | scrolled offset atOnce =>
      have moved := sound.offset offset
      by_cases unsized : browser.contentSize = 0
      · exact ⟨_, if_pos unsized, moved⟩
      · obtain ⟨after, scroll, swiped⟩ := swiped_scrollViewDidScroll moved unsized valid atOnce
        exact ⟨after, scroll, swiped.scrolled.sound moved⟩
  | endDecelerating => exact ⟨_, rfl, sound.endDecelerating⟩
  | downloaded number download =>
      cases there : browser.downloads[number]? with
      | none => exact ⟨browser, step_unknown there valid download, sound⟩
      | some started =>
          obtain ⟨view, imageURL⟩ := started
          obtain ⟨after, stepped, block⟩ := step_downloaded sound there valid download
          exact ⟨after, stepped, block.sound sound⟩

theorem imagesSafe_setDataSources (valid : String → Bool) (atOnce : Option SDDownload)
    (nonempty : dataSources ≠ []) (bounds : ℚ) :
    ImagesSafe dataSources (setDataSources valid atOnce dataSources bounds {}) := by
  obtain ⟨url, loaded, found, answered, start⟩ := setDataSources_opened valid atOnce nonempty bounds
  have sound := answered.sound (sound_opened valid found)
  have paged : SameViews loaded { loaded with numberOfPages := loaded.dataSources.length } :=
    ⟨rfl, rfl, rfl, rfl, rfl⟩
  exact ⟨_, start, sound.sameViews (paged.trans (sameViews_layoutSubviews bounds _))⟩

theorem carousel_images_safe (valid : String → Bool) (atOnce : Option SDDownload)
    {dataSources : List String} (nonempty : dataSources ≠ []) (bounds : ℚ) (events : List PhotoBrowerEvent) :
    EveryState (advance valid) (ImagesSafe dataSources) (setDataSources valid atOnce dataSources bounds {})
      events :=
  everyState_of_invariant (imagesSafe_advance valid) (imagesSafe_setDataSources valid atOnce nonempty bounds)
    events

-- to the second picture and on to the third before the second is there

def fastSwipes : List PhotoBrowerEvent :=
  [.scrolled 960 none, .scrolled 700 none, .scrolled 960 none, .downloaded 1 .image, .downloaded 0 .image]

theorem carousel_late_downloads :
    EveryState (advance fun _ => true) (ImagesSafe ["sea", "hill", "lake"])
      (setDataSources (fun _ => true) none ["sea", "hill", "lake"] 320 {}) fastSwipes :=
  carousel_images_safe (fun _ => true) none (List.cons_ne_nil "sea" ["hill", "lake"]) 320 fastSwipes

/-! ## The indices that are reached -/

def Reaches (dataSources : List String) (index : Int) : Prop :=
  ∃ valid atOnce bounds events browser,
    run (advance valid) (setDataSources valid atOnce dataSources bounds {}) events = some browser ∧
      browser.currIndex = index

structure Idle (browser : RSPhotoBrower) : Prop where
  sources : browser.dataSources = []
  currIndex : browser.currIndex = 0
  nextIndex : browser.nextIndex = 0
  unsized : browser.contentSize = 0
  downloads : browser.downloads = []

theorem Idle.changeToNext (idle : Idle browser) : Idle browser.changeToNext where
  sources := (changeToNext_sources browser).trans idle.sources
  currIndex := (changeToNext_currIndex browser).trans idle.nextIndex
  nextIndex := (changeToNext_nextIndex browser).trans idle.nextIndex
  unsized := (changeToNext_contentSize browser).trans idle.unsized
  downloads := (changeToNext_downloads browser).trans idle.downloads

theorem idle_advance (valid : String → Bool) (state : Option RSPhotoBrower) (event : PhotoBrowerEvent)
    (idle : ∃ browser, state = some browser ∧ Idle browser) :
    ∃ browser, advance valid state event = some browser ∧ Idle browser := by
  obtain ⟨browser, rfl, idle⟩ := idle
  change ∃ reached, step valid browser event = some reached ∧ Idle reached
  cases event with
  | layout bounds =>
      have few : ¬ browser.dataSources.length > 1 := by simp [idle.sources]
      refine ⟨_, rfl, ?_⟩
      unfold layoutSubviews setScrollViewContentSize
      rw [if_neg few]
      exact ⟨idle.sources, idle.currIndex, idle.nextIndex, rfl, idle.downloads⟩
  | scrolled offset atOnce =>
      refine ⟨{ browser with contentOffset := offset }, if_pos idle.unsized, ?_⟩
      exact ⟨idle.sources, idle.currIndex, idle.nextIndex, idle.unsized, idle.downloads⟩
  | endDecelerating =>
      refine ⟨_, rfl, ?_⟩
      unfold scrollViewDidEndDecelerating
      simp only
      split_ifs
      · exact idle
      · exact idle.changeToNext
  | downloaded number download =>
      rw [step, idle.downloads]
      exact ⟨browser, rfl, idle⟩

structure AtIndex (dataSources : List String) (index : Nat) (browser : RSPhotoBrower) : Prop where
  sources : browser.dataSources = dataSources
  currIndex : browser.currIndex = index
  width : browser.width = 320
  sized : browser.contentSize ≠ 0

theorem AtIndex.next {index : Nat} (here : AtIndex dataSources index browser)
    (more : index + 1 < dataSources.length) (valid : String → Bool) :
    ∃ moved, step valid browser (.scrolled 960 none) = some moved ∧
      AtIndex dataSources (index + 1) moved := by
  let scrolled := { browser with contentOffset := 960 }
  have nonempty : 0 < scrolled.dataSources.length := by
    rw [show scrolled.dataSources = dataSources from here.sources]
    omega
  obtain ⟨page, paged⟩ := changeCurrentPageWithOffset_eq_some nonempty 960
  obtain ⟨imgUrl, found⟩ := @objectAtIndex_eq_some _ dataSources (index + 1 : Int) (by omega) (by omega)
  have modulo : moduloCount (browser.currIndex + 1) browser.dataSources.length = some (index + 1 : Int) := by
    rw [here.currIndex, here.sources, moduloCount, if_neg (by omega)]
    exact congrArg some (Int.emod_eq_of_lt (by omega) (by omega))
  let loaded := { scrolled.setCurrentPage page with
    nextIndex := index + 1, backImageView := .gray
    downloads := browser.downloads ++ [(RSPhotoBrowerView.backImageView, urlWithString valid imgUrl)] }
  refine ⟨loaded.changeToNext, ?_, ?_⟩
  · change scrolled.scrollViewDidScroll valid none = _
    have left : ¬ (960 : ℚ) < browser.width * 2 := by norm_num [here.width]
    have right : (960 : ℚ) > browser.width * 2 := by norm_num [here.width]
    have far : (960 : ℚ) ≥ browser.width * 3 := by norm_num [here.width]
    rw [← here.sources] at found
    refine (if_neg here.sized).trans ?_
    refine (congrArg (Option.bind · _) paged).trans ?_
    refine (if_neg left).trans ((if_pos right).trans ?_)
    refine (congrArg (Option.bind · _) modulo).trans ?_
    exact (congrArg (Option.bind · _) found).trans (if_pos far)
  · refine ⟨?_, ?_, ?_, ?_⟩
    · rw [changeToNext_sources]
      exact here.sources
    · rw [changeToNext_currIndex]
      rfl
    · rw [changeToNext_width]
      exact here.width
    · rw [changeToNext_contentSize]
      exact here.sized

theorem atIndex_layoutSubviews (several : dataSources.length > 1)
    (downloads : List (RSPhotoBrowerView × Option NSURL)) :
    AtIndex dataSources 0
      (layoutSubviews 320 { dataSources, numberOfPages := dataSources.length, downloads }) := by
  have same := sameViews_layoutSubviews 320
    { dataSources, numberOfPages := dataSources.length, downloads }
  refine ⟨same.sources, same.currIndex, ?_, ?_⟩
  · rw [layoutSubviews_several several]
    exact centre_width _
  · rw [layoutSubviews_several several]
    refine ne_of_eq_of_ne (centre_contentSize _) ?_
    norm_num

theorem AtIndex.run {start : RSPhotoBrower} (first : AtIndex dataSources 0 start) (valid : String → Bool)
    (index : Nat) (inside : index < dataSources.length) :
    ∃ browser, Library.run (advance valid) (some start) (List.replicate index (.scrolled 960 none)) =
      some browser ∧ AtIndex dataSources index browser := by
  induction index with
  | zero => exact ⟨start, rfl, first⟩
  | succ index ih =>
      obtain ⟨browser, reached, here⟩ := ih (by omega)
      obtain ⟨moved, scroll, there⟩ := here.next inside valid
      refine ⟨moved, ?_, there⟩
      rw [List.replicate_succ', run_append, reached]
      exact scroll

theorem reaches_of_inside {index : Nat} (inside : index < dataSources.length) :
    Reaches dataSources index := by
  have nonempty : dataSources ≠ [] := List.ne_nil_of_length_pos (by omega)
  obtain ⟨downloads, start⟩ := setDataSources_eq nonempty (fun _ => true) 320
  by_cases single : dataSources.length = 1
  · obtain rfl : index = 0 := by omega
    exact ⟨fun _ => true, none, 320, [], _, start, (sameViews_layoutSubviews 320 _).currIndex⟩
  · have several : dataSources.length > 1 := by omega
    have first := atIndex_layoutSubviews several downloads
    obtain ⟨browser, reached, there⟩ := first.run (fun _ => true) index inside
    rw [← start] at reached
    exact ⟨fun _ => true, none, 320, _, browser, reached, there.currIndex⟩

/-- A browser without pictures stays at its first index. -/
theorem reaches_iff (index : Int) :
    Reaches dataSources index ↔
      (0 ≤ index ∧ index < dataSources.length) ∨ (dataSources = [] ∧ index = 0) := by
  constructor
  · rintro ⟨valid, atOnce, bounds, events, browser, reached, rfl⟩
    by_cases empty : dataSources = []
    · right
      subst empty
      have fresh : ∃ browser, setDataSources valid atOnce [] bounds {} = some browser ∧ Idle browser :=
        ⟨{}, rfl, rfl, rfl, rfl, rfl, rfl⟩
      obtain ⟨idle, reachedIdle, still⟩ := invariant_run (idle_advance valid) fresh events
      rw [reached, Option.some.injEq] at reachedIdle
      exact ⟨rfl, reachedIdle ▸ still.currIndex⟩
    · left
      obtain ⟨sounded, reachedSound, sound⟩ := 
        invariant_run (imagesSafe_advance valid) (imagesSafe_setDataSources valid atOnce empty bounds) events
      rw [reached, Option.some.injEq] at reachedSound
      exact reachedSound ▸ sound.curr.bounds
  · rintro (⟨lower, upper⟩ | ⟨rfl, rfl⟩)
    · obtain ⟨position, rfl⟩ := Int.eq_ofNat_of_zero_le lower
      exact reaches_of_inside (by omega)
    · exact ⟨fun _ => true, none, 320, [], {}, rfl, rfl⟩

end RealSocial.Proof
