import RealSocial.Proof.Carousel

namespace RealSocial.Proof

open Library RSPhotoBrower

/-! # The index of a photo browser goes round its pictures -/

instance (count : Nat) (middle offset : ℚ) (index turned : Int) :
    Decidable (Turns count middle offset index turned) :=
  decidable_of_iff ((middle < offset → turned = (index + 1) % count) ∧
      (offset < middle → turned = (index - 1) % count))
    ⟨fun both => ⟨both.1, both.2⟩, fun turns => ⟨turns.beyond, turns.short⟩⟩

def isScroll : PhotoBrowerEvent → Bool
  | .scrolled .. => true
  | _ => false

section Properties

variable (valid : String → Bool) (count : Nat) (state : Option RSPhotoBrower) (event : PhotoBrowerEvent)

def IndexTurns : Prop :=
  ∀ before ∈ state, ∀ after ∈ before.step valid event, ∀ offset ∈ switchesAt before event,
    Turns count (before.width * 2) offset before.currIndex after.currIndex

def IndexStays : Prop :=
  ∀ before ∈ state, ∀ after ∈ before.step valid event, switchesAt before event = none →
    after.currIndex = before.currIndex

/-- Where the event scrolls or calls `changeToNext` and the offset is in the middle afterwards. A browser of
at most one picture is not scrolled. -/
def PageFollows : Prop :=
  ∀ before ∈ state, ∀ after ∈ before.step valid event,
    isScroll event = true ∨ switchesAt before event ≠ none →
      after.contentOffset = after.width * 2 ∨ count ≤ 1 → after.currentPage = after.currIndex

instance : Decidable (IndexTurns valid count state event) :=
  inferInstanceAs (Decidable (∀ before ∈ state, ∀ after ∈ before.step valid event,
    ∀ offset ∈ switchesAt before event,
      Turns count (before.width * 2) offset before.currIndex after.currIndex))

instance : Decidable (PageFollows valid count state event) :=
  inferInstanceAs (Decidable (∀ before ∈ state, ∀ after ∈ before.step valid event,
    isScroll event = true ∨ switchesAt before event ≠ none →
      after.contentOffset = after.width * 2 ∨ count ≤ 1 → after.currentPage = after.currIndex))

end Properties

/-! ## A browser whose back view is the one that its offset leads to -/

structure Aligned (count : Nat) (browser : RSPhotoBrower) : Prop where
  sources : browser.dataSources.length = count
  pages : browser.numberOfPages = count
  framed : Framed browser
  unsized : count ≤ 1 → browser.contentSize = 0
  single : count ≤ 1 → browser.currentPage = 0
  turned : 1 < count → 0 < browser.width →
    Turns count (browser.width * 2) browser.contentOffset browser.currIndex browser.nextIndex

variable {count : Nat} {browser : RSPhotoBrower}

theorem Aligned.changeToNext (aligned : Aligned count browser) : Aligned count browser.changeToNext where
  sources := by
    rw [changeToNext_sources]
    exact aligned.sources
  pages := (changeToNext_numberOfPages browser).trans aligned.pages
  framed := aligned.framed.changeToNext
  unsized := by
    rw [changeToNext_contentSize]
    exact aligned.unsized
  single := by
    intro single
    have pages := (changeToNext_numberOfPages browser).trans aligned.pages
    rw [changeToNext_currentPage]
    exact setCurrentPage_single (pages.trans_le single) browser.changeToNext.currIndex
  turned := by
    intro _ _
    rw [changeToNext_contentOffset, changeToNext_width]
    exact turns_middle

theorem Aligned.layoutSubviews (aligned : Aligned count browser) (bounds : ℚ) :
    Aligned count (browser.layoutSubviews bounds) := by
  have laid := laidOut_layoutSubviews bounds browser
  have sources : (browser.layoutSubviews bounds).dataSources.length = count :=
    (congrArg List.length laid.views.sources).trans aligned.sources
  by_cases several : browser.dataSources.length > 1
  · have more : ¬count ≤ 1 := by
      have length := aligned.sources
      omega
    refine ⟨sources, ?_, laid.framed, fun single => absurd single more, fun single => absurd single more, ?_⟩
    · rw [layoutSubviews_several several]
      exact (centre_numberOfPages _).trans aligned.pages
    · intro _ _
      rw [laid.centred, (laid.framed (laid.views.sources ▸ several)).1]
      exact turns_middle
  · have few : ¬1 < count := by
      have length := aligned.sources
      omega
    refine ⟨sources, ?_, laid.framed, ?_, ?_, fun more => absurd more few⟩
    · rw [layoutSubviews_few several]
      exact aligned.pages
    · intro _
      rw [layoutSubviews_few several]
    · rw [layoutSubviews_few several]
      exact aligned.single

theorem Aligned.block {after : RSPhotoBrower} {view : RSPhotoBrowerView} {imageURL : Option NSURL}
    {download : SDDownload} (aligned : Aligned count browser)
    (block : Block browser view imageURL download after) : Aligned count after := by
  have place := block.samePlace
  obtain ⟨pages, page⟩ := block.samePages
  constructor
  · rw [place.sources]
    exact aligned.sources
  · exact pages.trans aligned.pages
  · exact place.framed aligned.framed
  · rw [place.contentSize]
    exact aligned.unsized
  · rw [page]
    exact aligned.single
  · rw [place.width, place.contentOffset, place.currIndex, place.nextIndex]
    exact aligned.turned

/-! ## Runs -/

variable {dataSources : List String}

structure Cycling (dataSources : List String) (browser : RSPhotoBrower) : Prop where
  safe : Sound dataSources browser ∨ (dataSources = [] ∧ Idle browser)
  aligned : Aligned dataSources.length browser

theorem Cycling.scroll_cases (cycling : Cycling dataSources browser) {valid : String → Bool} {offset : ℚ}
    {atOnce : Option SDDownload} {after : RSPhotoBrower}
    (stepped : browser.step valid (.scrolled offset atOnce) = some after) :
    (browser.contentSize = 0 ∧ after = { browser with contentOffset := offset }) ∨
      (browser.contentSize ≠ 0 ∧ Swiped valid atOnce { browser with contentOffset := offset } after) := by
  by_cases unsized : browser.contentSize = 0
  · have ignored : browser.step valid (.scrolled offset atOnce) =
        some { browser with contentOffset := offset } := if_pos unsized
    exact .inl ⟨unsized, (Option.some.inj (ignored.symm.trans stepped)).symm⟩
  · rcases cycling.safe with sound | ⟨-, idle⟩
    · obtain ⟨reached, scroll, swiped⟩ :=
        swiped_scrollViewDidScroll (sound.offset offset) unsized valid atOnce
      cases Option.some.inj (scroll.symm.trans stepped)
      exact .inr ⟨unsized, swiped⟩
    · exact absurd idle.unsized unsized

theorem Aligned.sized (aligned : Aligned count browser) (several : 1 < count) (wide : 0 < browser.width) :
    browser.contentSize ≠ 0 := by
  rw [(aligned.framed (aligned.sources ▸ several)).2]
  linarith

theorem Aligned.ignored (aligned : Aligned count browser) (unsized : browser.contentSize = 0) (offset : ℚ) :
    Aligned count { browser with contentOffset := offset } where
  sources := aligned.sources
  pages := aligned.pages
  framed := aligned.framed
  unsized := aligned.unsized
  single := aligned.single
  turned := fun several wide => absurd unsized (aligned.sized several wide)

theorem Aligned.several (aligned : Aligned count browser) (sized : browser.contentSize ≠ 0) : ¬count ≤ 1 :=
  fun single => sized (aligned.unsized single)

theorem Aligned.aside {loaded : RSPhotoBrower} {offset : ℚ} (aligned : Aligned count browser)
    (sized : browser.contentSize ≠ 0) (prepared : Aside { browser with contentOffset := offset } loaded) :
    Aligned count loaded where
  sources := (congrArg List.length prepared.sources).trans aligned.sources
  pages := prepared.numberOfPages.trans aligned.pages
  framed := by
    unfold Framed
    rw [prepared.sources, prepared.currImageViewX, prepared.width, prepared.contentSize]
    exact aligned.framed
  unsized := fun single => absurd single (aligned.several sized)
  single := fun single => absurd single (aligned.several sized)
  turned := by
    intro _ _
    rw [prepared.width, prepared.contentOffset, prepared.currIndex, ← aligned.sources]
    exact prepared.turns

theorem Aligned.swiped {after : RSPhotoBrower} {offset : ℚ} {atOnce : Option SDDownload}
    (aligned : Aligned count browser) (sized : browser.contentSize ≠ 0)
    (swiped : Swiped valid atOnce { browser with contentOffset := offset } after) : Aligned count after := by
  cases swiped with
  | centred middle followed =>
      refine ⟨aligned.sources, aligned.pages, aligned.framed, aligned.unsized, ?_, ?_⟩
      · intro single
        exact absurd single (aligned.several sized)
      · intro _ _
        exact middle ▸ turns_middle
  | opened opened prepared stays => exact aligned.aside sized prepared
  | switched opened prepared switches => exact (aligned.aside sized prepared).changeToNext

theorem Cycling.downloaded_cases (cycling : Cycling dataSources browser) {valid : String → Bool} {number : Nat}
    {download : SDDownload} {after : RSPhotoBrower}
    (stepped : browser.step valid (.downloaded number download) = some after) :
    after = browser ∨ ∃ view imageURL, Block browser view imageURL download after := by
  cases there : browser.downloads[number]? with
  | none => exact .inl (Option.some.inj ((step_unknown there valid download).symm.trans stepped)).symm
  | some started =>
      obtain ⟨view, imageURL⟩ := started
      rcases cycling.safe with sound | ⟨-, idle⟩
      · obtain ⟨reached, taken, block⟩ := step_downloaded sound there valid download
        cases Option.some.inj (taken.symm.trans stepped)
        exact .inr ⟨view, imageURL, block⟩
      · rw [idle.downloads] at there
        cases there

theorem Aligned.endDecelerating (aligned : Aligned count browser) :
    Aligned count browser.scrollViewDidEndDecelerating := by
  unfold scrollViewDidEndDecelerating
  simp only
  split_ifs
  · exact aligned
  · exact aligned.changeToNext

theorem Cycling.aligned_step (cycling : Cycling dataSources browser) {valid : String → Bool}
    {event : PhotoBrowerEvent} {after : RSPhotoBrower} (stepped : browser.step valid event = some after) :
    Aligned dataSources.length after := by
  have aligned := cycling.aligned
  cases event with
  | layout bounds =>
      cases stepped
      exact aligned.layoutSubviews bounds
  | scrolled offset atOnce =>
      rcases cycling.scroll_cases stepped with ⟨unsized, rfl⟩ | ⟨sized, swiped⟩
      · exact aligned.ignored unsized offset
      · exact aligned.swiped sized swiped
  | endDecelerating =>
      cases stepped
      exact aligned.endDecelerating
  | downloaded number download =>
      rcases cycling.downloaded_cases stepped with rfl | ⟨view, imageURL, block⟩
      · exact aligned
      · exact aligned.block block

def CyclingIn (dataSources : List String) (state : Option RSPhotoBrower) : Prop :=
  ∃ browser, state = some browser ∧ Cycling dataSources browser

theorem cyclingIn_advance (valid : String → Bool) (state : Option RSPhotoBrower) (event : PhotoBrowerEvent)
    (cyclingIn : CyclingIn dataSources state) : CyclingIn dataSources (advance valid state event) := by
  obtain ⟨browser, rfl, cycling⟩ := cyclingIn
  rcases cycling.safe with sound | ⟨empty, idle⟩
  · obtain ⟨after, stepped, soundAfter⟩ := imagesSafe_advance valid (some browser) event ⟨browser, rfl, sound⟩
    exact ⟨after, stepped, .inl soundAfter, cycling.aligned_step stepped⟩
  · obtain ⟨after, stepped, idleAfter⟩ := idle_advance valid (some browser) event ⟨browser, rfl, idle⟩
    exact ⟨after, stepped, .inr ⟨empty, idleAfter⟩, cycling.aligned_step stepped⟩

/-- Before it is laid out it has no width. -/
theorem aligned_opened {valid : String → Bool} {url : String} {loaded : RSPhotoBrower}
    (place : SamePlace (opened valid dataSources url) loaded) (first : loaded.currentPage = 0) :
    Aligned dataSources.length { loaded with numberOfPages := loaded.dataSources.length } where
  sources := congrArg List.length place.sources
  pages := congrArg List.length place.sources
  framed := by
    intro _
    dsimp only
    rw [place.currImageViewX, place.width, place.contentSize]
    exact ⟨(zero_mul 2).symm, (zero_mul 5).symm⟩
  unsized := fun _ => place.contentSize
  single := fun _ => first
  turned := fun _ wide => absurd wide (place.width ▸ lt_irrefl 0)

theorem cyclingIn_setDataSources (valid : String → Bool) (atOnce : Option SDDownload)
    (dataSources : List String) (bounds : ℚ) :
    CyclingIn dataSources (setDataSources valid atOnce dataSources bounds {}) := by
  by_cases empty : dataSources = []
  · subst empty
    have aligned : Aligned 0 {} :=
      ⟨rfl, rfl, fun more => absurd more (by decide), fun _ => rfl, fun _ => rfl,
        fun more => absurd more (by decide)⟩
    exact ⟨{}, rfl, .inr ⟨rfl, rfl, rfl, rfl, rfl, rfl⟩, aligned⟩
  · obtain ⟨browser, start, sound⟩ := imagesSafe_setDataSources valid atOnce empty bounds
    obtain ⟨url, loaded, -, answered, laidOut⟩ := setDataSources_opened valid atOnce empty bounds
    obtain ⟨place, first⟩ := answered.samePlace
    cases Option.some.inj (start.symm.trans laidOut)
    exact ⟨_, start, .inl sound, (aligned_opened place first).layoutSubviews bounds⟩

/-! ## One step -/

theorem switchesAt_scrolled {offset switch : ℚ} {atOnce : Option SDDownload}
    (switches : switchesAt browser (.scrolled offset atOnce) = some switch) : switch = offset := by
  simp only [switchesAt] at switches
  split_ifs at switches
  · exact (Option.some.inj switches).symm
  · exact (Option.some.inj switches).symm

theorem endDecelerating_of_switch {switch : ℚ} (switches : switchesAt browser .endDecelerating = some switch) :
    switch = browser.contentOffset ∧ browser.scrollViewDidEndDecelerating = browser.changeToNext := by
  simp only [switchesAt] at switches
  split_ifs at switches with near
  exact ⟨(Option.some.inj switches).symm, if_neg near⟩

theorem endDecelerating_of_none (stays : switchesAt browser .endDecelerating = none) :
    browser.scrollViewDidEndDecelerating = browser := by
  simp only [switchesAt] at stays
  split_ifs at stays with near
  exact if_pos near

theorem Cycling.inside (cycling : Cycling dataSources browser) (nonempty : dataSources ≠ []) :
    (0 ≤ browser.currIndex ∧ browser.currIndex < dataSources.length) ∧
      (0 ≤ browser.nextIndex ∧ browser.nextIndex < dataSources.length) := by
  rcases cycling.safe with sound | ⟨empty, -⟩
  · exact ⟨sound.curr.bounds, sound.back.bounds⟩
  · exact absurd empty nonempty

theorem turns_single {middle offset : ℚ} (index : Int) : Turns 1 middle offset index 0 :=
  ⟨fun _ => by omega, fun _ => by omega⟩

theorem Cycling.turned (cycling : Cycling dataSources browser) (nonempty : dataSources ≠ [])
    (wide : 0 < browser.width) :
    Turns dataSources.length (browser.width * 2) browser.contentOffset browser.currIndex browser.nextIndex := by
  have positive := List.length_pos_of_ne_nil nonempty
  by_cases several : 1 < dataSources.length
  · exact cycling.aligned.turned several wide
  · have single : dataSources.length = 1 := by omega
    obtain ⟨-, lower, upper⟩ := cycling.inside nonempty
    obtain first : browser.nextIndex = 0 := by omega
    rw [single, first]
    exact turns_single browser.currIndex

theorem Cycling.indexTurns (cycling : Cycling dataSources browser) (nonempty : dataSources ≠ [])
    (wide : 0 < browser.width) {valid : String → Bool} {event : PhotoBrowerEvent} {after : RSPhotoBrower}
    (stepped : browser.step valid event = some after) {switch : ℚ}
    (switches : switchesAt browser event = some switch) :
    Turns dataSources.length (browser.width * 2) switch browser.currIndex after.currIndex := by
  cases event with
  | layout bounds => cases switches
  | scrolled offset atOnce =>
      obtain rfl := switchesAt_scrolled switches
      rcases cycling.scroll_cases stepped with ⟨unsized, -⟩ | ⟨-, swiped⟩
      · rw [switchesAt, if_pos unsized] at switches
        cases switches
      · cases swiped with
        | centred middle followed => exact middle ▸ turns_middle
        | opened opened prepared stays => cases switches.symm.trans stays
        | switched opened prepared _ =>
            rw [changeToNext_currIndex, ← cycling.aligned.sources]
            exact prepared.turns
  | endDecelerating =>
      cases stepped
      obtain ⟨rfl, same⟩ := endDecelerating_of_switch switches
      rw [same, changeToNext_currIndex]
      exact cycling.turned nonempty wide
  | downloaded number download => cases switches

theorem Cycling.indexStays (cycling : Cycling dataSources browser) {valid : String → Bool}
    {event : PhotoBrowerEvent} {after : RSPhotoBrower} (stepped : browser.step valid event = some after)
    (stays : switchesAt browser event = none) : after.currIndex = browser.currIndex := by
  cases event with
  | layout bounds =>
      cases stepped
      exact (sameViews_layoutSubviews bounds browser).currIndex
  | scrolled offset atOnce =>
      rcases cycling.scroll_cases stepped with ⟨-, rfl⟩ | ⟨-, swiped⟩
      · rfl
      · cases swiped with
        | centred middle followed => rfl
        | opened opened prepared _ => exact prepared.currIndex
        | switched opened prepared switches => cases stays.symm.trans switches
  | endDecelerating =>
      cases stepped
      rw [endDecelerating_of_none stays]
  | downloaded number download =>
      rcases cycling.downloaded_cases stepped with rfl | ⟨view, imageURL, block⟩
      · rfl
      · exact block.samePlace.currIndex

/-! ## The page -/

theorem Cycling.single (cycling : Cycling dataSources browser) (single : dataSources.length ≤ 1) :
    browser.currentPage = browser.currIndex := by
  rw [cycling.aligned.single single]
  rcases cycling.safe with sound | ⟨-, idle⟩
  · obtain ⟨lower, upper⟩ := sound.curr.bounds
    omega
  · exact idle.currIndex.symm

/-- The page control keeps within its pages, and the index is one of them. -/
theorem Cycling.follows (cycling : Cycling dataSources browser)
    (told : browser.currentPage = (browser.setCurrentPage browser.currIndex).currentPage) :
    browser.currentPage = browser.currIndex := by
  by_cases single : dataSources.length ≤ 1
  · exact cycling.single single
  · have nonempty : dataSources ≠ [] := List.ne_nil_of_length_pos (by omega)
    obtain ⟨⟨lower, upper⟩, -⟩ := cycling.inside nonempty
    rw [told]
    apply setCurrentPage_inside lower
    rw [cycling.aligned.pages]
    exact upper

theorem Cycling.pageFollows (cycling : Cycling dataSources browser) (wide : 0 < browser.width)
    {valid : String → Bool} {event : PhotoBrowerEvent} {after : RSPhotoBrower}
    (stepped : browser.step valid event = some after) (cyclingAfter : Cycling dataSources after)
    (moves : isScroll event = true ∨ switchesAt browser event ≠ none)
    (middle : after.contentOffset = after.width * 2 ∨ dataSources.length ≤ 1) :
    after.currentPage = after.currIndex := by
  by_cases single : dataSources.length ≤ 1
  · exact cyclingAfter.single single
  have centred := middle.resolve_right single
  apply cyclingAfter.follows
  cases event with
  | layout bounds => simp [isScroll, switchesAt] at moves
  | scrolled offset atOnce =>
      rcases cycling.scroll_cases stepped with ⟨unsized, -⟩ | ⟨-, swiped⟩
      · exact absurd unsized (cycling.aligned.sized (not_le.mp single) wide)
      · cases swiped with
        | centred offsetMiddle followed =>
            rw [followed wide]
            rfl
        | opened opened prepared stays =>
            rw [prepared.contentOffset, prepared.width] at centred
            exact absurd centred prepared.aside
        | @switched loaded opened prepared switches => exact changeToNext_currentPage loaded
  | endDecelerating =>
      cases stepped
      obtain ⟨switch, switches⟩ := Option.ne_none_iff_exists'.mp (moves.resolve_left Bool.false_ne_true)
      rw [(endDecelerating_of_switch switches).2]
      exact changeToNext_currentPage browser
  | downloaded number download => simp [isScroll, switchesAt] at moves

/-! ## Every run -/

def Wide (state : Option RSPhotoBrower) : Prop := ∀ browser ∈ state, 0 < browser.width

theorem carousel_goes_round (valid : String → Bool) (atOnce : Option SDDownload) (dataSources : List String)
    (bounds : ℚ) (events : List PhotoBrowerEvent) :
    EveryState (advance valid) (fun state => state.isSome)
        (setDataSources valid atOnce dataSources bounds {}) events ∧
      EveryStep (advance valid) (fun state event => IndexStays valid state event ∧
          (dataSources ≠ [] → Wide state → IndexTurns valid dataSources.length state event) ∧
          (Wide state → PageFollows valid dataSources.length state event))
        (setDataSources valid atOnce dataSources bounds {}) events := by
  have states := everyState_of_invariant (cyclingIn_advance valid)
    (cyclingIn_setDataSources valid atOnce dataSources bounds) events
  constructor
  · apply states.mono
    rintro state ⟨browser, rfl, cycling⟩
    rfl
  · apply everyStep_of_everyState _ states (everyStep_true _ events)
    rintro state event ⟨browser, rfl, cycling⟩ -
    refine ⟨?_, ?_, ?_⟩
    · rintro before ⟨⟩ after stepped stays
      exact cycling.indexStays stepped stays
    · rintro nonempty wide before ⟨⟩ after stepped switch switches
      exact cycling.indexTurns nonempty (wide browser rfl) stepped switches
    · rintro wide before ⟨⟩ after stepped moves middle
      obtain ⟨reached, stepsTo, cyclingAfter⟩ := cyclingIn_advance valid (some browser) event ⟨browser, rfl, cycling⟩
      cases Option.some.inj (stepsTo.symm.trans stepped)
      exact cycling.pageFollows (wide browser rfl) stepped cyclingAfter moves middle

/-- The scroll view is not told of where it is scrolled while it has no width, and the index of an array
without pictures cannot move. -/
theorem carousel_without_width :
    ¬EveryStep (advance fun _ => true) (IndexTurns (fun _ => true) 2)
        (setDataSources (fun _ => true) none ["sea", "hill"] 0 {}) [.scrolled 100 none, .endDecelerating] ∧
      ¬EveryStep (advance fun _ => true) (PageFollows (fun _ => true) 2)
        (setDataSources (fun _ => true) none ["sea", "hill"] 320 {})
        [.scrolled 400 none, .layout 0, .scrolled 0 none] ∧
      ¬EveryStep (advance fun _ => true) (IndexTurns (fun _ => true) 0)
        (setDataSources (fun _ => true) none [] 320 {}) [.layout 320, .scrolled 900 none, .endDecelerating] := by
  refine ⟨?_, ?_, ?_⟩
  · rintro ⟨-, turns, -⟩
    revert turns
    decide +kernel
  · rintro ⟨-, -, follows, -⟩
    revert follows
    decide +kernel
  · rintro ⟨-, -, turns, -⟩
    revert turns
    decide +kernel

end RealSocial.Proof
