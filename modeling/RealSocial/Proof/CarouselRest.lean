import Mathlib.Tactic.Linarith
import RealSocial.Proof.Carousel
import RealSocial.System.CarouselRuns

namespace RealSocial.Proof

open Library CarouselRun

/-! # What a photo browser shows at rest -/

variable {dataSources : List String}

/-! ## What a block changes -/

theorem Block.gray_curr {browser after : RSPhotoBrower} {view : RSPhotoBrowerView} {imageURL : Option NSURL}
    {download : SDDownload} (block : Block browser view imageURL download after)
    (gray : after.currImageView = .gray) : browser.currImageView = .gray := by
  cases block with
  | ignored found other => exact gray
  | curr found => cases gray
  | back found apart => exact gray
  | both found same => cases gray

theorem Block.gray_back {browser after : RSPhotoBrower} {view : RSPhotoBrowerView} {imageURL : Option NSURL}
    {download : SDDownload} (block : Block browser view imageURL download after)
    (gray : after.backImageView = .gray) : browser.backImageView = .gray := by
  cases block with
  | ignored found other => exact gray
  | curr found => exact gray
  | back found apart => cases gray
  | both found same => cases gray

/-- The image of the picture that the back view is for sets it. -/
theorem Block.loads_back {browser after : RSPhotoBrower} {url : NSURL}
    (block : Block browser .backImageView (some url) .image after)
    (found : NSArray.objectAtIndex browser.dataSources browser.nextIndex = some url) :
    after.backImageView ≠ .gray := by
  cases block with
  | ignored shown other =>
      cases found.symm.trans shown
      exact absurd ⟨rfl, rfl⟩ other
  | back shown apart => exact UIImage.noConfusion
  | both shown same => exact UIImage.noConfusion

/-- The current picture is set by the block of its own view, and by that of the back view too where the two
indices are the same. -/
theorem Block.loads_curr {browser after : RSPhotoBrower} {view : RSPhotoBrowerView} {url : NSURL}
    (block : Block browser view (some url) .image after)
    (found : NSArray.objectAtIndex browser.dataSources browser.currIndex = some url)
    (shown : shownIndex view browser = browser.currIndex) : after.currImageView ≠ .gray := by
  cases block with
  | ignored foundShown other =>
      rw [shown] at foundShown
      cases found.symm.trans foundShown
      exact absurd ⟨rfl, rfl⟩ other
  | curr foundCurr => exact UIImage.noConfusion
  | back foundBack apart => exact absurd shown.symm apart
  | both foundBack same => exact UIImage.noConfusion

theorem Block.keeps_curr {browser after : RSPhotoBrower} {view : RSPhotoBrowerView} {imageURL : Option NSURL}
    {download : SDDownload} (block : Block browser view imageURL download after)
    (apart : browser.currIndex ≠ browser.nextIndex)
    (other : view = .currImageView →
      ∀ url, imageURL = some url → NSArray.objectAtIndex browser.dataSources browser.currIndex ≠ some url) :
    after.currImageView = browser.currImageView := by
  cases block with
  | ignored found otherUrl => rfl
  | curr found => exact absurd found (other rfl _ rfl)
  | back found apart => rfl
  | both found same => exact absurd same apart

/-! ## Where the view of the current picture is -/

theorem positive_width {browser : RSPhotoBrower} (framed : Framed browser)
    (scrolls : scrollable browser = true) :
    browser.currImageViewX = browser.width * 2 ∧ 0 < browser.width := by
  obtain ⟨several, wide⟩ := Bool.and_eq_true_iff.mp scrolls
  obtain ⟨middle, size⟩ := framed (of_decide_eq_true several)
  have wider := of_decide_eq_true wide
  rw [size] at wider
  apply And.intro middle
  linarith

/-! ## The downloads that are still to come -/

/-- A gray current picture is on its way where the last swipe led to it; and so is a gray picture of the back
view, unless the browser is centred. -/
structure Fetching (carousel : CarouselRun) : Prop where
  curr : carousel.browser.currImageView = .gray → carousel.browser.currIndex = carousel.browser.nextIndex →
    ∃ view, Awaits view carousel.browser.currIndex carousel
  back : carousel.browser.backImageView = .gray →
    Awaits .backImageView carousel.browser.nextIndex carousel ∨
      carousel.browser.contentOffset = carousel.browser.currImageViewX

def HasBadUrl (carousel : CarouselRun) : Prop := ∃ view, (view, none) ∈ carousel.browser.downloads

structure Fetches (dataSources : List String) (carousel : CarouselRun) : Prop where
  sound : Sound dataSources carousel.browser
  framed : Framed carousel.browser
  delivered : ∀ number ∈ carousel.delivered,
    ∃ view url, carousel.browser.downloads[number]? = some (view, some url)
  fetching : HasBadUrl carousel ∨ Fetching carousel

theorem mem_imageOf {browser : RSPhotoBrower} {number m : Nat} :
    m ∈ imageOf browser number ↔
      m = number ∧ ∃ view url, browser.downloads[number]? = some (view, some url) := by
  unfold imageOf
  rcases browser.downloads[number]? with _ | ⟨view, _ | url⟩
  · simp
  · simp
  · simp

theorem awaits_not_allDelivered {view : RSPhotoBrowerView} {index : Int} {carousel : CarouselRun}
    (awaits : Awaits view index carousel) : ¬AllDelivered carousel := by
  obtain ⟨number, url, there, pending, -⟩ := awaits
  intro all
  exact pending (all number (List.getElem?_eq_some_iff.mp there).1)

theorem Fetches.not_allDelivered {carousel : CarouselRun} (fetches : Fetches dataSources carousel)
    (bad : HasBadUrl carousel) : ¬AllDelivered carousel := by
  obtain ⟨view, member⟩ := bad
  obtain ⟨number, inside, there⟩ := List.getElem_of_mem member
  intro all
  obtain ⟨other, url, known⟩ := fetches.delivered number (all number inside)
  rw [List.getElem?_eq_getElem inside, there] at known
  cases known

/-! ### Blocks -/

def afterEvent (carousel : CarouselRun) (event : PhotoBrowerEvent) (after : RSPhotoBrower) : CarouselRun :=
  { carousel with
    browser := after
    delivered := carousel.delivered ++ imagesIn carousel.browser after event }

theorem mem_imagesIn_downloaded {before after : RSPhotoBrower} {number m : Nat} {download : SDDownload} :
    m ∈ imagesIn before after (.downloaded number download) ↔
      download = .image ∧ m = number ∧ ∃ view url, after.downloads[number]? = some (view, some url) := by
  cases download with
  | image => exact (mem_imageOf).trans (and_iff_right rfl).symm
  | error description =>
      constructor
      · intro member
        cases member
      · intro image
        cases image.1

theorem imagesIn_congr {before after other : RSPhotoBrower} (same : other.downloads = after.downloads)
    (event : PhotoBrowerEvent) : imagesIn before other event = imagesIn before after event := by
  have images : imageOf other = imageOf after := by
    funext number
    unfold imageOf
    rw [same]
  unfold imagesIn
  rw [images]

theorem imageOf_eq_nil {browser : RSPhotoBrower} {number : Nat} (unknown : browser.downloads[number]? = none) :
    imageOf browser number = [] := by
  unfold imageOf
  rw [unknown]

theorem imagesIn_downloaded_eq_nil {before after : RSPhotoBrower} {number : Nat}
    (unknown : after.downloads[number]? = none) (download : SDDownload) :
    imagesIn before after (.downloaded number download) = [] := by
  cases download with
  | image => exact imageOf_eq_nil unknown
  | error description => rfl

theorem imagesIn_scrolled_eq_nil {before after : RSPhotoBrower} (same : after.downloads = before.downloads)
    (offset : ℚ) (atOnce : Option SDDownload) : imagesIn before after (.scrolled offset atOnce) = [] := by
  have unknown : after.downloads[before.downloads.length]? = none := by
    rw [same]
    exact List.getElem?_eq_none (Nat.le_refl _)
  cases atOnce with
  | none => rfl
  | some download =>
      cases download with
      | image => exact imageOf_eq_nil unknown
      | error description => rfl

/-- What is awaited is still awaited after a block, or the block has brought it. -/
theorem awaits_afterBlock {shown view : RSPhotoBrowerView} {imageURL : Option NSURL} {index : Int}
    {carousel : CarouselRun} {after : RSPhotoBrower} {number : Nat} {download : SDDownload}
    (awaits : Awaits shown index carousel)
    (there : carousel.browser.downloads[number]? = some (view, imageURL))
    (block : Block carousel.browser view imageURL download after) :
    Awaits shown index (afterEvent carousel (.downloaded number download) after) ∨
      ∃ url, view = shown ∧ imageURL = some url ∧ download = .image ∧
        NSArray.objectAtIndex carousel.browser.dataSources index = some url := by
  obtain ⟨waiting, url, waits, pending, found⟩ := awaits
  have place := block.samePlace
  by_cases now : download = .image ∧ waiting = number
  · obtain ⟨rfl, rfl⟩ := now
    rw [there] at waits
    cases waits
    exact .inr ⟨url, rfl, rfl, rfl, found⟩
  · refine .inl ⟨waiting, url, ?_, ?_, ?_⟩
    · exact (congrArg (·[waiting]?) place.downloads).trans waits
    · intro delivered
      rcases List.mem_append.mp delivered with before | here
      · exact pending before
      · obtain ⟨image, same, -⟩ := mem_imagesIn_downloaded.mp here
        exact now ⟨image, same⟩
    · exact (congrArg (NSArray.objectAtIndex · index) place.sources).trans found

theorem Fetching.afterBlock {carousel : CarouselRun} (fetching : Fetching carousel) {number : Nat}
    {view : RSPhotoBrowerView} {imageURL : Option NSURL} {download : SDDownload} {after : RSPhotoBrower}
    (there : carousel.browser.downloads[number]? = some (view, imageURL))
    (block : Block carousel.browser view imageURL download after) :
    Fetching (afterEvent carousel (.downloaded number download) after) := by
  have place := block.samePlace
  constructor
  · intro gray same
    dsimp only [afterEvent] at gray same ⊢
    rw [place.currIndex, place.nextIndex] at same
    rw [place.currIndex]
    obtain ⟨shown, awaits⟩ := fetching.curr (block.gray_curr gray) same
    rcases awaits_afterBlock awaits there block with still | ⟨url, rfl, rfl, rfl, found⟩
    · exact ⟨shown, still⟩
    · have own : shownIndex view carousel.browser = carousel.browser.currIndex := by
        cases view with
        | currImageView => rfl
        | backImageView => exact same.symm
      exact absurd gray (block.loads_curr found own)
  · intro gray
    dsimp only [afterEvent] at gray ⊢
    rw [place.nextIndex, place.contentOffset, place.currImageViewX]
    rcases fetching.back (block.gray_back gray) with awaits | centred
    · rcases awaits_afterBlock awaits there block with still | ⟨url, rfl, rfl, rfl, found⟩
      · exact .inl still
      · exact absurd gray (block.loads_back found)
    · exact .inr centred

theorem Fetches.afterBlock {carousel : CarouselRun} (fetches : Fetches dataSources carousel) {number : Nat}
    {view : RSPhotoBrowerView} {imageURL : Option NSURL} {download : SDDownload} {after : RSPhotoBrower}
    (there : carousel.browser.downloads[number]? = some (view, imageURL))
    (block : Block carousel.browser view imageURL download after) :
    Fetches dataSources (afterEvent carousel (.downloaded number download) after) := by
  have place := block.samePlace
  refine ⟨block.sound fetches.sound, place.framed fetches.framed, ?_, ?_⟩
  · intro m member
    dsimp only [afterEvent] at member ⊢
    rcases List.mem_append.mp member with before | here
    · rw [place.downloads]
      exact fetches.delivered m before
    · obtain ⟨-, rfl, known⟩ := mem_imagesIn_downloaded.mp here
      exact known
  · rcases fetches.fetching with ⟨bad, member⟩ | fetching
    · exact .inl ⟨bad, place.downloads ▸ member⟩
    · exact .inr (fetching.afterBlock there block)

/-! ### Opening another picture -/

theorem awaits_congr {view : RSPhotoBrowerView} {index : Int} {carousel other : CarouselRun}
    (awaits : Awaits view index carousel) (sources : other.browser.dataSources = carousel.browser.dataSources)
    (downloads : other.browser.downloads = carousel.browser.downloads)
    (delivered : other.delivered = carousel.delivered) : Awaits view index other := by
  unfold Awaits
  rw [sources, downloads, delivered]
  exact awaits

/-- The back view shows its picture, or its download is on its way. -/
def BackComes (carousel : CarouselRun) : Prop :=
  HasBadUrl carousel ∨
    (carousel.browser.backImageView = .gray → Awaits .backImageView carousel.browser.nextIndex carousel)

theorem Fetches.changeToNext {carousel : CarouselRun} (fetches : Fetches dataSources carousel)
    (comes : BackComes carousel) :
    Fetches dataSources { carousel with browser := carousel.browser.changeToNext } := by
  refine ⟨fetches.sound.changeToNext, fetches.framed.changeToNext, ?_, ?_⟩
  · intro number member
    dsimp only
    rw [changeToNext_downloads]
    exact fetches.delivered number member
  · rcases comes with ⟨bad, member⟩ | comes
    · apply Or.inl
      refine ⟨bad, ?_⟩
      dsimp only
      rw [changeToNext_downloads]
      exact member
    · apply Or.inr
      have still : carousel.browser.backImageView = .gray →
          Awaits .backImageView carousel.browser.nextIndex
            { carousel with browser := carousel.browser.changeToNext } := by
        intro gray
        exact awaits_congr (comes gray) (changeToNext_sources _) (changeToNext_downloads _) rfl
      constructor
      · intro gray _
        dsimp only at gray ⊢
        rw [changeToNext_currImageView] at gray
        rw [changeToNext_currIndex]
        exact ⟨_, still gray⟩
      · intro gray
        dsimp only at gray ⊢
        rw [changeToNext_backImageView] at gray
        rw [changeToNext_nextIndex]
        exact .inl (still gray)

def opening (valid : String → Bool) (offset : ℚ) (page index : Int) (imgUrl : String)
    (carousel : CarouselRun) : CarouselRun :=
  { carousel with browser := cleared valid page index imgUrl { carousel.browser with contentOffset := offset } }

theorem opening_download (valid : String → Bool) (offset : ℚ) (page index : Int) (imgUrl : String)
    (carousel : CarouselRun) :
    (opening valid offset page index imgUrl carousel).browser.downloads[carousel.browser.downloads.length]? =
      some (.backImageView, RSPhotoBrower.urlWithString valid imgUrl) :=
  List.getElem?_concat_length

theorem awaits_opening {carousel : CarouselRun} (fetches : Fetches dataSources carousel)
    {valid : String → Bool} {imgUrl : String} (text : valid imgUrl = true) (offset : ℚ) (page : Int)
    {index : Int} (found : NSArray.objectAtIndex carousel.browser.dataSources index = some imgUrl) :
    Awaits .backImageView index (opening valid offset page index imgUrl carousel) := by
  refine ⟨carousel.browser.downloads.length, imgUrl, ?_, ?_, found⟩
  · rw [opening_download, RSPhotoBrower.urlWithString, if_pos text]
  · intro before
    obtain ⟨view, url, there⟩ := fetches.delivered _ before
    exact (List.getElem?_eq_some_iff.mp there).1.ne rfl

theorem hasBadUrl_opening {valid : String → Bool} {imgUrl : String} (other : ¬valid imgUrl = true)
    (offset : ℚ) (page index : Int) (carousel : CarouselRun) :
    HasBadUrl (opening valid offset page index imgUrl carousel) := by
  have there := opening_download valid offset page index imgUrl carousel
  rw [RSPhotoBrower.urlWithString, if_neg other] at there
  exact ⟨.backImageView, List.mem_of_getElem? there⟩

theorem Fetches.opening {carousel : CarouselRun} (fetches : Fetches dataSources carousel)
    (valid : String → Bool) (offset : ℚ) (page : Int) {index : Int} {imgUrl : String}
    (found : NSArray.objectAtIndex carousel.browser.dataSources index = some imgUrl) :
    Fetches dataSources (opening valid offset page index imgUrl carousel) ∧
      BackComes (opening valid offset page index imgUrl carousel) := by
  have sound : Sound dataSources (Proof.opening valid offset page index imgUrl carousel).browser :=
    (fetches.sound.offset offset).cleared valid page found
  have delivered : ∀ number ∈ (Proof.opening valid offset page index imgUrl carousel).delivered,
      ∃ view url, (Proof.opening valid offset page index imgUrl carousel).browser.downloads[number]? =
        some (view, some url) := by
    intro number member
    obtain ⟨view, url, there⟩ := fetches.delivered number member
    exact ⟨view, url, List.getElem?_append_left (List.getElem?_eq_some_iff.mp there).1 ▸ there⟩
  by_cases text : valid imgUrl = true
  · have awaits := awaits_opening fetches text offset page found
    refine ⟨⟨sound, fetches.framed, delivered, .inr ?_⟩, .inr fun _ => awaits⟩
    constructor
    · intro _ same
      exact ⟨.backImageView, same.symm ▸ awaits⟩
    · intro _
      exact .inl awaits
  · have bad := hasBadUrl_opening text offset page index carousel
    exact ⟨⟨sound, fetches.framed, delivered, .inl bad⟩, .inl bad⟩

theorem BackComes.afterBlock {carousel : CarouselRun} (comes : BackComes carousel) {number : Nat}
    {imageURL : Option NSURL} {download : SDDownload} {after : RSPhotoBrower}
    (there : carousel.browser.downloads[number]? = some (.backImageView, imageURL))
    (block : Block carousel.browser .backImageView imageURL download after) :
    BackComes (afterEvent carousel (.downloaded number download) after) := by
  have place := block.samePlace
  rcases comes with ⟨bad, member⟩ | comes
  · exact .inl ⟨bad, place.downloads ▸ member⟩
  · apply Or.inr
    intro gray
    dsimp only [afterEvent] at gray ⊢
    rw [place.nextIndex]
    rcases awaits_afterBlock (comes (block.gray_back gray)) there block with still | ⟨url, -, rfl, rfl, found⟩
    · exact still
    · exact absurd gray (block.loads_back found)

theorem Opened.fetches {valid : String → Bool} {atOnce : Option SDDownload} {offset : ℚ}
    {carousel : CarouselRun} {after : RSPhotoBrower} (fetches : Fetches dataSources carousel)
    (opened : Opened valid { carousel.browser with contentOffset := offset } atOnce after) :
    Fetches dataSources (afterEvent carousel (.scrolled offset atOnce) after) ∧
      BackComes (afterEvent carousel (.scrolled offset atOnce) after) := by
  cases opened with
  | @waits page index imgUrl found =>
      have quiet : afterEvent carousel (.scrolled offset none)
          (cleared valid page index imgUrl { carousel.browser with contentOffset := offset }) =
            opening valid offset page index imgUrl carousel := by
        simp [afterEvent, Proof.opening, imagesIn]
      rw [quiet]
      exact fetches.opening valid offset page found
  | @answered page index imgUrl download after found block =>
      obtain ⟨fetchesCleared, comes⟩ := fetches.opening valid offset page found
      have there := opening_download valid offset page index imgUrl carousel
      have answered : afterEvent carousel (.scrolled offset (some download)) after =
          afterEvent (opening valid offset page index imgUrl carousel)
            (.downloaded carousel.browser.downloads.length download) after := by
        cases download with
        | image => rfl
        | error description => rfl
      rw [answered]
      exact ⟨fetchesCleared.afterBlock there block, comes.afterBlock there block⟩

/-! ### The steps keep the downloads coming -/

theorem Fetches.sameViews {carousel : CarouselRun} (fetches : Fetches dataSources carousel)
    {after : RSPhotoBrower} (views : SameViews carousel.browser after) (framed : Framed after)
    (downloads : after.downloads = carousel.browser.downloads)
    (centred : after.contentOffset = after.currImageViewX) :
    Fetches dataSources { carousel with browser := after } := by
  refine ⟨fetches.sound.sameViews views, framed, ?_, ?_⟩
  · intro number member
    dsimp only
    rw [downloads]
    exact fetches.delivered number member
  · rcases fetches.fetching with ⟨bad, member⟩ | fetching
    · exact .inl ⟨bad, downloads ▸ member⟩
    · refine .inr ⟨?_, fun _ => .inr centred⟩
      intro gray same
      dsimp only at gray same ⊢
      rw [views.curr] at gray
      rw [views.currIndex, views.nextIndex] at same
      rw [views.currIndex]
      obtain ⟨view, awaits⟩ := fetching.curr gray same
      exact ⟨view, awaits_congr awaits views.sources downloads rfl⟩

theorem Fetches.scrolled {carousel : CarouselRun} (fetches : Fetches dataSources carousel)
    (scrolls : scrollable carousel.browser = true) (valid : String → Bool) (offset : ℚ)
    (atOnce : Option SDDownload) :
    ∃ after, carousel.browser.step valid (.scrolled offset atOnce) = some after ∧
      Fetches dataSources (afterEvent carousel (.scrolled offset atOnce) after) := by
  obtain ⟨middle, wide⟩ := positive_width fetches.framed scrolls
  have sized : carousel.browser.contentSize ≠ 0 := by
    have wider := of_decide_eq_true (Bool.and_eq_true_iff.mp scrolls).2
    exact (wide.trans wider).ne'
  obtain ⟨after, scroll, swiped⟩ := swiped_scrollViewDidScroll (fetches.sound.offset offset) sized valid atOnce
  refine ⟨after, scroll, ?_⟩
  cases swiped.scrolled with
  | centred page here =>
      have quiet : imagesIn carousel.browser
          (RSPhotoBrower.setCurrentPage page { carousel.browser with contentOffset := offset })
          (.scrolled offset atOnce) = [] := imagesIn_scrolled_eq_nil rfl offset atOnce
      unfold afterEvent
      rw [quiet, List.append_nil]
      exact fetches.sameViews ⟨rfl, rfl, rfl, rfl, rfl⟩ fetches.framed rfl (here.trans middle.symm)
  | opened opened => exact (opened.fetches fetches).1
  | @moved loaded opened =>
      obtain ⟨fetchesLoaded, comes⟩ := opened.fetches fetches
      unfold afterEvent
      rw [imagesIn_congr (changeToNext_downloads loaded)]
      exact fetchesLoaded.changeToNext comes

theorem Fetches.endDecelerating {carousel : CarouselRun} (fetches : Fetches dataSources carousel)
    (scrolls : scrollable carousel.browser = true) :
    Fetches dataSources { carousel with browser := carousel.browser.scrollViewDidEndDecelerating } := by
  obtain ⟨-, wide⟩ := positive_width fetches.framed scrolls
  unfold RSPhotoBrower.scrollViewDidEndDecelerating
  dsimp only
  split_ifs with near
  · exact fetches
  · apply fetches.changeToNext
    rcases fetches.fetching with bad | fetching
    · exact .inl bad
    · apply Or.inr
      intro gray
      apply (fetching.back gray).resolve_right
      intro centred
      rw [centred, sub_self] at near
      apply near
      constructor
      · linarith
      · linarith

theorem Fetches.downloaded {carousel : CarouselRun} (fetches : Fetches dataSources carousel)
    (valid : String → Bool) (number : Nat) (download : SDDownload) :
    ∃ after, carousel.browser.step valid (.downloaded number download) = some after ∧
      Fetches dataSources (afterEvent carousel (.downloaded number download) after) := by
  cases there : carousel.browser.downloads[number]? with
  | none =>
      refine ⟨carousel.browser, step_unknown there valid download, ?_⟩
      unfold afterEvent
      rw [imagesIn_downloaded_eq_nil there, List.append_nil]
      exact fetches
  | some started =>
      obtain ⟨view, imageURL⟩ := started
      obtain ⟨after, stepped, block⟩ := step_downloaded fetches.sound there valid download
      exact ⟨after, stepped, fetches.afterBlock there block⟩

theorem Fetches.browser {carousel : CarouselRun} (fetches : Fetches dataSources carousel)
    (valid : String → Bool) (event : PhotoBrowerEvent) (reaches : reachesBrowser carousel.browser event = true) :
    ∃ after, carousel.browser.step valid event = some after ∧
      Fetches dataSources (afterEvent carousel event after) := by
  cases event with
  | layout bounds =>
      have laid := laidOut_layoutSubviews bounds carousel.browser
      refine ⟨_, rfl, ?_⟩
      unfold afterEvent imagesIn
      rw [List.append_nil]
      exact fetches.sameViews laid.views laid.framed laid.downloads laid.centred
  | scrolled offset atOnce => exact fetches.scrolled reaches valid offset atOnce
  | endDecelerating =>
      refine ⟨_, rfl, ?_⟩
      unfold afterEvent imagesIn
      rw [List.append_nil]
      exact fetches.endDecelerating reaches
  | downloaded number download => exact fetches.downloaded valid number download

theorem Fetches.dragged {carousel : CarouselRun} (fetches : Fetches dataSources carousel) (dragging : Bool) :
    Fetches dataSources { carousel with dragging } := by
  refine ⟨fetches.sound, fetches.framed, fetches.delivered, ?_⟩
  rcases fetches.fetching with bad | fetching
  · exact .inl bad
  · exact .inr ⟨fetching.curr, fetching.back⟩

def FetchesIn (dataSources : List String) (state : Option CarouselRun) : Prop :=
  ∃ carousel, state = some carousel ∧ Fetches dataSources carousel

theorem fetchesIn_advance (valid : String → Bool) (state : Option CarouselRun) (event : CarouselEvent)
    (fetches : FetchesIn dataSources state) : FetchesIn dataSources (advance valid state event) := by
  obtain ⟨carousel, rfl, fetches⟩ := fetches
  change FetchesIn dataSources (CarouselRun.step valid carousel event)
  cases event with
  | browser event =>
      unfold CarouselRun.step
      dsimp only
      split_ifs with reaches
      · obtain ⟨after, stepped, fetchesAfter⟩ := fetches.browser valid event reaches
        rw [stepped]
        exact ⟨_, rfl, fetchesAfter⟩
      · exact ⟨carousel, rfl, fetches⟩
  | willBeginDragging => exact ⟨_, rfl, fetches.dragged true⟩
  | didEndDragging => exact ⟨_, rfl, fetches.dragged false⟩

/-! ### The start -/

theorem fetches_opened (valid : String → Bool) {url : String}
    (found : NSArray.objectAtIndex dataSources 0 = some url) :
    Fetches dataSources { browser := opened valid dataSources url } := by
  refine ⟨sound_opened valid found, ?_, ?_, ?_⟩
  · intro _
    exact ⟨(zero_mul 2).symm, (zero_mul 5).symm⟩
  · intro number member
    cases member
  · by_cases text : valid url = true
    · refine .inr ⟨fun _ _ => ⟨.currImageView, 0, url, ?_, List.not_mem_nil, found⟩, fun _ => .inr rfl⟩
      simp [opened, RSPhotoBrower.urlWithString, text]
    · refine .inl ⟨.currImageView, ?_⟩
      simp [opened, RSPhotoBrower.urlWithString, text]

theorem Fetches.shown {carousel : CarouselRun} (fetches : Fetches dataSources carousel) (bounds : ℚ) :
    Fetches dataSources
      { carousel with
        browser := RSPhotoBrower.layoutSubviews bounds
          { carousel.browser with numberOfPages := carousel.browser.dataSources.length } } := by
  have paged : SameViews carousel.browser
      { carousel.browser with numberOfPages := carousel.browser.dataSources.length } := ⟨rfl, rfl, rfl, rfl, rfl⟩
  have laid := laidOut_layoutSubviews bounds
    { carousel.browser with numberOfPages := carousel.browser.dataSources.length }
  exact fetches.sameViews (paged.trans laid.views) laid.framed laid.downloads laid.centred

theorem fetchesIn_start (valid : String → Bool) (atOnce : Option SDDownload) (nonempty : dataSources ≠ [])
    (bounds : ℚ) : FetchesIn dataSources (start valid atOnce dataSources bounds) := by
  obtain ⟨url, loaded, found, answered, started⟩ := setDataSources_opened valid atOnce nonempty bounds
  have fetches := fetches_opened valid found
  unfold start
  rw [started]
  cases atOnce with
  | none =>
      obtain rfl : loaded = opened valid dataSources url := answered
      exact ⟨_, rfl, fetches.shown bounds⟩
  | some download =>
      have shown := (fetches.afterBlock List.getElem?_cons_zero answered).shown bounds
      have laid := laidOut_layoutSubviews bounds { loaded with numberOfPages := loaded.dataSources.length }
      refine ⟨_, rfl, ?_⟩
      convert shown using 1
      rw [CarouselRun.mk.injEq]
      refine ⟨rfl, ?_, rfl⟩
      cases download with
      | image => simp [afterEvent, imagesIn, imageOf, laid.downloads]
      | error description => rfl

/-! ## What is shown when everything has been delivered -/

theorem delivery {carousel : CarouselRun} (fetches : Fetches dataSources carousel) (valid : String → Bool)
    {number : Nat} {view : RSPhotoBrowerView} {imageURL : Option NSURL}
    (there : carousel.browser.downloads[number]? = some (view, imageURL)) :
    ∃ after, advance valid (some carousel) (.browser (.downloaded number .image)) =
        some (afterEvent carousel (.downloaded number .image) after) ∧
      Block carousel.browser view imageURL .image after := by
  obtain ⟨after, stepped, block⟩ := step_downloaded fetches.sound there valid .image
  exact ⟨after, congrArg (Option.map _) stepped, block⟩

/-- A gray current picture that is not already lost. -/
def Hopeful (carousel : CarouselRun) : Prop :=
  carousel.browser.currImageView = .gray →
    carousel.browser.currIndex = carousel.browser.nextIndex ∨
      Awaits .currImageView carousel.browser.currIndex carousel ∨ HasBadUrl carousel

theorem Hopeful.afterBlock {carousel : CarouselRun} (hopeful : Hopeful carousel) {number : Nat}
    {view : RSPhotoBrowerView} {imageURL : Option NSURL} {download : SDDownload} {after : RSPhotoBrower}
    (there : carousel.browser.downloads[number]? = some (view, imageURL))
    (block : Block carousel.browser view imageURL download after) :
    Hopeful (afterEvent carousel (.downloaded number download) after) := by
  have place := block.samePlace
  intro gray
  dsimp only [afterEvent] at gray ⊢
  rw [place.currIndex, place.nextIndex]
  rcases hopeful (block.gray_curr gray) with same | awaits | ⟨bad, member⟩
  · exact .inl same
  · rcases awaits_afterBlock awaits there block with still | ⟨url, rfl, rfl, rfl, found⟩
    · exact .inr (.inl still)
    · exact absurd gray (block.loads_curr found rfl)
  · exact .inr (.inr ⟨bad, place.downloads ▸ member⟩)

def HopefulIn (dataSources : List String) (state : Option CarouselRun) : Prop :=
  ∃ carousel, state = some carousel ∧ Fetches dataSources carousel ∧ Hopeful carousel

theorem hopefulIn_advance (valid : String → Bool) (state : Option CarouselRun) (event : CarouselEvent)
    (hopeful : HopefulIn dataSources state) (delivered : ∃ number, event = .browser (.downloaded number .image)) :
    HopefulIn dataSources (advance valid state event) := by
  obtain ⟨carousel, rfl, fetches, hopeful⟩ := hopeful
  obtain ⟨number, rfl⟩ := delivered
  cases there : carousel.browser.downloads[number]? with
  | none =>
      have quiet : advance valid (some carousel) (.browser (.downloaded number .image)) = some carousel := by
        have stepped := step_unknown there valid .image
        simp [advance, CarouselRun.step, reachesBrowser, stepped, imagesIn_downloaded_eq_nil there]
      rw [quiet]
      exact ⟨carousel, rfl, fetches, hopeful⟩
  | some started =>
      obtain ⟨after, stepped, block⟩ := delivery fetches valid there
      rw [stepped]
      exact ⟨_, rfl, fetches.afterBlock there block, hopeful.afterBlock there block⟩

theorem Fetches.showsCurrent {carousel : CarouselRun} (fetches : Fetches dataSources carousel)
    (hopeful : Hopeful carousel) (all : AllDelivered carousel) : ShowsCurrent carousel := by
  obtain ⟨url, found, gray | loaded⟩ := fetches.sound.curr
  · exfalso
    rcases hopeful gray with same | awaits | bad
    · rcases fetches.fetching with bad | fetching
      · exact fetches.not_allDelivered bad all
      · obtain ⟨view, awaits⟩ := fetching.curr gray same
        exact awaits_not_allDelivered awaits all
    · exact awaits_not_allDelivered awaits all
    · exact fetches.not_allDelivered bad all
  · exact ⟨url, fetches.sound.sources ▸ found, loaded⟩

theorem SamePlace.trans {first second third : RSPhotoBrower} (here : SamePlace first second)
    (next : SamePlace second third) : SamePlace first third where
  sources := next.sources.trans here.sources
  currIndex := next.currIndex.trans here.currIndex
  nextIndex := next.nextIndex.trans here.nextIndex
  downloads := next.downloads.trans here.downloads
  width := next.width.trans here.width
  contentSize := next.contentSize.trans here.contentSize
  contentOffset := next.contentOffset.trans here.contentOffset
  currImageViewX := next.currImageViewX.trans here.currImageViewX

/-- No block among these downloads sets the current view to the current picture. -/
def Misses (carousel : CarouselRun) (numbers : List Nat) : Prop :=
  ∀ number ∈ numbers, ∀ url, carousel.browser.downloads[number]? = some (.currImageView, some url) →
    NSArray.objectAtIndex carousel.browser.dataSources carousel.browser.currIndex ≠ some url

/-- After a swipe that turned back the placeholder stays, whatever is delivered. -/
theorem stays_gray (valid : String → Bool) {carousel : CarouselRun} (fetches : Fetches dataSources carousel)
    (gray : carousel.browser.currImageView = .gray)
    (apart : carousel.browser.currIndex ≠ carousel.browser.nextIndex) {numbers : List Nat}
    (misses : Misses carousel numbers)
    (started : ∀ number ∈ numbers, ∃ view url, carousel.browser.downloads[number]? = some (view, some url)) :
    ∃ after, run (advance valid) (some carousel) (deliveries numbers) = some after ∧
      SamePlace carousel.browser after.browser ∧ after.browser.currImageView = .gray ∧
        after.delivered = carousel.delivered ++ numbers := by
  induction numbers generalizing carousel with
  | nil =>
      exact ⟨carousel, rfl, ⟨rfl, rfl, rfl, rfl, rfl, rfl, rfl, rfl⟩, gray, (List.append_nil _).symm⟩
  | cons number numbers ih =>
      obtain ⟨⟨view, url, there⟩, rest⟩ := List.forall_mem_cons.mp started
      obtain ⟨missed, missesRest⟩ := List.forall_mem_cons.mp misses
      obtain ⟨next, stepped, block⟩ := delivery fetches valid there
      have place := block.samePlace
      have delivered : (afterEvent carousel (.downloaded number .image) next).delivered = carousel.delivered ++ [number] := by
        simp [afterEvent, imagesIn, imageOf, place.downloads, there]
      have grayNext : next.currImageView = .gray := by
        rw [block.keeps_curr apart]
        · exact gray
        · rintro rfl other same
          cases same
          exact missed url there
      have apartNext : next.currIndex ≠ next.nextIndex := by
        rw [place.currIndex, place.nextIndex]
        exact apart
      have missesNext : Misses (afterEvent carousel (.downloaded number .image) next) numbers := by
        unfold Misses
        dsimp only [afterEvent]
        rw [place.downloads, place.sources, place.currIndex]
        exact missesRest
      have restNext : ∀ number ∈ numbers, ∃ view url,
          (afterEvent carousel (.downloaded number .image) next).browser.downloads[number]? = some (view, some url) := by
        dsimp only [afterEvent]
        rw [place.downloads]
        exact rest
      obtain ⟨after, reached, samePlace, grayAfter, all⟩ :=
        ih (fetches.afterBlock there block) grayNext apartNext missesNext restNext
      refine ⟨after, ?_, place.trans samePlace, grayAfter, ?_⟩
      · exact (congrArg (run (advance valid) · (deliveries numbers)) stepped).trans reached
      · rw [all, delivered, List.append_assoc, List.singleton_append]

theorem eventualPicture_of_noTurnBack (valid : String → Bool) {carousel : CarouselRun}
    (fetches : Fetches dataSources carousel) (noTurnBack : NoTurnBack carousel) :
    EventualPicture valid carousel := by
  intro rest numbers
  have hopeful : HopefulIn dataSources (some carousel) := ⟨carousel, rfl, fetches, noTurnBack rest⟩
  have delivered : ∀ event ∈ deliveries numbers, ∃ number, event = .browser (.downloaded number .image) := by
    intro event member
    obtain ⟨number, -, rfl⟩ := List.mem_map.mp member
    exact ⟨number, rfl⟩
  obtain ⟨after, reached, fetchesAfter, hopefulAfter⟩ :=
    run_of_events (hopefulIn_advance valid) hopeful delivered
  exact ⟨after, reached, fetchesAfter.showsCurrent hopefulAfter⟩

theorem noTurnBack_of_eventualPicture (valid : String → Bool) {carousel : CarouselRun}
    (fetches : Fetches dataSources carousel) (eventual : EventualPicture valid carousel) :
    NoTurnBack carousel := by
  intro rest gray
  by_contra lost
  rw [not_or, not_or] at lost
  obtain ⟨apart, nothing, clean⟩ := lost
  -- the order does not matter: every download that is still to come is delivered once
  let numbers := (List.range carousel.browser.downloads.length).filter (· ∉ carousel.delivered)
  have isStarted : ∀ number < carousel.browser.downloads.length,
      ∃ view url, carousel.browser.downloads[number]? = some (view, some url) := by
    intro number inside
    rcases known : carousel.browser.downloads[number] with ⟨view, _ | url⟩
    · exact absurd ⟨view, known ▸ List.getElem_mem inside⟩ clean
    · exact ⟨view, url, known ▸ List.getElem?_eq_getElem inside⟩
  have started : ∀ number ∈ numbers,
      ∃ view url, carousel.browser.downloads[number]? = some (view, some url) := by
    intro number member
    exact isStarted number (List.mem_range.mp (List.mem_filter.mp member).1)
  have misses : Misses carousel numbers := by
    intro number member url there found
    have pending := of_decide_eq_true (List.mem_filter.mp member).2
    exact nothing ⟨number, url, there, pending, found⟩
  obtain ⟨after, reached, place, grayAfter, delivered⟩ :=
    stays_gray valid fetches gray apart misses started
  obtain ⟨other, reachedOther, shows⟩ := eventual rest numbers
  cases reached.symm.trans reachedOther
  obtain ⟨url, -, loaded⟩ := shows <| by
    intro number inside
    rw [place.downloads] at inside
    rw [delivered, List.mem_append]
    by_cases before : number ∈ carousel.delivered
    · exact .inl before
    · exact .inr (List.mem_filter.mpr ⟨List.mem_range.mpr inside, decide_eq_true before⟩)
  cases grayAfter.symm.trans loaded

theorem eventual_picture_iff (valid : String → Bool) (atOnce : Option SDDownload) {dataSources : List String}
    (nonempty : dataSources ≠ []) (bounds : ℚ) (events : List CarouselEvent) :
    EveryState (advance valid) (fun state => ∃ carousel ∈ state, EventualPicture valid carousel)
        (start valid atOnce dataSources bounds) events ↔
      EveryState (advance valid) (fun state => ∀ carousel ∈ state, NoTurnBack carousel)
        (start valid atOnce dataSources bounds) events := by
  have states := everyState_of_invariant (fetchesIn_advance valid)
    (fetchesIn_start valid atOnce nonempty bounds) events
  apply everyState_congr _ states
  intro state fetchesIn
  obtain ⟨carousel, rfl, fetches⟩ := fetchesIn
  constructor
  · intro exists_eventual other member
    obtain ⟨shown, isShown, eventual⟩ := exists_eventual
    cases isShown
    cases member
    exact noTurnBack_of_eventualPicture valid fetches eventual
  · intro noTurnBack
    exact ⟨carousel, rfl, eventualPicture_of_noTurnBack valid fetches (noTurnBack carousel rfl)⟩

-- to the second picture, and from there toward the third and back

def turnedBack : List CarouselEvent :=
  [.willBeginDragging, .browser (.scrolled 960 none), .didEndDragging,
    .willBeginDragging, .browser (.scrolled 700 none), .browser (.scrolled 640 none), .didEndDragging]

theorem eventual_picture_three :
    EveryState (advance fun _ => true) (fun state => ∃ carousel ∈ state, EventualPicture (fun _ => true) carousel)
        (start (fun _ => true) none ["sea", "hill", "lake"] 320) turnedBack ↔
      EveryState (advance fun _ => true) (fun state => ∀ carousel ∈ state, NoTurnBack carousel)
        (start (fun _ => true) none ["sea", "hill", "lake"] 320) turnedBack :=
  eventual_picture_iff (fun _ => true) none (List.cons_ne_nil "sea" ["hill", "lake"]) 320 turnedBack

theorem placeholder_stays_after_turning_back :
    ¬EveryState (advance fun _ => true)
        (fun state => ∃ carousel ∈ state, EventualPicture (fun _ => true) carousel)
        (start (fun _ => true) none ["sea", "hill", "lake"] 320) turnedBack := by
  intro every
  obtain ⟨carousel, reached, eventual⟩ := every.last
  have rests : ∀ carousel ∈ run (advance fun _ => true)
        (start (fun _ => true) none ["sea", "hill", "lake"] 320) turnedBack,
      carousel.browser.contentOffset = carousel.browser.currImageViewX ∧ carousel.dragging = false := by
    decide +kernel
  have lost : ∀ carousel ∈ run (advance fun _ => true)
        (start (fun _ => true) none ["sea", "hill", "lake"] 320) (turnedBack ++ deliveries [0, 1, 2]),
      carousel.browser.downloads.length = 3 ∧ carousel.delivered = [0, 1, 2] ∧
        carousel.browser.currImageView = .gray := by
    decide +kernel
  rw [run_append, reached] at lost
  obtain ⟨after, delivered, shows⟩ := eventual (rests carousel reached) [0, 1, 2]
  obtain ⟨three, all, gray⟩ := lost after delivered
  obtain ⟨url, -, loaded⟩ := shows <| by
    intro number inside
    rw [three] at inside
    rw [all]
    exact List.mem_range.mpr inside
  cases gray.symm.trans loaded

end RealSocial.Proof
