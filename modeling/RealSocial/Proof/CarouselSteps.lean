import Mathlib.Tactic.Linarith
import Mathlib.Tactic.NormNum
import RealSocial.Features.PhotoBrower

namespace RealSocial.Proof

open RSPhotoBrower

/-! # What the callbacks of a photo browser do -/

theorem objectAtIndex_eq_some {α : Type} {array : List α} {index : Int} (lower : 0 ≤ index)
    (upper : index < array.length) : ∃ object, NSArray.objectAtIndex array index = some object := by
  have bound : index.toNat < array.length := by omega
  exact ⟨array[index.toNat], by rw [NSArray.objectAtIndex, if_pos lower, List.getElem?_eq_getElem bound]⟩

theorem moduloCount_eq_some {index : Int} {count : Nat} (nonempty : 0 < count) :
    ∃ next, moduloCount index count = some next ∧ 0 ≤ next ∧ next < count := by
  have nonzero : count ≠ 0 := by omega
  refine ⟨index % count, by rw [moduloCount, if_neg nonzero], ?_, ?_⟩
  · exact Int.emod_nonneg index (by omega)
  · exact Int.emod_lt_of_pos index (by omega)

theorem previousIndex_inside {index count : Int} (inside : 0 ≤ index ∧ index < count) :
    0 ≤ (if index - 1 < 0 then count - 1 else index - 1) ∧
      (if index - 1 < 0 then count - 1 else index - 1) < count := by
  split_ifs
  · omega
  · omega

theorem previousIndex_eq_emod {index count : Int} (inside : 0 ≤ index ∧ index < count) :
    (if index - 1 < 0 then count - 1 else index - 1) = (index - 1) % count := by
  split_ifs with first
  · obtain rfl : index = 0 := by omega
    calc
      count - 1 = (count - 1) % count := (Int.emod_eq_of_lt (by omega) (by omega)).symm
      _ = (0 - 1 + count) % count := congrArg (· % count) (by omega)
      _ = (0 - 1) % count := Int.add_emod_right (0 - 1) count
  · exact (Int.emod_eq_of_lt (by omega) (by omega)).symm

/-! ## Layout, pages and the change to the other view -/

structure SameViews (before after : RSPhotoBrower) : Prop where
  sources : after.dataSources = before.dataSources
  currIndex : after.currIndex = before.currIndex
  nextIndex : after.nextIndex = before.nextIndex
  curr : after.currImageView = before.currImageView
  back : after.backImageView = before.backImageView

theorem SameViews.trans {first second third : RSPhotoBrower} (here : SameViews first second)
    (next : SameViews second third) : SameViews first third where
  sources := next.sources.trans here.sources
  currIndex := next.currIndex.trans here.currIndex
  nextIndex := next.nextIndex.trans here.nextIndex
  curr := next.curr.trans here.curr
  back := next.back.trans here.back

theorem sameViews_centre (browser : RSPhotoBrower) : SameViews browser browser.centre := by
  unfold centre
  simp only
  split_ifs
  · exact ⟨rfl, rfl, rfl, rfl, rfl⟩
  · exact ⟨rfl, rfl, rfl, rfl, rfl⟩

@[simp] theorem centre_width (browser : RSPhotoBrower) : browser.centre.width = browser.width := by
  simp only [centre]
  split_ifs <;> rfl

@[simp] theorem centre_contentSize (browser : RSPhotoBrower) :
    browser.centre.contentSize = browser.contentSize := by
  simp only [centre]
  split_ifs <;> rfl

@[simp] theorem centre_downloads (browser : RSPhotoBrower) :
    browser.centre.downloads = browser.downloads := by
  simp only [centre]
  split_ifs <;> rfl

theorem centre_contentOffset (browser : RSPhotoBrower) :
    browser.centre.contentOffset = browser.width * 2 := by
  simp only [RSPhotoBrower.centre]
  split_ifs
  · rfl
  · rfl

theorem centre_currImageViewX (browser : RSPhotoBrower) :
    browser.centre.currImageViewX = browser.currImageViewX := by
  simp only [RSPhotoBrower.centre]
  split_ifs
  · rfl
  · rfl

theorem centre_numberOfPages (browser : RSPhotoBrower) :
    browser.centre.numberOfPages = browser.numberOfPages := by
  simp only [centre]
  split_ifs
  · rfl
  · rfl

theorem layoutSubviews_several {browser : RSPhotoBrower} (several : browser.dataSources.length > 1)
    (bounds : ℚ) :
    browser.layoutSubviews bounds =
      { ({ browser with width := bounds, contentSize := bounds * 5 } : RSPhotoBrower).centre with
        currImageViewX := bounds * 2 } :=
  if_pos several

theorem layoutSubviews_few {browser : RSPhotoBrower} (few : ¬browser.dataSources.length > 1) (bounds : ℚ) :
    browser.layoutSubviews bounds =
      { browser with width := bounds, contentSize := 0, contentOffset := 0, currImageViewX := 0 } :=
  if_neg few

theorem sameViews_layoutSubviews (bounds : ℚ) (browser : RSPhotoBrower) :
    SameViews browser (browser.layoutSubviews bounds) := by
  by_cases several : browser.dataSources.length > 1
  · rw [layoutSubviews_several several]
    have sized : SameViews browser { browser with width := bounds, contentSize := bounds * 5 } :=
      ⟨rfl, rfl, rfl, rfl, rfl⟩
    have centred := sized.trans (sameViews_centre _)
    exact centred.trans ⟨rfl, rfl, rfl, rfl, rfl⟩
  · rw [layoutSubviews_few several]
    exact ⟨rfl, rfl, rfl, rfl, rfl⟩

/-- With several pictures it is in the middle of a content that is five pages wide. -/
def Framed (browser : RSPhotoBrower) : Prop :=
  browser.dataSources.length > 1 →
    browser.currImageViewX = browser.width * 2 ∧ browser.contentSize = browser.width * 5

structure LaidOut (browser after : RSPhotoBrower) : Prop where
  views : SameViews browser after
  downloads : after.downloads = browser.downloads
  centred : after.contentOffset = after.currImageViewX
  framed : Framed after

theorem laidOut_layoutSubviews (bounds : ℚ) (browser : RSPhotoBrower) :
    LaidOut browser (browser.layoutSubviews bounds) := by
  have views := sameViews_layoutSubviews bounds browser
  by_cases several : browser.dataSources.length > 1
  · rw [layoutSubviews_several several] at views ⊢
    refine ⟨views, centre_downloads _, centre_contentOffset _, ?_⟩
    intro _
    dsimp only
    rw [centre_width, centre_contentSize]
    exact ⟨rfl, rfl⟩
  · rw [layoutSubviews_few several] at views ⊢
    exact ⟨views, rfl, rfl, fun more => absurd more several⟩

theorem changeToNext_currIndex (browser : RSPhotoBrower) :
    browser.changeToNext.currIndex = browser.nextIndex :=
  (sameViews_centre { browser with currImageView := browser.backImageView }).nextIndex

theorem changeToNext_sources (browser : RSPhotoBrower) :
    browser.changeToNext.dataSources = browser.dataSources :=
  (sameViews_centre { browser with currImageView := browser.backImageView }).sources

theorem changeToNext_nextIndex (browser : RSPhotoBrower) :
    browser.changeToNext.nextIndex = browser.nextIndex :=
  (sameViews_centre { browser with currImageView := browser.backImageView }).nextIndex

theorem changeToNext_width (browser : RSPhotoBrower) : browser.changeToNext.width = browser.width :=
  centre_width { browser with currImageView := browser.backImageView }

theorem changeToNext_contentSize (browser : RSPhotoBrower) :
    browser.changeToNext.contentSize = browser.contentSize :=
  centre_contentSize { browser with currImageView := browser.backImageView }

theorem changeToNext_downloads (browser : RSPhotoBrower) :
    browser.changeToNext.downloads = browser.downloads :=
  centre_downloads { browser with currImageView := browser.backImageView }

theorem changeToNext_currImageView (browser : RSPhotoBrower) :
    browser.changeToNext.currImageView = browser.backImageView :=
  (sameViews_centre { browser with currImageView := browser.backImageView }).curr

theorem changeToNext_backImageView (browser : RSPhotoBrower) :
    browser.changeToNext.backImageView = browser.backImageView :=
  (sameViews_centre { browser with currImageView := browser.backImageView }).back

theorem changeToNext_currImageViewX (browser : RSPhotoBrower) :
    browser.changeToNext.currImageViewX = browser.currImageViewX :=
  centre_currImageViewX { browser with currImageView := browser.backImageView }

theorem changeToNext_contentOffset (browser : RSPhotoBrower) :
    browser.changeToNext.contentOffset = browser.width * 2 :=
  centre_contentOffset { browser with currImageView := browser.backImageView }

theorem changeToNext_numberOfPages (browser : RSPhotoBrower) :
    browser.changeToNext.numberOfPages = browser.numberOfPages :=
  centre_numberOfPages { browser with currImageView := browser.backImageView }

theorem changeToNext_currentPage (browser : RSPhotoBrower) :
    browser.changeToNext.currentPage =
      (browser.changeToNext.setCurrentPage browser.changeToNext.currIndex).currentPage := rfl

theorem Framed.changeToNext {browser : RSPhotoBrower} (framed : Framed browser) :
    Framed browser.changeToNext := by
  unfold Framed
  rw [changeToNext_sources, changeToNext_currImageViewX, changeToNext_width, changeToNext_contentSize]
  exact framed

theorem sameViews_setCurrentPage (page : Int) (browser : RSPhotoBrower) :
    SameViews browser (browser.setCurrentPage page) := ⟨rfl, rfl, rfl, rfl, rfl⟩

theorem setCurrentPage_inside {browser : RSPhotoBrower} {page : Int} (lower : 0 ≤ page)
    (upper : page < browser.numberOfPages) : (browser.setCurrentPage page).currentPage = page := by
  change max 0 (min page (browser.numberOfPages - 1)) = page
  omega

theorem setCurrentPage_single {browser : RSPhotoBrower} (single : browser.numberOfPages ≤ 1) (page : Int) :
    (browser.setCurrentPage page).currentPage = 0 := by
  change max 0 (min page (browser.numberOfPages - 1)) = 0
  omega

theorem changeCurrentPageWithOffset_eq_some {browser : RSPhotoBrower}
    (nonempty : 0 < browser.dataSources.length) (offsetX : ℚ) :
    ∃ page, browser.changeCurrentPageWithOffset offsetX = some (browser.setCurrentPage page) := by
  obtain ⟨next, modulo, -, -⟩ := @moduloCount_eq_some (browser.currIndex + 1) _ nonempty
  unfold changeCurrentPageWithOffset
  split_ifs
  · exact ⟨_, rfl⟩
  · exact ⟨next, by rw [modulo]; rfl⟩
  · exact ⟨_, rfl⟩

theorem changeCurrentPageWithOffset_middle {browser : RSPhotoBrower} (wide : 0 < browser.width) :
    browser.changeCurrentPageWithOffset (browser.width * 2) = some (browser.setCurrentPage browser.currIndex) := by
  unfold changeCurrentPageWithOffset
  rw [if_neg (by linarith), if_neg (by linarith)]

/-! ## A browser whose views belong to its indices -/

def Shows (image : UIImage) (dataSources : List String) (index : Int) : Prop :=
  ∃ url, NSArray.objectAtIndex dataSources index = some url ∧ (image = .gray ∨ image = .loaded url)

structure Sound (dataSources : List String) (browser : RSPhotoBrower) : Prop where
  sources : browser.dataSources = dataSources
  curr : Shows browser.currImageView dataSources browser.currIndex
  back : Shows browser.backImageView dataSources browser.nextIndex

theorem Shows.bounds {image : UIImage} {dataSources : List String} {index : Int}
    (shows : Shows image dataSources index) : 0 ≤ index ∧ index < dataSources.length := by
  obtain ⟨url, found, -⟩ := shows
  unfold NSArray.objectAtIndex at found
  split_ifs at found with lower
  obtain ⟨bound, -⟩ := List.getElem?_eq_some_iff.mp found
  omega

variable {dataSources : List String} {browser : RSPhotoBrower}

theorem Sound.sameViews {after : RSPhotoBrower} (sound : Sound dataSources browser)
    (same : SameViews browser after) : Sound dataSources after where
  sources := same.sources.trans sound.sources
  curr := by
    rw [same.curr, same.currIndex]
    exact sound.curr
  back := by
    rw [same.back, same.nextIndex]
    exact sound.back

theorem Sound.offset (sound : Sound dataSources browser) (contentOffset : ℚ) :
    Sound dataSources { browser with contentOffset } := ⟨sound.sources, sound.curr, sound.back⟩

theorem Sound.changeToNext (sound : Sound dataSources browser) : Sound dataSources browser.changeToNext := by
  have same := sameViews_centre { browser with currImageView := browser.backImageView }
  have sources := same.sources.trans sound.sources
  have next : Shows browser.backImageView dataSources browser.nextIndex := sound.back
  refine ⟨sources, ?_, ?_⟩
  · change Shows (centre _).currImageView dataSources (centre _).nextIndex
    rw [same.curr, same.nextIndex]
    exact next
  · change Shows (centre _).backImageView dataSources (centre _).nextIndex
    rw [same.back, same.nextIndex]
    exact next

theorem Sound.endDecelerating (sound : Sound dataSources browser) :
    Sound dataSources browser.scrollViewDidEndDecelerating := by
  unfold scrollViewDidEndDecelerating
  simp only
  split_ifs
  · exact sound
  · exact sound.changeToNext

/-! ## Downloads -/

def shownIndex (view : RSPhotoBrowerView) (browser : RSPhotoBrower) : Int :=
  match view with
  | .currImageView => browser.currIndex
  | .backImageView => browser.nextIndex

/-- The block of a download sets its view, if it brings the picture that the view is for. -/
inductive Block (browser : RSPhotoBrower) :
    RSPhotoBrowerView → Option NSURL → SDDownload → RSPhotoBrower → Prop where
  | ignored {view : RSPhotoBrowerView} {imageURL : Option NSURL} {download : SDDownload} {url : String}
      (found : NSArray.objectAtIndex browser.dataSources (shownIndex view browser) = some url)
      (other : ¬(imageURL = some url ∧ download = .image)) : Block browser view imageURL download browser
  | curr {url : String} (found : NSArray.objectAtIndex browser.dataSources browser.currIndex = some url) :
      Block browser .currImageView (some url) .image { browser with currImageView := .loaded url }
  | back {url : String} (found : NSArray.objectAtIndex browser.dataSources browser.nextIndex = some url)
      (apart : browser.currIndex ≠ browser.nextIndex) :
      Block browser .backImageView (some url) .image { browser with backImageView := .loaded url }
  | both {url : String} (found : NSArray.objectAtIndex browser.dataSources browser.nextIndex = some url)
      (same : browser.currIndex = browser.nextIndex) :
      Block browser .backImageView (some url) .image
        { browser with backImageView := .loaded url, currImageView := .loaded url }

theorem block_currLoaded {browser : RSPhotoBrower} (sound : Sound dataSources browser) (imageURL : Option NSURL)
    (download : SDDownload) :
    ∃ after, browser.currLoaded imageURL download = some after ∧
      Block browser .currImageView imageURL download after := by
  obtain ⟨url, found, -⟩ := sound.curr
  rw [← sound.sources] at found
  unfold RSPhotoBrower.currLoaded
  rw [found]
  by_cases own : imageURL = some url ∧ download = .image
  · refine ⟨_, if_pos own, ?_⟩
    obtain ⟨rfl, rfl⟩ := own
    exact .curr found
  · exact ⟨_, if_neg own, .ignored found own⟩

theorem block_backLoaded {browser : RSPhotoBrower} (sound : Sound dataSources browser) (imageURL : Option NSURL)
    (download : SDDownload) :
    ∃ after, browser.backLoaded imageURL download = some after ∧
      Block browser .backImageView imageURL download after := by
  obtain ⟨url, found, -⟩ := sound.back
  rw [← sound.sources] at found
  unfold RSPhotoBrower.backLoaded
  rw [found]
  by_cases own : imageURL = some url ∧ download = .image
  · obtain ⟨rfl, rfl⟩ := own
    by_cases same : browser.currIndex = browser.nextIndex
    · exact ⟨_, (if_pos ⟨rfl, rfl⟩).trans (if_pos same), .both found same⟩
    · exact ⟨_, (if_pos ⟨rfl, rfl⟩).trans (if_neg same), .back found same⟩
  · exact ⟨_, if_neg own, .ignored found own⟩

theorem step_downloaded {browser : RSPhotoBrower} (sound : Sound dataSources browser) {number : Nat}
    {view : RSPhotoBrowerView} {imageURL : Option NSURL}
    (there : browser.downloads[number]? = some (view, imageURL)) (valid : String → Bool)
    (download : SDDownload) :
    ∃ after, browser.step valid (.downloaded number download) = some after ∧
      Block browser view imageURL download after := by
  cases view with
  | currImageView =>
      simp only [RSPhotoBrower.step, there]
      exact block_currLoaded sound imageURL download
  | backImageView =>
      simp only [RSPhotoBrower.step, there]
      exact block_backLoaded sound imageURL download

theorem step_unknown {browser : RSPhotoBrower} {number : Nat} (unknown : browser.downloads[number]? = none)
    (valid : String → Bool) (download : SDDownload) :
    browser.step valid (.downloaded number download) = some browser := by
  simp only [RSPhotoBrower.step, unknown]

theorem Block.sound {browser after : RSPhotoBrower} {view : RSPhotoBrowerView} {imageURL : Option NSURL}
    {download : SDDownload} (block : Block browser view imageURL download after)
    (sound : Sound dataSources browser) : Sound dataSources after := by
  cases block with
  | ignored found other => exact sound
  | curr found => exact ⟨sound.sources, ⟨_, sound.sources ▸ found, .inr rfl⟩, sound.back⟩
  | back found apart => exact ⟨sound.sources, sound.curr, ⟨_, sound.sources ▸ found, .inr rfl⟩⟩
  | both found same =>
      have foundCurr : NSArray.objectAtIndex browser.dataSources browser.currIndex = some _ := same ▸ found
      exact ⟨sound.sources, ⟨_, sound.sources ▸ foundCurr, .inr rfl⟩, ⟨_, sound.sources ▸ found, .inr rfl⟩⟩

structure SamePlace (browser after : RSPhotoBrower) : Prop where
  sources : after.dataSources = browser.dataSources
  currIndex : after.currIndex = browser.currIndex
  nextIndex : after.nextIndex = browser.nextIndex
  downloads : after.downloads = browser.downloads
  width : after.width = browser.width
  contentSize : after.contentSize = browser.contentSize
  contentOffset : after.contentOffset = browser.contentOffset
  currImageViewX : after.currImageViewX = browser.currImageViewX

theorem Block.samePlace {browser after : RSPhotoBrower} {view : RSPhotoBrowerView} {imageURL : Option NSURL}
    {download : SDDownload} (block : Block browser view imageURL download after) : SamePlace browser after := by
  cases block with
  | ignored found other => exact ⟨rfl, rfl, rfl, rfl, rfl, rfl, rfl, rfl⟩
  | curr found => exact ⟨rfl, rfl, rfl, rfl, rfl, rfl, rfl, rfl⟩
  | back found apart => exact ⟨rfl, rfl, rfl, rfl, rfl, rfl, rfl, rfl⟩
  | both found same => exact ⟨rfl, rfl, rfl, rfl, rfl, rfl, rfl, rfl⟩

theorem Block.samePages {browser after : RSPhotoBrower} {view : RSPhotoBrowerView} {imageURL : Option NSURL}
    {download : SDDownload} (block : Block browser view imageURL download after) :
    after.numberOfPages = browser.numberOfPages ∧ after.currentPage = browser.currentPage := by
  cases block with
  | ignored found other => exact ⟨rfl, rfl⟩
  | curr found => exact ⟨rfl, rfl⟩
  | back found apart => exact ⟨rfl, rfl⟩
  | both found same => exact ⟨rfl, rfl⟩

theorem SamePlace.framed {browser after : RSPhotoBrower} (place : SamePlace browser after)
    (framed : Framed browser) : Framed after := by
  unfold Framed
  rw [place.sources, place.currImageViewX, place.width, place.contentSize]
  exact framed

/-! ## Opening the browser -/

def opened (valid : String → Bool) (dataSources : List String) (url : String) : RSPhotoBrower :=
  { dataSources, downloads := [(.currImageView, RSPhotoBrower.urlWithString valid url)] }

theorem sound_opened (valid : String → Bool) {url : String}
    (found : NSArray.objectAtIndex dataSources 0 = some url) : Sound dataSources (opened valid dataSources url) :=
  ⟨rfl, ⟨url, found, .inl rfl⟩, ⟨url, found, .inl rfl⟩⟩

/-- A download that has its answer at once runs its block before the browser goes on. -/
def AnsweredAtOnce (browser : RSPhotoBrower) (view : RSPhotoBrowerView) (imageURL : Option NSURL) :
    Option SDDownload → RSPhotoBrower → Prop
  | none, after => after = browser
  | some download, after => Block browser view imageURL download after

theorem AnsweredAtOnce.sound {view : RSPhotoBrowerView} {imageURL : Option NSURL} {atOnce : Option SDDownload}
    {after : RSPhotoBrower} (answered : AnsweredAtOnce browser view imageURL atOnce after)
    (sound : Sound dataSources browser) : Sound dataSources after := by
  cases atOnce with
  | none =>
      obtain rfl : after = browser := answered
      exact sound
  | some download => exact Block.sound answered sound

theorem AnsweredAtOnce.samePlace {view : RSPhotoBrowerView} {imageURL : Option NSURL} {atOnce : Option SDDownload}
    {after : RSPhotoBrower} (answered : AnsweredAtOnce browser view imageURL atOnce after) :
    SamePlace browser after ∧ after.currentPage = browser.currentPage := by
  cases atOnce with
  | none =>
      obtain rfl : after = browser := answered
      exact ⟨⟨rfl, rfl, rfl, rfl, rfl, rfl, rfl, rfl⟩, rfl⟩
  | some download => exact ⟨Block.samePlace answered, (Block.samePages answered).2⟩

theorem setDataSources_opened (valid : String → Bool) (atOnce : Option SDDownload)
    (nonempty : dataSources ≠ []) (bounds : ℚ) :
    ∃ url loaded, NSArray.objectAtIndex dataSources 0 = some url ∧
      AnsweredAtOnce (opened valid dataSources url) .currImageView (urlWithString valid url) atOnce loaded ∧
      setDataSources valid atOnce dataSources bounds {} =
        some (layoutSubviews bounds { loaded with numberOfPages := loaded.dataSources.length }) := by
  have positive := List.length_pos_of_ne_nil nonempty
  obtain ⟨url, found⟩ := @objectAtIndex_eq_some _ dataSources 0 (Int.le_refl 0) (by omega)
  unfold setDataSources
  rw [if_neg (Nat.ne_of_gt positive)]
  simp only [found, Option.bind_eq_bind, Option.bind_some, List.nil_append]
  cases atOnce with
  | none => exact ⟨url, opened valid dataSources url, rfl, rfl, rfl⟩
  | some download =>
      obtain ⟨loaded, load, block⟩ :=
        block_currLoaded (sound_opened valid found) (urlWithString valid url) download
      exact ⟨url, loaded, rfl, block, congrArg (Option.bind · _) load⟩

theorem setDataSources_eq (nonempty : dataSources ≠ []) (valid : String → Bool) (bounds : ℚ) :
    ∃ downloads, setDataSources valid none dataSources bounds {} =
      some (layoutSubviews bounds { dataSources, numberOfPages := dataSources.length, downloads }) := by
  obtain ⟨url, loaded, -, answered, start⟩ := setDataSources_opened valid none nonempty bounds
  obtain rfl : loaded = opened valid dataSources url := answered
  exact ⟨_, start⟩

/-! ## Scrolling -/

/-- The offset at which the event calls `changeToNext`, if it does. -/
def switchesAt (browser : RSPhotoBrower) : PhotoBrowerEvent → Option ℚ
  | .scrolled offset _ =>
      if browser.contentSize = 0 then none
      else if offset < browser.width * 2 then if offset ≤ browser.width then some offset else none
      else if offset > browser.width * 2 then if offset ≥ browser.width * 3 then some offset else none
      else none
  | .endDecelerating =>
      let currPointInSelf := browser.currImageViewX - browser.contentOffset
      if currPointInSelf ≥ -browser.width / 2 ∧ currPointInSelf ≤ browser.width / 2 then none
      else some browser.contentOffset
  | .layout _ => none
  | .downloaded .. => none

/-- One picture on where the offset is beyond the middle, and one back where it is before. -/
structure Turns (count : Nat) (middle offset : ℚ) (index turned : Int) : Prop where
  beyond : middle < offset → turned = (index + 1) % count
  short : offset < middle → turned = (index - 1) % count

theorem turns_middle {count : Nat} {middle : ℚ} {index turned : Int} :
    Turns count middle middle index turned :=
  ⟨fun beyond => absurd beyond (lt_irrefl middle), fun short => absurd short (lt_irrefl middle)⟩

theorem switchesAt_short {browser : RSPhotoBrower} {offset : ℚ} (sized : browser.contentSize ≠ 0)
    (short : offset < browser.width * 2) (atOnce : Option SDDownload) :
    switchesAt browser (.scrolled offset atOnce) = if offset ≤ browser.width then some offset else none := by
  simp only [switchesAt, if_neg sized, if_pos short]

theorem switchesAt_beyond {browser : RSPhotoBrower} {offset : ℚ} (sized : browser.contentSize ≠ 0)
    (beyond : browser.width * 2 < offset) (atOnce : Option SDDownload) :
    switchesAt browser (.scrolled offset atOnce) = if offset ≥ browser.width * 3 then some offset else none := by
  simp only [switchesAt, if_neg sized, if_neg (not_lt.mpr beyond.le), if_pos beyond]

/-- The back view is cleared for the picture of another index, and its download starts. -/
def cleared (valid : String → Bool) (page index : Int) (imgUrl : String) (browser : RSPhotoBrower) :
    RSPhotoBrower :=
  { browser.setCurrentPage page with
    nextIndex := index
    backImageView := .gray
    downloads :=
      browser.downloads ++ [(RSPhotoBrowerView.backImageView, RSPhotoBrower.urlWithString valid imgUrl)] }

theorem Sound.cleared (sound : Sound dataSources browser) (valid : String → Bool) (page : Int) {index : Int}
    {imgUrl : String} (found : NSArray.objectAtIndex browser.dataSources index = some imgUrl) :
    Sound dataSources (cleared valid page index imgUrl browser) :=
  ⟨sound.sources, sound.curr, ⟨imgUrl, sound.sources ▸ found, .inl rfl⟩⟩

inductive Opened (valid : String → Bool) (browser : RSPhotoBrower) :
    Option SDDownload → RSPhotoBrower → Prop where
  | waits (page : Int) {index : Int} {imgUrl : String}
      (found : NSArray.objectAtIndex browser.dataSources index = some imgUrl) :
      Opened valid browser none (cleared valid page index imgUrl browser)
  | answered (page : Int) {index : Int} {imgUrl : String} {download : SDDownload} {after : RSPhotoBrower}
      (found : NSArray.objectAtIndex browser.dataSources index = some imgUrl)
      (block : Block (cleared valid page index imgUrl browser) .backImageView
        (RSPhotoBrower.urlWithString valid imgUrl) download after) :
      Opened valid browser (some download) after

/-- The back view has been prepared for the picture that the offset leads to. -/
structure Aside (browser loaded : RSPhotoBrower) : Prop where
  sources : loaded.dataSources = browser.dataSources
  currIndex : loaded.currIndex = browser.currIndex
  width : loaded.width = browser.width
  contentSize : loaded.contentSize = browser.contentSize
  contentOffset : loaded.contentOffset = browser.contentOffset
  currImageViewX : loaded.currImageViewX = browser.currImageViewX
  numberOfPages : loaded.numberOfPages = browser.numberOfPages
  aside : browser.contentOffset ≠ browser.width * 2
  turns : Turns browser.dataSources.length (browser.width * 2) browser.contentOffset browser.currIndex
    loaded.nextIndex

inductive Swiped (valid : String → Bool) (atOnce : Option SDDownload) (browser : RSPhotoBrower) : RSPhotoBrower → Prop where
  | centred {page : Int} (middle : browser.contentOffset = browser.width * 2)
      (followed : 0 < browser.width → browser.setCurrentPage page = browser.setCurrentPage browser.currIndex) :
      Swiped valid atOnce browser (browser.setCurrentPage page)
  | opened {loaded : RSPhotoBrower} (opened : Opened valid browser atOnce loaded) (aside : Aside browser loaded)
      (stays : switchesAt browser (.scrolled browser.contentOffset atOnce) = none) :
      Swiped valid atOnce browser loaded
  | switched {loaded : RSPhotoBrower} (opened : Opened valid browser atOnce loaded)
      (aside : Aside browser loaded)
      (switches : switchesAt browser (.scrolled browser.contentOffset atOnce) = some browser.contentOffset) :
      Swiped valid atOnce browser loaded.changeToNext

inductive Scrolled (valid : String → Bool) (atOnce : Option SDDownload) (browser : RSPhotoBrower) :
    RSPhotoBrower → Prop where
  | centred (page : Int) (offset : browser.contentOffset = browser.width * 2) :
      Scrolled valid atOnce browser (browser.setCurrentPage page)
  | opened {after : RSPhotoBrower} (opened : Opened valid browser atOnce after) :
      Scrolled valid atOnce browser after
  | moved {after : RSPhotoBrower} (opened : Opened valid browser atOnce after) :
      Scrolled valid atOnce browser after.changeToNext

theorem opened_loadBackImageView (sound : Sound dataSources browser) (page : Int) {index : Int}
    {imgUrl : String} (found : NSArray.objectAtIndex browser.dataSources index = some imgUrl)
    (aside : browser.contentOffset ≠ browser.width * 2)
    (turns : Turns browser.dataSources.length (browser.width * 2) browser.contentOffset browser.currIndex index)
    (valid : String → Bool) (atOnce : Option SDDownload) :
    ∃ loaded,
      { browser.setCurrentPage page with nextIndex := index }.loadBackImageView valid atOnce imgUrl =
        some loaded ∧ Opened valid browser atOnce loaded ∧ Aside browser loaded := by
  cases atOnce with
  | none => exact ⟨_, rfl, .waits page found, rfl, rfl, rfl, rfl, rfl, rfl, rfl, aside, turns⟩
  | some download =>
      obtain ⟨loaded, load, block⟩ :=
        block_backLoaded (sound.cleared valid page found) (urlWithString valid imgUrl) download
      have place := block.samePlace
      refine ⟨loaded, load, .answered page found block, place.sources, place.currIndex, place.width,
        place.contentSize, place.contentOffset, place.currImageViewX, block.samePages.1, aside, ?_⟩
      exact place.nextIndex ▸ turns

theorem swiped_to (sound : Sound dataSources browser) (page : Int) {index : Int}
    (inside : 0 ≤ index ∧ index < browser.dataSources.length)
    (aside : browser.contentOffset ≠ browser.width * 2)
    (turns : Turns browser.dataSources.length (browser.width * 2) browser.contentOffset browser.currIndex index)
    (valid : String → Bool) (atOnce : Option SDDownload) (far : ℚ → Prop) [DecidablePred far]
    (switches : switchesAt browser (.scrolled browser.contentOffset atOnce) =
      if far browser.width then some browser.contentOffset else none) :
    ∃ after,
      ((NSArray.objectAtIndex browser.dataSources index).bind fun imgUrl =>
        ({ browser.setCurrentPage page with nextIndex := index }.loadBackImageView valid atOnce imgUrl).bind
          fun loaded => if far loaded.width then pure loaded.changeToNext else pure loaded) = some after ∧
      Swiped valid atOnce browser after := by
  obtain ⟨imgUrl, found⟩ := objectAtIndex_eq_some inside.1 inside.2
  obtain ⟨loaded, load, opened, prepared⟩ :=
    opened_loadBackImageView sound page found aside turns valid atOnce
  rw [found, Option.bind_some, load, Option.bind_some, prepared.width]
  split_ifs at switches ⊢ with there
  · exact ⟨_, rfl, .switched opened prepared switches⟩
  · exact ⟨_, rfl, .opened opened prepared switches⟩

theorem swiped_scrollViewDidScroll (sound : Sound dataSources browser) (sized : browser.contentSize ≠ 0)
    (valid : String → Bool) (atOnce : Option SDDownload) :
    ∃ after, browser.scrollViewDidScroll valid atOnce = some after ∧ Swiped valid atOnce browser after := by
  have bounds := sound.curr.bounds
  rw [← sound.sources] at bounds
  have nonempty : 0 < browser.dataSources.length := by omega
  obtain ⟨page, paged⟩ := changeCurrentPageWithOffset_eq_some nonempty browser.contentOffset
  unfold scrollViewDidScroll
  simp only [Option.bind_eq_bind, paged, Option.bind_some]
  rw [if_neg sized]
  rcases lt_trichotomy browser.contentOffset (browser.width * 2) with short | middle | beyond
  · rw [if_pos (show browser.contentOffset < (browser.setCurrentPage page).width * 2 from short)]
    apply swiped_to sound page (previousIndex_inside bounds) short.ne _ valid atOnce
      (fun width => browser.contentOffset ≤ width) (switchesAt_short sized short atOnce)
    exact ⟨fun beyond => absurd beyond (lt_asymm short), fun _ => previousIndex_eq_emod bounds⟩
  · have still : ¬browser.contentOffset < (browser.setCurrentPage page).width * 2 := middle.not_lt
    rw [if_neg still]
    refine ⟨_, if_neg middle.not_gt, .centred middle ?_⟩
    intro wide
    rw [middle, changeCurrentPageWithOffset_middle wide, Option.some.injEq] at paged
    exact paged.symm
  · rw [if_neg (show ¬browser.contentOffset < (browser.setCurrentPage page).width * 2 from lt_asymm beyond)]
    rw [if_pos (show browser.contentOffset > (browser.setCurrentPage page).width * 2 from beyond)]
    obtain ⟨next, modulo, inside⟩ := @moduloCount_eq_some (browser.currIndex + 1) _ nonempty
    change ∃ scrolled, ((moduloCount (browser.currIndex + 1) browser.dataSources.length).bind _) = _ ∧ _
    rw [modulo]
    apply swiped_to sound page inside beyond.ne' _ valid atOnce
      (fun width => browser.contentOffset ≥ width * 3) (switchesAt_beyond sized beyond atOnce)
    rw [moduloCount, if_neg nonempty.ne', Option.some.injEq] at modulo
    exact ⟨fun _ => modulo.symm, fun short => absurd short (lt_asymm beyond)⟩

theorem Swiped.scrolled {valid : String → Bool} {atOnce : Option SDDownload} {after : RSPhotoBrower}
    (swiped : Swiped valid atOnce browser after) : Scrolled valid atOnce browser after := by
  cases swiped with
  | centred middle followed => exact .centred _ middle
  | opened opened prepared stays => exact .opened opened
  | switched opened prepared switches => exact .moved opened

theorem Opened.sound {valid : String → Bool} {atOnce : Option SDDownload} {after : RSPhotoBrower}
    (opened : Opened valid browser atOnce after) (sound : Sound dataSources browser) :
    Sound dataSources after := by
  cases opened with
  | waits page found => exact sound.cleared valid page found
  | answered page found block => exact block.sound (sound.cleared valid page found)

theorem Scrolled.sound {valid : String → Bool} {atOnce : Option SDDownload} {after : RSPhotoBrower}
    (scrolled : Scrolled valid atOnce browser after) (sound : Sound dataSources browser) :
    Sound dataSources after := by
  cases scrolled with
  | centred page offset => exact sound.sameViews (sameViews_setCurrentPage page browser)
  | opened opened => exact opened.sound sound
  | moved opened => exact (opened.sound sound).changeToNext

end RealSocial.Proof
