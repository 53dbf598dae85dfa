import Mathlib.Data.Rat.Defs
import RealSocial.Services.ImageDownloadService

namespace RealSocial

/-- `objectAtIndex:` raises outside of the array. -/
def NSArray.objectAtIndex {α : Type} (array : List α) (index : Int) : Option α :=
  if 0 ≤ index then array[index.toNat]? else none

-- a modulus by zero traps
def moduloCount (index : Int) (count : Nat) : Option Int :=
  if count = 0 then none else some (index % count)

inductive UIImage where
  | gray
  | loaded (url : NSURL)
  deriving DecidableEq, Repr

inductive RSPhotoBrowerView where
  | currImageView
  | backImageView
  deriving DecidableEq, Repr

structure RSPhotoBrower where
  dataSources : List String := []
  currIndex : Int := 0
  nextIndex : Int := 0
  currImageView : UIImage := .gray
  backImageView : UIImage := .gray
  currImageViewX : ℚ := 0
  width : ℚ := 0
  contentSize : ℚ := 0
  contentOffset : ℚ := 0
  numberOfPages : Nat := 0
  currentPage : Int := 0
  downloads : List (RSPhotoBrowerView × Option NSURL) := []
  deriving DecidableEq

namespace RSPhotoBrower

def setCurrentPage (page : Int) (browser : RSPhotoBrower) : RSPhotoBrower :=
  { browser with currentPage := max 0 (min page (browser.numberOfPages - 1)) }

-- the delegate is told of a new offset, and at the centre it only sets the page
def centre (browser : RSPhotoBrower) : RSPhotoBrower :=
  let centred := { browser with contentOffset := browser.width * 2 }
  if browser.contentOffset = browser.width * 2 ∨ browser.contentSize = 0 then centred
  else centred.setCurrentPage browser.currIndex

def setScrollViewContentSize (browser : RSPhotoBrower) : RSPhotoBrower :=
  if browser.dataSources.length > 1 then
    let browser := { browser with contentSize := browser.width * 5 }
    { browser.centre with currImageViewX := browser.width * 2 }
  else
    { browser with contentSize := 0, contentOffset := 0, currImageViewX := 0 }

def layoutSubviews (bounds : ℚ) (browser : RSPhotoBrower) : RSPhotoBrower :=
  { browser with width := bounds }.setScrollViewContentSize

/-! The blocks that wait for a download. -/

def currLoaded (imageURL : Option NSURL) (download : SDDownload) (browser : RSPhotoBrower) :
    Option RSPhotoBrower := do
  let currentImgUrl ← NSArray.objectAtIndex browser.dataSources browser.currIndex
  if imageURL = some currentImgUrl ∧ download = .image then
    return { browser with currImageView := .loaded currentImgUrl }
  else return browser

def backLoaded (imageURL : Option NSURL) (download : SDDownload) (browser : RSPhotoBrower) :
    Option RSPhotoBrower := do
  let currentImgUrl ← NSArray.objectAtIndex browser.dataSources browser.nextIndex
  if imageURL = some currentImgUrl ∧ download = .image then
    let browser := { browser with backImageView := .loaded currentImgUrl }
    if browser.currIndex = browser.nextIndex then
      return { browser with currImageView := browser.backImageView }
    else return browser
  else return browser

def changeCurrentPageWithOffset (offsetX : ℚ) (browser : RSPhotoBrower) : Option RSPhotoBrower :=
  if offsetX < browser.width * (3 / 2) then
    let index := browser.currIndex - 1
    let index := if index < 0 then (browser.dataSources.length : Int) - 1 else index
    some (browser.setCurrentPage index)
  else if offsetX > browser.width * (5 / 2) then do
    let index ← moduloCount (browser.currIndex + 1) browser.dataSources.length
    return browser.setCurrentPage index
  else some (browser.setCurrentPage browser.currIndex)

def changeToNext (browser : RSPhotoBrower) : RSPhotoBrower :=
  let browser := { browser with currImageView := browser.backImageView }.centre
  { browser with currIndex := browser.nextIndex }.setCurrentPage browser.nextIndex

def scrollViewDidEndDecelerating (browser : RSPhotoBrower) : RSPhotoBrower :=
  let currPointInSelf := browser.currImageViewX - browser.contentOffset
  -- the animation that brings the offset back arrives as scrolling
  if currPointInSelf ≥ -browser.width / 2 ∧ currPointInSelf ≤ browser.width / 2 then browser
  else browser.changeToNext

section Downloads

/-! Which strings are the text of a url, and what a download that is started answers at once, if it does. -/

variable (valid : String → Bool) (atOnce : Option SDDownload)

def urlWithString (imgUrl : String) : Option NSURL := if valid imgUrl then some imgUrl else none

def loadBackImageView (imgUrl : String) (browser : RSPhotoBrower) : Option RSPhotoBrower :=
  let url := urlWithString valid imgUrl
  let browser := { browser with
    backImageView := .gray
    downloads := browser.downloads ++ [(RSPhotoBrowerView.backImageView, url)] }
  match atOnce with
  | some download => browser.backLoaded url download
  | none => some browser

def setDataSources (dataSources : List String) (bounds : ℚ) (browser : RSPhotoBrower) :
    Option RSPhotoBrower :=
  if dataSources.length = 0 then some browser
  else do
    let browser := { browser with dataSources }
    let imgUrl ← NSArray.objectAtIndex browser.dataSources browser.currIndex
    let url := urlWithString valid imgUrl
    let browser := { browser with
      currImageView := .gray
      downloads := browser.downloads ++ [(RSPhotoBrowerView.currImageView, url)] }
    let browser ← match atOnce with
      | some download => browser.currLoaded url download
      | none => some browser
    let browser := { browser with numberOfPages := browser.dataSources.length }
    return browser.layoutSubviews bounds

def scrollViewDidScroll (browser : RSPhotoBrower) : Option RSPhotoBrower :=
  if browser.contentSize = 0 then some browser
  else do
    let offsetX := browser.contentOffset
    let browser ← browser.changeCurrentPageWithOffset offsetX
    if offsetX < browser.width * 2 then
      let nextIndex := browser.currIndex - 1
      let nextIndex := if nextIndex < 0 then (browser.dataSources.length : Int) - 1 else nextIndex
      let browser := { browser with nextIndex }
      let imgUrl ← NSArray.objectAtIndex browser.dataSources browser.nextIndex
      let browser ← browser.loadBackImageView valid atOnce imgUrl
      if offsetX ≤ browser.width then return browser.changeToNext else return browser
    else if offsetX > browser.width * 2 then
      let nextIndex ← moduloCount (browser.currIndex + 1) browser.dataSources.length
      let browser := { browser with nextIndex }
      let imgUrl ← NSArray.objectAtIndex browser.dataSources browser.nextIndex
      let browser ← browser.loadBackImageView valid atOnce imgUrl
      if offsetX ≥ browser.width * 3 then return browser.changeToNext else return browser
    else return browser

end Downloads

end RSPhotoBrower

/-- A download is named by its number, and its block may run again and again. -/
inductive PhotoBrowerEvent where
  | layout (bounds : ℚ)
  | scrolled (offset : ℚ) (atOnce : Option SDDownload)
  | endDecelerating
  | downloaded (number : Nat) (download : SDDownload)
  deriving DecidableEq

namespace RSPhotoBrower

variable (valid : String → Bool)

/-- `none` when an index is out of bounds or a modulus is by zero. -/
def step (browser : RSPhotoBrower) : PhotoBrowerEvent → Option RSPhotoBrower
  | .layout bounds => browser.layoutSubviews bounds
  | .scrolled offset atOnce => { browser with contentOffset := offset }.scrollViewDidScroll valid atOnce
  | .endDecelerating => browser.scrollViewDidEndDecelerating
  | .downloaded number download =>
      match browser.downloads[number]? with
      | none => browser
      | some (.currImageView, url) => browser.currLoaded url download
      | some (.backImageView, url) => browser.backLoaded url download

def advance (browser : Option RSPhotoBrower) (event : PhotoBrowerEvent) : Option RSPhotoBrower := do
  step valid (← browser) event

end RSPhotoBrower

end RealSocial
