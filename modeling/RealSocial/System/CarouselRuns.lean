import RealSocial.Features.PhotoBrower
import RealSocial.Library.Run

namespace RealSocial

open Library

/-! # A photo browser with its drags and the downloads that have come -/

/-- `delivered` keeps the numbers of the downloads whose image was delivered. -/
structure CarouselRun where
  browser : RSPhotoBrower
  delivered : List Nat := []
  dragging : Bool := false
  deriving DecidableEq

inductive CarouselEvent where
  | browser (event : PhotoBrowerEvent)
  | willBeginDragging
  | didEndDragging
  deriving DecidableEq

namespace CarouselRun

-- a scroll view that cannot scroll sends its delegate nothing
def scrollable (browser : RSPhotoBrower) : Bool :=
  decide (browser.dataSources.length > 1) && decide (browser.contentSize > browser.width)

def reachesBrowser (browser : RSPhotoBrower) : PhotoBrowerEvent → Bool
  | .scrolled .. => scrollable browser
  | .endDecelerating => scrollable browser
  | .layout _ => true
  | .downloaded .. => true

/-- A download without a url brings no image. -/
def imageOf (browser : RSPhotoBrower) (number : Nat) : List Nat :=
  match browser.downloads[number]? with
  | some (_, some _) => [number]
  | _ => []

/-- The downloads whose image came with the event, among them the one that it started itself. -/
def imagesIn (before after : RSPhotoBrower) : PhotoBrowerEvent → List Nat
  | .downloaded number .image => imageOf after number
  | .scrolled _ (some .image) => imageOf after before.downloads.length
  | _ => []

section

variable (valid : String → Bool)

def start (atOnce : Option SDDownload) (dataSources : List String) (bounds : ℚ) : Option CarouselRun :=
  (RSPhotoBrower.setDataSources valid atOnce dataSources bounds {}).map fun browser =>
    { browser, delivered := if atOnce = some .image then imageOf browser 0 else [] }

def step (carousel : CarouselRun) : CarouselEvent → Option CarouselRun
  | .browser event =>
      if reachesBrowser carousel.browser event then
        (carousel.browser.step valid event).map fun after =>
          { carousel with
            browser := after
            delivered := carousel.delivered ++ imagesIn carousel.browser after event }
      else some carousel
  | .willBeginDragging => some { carousel with dragging := true }
  | .didEndDragging => some { carousel with dragging := false }

def advance (carousel : Option CarouselRun) (event : CarouselEvent) : Option CarouselRun := do
  step valid (← carousel) event

end

/-- The offset is at the view of the current picture, and no drag is in progress. -/
def AtRest (carousel : CarouselRun) : Prop :=
  carousel.browser.contentOffset = carousel.browser.currImageViewX ∧ carousel.dragging = false

def AllDelivered (carousel : CarouselRun) : Prop :=
  ∀ number < carousel.browser.downloads.length, number ∈ carousel.delivered

def ShowsCurrent (carousel : CarouselRun) : Prop :=
  ∃ url, NSArray.objectAtIndex carousel.browser.dataSources carousel.browser.currIndex = some url ∧
    carousel.browser.currImageView = .loaded url

def deliveries (numbers : List Nat) : List CarouselEvent :=
  numbers.map fun number => .browser (.downloaded number .image)

/-- At rest the current picture is shown, as soon as every download that was started is delivered. -/
def EventualPicture (valid : String → Bool) (carousel : CarouselRun) : Prop :=
  AtRest carousel → ∀ numbers, ∃ after,
    run (advance valid) (some carousel) (deliveries numbers) = some after ∧
      (AllDelivered after → ShowsCurrent after)

/-- The download is on its way, and its block sets the view of its kind to the picture of this index. -/
def Awaits (view : RSPhotoBrowerView) (index : Int) (carousel : CarouselRun) : Prop :=
  ∃ number url, carousel.browser.downloads[number]? = some (view, some url) ∧
    number ∉ carousel.delivered ∧ NSArray.objectAtIndex carousel.browser.dataSources index = some url

/-- The browser does not come to rest with the placeholder after a swipe that turned back, or the block of
`setDataSources:` is still to bring the current picture. (A download without a url is never delivered.) -/
def NoTurnBack (carousel : CarouselRun) : Prop :=
  AtRest carousel → carousel.browser.currImageView = .gray →
    carousel.browser.currIndex = carousel.browser.nextIndex ∨
      Awaits .currImageView carousel.browser.currIndex carousel ∨
      ∃ view, (view, none) ∈ carousel.browser.downloads

end CarouselRun

end RealSocial
