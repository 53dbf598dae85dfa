import RealSocial.Features.SpaceDetail
import RealSocial.Proof.Carousel

namespace RealSocial.Proof

open Library RSSpaceDetailViewModel RSSpaceDetailAddCommentViewModel

/-! # The star that a comment is sent to -/

def imageStars (space : RSSpace) : List RSStar :=
  space.starListArray.filter fun star => star.type = RSenStarType_StarTypeImg

/-- The stars whose images the browser shows, in its order. -/
def displayedStars (space : RSSpace) : List RSStar := (imageStars space).reverse

theorem foldl_photoUrls (stars : List RSStar) (tmp : List String) :
    stars.foldl (fun tmp star =>
      if star.type = RSenStarType_StarTypeImg then tmp ++ [star.img.imgURL] else tmp) tmp =
      tmp ++ (stars.filter fun star => star.type = RSenStarType_StarTypeImg).map fun star => star.img.imgURL := by
  induction stars generalizing tmp with
  | nil => simp
  | cons star stars ih =>
      rw [List.foldl_cons, ih]
      by_cases image : star.type = RSenStarType_StarTypeImg
      · simp [image]
      · simp [image]

theorem photoUrlArray_eq (space : RSSpace) :
    photoUrlArray space = (displayedStars space).map fun star => star.img.imgURL := by
  rw [photoUrlArray, foldl_photoUrls, List.nil_append, displayedStars, imageStars, List.map_reverse]

def requestedStar (login : RSLoginService) (time content : String) (space : RSSpace) (index : Int) :
    Option RSIdPair :=
  (addComment login time content { space, starIndex := index }).2.map RSAddCommentReq.starId

/-- At every index of the browser, a comment goes to the star that is displayed there, and to none where
none is displayed. -/
def CommentsReachDisplayed (space : RSSpace) : Prop :=
  ∀ index, Reaches (photoUrlArray space) index → ∀ login time content, 0 < content.length →
    requestedStar login time content space index =
      (NSArray.objectAtIndex (displayedStars space) index).map RSStar.starId

theorem requestedStar_eq {content : String} (written : 0 < content.length) (login : RSLoginService)
    (time : String) (space : RSSpace) (index : Int) :
    requestedStar login time content space index =
      (NSArray.objectAtIndex space.starListArray.reverse index).map RSStar.starId := by
  rw [requestedStar, addComment, if_neg (by omega)]
  simp only
  cases NSArray.objectAtIndex space.starListArray.reverse index with
  | none => rfl
  | some star => rfl

theorem objectAtIndex_natCast {α : Type} (array : List α) (index : Nat) :
    NSArray.objectAtIndex array index = array[index]? := by
  rw [NSArray.objectAtIndex, if_pos (Int.natCast_nonneg index), Int.toNat_natCast]

theorem commentsReachDisplayed_iff (space : RSSpace) :
    CommentsReachDisplayed space ↔
      (displayedStars space).map RSStar.starId <+: space.starListArray.reverse.map RSStar.starId ∧
        (displayedStars space = [] → space.starListArray = []) := by
  have photos : photoUrlArray space = [] ↔ displayedStars space = [] := by
    rw [photoUrlArray_eq, List.map_eq_nil_iff]
  have length : (photoUrlArray space).length = (displayedStars space).length := by
    rw [photoUrlArray_eq, List.length_map]
  rw [List.prefix_iff_getElem?]
  constructor
  · intro reach
    have same : ∀ index, Reaches (photoUrlArray space) index →
        (NSArray.objectAtIndex space.starListArray.reverse index).map RSStar.starId =
          (NSArray.objectAtIndex (displayedStars space) index).map RSStar.starId := by
      intro index reached
      rw [← reach index reached {} "" "a" (by decide), requestedStar_eq (by decide)]
    constructor
    · intro index inside
      rw [List.length_map] at inside
      have agree := same index (reaches_of_inside (length ▸ inside))
      rw [objectAtIndex_natCast, objectAtIndex_natCast] at agree
      rw [List.getElem?_map, agree, ← List.getElem?_map, List.getElem?_eq_getElem]
    · intro none
      have agree := same 0 ((reaches_iff 0).mpr (.inr ⟨photos.mpr none, rfl⟩))
      rw [none] at agree
      simpa [NSArray.objectAtIndex] using agree
  · rintro ⟨agree, noneLeft⟩ index reached login time content written
    rw [requestedStar_eq written]
    rcases (reaches_iff index).mp reached with ⟨lower, upper⟩ | ⟨none, rfl⟩
    · obtain ⟨position, rfl⟩ := Int.eq_ofNat_of_zero_le lower
      rw [length] at upper
      have inside : position < ((displayedStars space).map RSStar.starId).length := by
        rw [List.length_map]
        omega
      rw [objectAtIndex_natCast, objectAtIndex_natCast, ← List.getElem?_map, ← List.getElem?_map,
        agree position inside, List.getElem?_eq_getElem inside]
    · have empty := photos.mp none
      rw [empty, noneLeft empty]
      rfl

/-! ## Stars with distinct ids -/

theorem filter_prefix_iff {α β : Type} {name : α → β} {kept : α → Bool} {list : List α}
    (distinct : (list.map name).Nodup) :
    (list.filter kept).map name <+: list.map name ↔
      ∃ front rest, list = front ++ rest ∧ (∀ x ∈ front, kept x) ∧ ∀ x ∈ rest, ¬ kept x := by
  induction list with
  | nil => simp
  | cons x xs ih =>
      rw [List.map_cons, List.nodup_cons] at distinct
      obtain ⟨fresh, distinct⟩ := distinct
      by_cases keep : kept x
      · rw [List.filter_cons_of_pos keep, List.map_cons, List.map_cons, List.cons_prefix_cons, ih distinct]
        constructor
        · rintro ⟨-, front, rest, rfl, all, others⟩
          exact ⟨x :: front, rest, rfl, List.forall_mem_cons.mpr ⟨keep, all⟩, others⟩
        · rintro ⟨front, rest, split, all, others⟩
          cases front with
          | nil =>
              rw [List.nil_append] at split
              exact absurd keep (others x (split ▸ List.mem_cons_self))
          | cons y front =>
              obtain ⟨rfl, rfl⟩ := List.cons.inj split
              exact ⟨rfl, front, rest, rfl, (List.forall_mem_cons.mp all).2, others⟩
      · rw [List.filter_cons_of_neg keep, List.map_cons]
        constructor
        · intro before
          have gone : xs.filter kept = [] := by
            cases first : xs.filter kept with
            | nil => rfl
            | cons y ys =>
                rw [first, List.map_cons, List.cons_prefix_cons] at before
                have member : y ∈ xs.filter kept := first ▸ List.mem_cons_self
                exact absurd (List.mem_map.mpr ⟨y, List.mem_of_mem_filter member, before.1⟩) fresh
          refine ⟨[], x :: xs, rfl, by simp, ?_⟩
          intro y member
          rcases List.mem_cons.mp member with rfl | later
          · exact keep
          · exact fun yes => List.filter_eq_nil_iff.mp gone y later yes
        · rintro ⟨front, rest, split, all, others⟩
          cases front with
          | nil =>
              rw [List.nil_append] at split
              have gone : xs.filter kept = [] := by
                rw [List.filter_eq_nil_iff]
                intro y member
                exact others y (split ▸ List.mem_cons_of_mem x member)
              rw [gone]
              exact List.nil_prefix
          | cons y front =>
              obtain ⟨rfl, -⟩ := List.cons.inj split
              exact absurd (all x List.mem_cons_self) keep

/-- The other stars of the space all come before its image stars, and there are none without any image. -/
def ImagesLast (space : RSSpace) : Prop :=
  ∃ others images, space.starListArray = others ++ images ∧
    (∀ star ∈ others, star.type ≠ RSenStarType_StarTypeImg) ∧
    (∀ star ∈ images, star.type = RSenStarType_StarTypeImg) ∧ (images = [] → others = [])

theorem imageStars_split {others images : List RSStar} {space : RSSpace}
    (split : space.starListArray = others ++ images)
    (noImage : ∀ star ∈ others, star.type ≠ RSenStarType_StarTypeImg)
    (image : ∀ star ∈ images, star.type = RSenStarType_StarTypeImg) : imageStars space = images := by
  have none : others.filter (fun star => star.type = RSenStarType_StarTypeImg) = [] := by
    rw [List.filter_eq_nil_iff]
    simpa using noImage
  have all : images.filter (fun star => star.type = RSenStarType_StarTypeImg) = images := by
    rw [List.filter_eq_self]
    simpa using image
  rw [imageStars, split, List.filter_append, none, all, List.nil_append]

theorem imagesLast_iff {space : RSSpace} (distinct : (space.starListArray.map RSStar.starId).Nodup) :
    ImagesLast space ↔
      (displayedStars space).map RSStar.starId <+: space.starListArray.reverse.map RSStar.starId ∧
        (displayedStars space = [] → space.starListArray = []) := by
  have distinctReverse : (space.starListArray.reverse.map RSStar.starId).Nodup := by
    rw [List.map_reverse]
    exact List.nodup_reverse.mpr distinct
  rw [show displayedStars space = space.starListArray.reverse.filter
    (fun star => star.type = RSenStarType_StarTypeImg) from List.filter_reverse.symm,
    filter_prefix_iff distinctReverse]
  constructor
  · rintro ⟨others, images, split, noImage, image, noneLeft⟩
    have kept := imageStars_split split noImage image
    refine ⟨⟨images.reverse, others.reverse, by rw [split, List.reverse_append], ?_, ?_⟩, ?_⟩
    · simpa using image
    · simpa using noImage
    · intro none
      rw [List.filter_reverse, List.reverse_eq_nil_iff] at none
      have noImages : images = [] := kept.symm.trans none
      rw [split, noImages, noneLeft noImages]
      rfl
  · rintro ⟨⟨front, rest, split, image, noImage⟩, noneLeft⟩
    have straight : space.starListArray = rest.reverse ++ front.reverse := by
      rw [← List.reverse_append, ← split, List.reverse_reverse]
    refine ⟨rest.reverse, front.reverse, straight, by simpa using noImage, by simpa using image, ?_⟩
    intro none
    have noFront : front = [] := List.reverse_eq_nil_iff.mp none
    have empty := noneLeft (by
      rw [split, noFront, List.nil_append, List.filter_eq_nil_iff]
      exact noImage)
    rw [straight, List.append_eq_nil_iff] at empty
    exact empty.1

theorem comment_target_iff (space : RSSpace) :
    (CommentsReachDisplayed space ↔
      (displayedStars space).map RSStar.starId <+: space.starListArray.reverse.map RSStar.starId ∧
        (displayedStars space = [] → space.starListArray = [])) ∧
    ((space.starListArray.map RSStar.starId).Nodup → (CommentsReachDisplayed space ↔ ImagesLast space)) :=
  ⟨commentsReachDisplayed_iff space,
    fun distinct => (commentsReachDisplayed_iff space).trans (imagesLast_iff distinct).symm⟩

-- a video was added after the picture
def picnic : RSSpace where
  spaceId := { svrId := 7 }
  starListArray := [
    { starId := { svrId := 1 }, type := RSenStarType_StarTypeImg, img := { imgURL := "http://p/sea" } },
    { starId := { svrId := 2 }, type := RSenStarType_StarTypeVideo }]

theorem comment_goes_to_video :
    photoUrlArray picnic = ["http://p/sea"] ∧
    requestedStar {} "0.000000" "nice" picnic 0 = some { svrId := 2 } ∧
    ¬ CommentsReachDisplayed picnic := by
  have photos : photoUrlArray picnic = ["http://p/sea"] := by decide
  have requested : requestedStar {} "0.000000" "nice" picnic 0 = some { svrId := 2 } := by decide
  refine ⟨photos, requested, ?_⟩
  intro reach
  have first : Reaches (photoUrlArray picnic) 0 := reaches_of_inside (by rw [photos]; decide)
  have displayed := reach 0 first {} "0.000000" "nice" (by decide)
  rw [requested] at displayed
  revert displayed
  decide

end RealSocial.Proof
