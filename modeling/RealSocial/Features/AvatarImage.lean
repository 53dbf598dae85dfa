import Mathlib.Logic.Function.Basic
import RealSocial.Services.ImageDownloadService

namespace RealSocial

/-! # The image views of an avatar

All of it runs on the main thread, the blocks of the loads too. -/

/-- The image view of an avatar, and those of the two small avatars that it may have in it. -/
inductive AvatarPart where
  | imageView
  | oneAvatar
  | twoAvatar
  deriving DecidableEq, Repr

/-- The placeholder, or what a load brought. -/
inductive AvatarImage where
  | defaultAvatar
  | loaded (operation : SDWebImageOperation)
  deriving DecidableEq, Repr

structure SDImageView where
  image : AvatarImage := .defaultAvatar
  /-- The operation of the view's dictionary. The reference there is weak; to cancel an operation that has called
  back has no effect. -/
  imageLoadOperation : Option Nat := none
  deriving DecidableEq, Repr

structure RSAvatarImageView where
  views : AvatarPart → SDImageView := fun _ => {}
  imageViewHidden : Bool := false
  oneAvatarIsSubview : Bool := false
  twoAvatarIsSubview : Bool := false
  manager : SDWebImageManager := {}
  calls : List AvatarPart := []

/-- `inMemory` tells which views find their image in the memory of the cache. The manager calls back a load when its
block comes to run on the main thread, and other loads of the application put urls among the failed ones. -/
inductive AvatarEvent where
  | setUrl (url : String) (inMemory : AvatarPart → Bool)
  | setUrls (urls : List String) (inMemory : AvatarPart → Bool)
  | completed (call : Nat) (download : SDDownload) (blacklists : Bool)
  | failedElsewhere (url : NSURL)

namespace RSAvatarImageView

variable (avatar : RSAvatarImageView)

def setImage (part : AvatarPart) (image : AvatarImage) : RSAvatarImageView :=
  { avatar with views := Function.update avatar.views part { avatar.views part with image } }

def setImageLoadOperation (part : AvatarPart) (operation : Option Nat) : RSAvatarImageView :=
  { avatar with
    views := Function.update avatar.views part { avatar.views part with imageLoadOperation := operation } }

def cancelImageLoadOperation (part : AvatarPart) : RSAvatarImageView :=
  match (avatar.views part).imageLoadOperation with
  | none => avatar
  | some call => { avatar with manager := avatar.manager.cancel call }.setImageLoadOperation part none

def loadImage (part : AvatarPart) (url : NSURL) (inMemory : Bool) (call : Nat) : RSAvatarImageView :=
  let (download, manager) := avatar.manager.loadImageWithURL call (some url) inMemory
  let avatar := { avatar with manager }
  let avatar := if download = some .image then avatar.setImage part (.loaded ⟨call, some url⟩) else avatar
  avatar.setImageLoadOperation part (some call)

def setImageWithURL (part : AvatarPart) (url : Option NSURL) (inMemory : Bool) : RSAvatarImageView :=
  let call := avatar.calls.length
  let avatar := avatar.cancelImageLoadOperation part
  let avatar := { avatar with calls := avatar.calls ++ [part] }.setImage part .defaultAvatar
  match url with
  | none => avatar
  | some url => avatar.loadImage part url inMemory call

section Urls

variable (URLWithString : String → Option NSURL) (inMemory : AvatarPart → Bool)

def setUrl (url : String) : RSAvatarImageView :=
  let avatar := { avatar with
    oneAvatarIsSubview := false, twoAvatarIsSubview := false, imageViewHidden := false }
  avatar.setImageWithURL .imageView (URLWithString url) (inMemory .imageView)

def setUrls : List String → RSAvatarImageView
  | oneUrl :: second :: urls =>
      let twoUrl := (second :: urls).getLast (List.cons_ne_nil second urls)
      let avatar := avatar.setImageWithURL .oneAvatar (URLWithString oneUrl) (inMemory .oneAvatar)
      let avatar := { avatar with oneAvatarIsSubview := true }
      let avatar := avatar.setImageWithURL .twoAvatar (URLWithString twoUrl) (inMemory .twoAvatar)
      { avatar with twoAvatarIsSubview := true, imageViewHidden := true }
  | [oneUrl] => avatar.setUrl URLWithString inMemory oneUrl
  | [] => avatar

end Urls

def completed (call : Nat) (download : SDDownload) (blacklists : Bool) : RSAvatarImageView :=
  match avatar.manager.running.find? fun operation => operation.call = call with
  | none => avatar
  | some operation =>
      let avatar := { avatar with manager := avatar.manager.callBack operation download blacklists }
      match download, avatar.calls[call]? with
      | .image, some part => avatar.setImage part (.loaded operation)
      | _, _ => avatar

def step (URLWithString : String → Option NSURL) (avatar : RSAvatarImageView) : AvatarEvent → RSAvatarImageView
  | .setUrl url inMemory => avatar.setUrl URLWithString inMemory url
  | .setUrls urls inMemory => avatar.setUrls URLWithString inMemory urls
  | .completed call download blacklists => avatar.completed call download blacklists
  | .failedElsewhere url =>
      { avatar with manager := { avatar.manager with failedURLs := avatar.manager.failedURLs ++ [url] } }

/-- The image views that can be seen. -/
def shownParts : List AvatarPart :=
  (if avatar.imageViewHidden then [] else [.imageView]) ++
    (if avatar.oneAvatarIsSubview then [.oneAvatar] else []) ++
      if avatar.twoAvatarIsSubview then [.twoAvatar] else []

def shownImages : List AvatarImage := avatar.shownParts.map fun part => (avatar.views part).image

end RSAvatarImageView

end RealSocial
