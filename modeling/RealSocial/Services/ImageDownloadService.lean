import Mathlib.Data.List.Basic

namespace RealSocial

abbrev NSURL := String

-- an image, or an error with its description
inductive SDDownload where
  | image
  | error (description : String)
  deriving DecidableEq, Repr

/-- An operation is named by the number of the call that made it. -/
structure RSImageDownloadOperation where
  call : Nat
  url : Option NSURL
  completionHandler : Bool
  deriving DecidableEq, Repr

structure RSImageDownloadService where
  maxOperation : Nat := 20
  downloadOperationQueue : List RSImageDownloadOperation := []
  deriving DecidableEq, Repr

structure SDWebImageOperation where
  call : Nat
  url : Option NSURL
  deriving DecidableEq, Repr

structure SDWebImageManager where
  failedURLs : List NSURL := []
  loaded : List SDWebImageOperation := []
  calledBack : List Nat := []
  cancelled : List Nat := []
  deriving DecidableEq, Repr

namespace SDWebImageManager

def running (manager : SDWebImageManager) : List SDWebImageOperation :=
  manager.loaded.filter fun operation =>
    operation.call ∉ manager.calledBack ∧ operation.call ∉ manager.cancelled

def isFailedUrl (url : Option NSURL) (manager : SDWebImageManager) : Bool :=
  match url with
  | none => true
  | some url => url.length = 0 || url ∈ manager.failedURLs

/-- What the load hands to its block before it returns, if it does so. -/
def loadImageWithURL (call : Nat) (url : Option NSURL) (inMemory : Bool) (manager : SDWebImageManager) :
    Option SDDownload × SDWebImageManager :=
  let manager := { manager with loaded := manager.loaded ++ [⟨call, url⟩] }
  let returned := { manager with calledBack := manager.calledBack ++ [call] }
  if manager.isFailedUrl url then (some (.error "NSURLErrorFileDoesNotExist"), returned)
  else if inMemory then (some .image, returned)
  else (none, manager)

def cancel (call : Nat) (manager : SDWebImageManager) : SDWebImageManager :=
  { manager with cancelled := manager.cancelled ++ [call] }

-- an error whose code tells nothing about the network puts the url among the failed ones
def callBack (operation : SDWebImageOperation) (download : SDDownload) (blacklists : Bool)
    (manager : SDWebImageManager) : SDWebImageManager :=
  let manager := { manager with calledBack := manager.calledBack ++ [operation.call] }
  match download, blacklists with
  | .error _, true => { manager with failedURLs := manager.failedURLs ++ operation.url.toList }
  | _, _ => manager

end SDWebImageManager

/-- The service, the manager it loads with, whether each call so far passed a handler, and the handlers
that were invoked. -/
structure ImageDownloads where
  service : RSImageDownloadService := {}
  manager : SDWebImageManager := {}
  calls : List Bool := []
  invoked : List (Nat × SDDownload) := []
  deriving DecidableEq, Repr

/-- The flags of a download tell whether the image is found in the cache, and then in its memory. -/
inductive ImageDownloadEvent where
  | download (url : Option NSURL) (completionHandler cached inMemory : Bool)
  | completed (call : Nat) (download : SDDownload) (blacklists : Bool)
  deriving DecidableEq, Repr

namespace ImageDownloads

def queue (state : ImageDownloads) : List RSImageDownloadOperation := state.service.downloadOperationQueue

def setQueue (queue : List RSImageDownloadOperation) (state : ImageDownloads) : ImageDownloads :=
  { state with service := { state.service with downloadOperationQueue := queue } }

def invoke (call : Nat) (completionHandler : Bool) (download : SDDownload) (state : ImageDownloads) :
    ImageDownloads :=
  if completionHandler then { state with invoked := state.invoked ++ [(call, download)] } else state

def cancelFirst (state : ImageDownloads) : ImageDownloads :=
  match state.queue with
  | [] => state
  | first :: rest =>
      let state := { state with manager := state.manager.cancel first.call }
      let state := state.invoke first.call first.completionHandler (.error "image download too much")
      state.setQueue rest

def addOperation (operation : RSImageDownloadOperation) (state : ImageDownloads) : ImageDownloads :=
  let state := if state.queue.length ≥ state.service.maxOperation then state.cancelFirst else state
  state.setQueue (state.queue ++ [operation])

def removeOperation (operation : RSImageDownloadOperation) (state : ImageDownloads) : ImageDownloads :=
  state.setQueue (state.queue.filter fun queued => queued.call ≠ operation.call)

-- the block holds its operation weakly and does nothing when it is gone
def completed (operation : Option RSImageDownloadOperation) (download : SDDownload) (state : ImageDownloads) :
    ImageDownloads :=
  match operation with
  | none => state
  | some operation => (state.removeOperation operation).invoke operation.call operation.completionHandler download

def downloadImageWithUrl (url : Option NSURL) (completionHandler cached inMemory : Bool)
    (state : ImageDownloads) : ImageDownloads :=
  let call := state.calls.length
  let state := { state with calls := state.calls ++ [completionHandler] }
  if cached && completionHandler then state.invoke call completionHandler .image
  else
    let operation : RSImageDownloadOperation := { call, url, completionHandler }
    let (download, manager) := state.manager.loadImageWithURL call url (cached && inMemory)
    let state := { state with manager }
    let state :=
      match download with
      | some download => state.completed (some operation) download
      | none => state
    state.addOperation operation

def step (state : ImageDownloads) : ImageDownloadEvent → ImageDownloads
  | .download url completionHandler cached inMemory =>
      state.downloadImageWithUrl url completionHandler cached inMemory
  | .completed call download blacklists =>
      match state.manager.running.find? fun operation => operation.call = call with
      | none => state
      | some operation =>
          let queued := state.queue.find? fun queued => queued.call = call
          { state with manager := state.manager.callBack operation download blacklists }.completed queued download

end ImageDownloads

end RealSocial
