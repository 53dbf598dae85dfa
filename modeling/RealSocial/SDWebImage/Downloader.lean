import Mathlib.Logic.Function.Basic
import RealSocial.Services.ImageDownloadService

namespace RealSocial

/-! # Downloads that several handlers share

The downloads have no options, so none is progressive and a handler is called at the end only. Handlers are added
and cancelled on the main thread and called there. What a session, the queue of the decoder and the queue of the
operations do comes in between, a step being what is done under one lock. -/

/-- What has been done for an operation: it was started, the session told it of the end, it took its handlers, it was
marked as finished and reset; or it was started after it had been cancelled. -/
inductive SDOperationStage where
  | ready
  | executing
  | completing
  | answered
  | done
  | reset
  | stopped
  deriving DecidableEq, Repr

/-- A handler is named by the number of its token. -/
structure SDWebImageDownloaderOperation where
  url : NSURL
  callbackBlocks : List Nat := []
  stage : SDOperationStage := .ready
  dataTask : Bool := false
  cancelled : Bool := false
  finished : Bool := false
  /-- Whether its completion block has not run yet. -/
  completionBlock : Bool := true
  deriving DecidableEq, Repr

namespace SDWebImageDownloaderOperation

variable (operation : SDWebImageDownloaderOperation)

def reset : SDWebImageDownloaderOperation := { operation with callbackBlocks := [], dataTask := false }

def cancelInternal : SDWebImageDownloaderOperation :=
  if operation.finished then operation
  else { operation with cancelled := true, finished := operation.dataTask }.reset

def cancel (token : Nat) : Bool × SDWebImageDownloaderOperation :=
  let operation := { operation with callbackBlocks := operation.callbackBlocks.filter (· ≠ token) }
  if operation.callbackBlocks.length = 0 then (true, operation.cancelInternal) else (false, operation)

def start : SDWebImageDownloaderOperation :=
  match operation.stage with
  | .ready =>
      if operation.cancelled then { operation with stage := .stopped, finished := true }.reset
      else { operation with stage := .executing, dataTask := true }
  | _ => operation

end SDWebImageDownloaderOperation

structure SDWebImageDownloadToken where
  url : NSURL
  /-- The number of the operation that the handler was added to. -/
  downloadOperation : Nat
  deriving DecidableEq, Repr

structure SDWebImageDownloader where
  operations : List SDWebImageDownloaderOperation := []
  URLOperations : NSURL → Option Nat := fun _ => none
  /-- The token for which the main thread has found an operation but not added the handler yet. -/
  adding : Option SDWebImageDownloadToken := none
  tokens : List SDWebImageDownloadToken := []
  /-- The handlers that the main queue is to call. -/
  mainQueue : List (Nat × SDDownload) := []

inductive SDWebImageDownloaderEvent where
  | addProgressCallback (url : NSURL)
  | addHandlers
  | cancel (token : Nat)
  | completed
  | start (operation : Nat)
  | didComplete (operation : Nat)
  | callCompletionBlocks (operation : Nat) (download : SDDownload)
  | done (operation : Nat)
  | reset (operation : Nat)
  | completionBlock (operation : Nat)

inductive SDWebImageDownloaderAction where
  | added (token operation : Nat)
  | cancelled (token : Nat)
  | took (operation : Nat) (download : SDDownload)
  | called (token : Nat) (download : SDDownload)
  | removed (operation entry : Nat)
  deriving DecidableEq, Repr

namespace SDWebImageDownloader

variable (downloader : SDWebImageDownloader)

def setOperation (number : Nat) (operation : SDWebImageDownloaderOperation) : SDWebImageDownloader :=
  { downloader with operations := downloader.operations.set number operation }

def addProgressCallback (url : NSURL) : SDWebImageDownloader :=
  match downloader.URLOperations url with
  | some number => { downloader with adding := some ⟨url, number⟩ }
  | none =>
      let number := downloader.operations.length
      { downloader with
        operations := downloader.operations ++ [{ url }]
        URLOperations := Function.update downloader.URLOperations url (some number)
        adding := some ⟨url, number⟩ }

def addHandlers (token : SDWebImageDownloadToken) (operation : SDWebImageDownloaderOperation) :
    SDWebImageDownloader :=
  let number := downloader.tokens.length
  { downloader.setOperation token.downloadOperation
      { operation with callbackBlocks := operation.callbackBlocks ++ [number] } with
    adding := none
    tokens := downloader.tokens ++ [token] }

/-- The operation is looked up by its url, not taken from the token. -/
def cancel (number : Nat) (token : SDWebImageDownloadToken) : SDWebImageDownloader :=
  match downloader.URLOperations token.url with
  | none => downloader
  | some found =>
      match downloader.operations[found]? with
      | none => downloader
      | some operation =>
          let (cancelled, operation) := operation.cancel number
          let downloader := downloader.setOperation found operation
          if cancelled then
            { downloader with URLOperations := Function.update downloader.URLOperations token.url none }
          else downloader

def callCompletionBlocks (number : Nat) (operation : SDWebImageDownloaderOperation) (download : SDDownload) :
    SDWebImageDownloader :=
  { downloader.setOperation number { operation with stage := .answered } with
    mainQueue := downloader.mainQueue ++ operation.callbackBlocks.map fun token => (token, download) }

/-- The entry of the url is removed, whichever operation it is. -/
def completionBlock (number : Nat) (operation : SDWebImageDownloaderOperation) : SDWebImageDownloader :=
  { downloader.setOperation number { operation with completionBlock := false } with
    URLOperations := Function.update downloader.URLOperations operation.url none }

/-- What the main thread does. -/
def mainStep : SDWebImageDownloaderEvent → SDWebImageDownloader × List SDWebImageDownloaderAction
  | .addProgressCallback url =>
      if downloader.adding = none then (downloader.addProgressCallback url, []) else (downloader, [])
  | .addHandlers =>
      match downloader.adding with
      | none => (downloader, [])
      | some token =>
          match downloader.operations[token.downloadOperation]? with
          | none => (downloader, [])
          | some operation =>
              (downloader.addHandlers token operation, [.added downloader.tokens.length token.downloadOperation])
  | .cancel number =>
      match downloader.adding, downloader.tokens[number]? with
      | none, some token => (downloader.cancel number token, [.cancelled number])
      | _, _ => (downloader, [])
  | .completed =>
      match downloader.adding, downloader.mainQueue with
      | none, (token, download) :: rest => ({ downloader with mainQueue := rest }, [.called token download])
      | _, _ => (downloader, [])
  | _ => (downloader, [])

/-- What other threads do for an operation. -/
def operationStep (number : Nat) (operation : SDWebImageDownloaderOperation) :
    SDWebImageDownloaderEvent → SDWebImageDownloader × List SDWebImageDownloaderAction
  | .start _ => (downloader.setOperation number operation.start, [])
  -- the session may have found the operation before it was cancelled
  | .didComplete _ =>
      if operation.stage = .executing then
        (downloader.setOperation number { operation with stage := .completing, dataTask := false }, [])
      else (downloader, [])
  | .callCompletionBlocks _ download =>
      if operation.stage = .completing then
        (downloader.callCompletionBlocks number operation download, [.took number download])
      else (downloader, [])
  | .done _ =>
      if operation.stage = .answered then
        (downloader.setOperation number { operation with stage := .done, finished := true }, [])
      else (downloader, [])
  | .reset _ =>
      if operation.stage = .done then
        (downloader.setOperation number { operation with stage := .reset }.reset, [])
      else (downloader, [])
  | .completionBlock _ =>
      if operation.finished && operation.completionBlock then
        (downloader.completionBlock number operation,
          (downloader.URLOperations operation.url).toList.map (.removed number))
      else (downloader, [])
  | _ => (downloader, [])

end SDWebImageDownloader

/-- The operation that an event of another thread is about. -/
def SDWebImageDownloaderEvent.operation : SDWebImageDownloaderEvent → Option Nat
  | .start number | .didComplete number | .callCompletionBlocks number _ | .done number | .reset number
  | .completionBlock number => some number
  | _ => none

def SDWebImageDownloader.step (downloader : SDWebImageDownloader) (event : SDWebImageDownloaderEvent) :
    SDWebImageDownloader × List SDWebImageDownloaderAction :=
  match event.operation with
  | none => downloader.mainStep event
  | some number =>
      match downloader.operations[number]? with
      | none => (downloader, [])
      | some operation => downloader.operationStep number operation event

end RealSocial
