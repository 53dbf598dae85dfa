import Mathlib.Logic.Function.Basic

namespace RealSocial

/-! # The upload hosts of a zone -/

/-- A domain that failed is passed by until its time, in seconds. -/
structure QNZoneInfo where
  upDomainsList : List String
  upDomainsDic : String → Option Int

/-- A call of `upHost:isHttps:lastUpHost:`: what it is given, what it returns, and whether it found all domains
frozen and reset them. -/
structure QNUpHostCall where
  lastUpHost : Option String
  now : Int
  upHost : Option String
  allFrozen : Bool
  deriving DecidableEq, Repr

namespace QNZoneInfo

variable (zoneInfo : QNZoneInfo)

def setTime (domain : String) (time : Int) : QNZoneInfo :=
  { zoneInfo with upDomainsDic := Function.update zoneInfo.upDomainsDic domain (some time) }

def frozenDomain (now : Int) (domain : String) : QNZoneInfo := zoneInfo.setTime domain (now + 10 * 60)

-- no date compares as the same date
def isFrozen (now : Int) (domain : String) : Bool :=
  match zoneInfo.upDomainsDic domain with
  | some frozenTill => !decide (frozenTill < now)
  | none => true

def upScheme (isHttps : Bool) : String := if isHttps then "https://" else "http://"

def upDomainOf (isHttps : Bool) (upHost : String) : String :=
  String.ofList (upHost.toList.drop (if isHttps then 8 else 7))

def freezeLast (isHttps : Bool) (lastUpHost : Option String) (now : Int) : QNZoneInfo :=
  match lastUpHost with
  | some lastUpHost => zoneInfo.frozenDomain now (upDomainOf isHttps lastUpHost)
  | none => zoneInfo

def resetAll : QNZoneInfo := zoneInfo.upDomainsList.foldl (fun zoneInfo domain => zoneInfo.setTime domain 0) zoneInfo

def upHost (isHttps : Bool) (lastUpHost : Option String) (now : Int) : QNZoneInfo × QNUpHostCall :=
  let zoneInfo := zoneInfo.freezeLast isHttps lastUpHost now
  match zoneInfo.upDomainsList.find? fun backupDomain => !zoneInfo.isFrozen now backupDomain with
  | some upDomain =>
      (zoneInfo.setTime upDomain 0,
        { lastUpHost, now, upHost := some (upScheme isHttps ++ upDomain), allFrozen := false })
  | none =>
      (zoneInfo.resetAll,
        { lastUpHost, now, upHost := zoneInfo.upDomainsList.head?.map (upScheme isHttps ++ ·), allFrozen := true })

end QNZoneInfo

namespace QNFixedZone

def createZoneInfo (upDomainList : List String) : QNZoneInfo where
  upDomainsList := upDomainList
  upDomainsDic domain := if domain ∈ upDomainList then some 0 else none

def zone2 : QNZoneInfo :=
  createZoneInfo ["upload-z2.qiniup.com", "upload-gz.qiniup.com", "upload-fs.qiniup.com", "up-z2.qiniup.com",
    "up-gz.qiniup.com", "up-fs.qiniup.com", "upload-z2.qbox.me", "up-z2.qbox.me"]

end QNFixedZone

end RealSocial
