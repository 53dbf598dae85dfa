import RealSocial.Proof.UploadOutcome

namespace RealSocial.Proof

open Library QNZoneInfo

/-! # The hosts that a zone gives to uploads -/

section Zone

variable {zoneInfo : QNZoneInfo} {isHttps : Bool} {domain : String}

end Zone

/-! ## The calls of the uploads -/

section Uploads

variable {policy : List Char → Option QNPolicy} {manager : QNUploadManager}

end Uploads

end RealSocial.Proof
