import RealSocial.System.LogoutRuns

namespace RealSocial.Proof

open Library RSLoginService RSLoginInfoModel

/-! # What is left of an account after its logout -/

section OneRun

variable {resp : RSLoginResp} {service : RSLoginService}

end OneRun

/-! ## Two runs -/

section TwoRuns

variable {resp resp' : RSLoginResp} {services : RSLoginService × RSLoginService}

end TwoRuns

end RealSocial.Proof
