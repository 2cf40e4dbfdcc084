import Chromiacast.ControlSessions

/-! The end of a control connection. The loop ends well only by tearing down what it knows of, and
once it has ended it is silent. -/
namespace Chromiacast
open Basis

section Closing
variable {fromStr : String → Except String Json} {now : Nat} {actions : List ControlAction}

open ControlRun

end Closing

end Chromiacast
