import CoverControl.Router
import CoverControl.Transport

/-!
# Networks

A network is shared by handlers of messages. It gives each of them a transport, and it has to be
told when one of them is gone.
-/

namespace CoverControl

structure Network (σ : Type) where
  transport : Handler → Transport σ
  forget : Handler → σ → σ

end CoverControl
