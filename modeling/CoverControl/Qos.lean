import CoverControl.Fault
import CoverControl.Json.Record

/-!
# Quality of service

The delivery guarantee of a subscription or a publication, written as a level from 0 to 2.
-/

namespace CoverControl

inductive Qos where
  | atMostOnce
  | atLeastOnce
  | exactlyOnce
deriving DecidableEq, Repr, Inhabited

namespace Qos

def level : Qos → Nat
  | atMostOnce => 0
  | atLeastOnce => 1
  | exactlyOnce => 2

def ofLevel? : Nat → Except ConfigFault Qos
  | 0 => .ok atMostOnce
  | 1 => .ok atLeastOnce
  | 2 => .ok exactlyOnce
  | level => .error (.invalidQos level)

/-- Reads a quality of service from its level. -/
def reader : Json.Reader Qos := fun cs => do
  let (level, cs) ← Json.readByte cs
  match ofLevel? level with
  | .ok qos => .ok (qos, cs)
  | .error fault => .error (.rejected fault.message)

end Qos

end CoverControl
