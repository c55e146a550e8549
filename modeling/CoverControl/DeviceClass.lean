import CoverControl.Fault
import CoverControl.Json.Record

/-!
# Device classes

The kinds of covers that the hub tells apart.
-/

namespace CoverControl

inductive DeviceClass where
  | awning
  | blind
  | curtain
  | damper
  | door
  | garage
  | gate
  | shade
  | shutter
  | window
deriving DecidableEq, Repr

namespace DeviceClass

def name : DeviceClass → String
  | awning => "awning"
  | blind => "blind"
  | curtain => "curtain"
  | damper => "damper"
  | door => "door"
  | garage => "garage"
  | gate => "gate"
  | shade => "shade"
  | shutter => "shutter"
  | window => "window"

def all : List DeviceClass :=
  [awning, blind, curtain, damper, door, garage, gate, shade, shutter, window]

/-- The class of a name, in exactly this spelling. -/
def ofName? (name : String) : Except ConfigFault DeviceClass :=
  match all.find? fun deviceClass => deviceClass.name == name with
  | some deviceClass => .ok deviceClass
  | none => .error (.invalidDeviceClass name)

/-- Reads a class from its name. -/
def reader : Json.Reader DeviceClass :=
  Json.readVariant (all.map fun deviceClass => (deviceClass.name, deviceClass))

end DeviceClass

end CoverControl
