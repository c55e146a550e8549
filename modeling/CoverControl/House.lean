import CoverControl.Cover.Run
import CoverControl.Fleet
import CoverControl.Network
import CoverControl.Roster

/-!
# Houses

A house joins covers with one network. Every cover has a name in the house and a handler on the
network; guests are handlers that only listen. When a resident leaves, the network is told that its
handler is gone.
-/

namespace CoverControl

inductive Resident where
  | cover (name : String)
  | guest (name : String)
deriving DecidableEq, Repr

/-- A message that a guest received. -/
structure Receipt where
  guest : String
  topic : String
  payload : String
deriving DecidableEq, Repr

structure House (σ : Type) where
  network : σ
  roster : Roster Resident
  fleet : Fleet
  /-- What the covers announced, by handler. -/
  notices : List (Handler × Notice)
  journal : List Journal.Entry
  /-- What the guests received. -/
  receipts : List Receipt

namespace House

variable {σ : Type}

def empty (network : σ) : House σ := ⟨network, .empty, [], [], [], []⟩

def report (house : House σ) (entries : List Journal.Entry) : House σ :=
  { house with journal := house.journal ++ entries }

/-- Forgets what was announced and received so far. -/
def settle (house : House σ) : House σ := { house with notices := [], receipts := [] }

/-- The covers by name. -/
def covers (house : House σ) : List (String × Handler × Cover) :=
  house.roster.alive.filterMap fun
    | (.cover name, handler) => (house.fleet.lookup handler).map fun cover => (name, handler, cover)
    | (.guest _, _) => none

/-- The cover with a name, and its handler. -/
def find (house : House σ) (name : String) : Option (Handler × Cover) := do
  let handler ← house.roster.alive.lookup (.cover name)
  let cover ← house.fleet.lookup handler
  some (handler, cover)

/-- Shows a resident out, whose handler the network is to forget, and tells whether it was in. -/
def dismiss (forget : Handler → σ → σ) (house : House σ) (resident : Resident) : House σ × Bool :=
  match house.roster.drop resident with
  | (_, none) => (house, false)
  | (roster, some handler) =>
    ({ house with
        roster := roster
        fleet := house.fleet.filter fun (h, _) => h != handler
        network := forget handler house.network }, true)

/-- Makes a cover under a name; a cover that had the name leaves. -/
def enter (net : Network σ) (house : House σ) (name entityId : String) (config : Config) :
    Except Failure (House σ) := do
  let cover ← Cover.create entityId config
  let (house, _) := house.dismiss net.forget (.cover name)
  let (roster, handler) := house.roster.make (.cover name)
  let house := { house with roster := roster, fleet := house.fleet ++ [(handler, cover)] }
  .ok (house.report [cover.creationEntry])

/-- Lets a cover of the house perform an act. -/
def perform (net : Network σ) (house : House σ) (handler : Handler) (cover : Cover)
    (act : Cover.Act) : Except Failure Unit × House σ :=
  let (result, run) := Cover.perform (net.transport handler) act (.start cover house.network)
  let house :=
    { house with
      network := run.transport
      fleet := house.fleet.update handler run.cover
      notices := house.notices ++ run.notices.map fun notice => (handler, notice) }
  (result, house.report run.journal)

/-- Puts other listeners on a cover of the house. -/
def setListeners (house : House σ) (handler : Handler) (cover : Cover) (listeners : Listeners) :
    House σ :=
  { house with fleet := house.fleet.update handler { cover with listeners := listeners } }

/-- Hands a message to handlers: covers handle it, guests keep it. A message that nobody gets is
reported. -/
def deliver (house : House σ) (topic payload : String) (handlers : List Handler) : House σ :=
  let (fleet, notices, entries) := Fleet.deliver topic payload handlers house.fleet
  let received := handlers.filterMap fun handler =>
    match house.roster.keyOf handler with
    | some (.guest name) => some ⟨name, topic, payload⟩
    | _ => none
  let house :=
    { house with
      fleet := fleet
      notices := house.notices ++ notices
      receipts := house.receipts ++ received }
  house.report (if handlers.isEmpty then [.unheard topic] else entries)

/-- What each guest received, the guests in the order of their first messages. -/
def inbox (house : House σ) : List (String × List Receipt) :=
  let guests := house.receipts.foldl (fun names receipt => Config.addNew names receipt.guest) []
  guests.map fun guest => (guest, house.receipts.filter (·.guest == guest))

/-- The calls of the listeners of one cover. -/
def calls (house : House σ) (handler : Handler) : List Listeners.Call :=
  (house.notices.filter fun (h, _) => h == handler).flatMap fun (_, notice) => notice.calls

end House

end CoverControl
