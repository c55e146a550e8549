import CoverControl.Cover.Inbound
import CoverControl.Cover.Operation
import CoverControl.Router

/-!
# Fleets

Covers that share a transport, each known to it as a handler of messages.
-/

namespace CoverControl

/-- Covers with the handlers under which their transport knows them. -/
abbrev Fleet := List (Handler × Cover)

namespace Fleet

/-- Puts a cover in the place of the one with the same handler. -/
def update (fleet : Fleet) (handler : Handler) (cover : Cover) : Fleet :=
  fleet.map fun (h, old) => if h = handler then (h, cover) else (h, old)

/-- Hands a message to one handler; handlers that are no covers of the fleet are passed over. -/
def deliverTo (topic payload : String) (fleet : Fleet) (handler : Handler) :
    Fleet × List (Handler × Notice) × List Journal.Entry :=
  match fleet.lookup handler with
  | none => (fleet, [], [])
  | some cover =>
    let handled := cover.handleMessage topic payload
    (fleet.update handler handled.cover, handled.notices.map fun notice => (handler, notice),
      handled.journal)

/-- Hands a message to several handlers in turn. -/
def deliver (topic payload : String) : List Handler → Fleet →
    Fleet × List (Handler × Notice) × List Journal.Entry
  | [], fleet => (fleet, [], [])
  | handler :: handlers, fleet =>
    let (fleet, notices, journal) := fleet.deliverTo topic payload handler
    let (fleet, laterNotices, laterJournal) := deliver topic payload handlers fleet
    (fleet, notices ++ laterNotices, journal ++ laterJournal)

end Fleet

end CoverControl
