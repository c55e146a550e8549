import CoverControl.Cover.Inbound
import CoverControl.Cover.Operation

/-!
# Runs of a cover

Everything that can happen to a cover, as one type of acts. A run is a list of acts, each done
before the next one starts; the transport may answer every request as it likes.
-/

namespace CoverControl

namespace Cover

inductive Act where
  | message (topic payload : String)
  | execute (command : Command)
  | subscribe
  | rename (entityId : String)
  | updateConfig (config : Config)
  | remove

variable {σ : Type} (transport : Transport σ)

/-- Lets a cover handle a message; the transport has no part in it. -/
def hear (topic payload : String) (run : Running σ) : Running σ :=
  let handled := run.cover.handleMessage topic payload
  { run with
    cover := handled.cover
    notices := run.notices ++ handled.notices
    journal := run.journal ++ handled.journal }

/-- Performs one act. -/
def perform (act : Act) (run : Running σ) : Except Failure Unit × Running σ :=
  match act with
  | .message topic payload => (.ok (), hear topic payload run)
  | .execute command => execute transport command run
  | .subscribe => subscribeTopics transport run
  | .rename entityId => rename transport entityId run
  | .updateConfig config => updateConfig transport config run
  | .remove => remove transport run

/-- Performs several acts in turn, whatever comes of each. -/
def performAll : List Act → Running σ → Running σ
  | [], run => run
  | act :: acts, run => performAll acts (perform transport act run).2

end Cover

end CoverControl
