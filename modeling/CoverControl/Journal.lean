import CoverControl.Fault

/-!
# Journal

What covers and routers report about their work. An entry has a level, a message and named fields.
-/

namespace CoverControl

namespace Journal

inductive Level where
  | trace
  | debug
  | warn
deriving DecidableEq, Repr

def Level.name : Level → String
  | trace => "TRACE"
  | debug => "DEBUG"
  | warn => "WARN"

inductive Field where
  | text (value : String)
  | flag (value : Bool)
  | count (value : Nat)
deriving DecidableEq, Repr

/-- One event worth reporting. -/
inductive Entry where
  | handlerRegistered (topic : String)
  | handlerUnregistered (topic : String)
  | unheard (topic : String)
  | swept (topic : String)
  | created (entity : String) (optimistic : Bool) (features : Nat)
  | renamed (old new : String)
  | reconfigured (entity : String)
  | removed (entity : String)
  | subscribed (entity topic : String)
  | unsubscribed (entity topic : String)
  | unknownTopic (topic : String)
  | accepted (entity : String) (channel : Channel) (payload : String)
  | unaltered (channel : Channel) (payload : String)
  | undecodable (entity topic : String) (channel : Channel) (payload : String)
      (fault : PayloadFault)
  | sending (entity command topic payload : String)
deriving DecidableEq, Repr

namespace Entry

def level : Entry → Level
  | unheard _ | unknownTopic _ | unaltered _ _ => .trace
  | undecodable _ _ _ _ _ => .warn
  | _ => .debug

def message : Entry → String
  | handlerRegistered _ => "Registering handler for routing"
  | handlerUnregistered _ => "Unregistering handler from routing"
  | unheard _ => "No registered handler for topic"
  | swept _ => "Cleaning up dropped handlers"
  | created _ _ _ => "Creating MQTT cover"
  | renamed _ _ => "Renaming MQTT cover"
  | reconfigured _ => "Updated MQTT cover configuration"
  | removed _ => "Removing MQTT cover"
  | subscribed _ _ => "Subscribed cover topic"
  | unsubscribed _ _ => "Unsubscribed cover topic"
  | unknownTopic _ => "Ignoring message on unknown topic"
  | accepted _ _ _ => "Accepted cover feedback"
  | unaltered _ _ => "Feedback unchanged"
  | undecodable _ _ _ _ _ => "Ignoring undecodable payload"
  | sending _ _ _ _ => "Sending cover command"

def fields : Entry → List (String × Field)
  | handlerRegistered topic | handlerUnregistered topic | unheard topic | swept topic
  | unknownTopic topic => [("topic", .text topic)]
  | created entity optimistic features =>
    [("entity_id", .text entity), ("optimistic", .flag optimistic), ("features", .count features)]
  | renamed old new => [("from", .text old), ("to", .text new)]
  | reconfigured entity | removed entity => [("entity_id", .text entity)]
  | subscribed entity topic | unsubscribed entity topic =>
    [("entity_id", .text entity), ("topic", .text topic)]
  | accepted entity channel payload =>
    [("entity_id", .text entity), ("channel", .text channel.name), ("payload", .text payload)]
  | unaltered channel payload => [("channel", .text channel.name), ("payload", .text payload)]
  | undecodable entity topic channel payload fault =>
    [("entity_id", .text entity), ("topic", .text topic), ("channel", .text channel.name),
      ("payload", .text payload), ("error", .text fault.message)]
  | sending entity command topic payload =>
    [("entity_id", .text entity), ("command", .text command), ("topic", .text topic),
      ("payload", .text payload)]

end Entry

end Journal

end CoverControl
