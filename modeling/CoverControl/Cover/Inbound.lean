import CoverControl.Cover.Basic

/-!
# Inbound messages

A message feeds every channel whose filter matches its topic, one after the other. On each channel
its payload is decoded and the change made; a payload that cannot be decoded there is reported and
changes nothing.
-/

namespace CoverControl

/-- What handling a message comes to. -/
structure Handled where
  cover : Cover
  notices : List Notice
  journal : List Journal.Entry

namespace Cover

/-- Handles a message on one of its channels. -/
def handleChannel (cover : Cover) (topic payload : String) (channel : Channel) : Handled :=
  match cover.tracker.decoder.decode channel payload with
  | .error fault => ⟨cover, [], [.undecodable cover.entityId topic channel payload fault]⟩
  | .ok change => match cover.applyChange change with
    | (cover, []) => ⟨cover, [], [.unaltered channel payload]⟩
    | (cover, notices) => ⟨cover, notices, [.accepted cover.entityId channel payload]⟩

/-- Handles a message on several channels in turn. -/
def handleChannels (topic payload : String) : List Channel → Cover → Handled
  | [], cover => ⟨cover, [], []⟩
  | channel :: channels, cover =>
    let first := cover.handleChannel topic payload channel
    let rest := handleChannels topic payload channels first.cover
    ⟨rest.cover, first.notices ++ rest.notices, first.journal ++ rest.journal⟩

/-- Handles a message. -/
def handleMessage (cover : Cover) (topic payload : String) : Handled :=
  match cover.config.classify topic with
  | [] => ⟨cover, [], [.unknownTopic topic]⟩
  | channels => handleChannels topic payload channels cover

end Cover

end CoverControl
