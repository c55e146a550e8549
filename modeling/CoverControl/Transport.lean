import CoverControl.Encoder
import CoverControl.Journal

/-!
# Transports

What a cover needs of the network: to publish a message, and to subscribe to a filter or give it
up. A transport is any machine with a state of type `σ` that answers these three requests; it may
refuse each of them as it likes. The subscriptions are those of one handler of messages.
-/

namespace CoverControl

/-- The answer to a request, the state after it and what was reported meanwhile. -/
structure Reply (σ : Type) where
  result : Except TransportFault Unit
  state : σ
  journal : List Journal.Entry

structure Transport (σ : Type) where
  publish : Message → σ → Reply σ
  subscribe : String → Qos → σ → Reply σ
  unsubscribe : String → σ → Reply σ

end CoverControl
