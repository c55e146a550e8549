import CoverControl.Network

/-!
# Loopback

A transport that stays in memory: it routes to its own subscribers, keeps a trace of the requests,
and refuses those it was told to refuse.
-/

namespace CoverControl

namespace Loopback

inductive Action where
  | publish
  | subscribe
  | unsubscribe
deriving DecidableEq, Repr

def Action.name : Action → String
  | publish => "publish"
  | subscribe => "subscribe"
  | unsubscribe => "unsubscribe"

/-- A request as the trace shows it. -/
inductive Request where
  | refused (action : Action) (topic : String)
  | published (message : Message)
  | subscribed (topic : String) (qos : Qos) (first : Bool)
  | unsubscribed (topic : String) (last : Bool)
deriving DecidableEq, Repr

end Loopback

open Loopback in
structure Loopback where
  router : Router
  /-- The requests to refuse, and with what fault. -/
  refusals : List ((Action × String) × TransportFault)
  /-- The requests so far, the first one first. -/
  trace : List Request
deriving Repr

namespace Loopback

def empty : Loopback := ⟨.empty, [], []⟩

/-- Refuses an action on a topic from now on. -/
def refuse (loopback : Loopback) (action : Action) (topic : String) (fault : TransportFault) :
    Loopback :=
  { loopback with refusals := ((action, topic), fault) :: loopback.refusals }

/-- Refuses nothing any more. -/
def heal (loopback : Loopback) : Loopback := { loopback with refusals := [] }

/-- Answers a request by a fault if it is to be refused, and else as given. -/
def answer (loopback : Loopback) (action : Action) (topic : String) (grant : Reply Loopback) :
    Reply Loopback :=
  match loopback.refusals.lookup (action, topic) with
  | some fault =>
    ⟨.error fault, { loopback with trace := loopback.trace ++ [.refused action topic] }, []⟩
  | none => grant

def publish (message : Message) (loopback : Loopback) : Reply Loopback :=
  loopback.answer .publish message.topic
    ⟨.ok (), { loopback with trace := loopback.trace ++ [.published message] }, []⟩

def subscribe (handler : Handler) (topic : String) (qos : Qos) (loopback : Loopback) :
    Reply Loopback :=
  let (router, first) := loopback.router.register topic handler
  loopback.answer .subscribe topic
    ⟨.ok (),
      { loopback with
        router := router, trace := loopback.trace ++ [.subscribed topic qos first] },
      [.handlerRegistered topic]⟩

def unsubscribe (handler : Handler) (topic : String) (loopback : Loopback) : Reply Loopback :=
  let (router, last) := loopback.router.unregister topic handler
  loopback.answer .unsubscribe topic
    ⟨.ok (),
      { loopback with
        router := router, trace := loopback.trace ++ [.unsubscribed topic last] },
      [.handlerUnregistered topic]⟩

/-- A loopback as the network of its handlers. -/
def network : Network Loopback where
  transport handler := ⟨publish, subscribe handler, unsubscribe handler⟩
  forget handler loopback := { loopback with router := loopback.router.drop handler }

end Loopback

end CoverControl
