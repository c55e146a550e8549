import CoverControl.Topic

/-!
# Routing messages

A router knows which handlers listen to which filters. It does not keep its handlers alive: a
handler that is gone gets no more messages, and its entries are swept out when their filter is next
registered or unregistered, or by `cleanup`. Every filter that is kept has at least one entry.
-/

namespace CoverControl

/-- A handler of messages, known by a number that no other handler ever has. -/
abbrev Handler := Nat

structure Router where
  /-- The filters with their handlers, in the order of their first registration. -/
  entries : List (String × List Handler)
  /-- The handlers that are gone. -/
  gone : List Handler
deriving DecidableEq, Repr, Inhabited

namespace Router

def empty : Router := ⟨[], []⟩

def isLive (router : Router) (handler : Handler) : Bool := !router.gone.contains handler

/-- The handlers of a filter, those that are gone included. -/
def handlersOf (router : Router) (filter : String) : Option (List Handler) :=
  router.entries.lookup filter

/-- Sets the handlers of a filter in its place; a new filter goes to the end. -/
def put (filter : String) (handlers : List Handler) :
    List (String × List Handler) → List (String × List Handler)
  | [] => [(filter, handlers)]
  | (f, hs) :: entries =>
    if f = filter then (filter, handlers) :: entries else (f, hs) :: put filter handlers entries

/-- Registers a handler for a filter, and tells whether it is the only one there. -/
def register (router : Router) (filter : String) (handler : Handler) : Router × Bool :=
  let handlers := ((router.handlersOf filter).getD []).filter router.isLive
  if handlers.contains handler then
    ({ router with entries := put filter handlers router.entries }, false)
  else
    let handlers := handlers ++ [handler]
    ({ router with entries := put filter handlers router.entries }, handlers.length == 1)

/-- Removes a handler from a filter, and tells whether the filter has no handler any more. -/
def unregister (router : Router) (filter : String) (handler : Handler) : Router × Bool :=
  match router.handlersOf filter with
  | none => (router, false)
  | some handlers =>
    let handlers := handlers.filter fun h => router.isLive h && h != handler
    if handlers.isEmpty then
      ({ router with entries := router.entries.filter fun (f, _) => f != filter }, true)
    else ({ router with entries := put filter handlers router.entries }, false)

/-- Notes that a handler is gone. -/
def drop (router : Router) (handler : Handler) : Router :=
  { router with gone := handler :: router.gone }

/-- The handlers that get a message on a topic: once for each matching filter they listen to. -/
def recipients (router : Router) (topic : String) : List Handler :=
  (router.entries.filter fun (filter, _) => Topic.accepts filter topic).flatMap
    fun (_, handlers) => handlers.filter router.isLive

/-- Sweeps out the handlers that are gone, and lists the filters that have none left. -/
def cleanup (router : Router) : Router × List String :=
  let swept := router.entries.map fun (filter, handlers) => (filter, handlers.filter router.isLive)
  ({ router with entries := swept.filter fun (_, handlers) => !handlers.isEmpty },
    (swept.filter fun (_, handlers) => handlers.isEmpty).map (·.1))

def filters (router : Router) : List String := router.entries.map (·.1)

/-- The number of entries whose handlers are live. -/
def activeCount (router : Router) : Nat :=
  (router.entries.flatMap fun (_, handlers) => handlers.filter router.isLive).length

/-- How a router shows in messages. -/
def describe (router : Router) : String :=
  "TopicRouter \x7b filter_count: " ++ toString router.entries.length ++ " \x7d"

end Router

end CoverControl
