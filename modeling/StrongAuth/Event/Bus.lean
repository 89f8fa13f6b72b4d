import StrongAuth.Event
import StrongAuth.Text.Decimal

/-! # The event bus

Every event goes to all subscribers in the order in which they came, and to a channel
that keeps the latest events for its receivers. A receiver that falls behind loses the
events that the channel no longer keeps, and learns how many they were. -/

namespace StrongAuth

def channelCapacity : Nat := 128

/-- A bus whose subscribers and receivers are known by names. -/
structure EventBus where
  subscribers : List String
  /-- The receivers, with the number of events sent before the one each of them gets next. -/
  receivers : List (String × Nat)
  sent : Nat
  /-- The events that the channel keeps, the earliest first. -/
  kept : List Event
  deriving Repr

namespace EventBus

def empty : EventBus := ⟨[], [], 0, []⟩

def subscribe (name : String) (bus : EventBus) : EventBus :=
  { bus with subscribers := bus.subscribers ++ [name] }

def unsubscribe (name : String) (bus : EventBus) : EventBus :=
  { bus with subscribers := bus.subscribers.filter (· != name) }

def close (name : String) (bus : EventBus) : Bool × EventBus :=
  ((bus.receivers.lookup name).isSome,
    { bus with receivers := bus.receivers.filter fun receiver => receiver.1 != name })

/-- Opens a receiver for the events from now on, in place of one of the same name. -/
def receiver (name : String) (bus : EventBus) : EventBus :=
  let closed := (bus.close name).2
  { closed with receivers := closed.receivers ++ [(name, bus.sent)] }

/-- Sends an event: the subscribers that get it, and the bus after it. -/
def publish (event : Event) (bus : EventBus) : List String × EventBus :=
  let kept := bus.kept ++ [event]
  (bus.subscribers, { bus with
    sent := bus.sent + 1
    kept := kept.drop (kept.length - channelCapacity) })

/-- Takes everything there is for a receiver: how many events it lost, and the others. -/
def drain (name : String) (bus : EventBus) : Option ((Nat × List Event) × EventBus) :=
  match bus.receivers.lookup name with
  | none => none
  | some next =>
      let earliest := bus.sent - bus.kept.length
      let receivers := bus.receivers.map fun receiver =>
        if receiver.1 = name then (name, bus.sent) else receiver
      some ((earliest - next, bus.kept.drop (next - earliest)), { bus with receivers })

def text (bus : EventBus) : String :=
  "EventBus \x7b receivers: " ++ Decimal.text bus.receivers.length ++ " \x7d"

end EventBus

end StrongAuth
