import DualBank.Event

/-! The listeners on the device, in the order in which they joined. -/

namespace DualBank

/-- A listener that gave up its inbox is no longer `held`; it stays in the list until the next
notification. -/
structure Listener where
  id : Nat
  held : Bool
  inbox : List Notification
deriving DecidableEq

structure Listeners where
  nextId : Nat
  entries : List Listener
deriving DecidableEq

namespace Listeners

def empty : Listeners := ⟨0, []⟩

def subscribe (listeners : Listeners) : Nat × Listeners :=
  (listeners.nextId,
    ⟨listeners.nextId + 1, listeners.entries ++ [⟨listeners.nextId, true, []⟩]⟩)

def release (listeners : Listeners) (id : Nat) : Listeners :=
  { listeners with
    entries := listeners.entries.map fun listener =>
      if listener.id = id then { listener with held := false, inbox := [] } else listener }

def notify (listeners : Listeners) (notification : Notification) : Listeners :=
  { listeners with
    entries := (listeners.entries.filter (·.held)).map fun listener =>
      { listener with inbox := listener.inbox ++ [notification] } }

def inbox? (listeners : Listeners) (id : Nat) : Option (List Notification) :=
  (listeners.entries.find? fun listener => listener.id = id && listener.held).map (·.inbox)

def drain (listeners : Listeners) (id : Nat) : Option (List Notification) × Listeners :=
  (listeners.inbox? id,
    { listeners with
      entries := listeners.entries.map fun listener =>
        if listener.id = id then { listener with inbox := [] } else listener })

end Listeners

end DualBank
