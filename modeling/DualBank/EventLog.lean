import DualBank.Event
import DualBank.Host

/-! Events that go to the log, a line each. The latest of them are kept. -/

namespace DualBank

structure EventLog where
  capacity : Nat
  history : List Event

namespace EventLog

def standard : EventLog := ⟨32, []⟩

def record (interfaceName path : String) (event : Event) : Log.Record :=
  ⟨.info, some "telemetry", interfaceName ++ path ++ " " ++ event.toJson.print⟩

def keep (log : EventLog) (event : Event) : EventLog :=
  if log.capacity = 0 then log
  else
    { log with
      history := log.history.drop (log.history.length + 1 - log.capacity) ++ [event] }

def publish (log : EventLog) (interfaceName path : String) (event : Event) : Host EventLog := do
  Host.request (.log (record interfaceName path event))
  pure (log.keep event)

end EventLog

end DualBank
