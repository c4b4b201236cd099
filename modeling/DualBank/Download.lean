import DualBank.Bytes
import DualBank.Log
import DualBank.Program
import DualBank.SystemError
import DualBank.UpdateError

/-! Downloads: an image that arrives in chunks, each of which its receiver judges. -/

namespace DualBank

structure Chunk where
  data : Bytes
  /-- Bytes received so far, those of this chunk included. -/
  received : UInt64
  /-- The size announced for the whole; it may change on the way. -/
  total : UInt64
  last : Bool

structure Verdict where
  result : Except UpdateError Unit
  aborted : Bool

namespace Source

inductive Call where
  | openFile (path : String)
  | read (limit : UInt64)
  | elapsed
  | log (record : Log.Record)

abbrev Reply : Call → Type
  | .openFile _ => Except SystemError UInt64
  | .read _ => Except SystemError Bytes
  | .elapsed => Nat
  | .log _ => Unit

end Source

namespace Download

inductive Call where
  | deliver (chunk : Chunk)
  | source (call : Source.Call)

abbrev Reply : Call → Type
  | .deliver _ => Verdict
  | .source call => Source.Reply call

abbrev interface : Interface := ⟨Call, Reply⟩

end Download

/-- A transfer in progress: it delivers chunks and goes on as their verdicts say, or not, as it
likes. -/
abbrev Download := Program Download.interface (Except UpdateError Unit)

end DualBank
