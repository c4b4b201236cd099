import DualBank.Agent
import DualBank.SettingsTable

/-! A device in memory, for trying out updates without flash. -/

namespace DualBank

/-- `written` is what the writer has taken so far; `script` holds the downloads to come. -/
structure Bench where
  settings : SettingsTable
  primary : Bytes
  secondary : Bytes
  written : UInt64
  swap : SwapType
  confirmed : Bool
  script : List Download

namespace Bench

def fresh : Bench where
  settings := .empty
  primary := []
  secondary := []
  written := 0
  swap := .none
  confirmed := false
  script := []

def image (bench : Bench) : Bank → Bytes
  | .primary => bench.primary
  | .secondary => bench.secondary

def erase (bench : Bench) : Bank → Bench
  | .primary => { bench with primary := [] }
  | .secondary => { bench with secondary := [] }

def header (bench : Bench) (bank : Bank) : Image.Header where
  magic := Image.Header.magicNumber
  imageSize := UInt32.ofNat (bench.image bank).length
  version := ⟨0, 0, 0, 0⟩

def answer : (call : Device.Call) → Bench → Device.Reply call × Bench
  | .initSettings, bench => (.ok (), bench)
  | .save space key value, bench =>
      (.ok (), { bench with settings := bench.settings.save space key value })
  | .load space key, bench => (.ok (bench.settings.load space key), bench)
  | .delete space key, bench => (.ok (), { bench with settings := bench.settings.delete space key })
  | .erase bank, bench => (.ok (), bench.erase bank)
  | .openWriter _, bench => (.ok (), { bench with written := 0 })
  | .write data _, bench =>
      (.ok (bench.written + UInt64.ofNat data.length),
        { bench with
          secondary := bench.secondary ++ data
          written := bench.written + UInt64.ofNat data.length })
  | .closeWriter, bench => ((), bench)
  | .readHeader bank, bench => (.ok (bench.header bank), bench)
  | .swapType, bench => (bench.swap, bench)
  | .isConfirmed, bench => (bench.confirmed, bench)
  | .confirm, bench => (.ok (), { bench with confirmed := true })
  | .requestTest, bench => (.ok (), { bench with swap := .test })
  | .download .., bench =>
      match bench.script with
      | [] => (.done (.error .network), bench)
      | download :: script => (download, { bench with script := script })
  | .source (.openFile _), bench => (.error .notFound, bench)
  | .source (.read _), bench => (.ok [], bench)
  | .source .elapsed, bench => (0, bench)
  | .source (.log _), bench => ((), bench)
  | .publish _, bench => (.ok (), bench)
  | .now, bench => (0, bench)
  | .sleep _, bench => ((), bench)
  | .log _, bench => ((), bench)
  | .startThread stackSize, bench => (SystemError.forStack stackSize, bench)
  | .restart, bench => ((), bench)

def refuse (failure : Failure) (error : FlashError) :
    (call : Device.Call) → Option (Device.Reply call)
  | .initSettings | .save .. | .delete .. | .publish _ | .load .. => some (.error failure)
  | .erase _ | .openWriter _ | .confirm | .requestTest | .write .. | .readHeader _ =>
      some (.error error)
  | .startThread _ => some (.error (.numbered 11))
  | .closeWriter | .swapType | .isConfirmed | .download .. | .source _ | .now | .sleep _ | .log _
  | .restart => none

end Bench

end DualBank
