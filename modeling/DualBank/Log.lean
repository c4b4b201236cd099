/-! Records of the log, and the lines in which the console shows them. -/

namespace DualBank.Log

inductive Level where
  | error
  | warn
  | info
  | debug
  | trace
deriving DecidableEq

inductive Filter where
  | off
  | upTo (level : Level)
deriving DecidableEq

structure Record where
  level : Level
  origin : Option String
  message : String
deriving DecidableEq

namespace Level

def rank : Level → Nat
  | .error => 1
  | .warn => 2
  | .info => 3
  | .debug => 4
  | .trace => 5

def letter : Level → String
  | .error => "E"
  | .warn => "W"
  | .info => "I"
  | .debug => "D"
  | .trace => "T"

def colour : Level → String
  | .error => "\x1b[91m"
  | .warn => "\x1b[93m"
  | .info => "\x1b[92m"
  | .debug => "\x1b[94m"
  | .trace => "\x1b[90m"

end Level

namespace Filter

def admits : Filter → Level → Bool
  | .off, _ => false
  | .upTo highest, level => level.rank ≤ highest.rank

def ofText? (text : String) : Option Filter :=
  let name := text.map Char.toLower
  if name = "off" then some .off
  else if name = "error" then some (.upTo .error)
  else if name = "warn" || name = "warning" then some (.upTo .warn)
  else if name = "info" then some (.upTo .info)
  else if name = "debug" then some (.upTo .debug)
  else if name = "trace" then some (.upTo .trace)
  else none

end Filter

def padLeft (fill : Char) (width : Nat) (text : String) : String :=
  String.ofList (List.replicate (width - text.length) fill) ++ text

def elapsedText (milliseconds : UInt64) : String :=
  let seconds := milliseconds.toNat / 1000
  if seconds < 60 then
    padLeft ' ' 3 (toString seconds) ++ "." ++
      padLeft '0' 3 (toString (milliseconds.toNat % 1000)) ++ "s"
  else if seconds < 3600 then
    padLeft ' ' 2 (toString (seconds / 60)) ++ "m" ++ padLeft '0' 2 (toString (seconds % 60)) ++ "s"
  else
    padLeft ' ' 2 (toString (seconds / 3600)) ++ "h" ++
      padLeft '0' 2 (toString (seconds % 3600 / 60)) ++ "m"

def untilSeparator : List Char → List Char
  | [] => []
  | ':' :: ':' :: _ => []
  | character :: rest => character :: untilSeparator rest

def afterLastSeparator (path : List Char) : List Char :=
  (untilSeparator path.reverse).reverse

def shortOrigin (origin : Option String) : String :=
  String.ofList ((afterLastSeparator (origin.getD "unknown").toList).take 12)

namespace Record

def line (elapsed : String) (record : Record) : String :=
  record.level.colour ++ elapsed ++ " [" ++ record.level.letter ++ "] " ++
    padLeft ' ' 12 (shortOrigin record.origin) ++ " | " ++ record.message ++ "\x1b[0m"

def line? (filter : Filter) (elapsed : String) (record : Record) : Option String :=
  if filter.admits record.level then some (record.line elapsed) else none

end Record

end DualBank.Log
