import DualBank.Json.Fields
import DualBank.Json.Printer
import DualBank.Json.Reader

/-! The rules an installation keeps to. -/

namespace DualBank

structure Policy where
  maxAttempts : UInt8
  /-- Milliseconds. -/
  backoff : UInt64
  /-- Milliseconds. -/
  downloadTimeout : UInt64
  headers : List (String × String)
  progressStep : UInt8
  /-- Seconds between the announcement of a restart and the restart. -/
  restartGrace : UInt64
  stackSize : UInt64
deriving DecidableEq

namespace Policy

def standard : Policy where
  maxAttempts := 5
  backoff := 2000
  downloadTimeout := 60000
  headers := []
  progressStep := 10
  restartGrace := 5
  stackSize := 65536

def check (policy : Policy) : Except String Unit :=
  if policy.maxAttempts = 0 then .error "max_attempts must be at least 1"
  else if policy.progressStep = 0 || 100 < policy.progressStep then
    .error "progress_step must be within 1..=100"
  else if policy.stackSize < 4096 then .error "worker_stack_size must be at least 4096 bytes"
  else .ok ()

-- The milliseconds to wait after the failure of an attempt; attempts count from 0, and the wait
-- grows with their number up to the largest there is.
def backoffAfter (policy : Policy) (attempt : UInt8) : UInt64 :=
  UInt64.ofNat (min (policy.backoff.toNat * attempt.toNat) (UInt64.size - 1))

def fieldNames : List String :=
  ["max_attempts", "attempt_backoff_ms", "download_timeout_ms", "download_headers", "progress_step",
    "reboot_grace_secs", "worker_stack_size"]

def members (policy : Policy) : List (String × Json.Value) :=
  [("max_attempts", .integer policy.maxAttempts.toNat),
    ("attempt_backoff_ms", .integer policy.backoff.toNat),
    ("download_timeout_ms", .integer policy.downloadTimeout.toNat),
    ("download_headers",
      .array (policy.headers.map fun (name, value) => .array [.text name, .text value])),
    ("progress_step", .integer policy.progressStep.toNat),
    ("reboot_grace_secs", .integer policy.restartGrace.toNat),
    ("worker_stack_size", .integer policy.stackSize.toNat)]

def toJson (policy : Policy) : Json.Value :=
  .ofMembers policy.members

open Json (Value) in
def update? (policy : Policy) (value : Value) : Option Policy := do
  let field ← value.fields? fieldNames true
  return {
    maxAttempts := ← Value.orElse? Value.uint8? policy.maxAttempts (field "max_attempts")
    backoff := ← Value.orElse? Value.uint64? policy.backoff (field "attempt_backoff_ms")
    downloadTimeout :=
      ← Value.orElse? Value.uint64? policy.downloadTimeout (field "download_timeout_ms")
    headers :=
      ← Value.orElse? (Value.list? Value.textPair?) policy.headers (field "download_headers")
    progressStep := ← Value.orElse? Value.uint8? policy.progressStep (field "progress_step")
    restartGrace := ← Value.orElse? Value.uint64? policy.restartGrace (field "reboot_grace_secs")
    stackSize := ← Value.orElse? Value.uint64? policy.stackSize (field "worker_stack_size") }

def ofJson? (value : Json.Value) : Option Policy :=
  standard.update? value

end Policy

end DualBank
