import DualBank.Appliance
import DualBank.Main
import DualBank.Proofs.Account
import DualBank.Proofs.Banks
import DualBank.Proofs.Bootloader
import DualBank.Proofs.Cancellation
import DualBank.Proofs.CrashSafety
import DualBank.Proofs.Delivery
import DualBank.Proofs.Demands
import DualBank.Proofs.Desk
import DualBank.Proofs.Durable
import DualBank.Proofs.Fallback
import DualBank.Proofs.Files
import DualBank.Proofs.Footprint
import DualBank.Proofs.Hearing
import DualBank.Proofs.Hosting
import DualBank.Proofs.Integrity
import DualBank.Proofs.Interruption
import DualBank.Proofs.Itinerary
import DualBank.Proofs.Life
import DualBank.Proofs.Notices
import DualBank.Proofs.Obedience
import DualBank.Proofs.Outpost
import DualBank.Proofs.Permanence
import DualBank.Proofs.PowerCut
import DualBank.Proofs.Process
import DualBank.Proofs.Rechecking
import DualBank.Proofs.Recording
import DualBank.Proofs.Refusal
import DualBank.Proofs.Relapse
import DualBank.Proofs.Release
import DualBank.Proofs.Reporting
import DualBank.Proofs.Scene
import DualBank.Proofs.Settling
import DualBank.Proofs.Silence
import DualBank.Proofs.SingleFlight
import DualBank.Proofs.Site
import DualBank.Proofs.Standing
import DualBank.Proofs.Station
import DualBank.Proofs.Stopping
import DualBank.Proofs.Surroundings
import DualBank.Proofs.Tending
import DualBank.Proofs.Trial
import DualBank.Proofs.Unwinding
import DualBank.Proofs.WriteAhead
import DualBank.Rehearsal
import DualBank.Proofs.Transcript
import DualBank.Proofs.Discretion
import DualBank.Proofs.Retrying
import DualBank.Proofs.Telemetry
import DualBank.Proofs.Verdict
import DualBank.Proofs.Anonymity
import DualBank.Proofs.Debouncing
import DualBank.Proofs.Following
import DualBank.Proofs.Streaming
import DualBank.Proofs.Shortfall
import DualBank.Proofs.Copying
import DualBank.Proofs.Probation
import DualBank.Proofs.Keeping
import DualBank.Proofs.Policies
import DualBank.Proofs.Admitted
import DualBank.Proofs.Publishing
import DualBank.Proofs.Backends
import DualBank.Proofs.Headers
import DualBank.Proofs.Identifying
import DualBank.Proofs.Percentages
import DualBank.Proofs.Fetching
