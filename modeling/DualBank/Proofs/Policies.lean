import DualBank.Policy.Loading
import DualBank.Proofs.Fields
import DualBank.Proofs.Transcript
import DualBank.Proofs.Trial

/-! Reading the policy, while the settings may refuse anything. A policy always comes of it that
passes its check; but the one that is stored is lost if it could not be loaded once. -/

namespace DualBank

open Program Surroundings Scene

namespace Happening

def isDenial : Happening → Bool
  | .exchange (.device (.load ..)) (.error _) | .exchange (.device (.save ..)) (.error _)
  | .exchange (.device (.delete ..)) (.error _) => true
  | _ => false

def isLoadDenial : Happening → Bool
  | .exchange (.device (.load ..)) (.error _) => true
  | _ => false

def isStore : Happening → Bool
  | .exchange (.device (.save ..)) _ | .exchange (.device (.delete ..)) _ => true
  | _ => false

def isGrantedSave : Happening → Bool
  | .exchange (.device (.save ..)) (.ok _) => true
  | _ => false

end Happening

namespace Policy

def usable (policy : Policy) : Policy :=
  if policy.check.isOk then policy else standard

theorem usable_of_check {policy : Policy} (passes : policy.check = .ok ()) :
    policy.usable = policy := by
  rw [usable, passes]
  rfl

theorem usable_of_not_check {policy : Policy} (fails : policy.check ≠ .ok ()) :
    policy.usable = standard := by
  unfold usable
  cases checked : policy.check with
  | ok value => exact absurd checked fails
  | error fault => rfl

theorem check_usable (policy : Policy) : policy.usable.check = .ok () := by
  by_cases passes : policy.check = .ok ()
  · rw [usable_of_check passes, passes]
  · rw [usable_of_not_check passes]
    rfl

/-- These bytes are written for a policy: it has what they say, and where they say nothing it has
what the standard one has. -/
def IsWritten (policy : Policy) (bytes : Bytes) : Prop :=
  ∃ value field, Json.parse? bytes = some value ∧ value.fields? fieldNames true = some field ∧
    standard.members.map (fun member => (member.1, (field member.1).getD member.2)) =
      policy.members

theorem isWritten_iff {policy : Policy} {bytes : Bytes} :
    policy.IsWritten bytes ↔ (Json.parse? bytes).bind ofJson? = some policy := by
  simp only [Option.bind_eq_some_iff, ofJson?_eq_some_iff, IsWritten, exists_and_left]

theorem isWritten_encode (policy : Policy) : policy.IsWritten policy.toJson.encode :=
  isWritten_iff.2 (rereads policy)

theorem IsWritten.unique {policy other : Policy} {bytes : Bytes} (one : policy.IsWritten bytes)
    (another : other.IsWritten bytes) : other = policy :=
  Option.some.inj ((isWritten_iff.1 another).symm.trans (isWritten_iff.1 one))

theorem read_eq_ok_iff {loaded : Except Failure (Option Bytes)} {policy : Policy} :
    loaded.bind (Stored.decode ofJson? space key) = .ok (some policy) ↔
      ∃ bytes, loaded = .ok (some bytes) ∧ policy.IsWritten bytes := by
  cases loaded with
  | error failure => simp [Except.bind]
  | ok stored =>
      cases stored with
      | none => simp [Except.bind, Stored.decode]
      | some bytes =>
          simp only [Except.bind, Stored.decode, Except.ok.injEq, Option.some.injEq,
            exists_eq_left', isWritten_iff]
          cases (Json.parse? bytes).bind ofJson? <;> simp

def loads (loaded : Except Failure (Option Bytes)) : Happening :=
  .exchange (.device (.load space key)) loaded

def saves (saved : Except Failure Unit) : Happening :=
  .exchange (.device (.save space key standard.toJson.encode)) saved

theorem keepStandard_does {deeds : List Happening} {value : Unit}
    (does : keepStandard.Does deeds value) : ∃ saved, deeds = [saves saved] := by
  simp only [keepStandard, Agent.device, Agent.log, bind_eq, ask_bind, done_bind] at does
  obtain ⟨saved, rest, rfl, does⟩ := does
  refine ⟨saved, ?_⟩
  cases saved with
  | ok _ =>
      obtain ⟨rfl, -⟩ := does_log.1 does
      rfl
  | error failure =>
      obtain ⟨rfl, -⟩ := does_log.1 does
      rfl

inductive Course : List Happening → Policy → Prop
  | found {bytes : Bytes} {policy : Policy} : policy.IsWritten bytes →
      Course [loads (.ok (some bytes))] policy.usable
  | missed {loaded : Except Failure (Option Bytes)} {saved : Except Failure Unit} :
      (∀ bytes (policy : Policy), loaded = .ok (some bytes) → ¬ policy.IsWritten bytes) →
      Course [loads loaded, saves saved] standard

theorem course_of_missed {loaded : Except Failure (Option Bytes)} {deeds : List Happening}
    {policy : Policy}
    (missed : ∀ bytes (policy : Policy), loaded = .ok (some bytes) → ¬ policy.IsWritten bytes)
    (does : (keepStandard.bind fun _ => done standard).Does deeds policy) :
    Course (loads loaded :: deeds) policy := by
  obtain ⟨_, _, _, rfl, keeps, rfl, rfl⟩ := does_bind.1 does
  obtain ⟨saved, rfl⟩ := keepStandard_does keeps
  exact .missed missed

theorem course_of_does {deeds : List Happening} {policy : Policy}
    (does : loadOrStandard.Does deeds policy) : Course deeds policy := by
  simp only [loadOrStandard, Agent.device, Agent.log, bind_eq, ask_bind, done_bind,
    pure_eq_done] at does
  obtain ⟨loaded, rest, rfl, does⟩ := does
  dsimp only at does
  cases read : loaded.bind (Stored.decode ofJson? space key) with
  | error failure =>
      rw [read] at does
      refine course_of_missed (fun bytes policy there written => ?_) (does_log.1 does)
      rw [read_eq_ok_iff.2 ⟨bytes, there, written⟩] at read
      contradiction
  | ok found =>
      rw [read] at does
      cases found with
      | none =>
          refine course_of_missed (fun bytes policy there written => ?_) (does_log.1 does)
          rw [read_eq_ok_iff.2 ⟨bytes, there, written⟩] at read
          simp at read
      | some found =>
          obtain ⟨bytes, rfl, written⟩ := read_eq_ok_iff.1 read
          have taken : rest = [] ∧ policy = found.usable := by
            dsimp only at does
            cases checked : found.check with
            | ok _ =>
                rw [checked] at does
                rw [usable_of_check checked]
                exact does_log.1 does
            | error fault =>
                rw [checked] at does
                rw [usable_of_not_check (by simp [checked])]
                exact does_log.1 does
          obtain ⟨rfl, rfl⟩ := taken
          exact .found written

def kept (settings : SettingsTable) : Except Failure Unit → SettingsTable
  | .ok _ => settings.save space key standard.toJson.encode
  | .error _ => settings

inductive Reading (settings : SettingsTable) : List Happening → Policy → SettingsTable → Prop
  | found {bytes : Bytes} {policy : Policy} : settings.load space key = some bytes →
      policy.IsWritten bytes →
      Reading settings [loads (.ok (some bytes))] policy.usable settings
  | unknown {saved : Except Failure Unit} :
      (∀ bytes (policy : Policy), settings.load space key = some bytes →
        ¬ policy.IsWritten bytes) →
      Reading settings [loads (.ok (settings.load space key)), saves saved] standard
        (kept settings saved)
  | denied {failure : Failure} {saved : Except Failure Unit} :
      Reading settings [loads (.error failure), saves saved] standard (kept settings saved)

variable {settings : SettingsTable} {slot : Slot} {policy : Policy} {last : Scene}

theorem kept_of_serves {after : SettingsTable} {saved : Except Failure Unit}
    (serves : settings.Serves [saves saved] after) : after = kept settings saved := by
  obtain ⟨between, answered, rfl⟩ := serves
  cases saved <;> exact answered

theorem reading_of_course {deeds : List Happening} {after : SettingsTable}
    (course : Course deeds policy) (serves : settings.Serves deeds after) :
    Reading settings deeds policy after := by
  cases course with
  | found written =>
      obtain ⟨between, ⟨loaded, rfl⟩, rfl⟩ := serves
      exact .found loaded.symm written
  | @missed loaded saved missed =>
      obtain ⟨between, answered, serves⟩ := serves
      cases loaded with
      | ok stored =>
          obtain ⟨rfl, rfl⟩ := answered
          rw [kept_of_serves serves]
          exact .unknown fun bytes policy there => missed bytes policy (by rw [there])
      | error failure =>
          obtain rfl : between = settings := answered
          rw [kept_of_serves serves]
          exact .denied

theorem reading_of_leads
    (leads : surroundings.Leads (loadOrStandard, ⟨settings, slot, []⟩) (.done policy, last)) :
    Reading settings last.deeds policy last.settings := by
  obtain ⟨deeds, same, does, serves⟩ := does_of_leads leads
  rw [same]
  exact reading_of_course (course_of_does does) serves

end Policy

def Scene.IsGranted (scene : Scene) : Prop :=
  scene.deeds.any Happening.isDenial = false

structure Scene.Spares (scene : Scene) (settings : SettingsTable) : Prop where
  same : scene.settings = settings
  unasked : scene.deeds.any Happening.isStore = false

namespace Policy

/-- The policy that is stored is the one that is used, if it passes its check; if it does not, it
stays all the same. If there is none, the standard one is used, and stored. -/
structure Chosen (settings : SettingsTable) (policy : Policy) (last : Scene) : Prop where
  passing : ∀ bytes (found : Policy), settings.load space key = some bytes →
    found.IsWritten bytes → found.check = .ok () → policy = found ∧ last.Spares settings
  failing : ∀ bytes (found : Policy), settings.load space key = some bytes →
    found.IsWritten bytes → found.check ≠ .ok () → policy = standard ∧ last.Spares settings
  missing : (∀ bytes (found : Policy), settings.load space key = some bytes →
    ¬ found.IsWritten bytes) →
    policy = standard ∧ last.settings = settings.save space key standard.toJson.encode

variable {settings : SettingsTable} {slot : Slot} {policy : Policy} {last : Scene}

theorem granted_of_reading {deeds : List Happening} {after : SettingsTable}
    (reading : Reading settings deeds policy after)
    (granted : deeds.any Happening.isDenial = false) :
    (∃ bytes found, settings.load space key = some bytes ∧ IsWritten found bytes ∧
      policy = found.usable ∧ after = settings ∧ deeds.any Happening.isStore = false) ∨
    ((∀ bytes (found : Policy), settings.load space key = some bytes → ¬ found.IsWritten bytes) ∧
      policy = standard ∧ after = settings.save space key standard.toJson.encode) := by
  cases reading with
  | found there written => exact .inl ⟨_, _, there, written, rfl, rfl, rfl⟩
  | @unknown saved missing =>
      cases saved with
      | ok _ => exact .inr ⟨missing, rfl, rfl⟩
      | error failure => simp [loads, saves, Happening.isDenial] at granted
  | denied => simp [loads, saves, Happening.isDenial] at granted

theorem check_of_reading {deeds : List Happening} {after : SettingsTable}
    (reading : Reading settings deeds policy after) : policy.check = .ok () := by
  cases reading with
  | found there written => exact check_usable _
  | unknown missing => rfl
  | denied => rfl

theorem chosen_of_leads
    (leads : surroundings.Leads (loadOrStandard, ⟨settings, slot, []⟩) (.done policy, last))
    (granted : last.IsGranted) : Chosen settings policy last := by
  rcases granted_of_reading (reading_of_leads leads) granted with
    ⟨bytes, known, there, stored, rfl, kept, unasked⟩ | ⟨missing, rfl, saved⟩
  · have same {other : Bytes} {found : Policy} (read : settings.load space key = some other)
        (written : found.IsWritten other) : found = known := by
      rw [there] at read
      cases read
      exact stored.unique written
    constructor
    case passing =>
      intro other found read written passes
      rw [same read written] at passes ⊢
      exact ⟨usable_of_check passes, kept, unasked⟩
    case failing =>
      intro other found read written fails
      rw [same read written] at fails
      exact ⟨usable_of_not_check fails, kept, unasked⟩
    case missing => exact fun missing => absurd stored (missing bytes known there)
  · constructor
    case passing => exact fun bytes found there written => (missing bytes found there written).elim
    case failing => exact fun bytes found there written => (missing bytes found there written).elim
    case missing => exact fun _ => ⟨rfl, saved⟩

/-- What was chosen once is chosen again. -/
theorem again_of_leads {next : Slot} {again : Policy} {final : Scene}
    (leads : surroundings.Leads (loadOrStandard, ⟨settings, slot, []⟩) (.done policy, last))
    (granted : last.IsGranted)
    (second : surroundings.Leads (loadOrStandard, ⟨last.settings, next, []⟩) (.done again, final))
    (grantedAgain : final.IsGranted) : again = policy ∧ final.Spares last.settings := by
  obtain ⟨bytes, stored, there, written, used⟩ : ∃ bytes stored,
      last.settings.load space key = some bytes ∧ IsWritten stored bytes ∧
        policy = stored.usable := by
    rcases granted_of_reading (reading_of_leads leads) granted with
      ⟨bytes, stored, there, written, used, kept, -⟩ | ⟨-, rfl, saved⟩
    · exact ⟨bytes, stored, by rw [kept, there], written, used⟩
    · refine ⟨standard.toJson.encode, standard, ?_, isWritten_encode standard, rfl⟩
      rw [saved, SettingsTable.load_save, if_pos rfl]
  rcases granted_of_reading (reading_of_leads second) grantedAgain with
    ⟨other, found, read, spelled, rfl, kept, unasked⟩ | ⟨missing, -⟩
  · rw [there] at read
    cases read
    rw [written.unique spelled]
    exact ⟨used.symm, kept, unasked⟩
  · exact absurd written (missing bytes stored there)

end Policy

/-- A policy is read whatever the settings refuse, and it passes its check. If they refuse nothing,
it is the one that is stored, or the standard one where there is none or it fails its check; and
reading it once more makes no difference. -/
theorem policy_always_usable (settings : SettingsTable) (slot : Slot) {rest : Agent Policy}
    {scene : Scene}
    (leads : surroundings.Leads (Policy.loadOrStandard, ⟨settings, slot, []⟩) (rest, scene)) :
    (∃ policy last, surroundings.Leads (rest, scene) (.done policy, last)) ∧
    ∀ policy last, surroundings.Leads (rest, scene) (.done policy, last) →
      policy.check = .ok () ∧
      (last.IsGranted → Policy.Chosen settings policy last ∧
        ∀ slot again final,
          surroundings.Leads (Policy.loadOrStandard, ⟨last.settings, slot, []⟩)
            (.done again, final) →
          final.IsGranted → again = policy ∧ final.Spares last.settings) := by
  refine ⟨⟨_, _, Trial.leads_answered (fun _ => false) rest
    ⟨{ Bench.fresh with settings := scene.settings }, scene.slot, scene.history⟩⟩,
    fun policy last onward => ?_⟩
  have whole := leads.trans onward
  refine ⟨Policy.check_of_reading (Policy.reading_of_leads whole), fun granted => ?_⟩
  refine ⟨Policy.chosen_of_leads whole granted, fun slot again final second grantedAgain => ?_⟩
  exact Policy.again_of_leads whole granted second grantedAgain

namespace Setup

def sparseBytes : Bytes :=
  .ofText "\x7b\"max_attempts\":3\x7d"

def sparsePolicy : Policy :=
  { Policy.standard with maxAttempts := 3 }

def sparseSettings : SettingsTable :=
  SettingsTable.empty.save Policy.space Policy.key sparseBytes

def sparseTrial : Trial :=
  ⟨{ Bench.fresh with settings := sparseSettings }, .idle, []⟩

theorem isWritten_sparse : sparsePolicy.IsWritten sparseBytes := by
  rw [Policy.isWritten_iff]
  decide +kernel

def plainTrial : Trial :=
  (Policy.loadOrStandard.run (Trial.answerUntil fun _ => false) sparseTrial).2

theorem leads_plain :
    surroundings.Leads (Policy.loadOrStandard, ⟨sparseSettings, .idle, []⟩)
      (.done sparsePolicy, plainTrial.scene) := by
  have leads := Trial.leads_answered (fun _ => false) Policy.loadOrStandard sparseTrial
  have read : (Policy.loadOrStandard.run (Trial.answerUntil fun _ => false) sparseTrial).1 =
      sparsePolicy := by decide +kernel
  rwa [read] at leads

end Setup

open Setup

theorem policy_always_usable_sample :
    ∃ last : Scene,
      surroundings.Leads (Policy.loadOrStandard, ⟨sparseSettings, .idle, []⟩)
        (.done sparsePolicy, last) ∧
      last.IsGranted ∧ sparsePolicy.check = .ok () ∧
      Policy.Chosen sparseSettings sparsePolicy last ∧
      ∀ slot again final,
        surroundings.Leads (Policy.loadOrStandard, ⟨last.settings, slot, []⟩)
          (.done again, final) →
        final.IsGranted → again = sparsePolicy ∧ final.Spares last.settings := by
  have granted : plainTrial.scene.deeds.any Happening.isDenial = false := by decide +kernel
  obtain ⟨passes, chosen⟩ := (policy_always_usable sparseSettings .idle leads_plain).2 _ _ .refl
  exact ⟨_, leads_plain, granted, passes, chosen granted⟩

namespace Policy

/-- The policy could not be loaded, and the standard one took its place. -/
def Lapses (last : Scene) : Bool :=
  last.deeds.any Happening.isLoadDenial && last.deeds.any Happening.isGrantedSave

inductive Readings : SettingsTable → List (Policy × Scene) → SettingsTable → Prop
  | nil {settings : SettingsTable} : Readings settings [] settings
  | cons {settings after : SettingsTable} {slot : Slot} {policy : Policy} {last : Scene}
      {readings : List (Policy × Scene)} :
      surroundings.Leads (loadOrStandard, ⟨settings, slot, []⟩) (.done policy, last) →
      Readings last.settings readings after → Readings settings ((policy, last) :: readings) after

variable {settings after : SettingsTable} {slot : Slot} {policy stored : Policy} {last : Scene}
  {bytes : Bytes}

/-- What one reading makes of a policy that is stored. -/
theorem marks_of_reading {deeds : List Happening} (reading : Reading settings deeds policy after)
    (there : settings.load space key = some bytes) (written : stored.IsWritten bytes) :
    policy = (if deeds.any Happening.isLoadDenial then standard else stored.usable) ∧
    after.load space key =
      some (if deeds.any Happening.isLoadDenial && deeds.any Happening.isGrantedSave then
        standard.toJson.encode else bytes) ∧
    deeds.any Happening.isStore = deeds.any Happening.isLoadDenial := by
  cases reading with
  | found read spelled =>
      rw [there] at read
      cases read
      rw [written.unique spelled]
      exact ⟨rfl, there, rfl⟩
  | unknown missing => exact absurd written (missing bytes stored there)
  | @denied failure saved =>
      cases saved with
      | ok _ =>
          refine ⟨rfl, ?_, rfl⟩
          rw [kept, SettingsTable.load_save, if_pos rfl]
          rfl
      | error failure => exact ⟨rfl, there, rfl⟩

theorem stores_iff_of_reading {deeds : List Happening}
    (reading : Reading settings deeds policy after) :
    deeds.any Happening.isStore = true ↔ deeds.any Happening.isLoadDenial = true ∨
      ∀ bytes (found : Policy), settings.load space key = some bytes → ¬ found.IsWritten bytes := by
  cases reading with
  | found there written =>
      constructor
      · simp [loads, Happening.isStore]
      · rintro (denied | missing)
        · simp [loads, Happening.isLoadDenial] at denied
        · exact absurd written (missing _ _ there)
  | unknown missing => exact ⟨fun _ => .inr missing, fun _ => rfl⟩
  | denied => exact ⟨fun _ => .inl rfl, fun _ => rfl⟩

theorem only_of_saves {loaded : Except Failure (Option Bytes)} {saved : Except Failure Unit}
    {call : Agent.Call} {reply : Agent.Reply call}
    (inside : .exchange call reply ∈ [loads loaded, saves saved]) (stores : call.Stores) :
    call = .device (.save space key standard.toJson.encode) := by
  simp only [List.mem_cons, List.not_mem_nil, or_false] at inside
  obtain same | same := inside
  · cases same
    contradiction
  · cases same
    rfl

theorem only_of_reading {deeds : List Happening} (reading : Reading settings deeds policy after)
    (call : Agent.Call) (reply : Agent.Reply call) (inside : .exchange call reply ∈ deeds)
    (stores : call.Stores) : call = .device (.save space key standard.toJson.encode) := by
  cases reading with
  | found there written =>
      cases List.mem_singleton.1 inside
      contradiction
  | unknown missing => exact only_of_saves inside stores
  | denied => exact only_of_saves inside stores

/-- What any number of readings make of it. -/
theorem marks_of_readings {readings : List (Policy × Scene)}
    (reads : Readings settings readings after) (there : settings.load space key = some bytes)
    (written : stored.IsWritten bytes) (passes : stored.check = .ok ()) :
    after.load space key =
      some (if readings.any (Lapses ·.2) then standard.toJson.encode else bytes) ∧
    (∀ earlier policy last later, readings = earlier ++ (policy, last) :: later →
      policy = if last.deeds.any Happening.isLoadDenial || earlier.any (Lapses ·.2) then standard
        else stored) ∧
    ∀ reading ∈ readings,
      reading.2.deeds.any Happening.isStore = reading.2.deeds.any Happening.isLoadDenial := by
  induction reads generalizing bytes stored with
  | nil => exact ⟨there, by simp, by simp⟩
  | @cons settings after slot policy last readings leads reads ih =>
      obtain ⟨used, left, stores⟩ := marks_of_reading (reading_of_leads leads) there written
      rw [usable_of_check passes] at used
      rw [← Lapses] at left
      have onward : after.load space key =
            some (if Lapses last || readings.any (Lapses ·.2) then standard.toJson.encode
              else bytes) ∧
          (∀ earlier policy next later, readings = earlier ++ (policy, next) :: later →
            policy = if next.deeds.any Happening.isLoadDenial ||
              (Lapses last || earlier.any (Lapses ·.2)) then standard else stored) ∧
          ∀ reading ∈ readings,
            reading.2.deeds.any Happening.isStore =
              reading.2.deeds.any Happening.isLoadDenial := by
        cases lapsed : Lapses last with
        | true =>
            -- From here on it is the standard policy that is stored.
            rw [lapsed, if_pos rfl] at left
            simpa using ih left (isWritten_encode standard) rfl
        | false =>
            rw [lapsed] at left
            simp only [Bool.false_or]
            exact ih left written passes
      obtain ⟨ends, results, others⟩ := onward
      refine ⟨ends, ?_, List.forall_mem_cons.2 ⟨stores, others⟩⟩
      intro earlier result next later same
      cases earlier with
      | nil =>
          cases same
          simpa using used
      | cons first rest =>
          cases same
          exact results rest result next later rfl

end Policy

/-- A policy that is stored stays in its place unless once it could not be loaded while the standard
one could be saved; from then on the standard one is read. The settings are only asked to change
where no policy could be loaded from them, and then only to keep the standard one. -/
theorem stored_policy_kept_iff (settings after : SettingsTable)
    (readings : List (Policy × Scene)) (bytes : Bytes) (stored : Policy)
    (there : settings.load Policy.space Policy.key = some bytes)
    (written : stored.IsWritten bytes) (passes : stored.check = .ok ())
    (reads : Policy.Readings settings readings after) :
    (after.load Policy.space Policy.key = some bytes ↔
      (readings.any (Policy.Lapses ·.2) = true → bytes = Policy.standard.toJson.encode)) ∧
    (∀ earlier policy last later, readings = earlier ++ (policy, last) :: later →
      policy = if last.deeds.any Happening.isLoadDenial || earlier.any (Policy.Lapses ·.2) then
        .standard else stored) ∧
    (∀ reading ∈ readings,
      reading.2.deeds.any Happening.isStore = reading.2.deeds.any Happening.isLoadDenial) ∧
    ∀ settings slot policy last,
      surroundings.Leads (Policy.loadOrStandard, ⟨settings, slot, []⟩) (.done policy, last) →
      (last.deeds.any Happening.isStore = true ↔ last.deeds.any Happening.isLoadDenial = true ∨
        ∀ bytes (found : Policy), settings.load Policy.space Policy.key = some bytes →
          ¬ found.IsWritten bytes) ∧
      ∀ call reply, .exchange call reply ∈ last.deeds → call.Stores →
        call = .device (.save Policy.space Policy.key Policy.standard.toJson.encode) := by
  obtain ⟨ends, results, stores⟩ := Policy.marks_of_readings reads there written passes
  refine ⟨?_, results, stores, fun settings slot policy last leads => ?_⟩
  · rw [ends, Option.some.injEq]
    split
    · rename_i lapsed
      simp [lapsed, eq_comm]
    · rename_i lapsed
      simp [lapsed]
  · have reading := Policy.reading_of_leads leads
    exact ⟨Policy.stores_iff_of_reading reading, Policy.only_of_reading reading⟩

namespace Setup

def denying (refused : Device.Call → Bool) :
    (call : Agent.Call) → Trial → Agent.Reply call × Trial
  | .device call, trial =>
      match if refused call then Bench.refuse (.other "busy") .inputOutput call else none with
      | some reply => (reply, { trial with
          history := trial.history ++ [.exchange (.device call) reply] })
      | none => Trial.answer (.device call) trial
  | call, trial => Trial.answer call trial

theorem answered_of_refuse {call : Device.Call} {failure : Failure} {error : FlashError}
    {reply : Device.Reply call} (refused : Bench.refuse failure error call = some reply)
    (settings : SettingsTable) : call.Answered settings reply settings := by
  cases call <;> first | contradiction | (cases refused; rfl)

theorem denying_faithful (refused : Device.Call → Bool) (call : Agent.Call) (trial : Trial) :
    ∃ later, surroundings.Answers call trial.scene (denying refused call trial).1 later ∧
      surroundings.Passes later (denying refused call trial).2.scene := by
  cases call with
  | device call =>
      rw [denying]
      split
      · rename_i reply denied
        have denied : Bench.refuse (.other "busy") .inputOutput call = some reply := by
          split at denied
          · exact denied
          · contradiction
        exact ⟨_, ⟨trial.bench.settings, answered_of_refuse denied _, rfl⟩, .refl⟩
      · exact ⟨_, Trial.answers _ trial, .refl⟩
  | shared call => exact ⟨_, Trial.answers _ trial, .refl⟩
  | join => exact ⟨_, Trial.answers _ trial, .refl⟩

def refusesLoad : Device.Call → Bool
  | .load .. => true
  | _ => false

def refusesAll : Device.Call → Bool :=
  fun _ => true

def idleTrial (settings : SettingsTable) : Trial where
  bench := { Bench.fresh with settings := settings }
  slot := .idle
  history := []

def readPolicy (settings : SettingsTable) (refused : Device.Call → Bool) : Policy × Trial :=
  Policy.loadOrStandard.run (denying refused) (idleTrial settings)

theorem leads_readPolicy (settings : SettingsTable) (refused : Device.Call → Bool) :
    surroundings.Leads (Policy.loadOrStandard, ⟨settings, .idle, []⟩)
      (.done (readPolicy settings refused).1, (readPolicy settings refused).2.scene) :=
  @leads_run Agent.interface Policy surroundings Trial Trial.scene (denying refused)
    (denying_faithful refused) Policy.loadOrStandard (idleTrial settings)

def readPolicies (settings : SettingsTable) : List (Device.Call → Bool) →
    List (Policy × Scene) × SettingsTable
  | [] => ([], settings)
  | refused :: rest =>
      let (policy, trial) := readPolicy settings refused
      let (readings, after) := readPolicies trial.scene.settings rest
      ((policy, trial.scene) :: readings, after)

theorem readings_readPolicies (settings : SettingsTable) (refusals : List (Device.Call → Bool)) :
    Policy.Readings settings (readPolicies settings refusals).1
      (readPolicies settings refusals).2 := by
  induction refusals generalizing settings with
  | nil => exact .nil
  | cons refused rest ih => exact .cons (leads_readPolicy settings refused) (ih _)

def keptReadings : List (Policy × Scene) × SettingsTable :=
  readPolicies sparseSettings [refusesAll, fun _ => false]

def lostReadings : List (Policy × Scene) × SettingsTable :=
  readPolicies sparseSettings [refusesAll, fun _ => false, refusesLoad, fun _ => false]

def lapsedTrial : Trial :=
  (readPolicy sparseSettings refusesLoad).2

theorem leads_lapsed :
    surroundings.Leads (Policy.loadOrStandard, ⟨sparseSettings, .idle, []⟩)
      (.done .standard, lapsedTrial.scene) := by
  have leads := leads_readPolicy sparseSettings refusesLoad
  have standard : (readPolicy sparseSettings refusesLoad).1 = .standard := by decide +kernel
  rwa [standard] at leads

end Setup

/-- As long as the settings refuse everything, what is stored stays, and is read again later. Once
only the reading is refused, it is gone. -/
theorem stored_policy_kept_iff_sample :
    sparseSettings.load Policy.space Policy.key = some sparseBytes ∧
      sparsePolicy.IsWritten sparseBytes ∧ sparsePolicy.check = .ok () ∧
      Policy.Readings sparseSettings keptReadings.1 keptReadings.2 ∧
      keptReadings.1.map (·.1) = [.standard, sparsePolicy] ∧
      keptReadings.2.load Policy.space Policy.key = some sparseBytes ∧
      Policy.Readings sparseSettings lostReadings.1 lostReadings.2 ∧
      lostReadings.1.map (·.1) = [.standard, sparsePolicy, .standard, .standard] ∧
      lostReadings.2.load Policy.space Policy.key ≠ some sparseBytes := by
  have kept := readings_readPolicies sparseSettings [refusesAll, fun _ => false]
  have lost := readings_readPolicies sparseSettings
    [refusesAll, fun _ => false, refusesLoad, fun _ => false]
  have unlapsed : keptReadings.1.any (Policy.Lapses ·.2) = false := by decide +kernel
  have lapsed : lostReadings.1.any (Policy.Lapses ·.2) = true := by decide +kernel
  have other : sparseBytes ≠ Policy.standard.toJson.encode := by decide +kernel
  have stays := (stored_policy_kept_iff sparseSettings _ _ sparseBytes sparsePolicy rfl
    isWritten_sparse rfl kept).1
  have goes := (stored_policy_kept_iff sparseSettings _ _ sparseBytes sparsePolicy rfl
    isWritten_sparse rfl lost).1
  refine ⟨rfl, isWritten_sparse, rfl, kept, ?_, ?_, lost, ?_, ?_⟩
  · decide +kernel
  · exact stays.2 fun lapsed => absurd (unlapsed.symm.trans lapsed) Bool.false_ne_true
  · decide +kernel
  · exact fun same => other (goes.1 same lapsed)

/-- One reading that is refused, and a policy that was stored is gone. -/
theorem stored_policy_lost :
    sparseSettings.load Policy.space Policy.key = some sparseBytes ∧
      sparsePolicy.IsWritten sparseBytes ∧ sparsePolicy.check = .ok () ∧
      Policy.Readings sparseSettings [(.standard, lapsedTrial.scene)]
        lapsedTrial.scene.settings ∧
      lapsedTrial.scene.deeds.any Happening.isStore = true ∧
      lapsedTrial.scene.settings.load Policy.space Policy.key ≠ some sparseBytes := by
  refine ⟨rfl, isWritten_sparse, rfl, .cons leads_lapsed .nil, ?_, ?_⟩
  · decide +kernel
  · decide +kernel

end DualBank
