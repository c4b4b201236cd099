import DualBank.Admission
import DualBank.Proofs.Keeping
import DualBank.Proofs.Policies
import DualBank.Proofs.Retrying
import DualBank.Proofs.Uuids
import DualBank.Proofs.Verdict

/-! Requests that are let in: their identifiers fit into the record and come back out of it, so the
installation never finds that it cannot keep one. -/

namespace DualBank

open Program Surroundings

section Answering

variable {interface : Interface} {α β : Type}

def Program.Fairly (fair : (call : interface.Call) → interface.Reply call → Prop)
    (post : α → Prop) : Program interface α → Prop
  | .done value => post value
  | .ask call next => ∀ reply, fair call reply → (next reply).Fairly fair post

variable {fair : (call : interface.Call) → interface.Reply call → Prop} {post : α → Prop}
  {program : Program interface α}

@[simp]
theorem fairly_done (value : α) :
    (.done value : Program interface α).Fairly fair post ↔ post value :=
  Iff.rfl

theorem fairly_bind {between : β → Prop} {first : Program interface β}
    {continuation : β → Program interface α} (begins : first.Fairly fair between)
    (continues : ∀ value, between value → (continuation value).Fairly fair post) :
    (first.bind continuation).Fairly fair post := by
  induction first with
  | done value => exact continues value begins
  | ask call next ih => exact fun reply honest => ih reply (begins reply honest)

theorem fairly_of_always {allowed : interface.Call → Prop} (always : program.Always allowed post) :
    program.Fairly fair post := by
  induction program with
  | done value => exact always
  | ask call next ih => exact fun reply _ => ih reply (always.2 reply)

theorem fairly_trivial (program : Program interface α) : program.Fairly fair fun _ => True :=
  fairly_of_always (always_trivial program)

end Answering

def UpdateError.malformed : UpdateError :=
  .invalidRequest "malformed request uuid"

def Download.Shuns (error : UpdateError) : Download → Prop
  | .done result => result ≠ .error error
  | .ask (.source _) next => ∀ reply, Shuns error (next reply)
  | .ask (.deliver _) next => ∀ verdict, verdict.result ≠ .error error → Shuns error (next verdict)

namespace Agent.Call

/-- Whatever is answered, but no download makes up that the identifier is malformed. -/
def Honest : (call : Agent.Call) → Agent.Reply call → Prop
  | .device (.download ..), download => Download.Shuns .malformed download
  | _, _ => True

def LaunchesChecked (call : Agent.Call) : Prop :=
  ∀ policy request, call = .shared (.launch policy request) → request.check = .ok ()

end Agent.Call

open Agent.Call (LaunchesChecked Honest)

namespace Installation

variable {policy : Policy} {request : Request}

theorem handle_honest (step : UInt8) (progress : Progress) (chunk : Chunk) :
    (Staging.handle step progress chunk).Fairly Honest fun answer =>
      answer.1 ≠ .error .malformed := by
  simp only [Staging.handle, Agent.slot, Agent.shared, Agent.device, Agent.log, bind_eq, ask_bind,
    done_bind, pure_eq_done]
  intro running _
  cases running with
  | false => simp [UpdateError.malformed]
  | true =>
      intro written _
      cases written with
      | error error => exact fun _ _ => by simp [UpdateError.malformed]
      | ok written =>
          dsimp only
          split
          · simp [UpdateError.malformed]
          · exact fun _ _ => by simp [UpdateError.malformed]

theorem follow_honest (step : UInt8) (report : UInt8 → Agent Unit) {download : Download}
    (shuns : download.Shuns .malformed) (progress : Progress) :
    (Staging.follow step report download progress).Fairly Honest fun answer =>
      answer.1 ≠ .error .malformed := by
  induction download generalizing progress with
  | done result => exact shuns
  | ask call next ih =>
      cases call with
      | source call => exact fun reply _ => ih reply (shuns reply) progress
      | deliver chunk =>
          rw [Staging.follow]
          refine fairly_bind (handle_honest step progress chunk) ?_
          rintro ⟨answer, progress⟩ other
          cases answer with
          | error error =>
              refine ih _ (shuns ⟨.error error, true⟩ ?_) progress
              intro same
              cases same
              exact other rfl
          | ok told =>
              have onward := ih _ (shuns ⟨.ok (), false⟩ (by simp)) progress
              cases told with
              | none => exact onward
              | some percent => exact fairly_bind (fairly_trivial _) fun _ _ => onward

theorem finish_honest (progress : Progress) :
    (Staging.finish progress).Fairly Honest (· ≠ .error .malformed) := by
  rw [Staging.finish]
  split
  · exact fun _ _ => by simp [UpdateError.malformed]
  · simp [UpdateError.malformed]

theorem staging_honest (step : UInt8) (url : String) (headers : List (String × String))
    (timeout : UInt64) (report : UInt8 → Agent Unit) (progress : Progress) :
    (Staging.run step url headers timeout report progress).Fairly Honest fun answer =>
      answer.1 ≠ .error .malformed := by
  simp only [Staging.run, Agent.slot, Agent.shared, Agent.device, Agent.log, bind_eq, ask_bind,
    done_bind, pure_eq_done]
  intro download shuns
  refine fairly_bind (follow_honest step report shuns progress) ?_
  rintro ⟨result, progress⟩ other running -
  cases running with
  | false => exact fun _ _ => by simp [UpdateError.malformed]
  | true =>
      cases result with
      | error error => exact other
      | ok value => exact fairly_bind (finish_honest progress) fun _ other => other

theorem attempt_honest : (attempt policy request).Fairly Honest (· ≠ .error .malformed) := by
  simp only [attempt, Agent.device, Agent.log, bind_eq, ask_bind, done_bind, pure_eq_done]
  intro erased _
  cases erased with
  | error error => exact fun _ _ => by simp [UpdateError.malformed]
  | ok _ =>
      intro opened _
      cases opened with
      | error error => exact fun _ _ => by simp [UpdateError.malformed]
      | ok _ =>
          refine fairly_bind (staging_honest _ _ _ _ _ _) ?_
          rintro ⟨result, progress⟩ other - -
          exact other

/-- What the attempts end with is what the last of them failed with, or came of looking at the
slot. -/
theorem attempts_honest (remaining number : Nat) {last : UpdateError} (other : last ≠ .malformed) :
    (attempts policy request remaining number last).Fairly Honest (· ≠ .error .malformed) := by
  induction remaining generalizing number last with
  | zero =>
      intro running _
      cases running with
      | false => simp [UpdateError.malformed]
      | true => exact fun same => other (Except.error.inj same)
  | succ remaining ih =>
      simp only [attempts, Agent.slot, Agent.shared, Agent.device, Agent.log, bind_eq, ask_bind,
        done_bind, pure_eq_done]
      intro running _
      cases running with
      | false => simp [UpdateError.malformed]
      | true =>
          refine fairly_bind (fairly_trivial _) fun _ _ => fairly_bind attempt_honest ?_
          intro result other
          cases result with
          | ok _ => simp [UpdateError.malformed]
          | error error =>
              have differs : error ≠ .malformed := fun same => other (congrArg _ same)
              dsimp only
              split
              · refine fun _ _ => fairly_bind (fairly_trivial _) fun _ _ _ _ => ?_
                exact ih (number + 1) differs
              · exact other

/-- Where the identifier is kept, the installation never gets to find it malformed. -/
theorem fetch_eq {id : RequestId} (known : RequestId.ofText? request.uuid = some id) :
    fetch policy request = (Record.saveId id).bind fun
      | .error error => do
          Agent.log .error "worker"
            "Unable to write OTA req_uuid into settings, OTA canceled"
          pure (.error (.settings error))
      | .ok () => attempts policy request policy.maxAttempts.toNat 0 .internal := by
  rw [fetch, known]
  rfl

theorem fetch_honest {id : RequestId} (known : RequestId.ofText? request.uuid = some id) :
    (fetch policy request).Fairly Honest (· ≠ .error .malformed) := by
  rw [fetch_eq known]
  refine fairly_bind (fairly_trivial _) fun saved _ => ?_
  cases saved with
  | error error => exact fun _ _ => by simp [UpdateError.malformed]
  | ok _ => exact attempts_honest _ 0 (by simp [UpdateError.malformed])

theorem deploy_honest (uuid : String) :
    (deploy policy uuid).Fairly Honest (· ≠ .error .malformed) := by
  simp only [deploy, Agent.log, Agent.device, bind_eq, ask_bind, done_bind, pure_eq_done]
  refine fairly_bind (fairly_trivial _) fun _ _ _ _ => ?_
  refine fairly_bind (fairly_trivial _) fun saved _ => ?_
  cases saved with
  | error error => simp [UpdateError.malformed]
  | ok _ =>
      refine fairly_of_always (always_mono (handOver_always policy) (fun _ holds => holds) ?_)
      rintro result (rfl | rfl) <;> simp [UpdateError.malformed]

theorem execute_honest {id : RequestId} (known : RequestId.ofText? request.uuid = some id) :
    (execute policy request).Fairly Honest (· ≠ .error .malformed) := by
  simp only [execute, Agent.log, Agent.device, bind_eq, ask_bind, done_bind, pure_eq_done]
  refine fairly_bind (fairly_trivial _) fun prepared _ => ?_
  cases prepared with
  | error error => simp [UpdateError.malformed]
  | ok _ =>
      refine fun _ _ => fairly_bind (fairly_trivial _) fun saved _ => ?_
      cases saved with
      | error error => simp [UpdateError.malformed]
      | ok _ =>
          refine fairly_bind (fetch_honest known) fun fetched other => ?_
          cases fetched with
          | error error => exact other
          | ok _ => exact deploy_honest request.uuid

theorem conclude_honest {outcome : Outcome} (other : outcome ≠ .failed .malformed) :
    (conclude outcome).Fairly Honest (· ≠ .failed .malformed) := by
  refine fairly_of_always (always_mono (conclude_always outcome) (fun _ holds => holds) ?_)
  rintro _ rfl
  exact other

theorem run_honest {id : RequestId} (known : RequestId.ofText? request.uuid = some id) :
    (run policy request).Fairly Honest (· ≠ .failed .malformed) := by
  simp only [run, Agent.log, Agent.device, bind_eq, ask_bind, done_bind, pure_eq_done]
  refine fairly_bind (fairly_trivial _) fun _ _ _ _ => ?_
  refine fairly_bind (execute_honest known) fun result other => ?_
  split
  · simp [UpdateError.malformed]
  · exact fun _ _ => conclude_honest (by simp)
  · rename_i error _
    have differs : error ≠ .malformed := fun same => other (congrArg _ same)
    refine fun _ _ => fairly_bind (fairly_trivial _) fun _ _ => conclude_honest ?_
    exact fun same => differs (Outcome.failed.inj same)

end Installation

namespace Admission

/-- Through the front door only requests that pass their check get as far as an installation. -/
theorem submit_launches (policy : Policy) (request : Request) :
    (submit policy request).Always LaunchesChecked fun _ => True := by
  have announces (uuid : String) (error : UpdateError) :
      (Announcement.error uuid .failure error).Always LaunchesChecked fun _ => True :=
    always_mono (error_always (.head []) error) (fun call announces policy request launch => by
      subst launch
      exact announces.elim) fun _ _ => trivial
  simp only [submit, Agent.slot, Agent.join, Agent.shared, Agent.device, Agent.log, discard_eq_bind,
    bind_eq, ask_bind, done_bind, pure_eq_done]
  cases checked : request.check with
  | error error => exact ⟨nofun, fun _ => trivial⟩
  | ok _ =>
      refine ⟨nofun, fun started => ?_⟩
      cases started with
      | false =>
          exact ⟨nofun, fun _ => always_bind (announces _ _) fun _ _ => trivial⟩
      | true =>
          refine ⟨nofun, fun _ => ⟨nofun, fun threaded => ?_⟩⟩
          cases threaded with
          | error error =>
              exact ⟨nofun, fun _ => always_bind (announces _ _) fun _ _ =>
                ⟨nofun, fun _ => trivial⟩⟩
          | ok _ =>
              refine ⟨?_, fun _ => ⟨nofun, fun _ => trivial⟩⟩
              rintro policy request ⟨rfl⟩
              exact checked

end Admission

namespace RequestId

def keep (id : RequestId) : Agent (Except SettingsError Record) := do
  match ← Record.saveId id with
  | .error error => pure (.error error)
  | .ok () => Record.load

/-- The identifier is kept: it comes back with the record as it was, unless the settings refuse to
save or to load; and it comes back from files, under every name that leaves room for them. -/
structure Lasts (id : RequestId) : Prop where
  unrefused : ∀ (settings : SettingsTable) (slot : Slot) (kept : Except SettingsError Record)
    (last : Scene), Scene.surroundings.Leads (id.keep, ⟨settings, slot, []⟩) (.done kept, last) →
    last.IsGranted → kept = .ok ⟨settings.record.stage, some id⟩
  loaded : ∀ (settings : SettingsTable) (slot : Slot) (record : Record) (last : Scene),
    Scene.surroundings.Leads (id.keep, ⟨settings, slot, []⟩) (.done (.ok record), last) →
    record = ⟨settings.record.stage, some id⟩
  files : ∀ (settings : SettingsDirectory) (tree : FileTree), tree.IsSettled →
    tree.Yields (settings.save Record.space Record.idKey id.encode) fun saved between =>
      ((∃ home, settings.Room home Record.space Record.idKey tree) → saved = .ok ()) ∧
      (saved = .ok () → between.Yields (settings.load Record.space Record.idKey)
        fun loaded later => (∃ stored, loaded = .ok (some stored) ∧ decode? stored = some id) ∧
          later = between)

section Keeping

variable {id : RequestId} {settings : SettingsTable} {slot : Slot} {last : Scene}
  {kept : Except SettingsError Record} {deeds : List Happening}

theorem wasRead_of_granted (does : Record.load.Does deeds kept)
    (granted : deeds.any Happening.isDenial = false) : Record.WasRead deeds := by
  simp only [Record.load, Agent.log, Agent.device, bind_eq, ask_bind, done_bind,
    pure_eq_done] at does
  obtain ⟨stage, _, rfl, reads⟩ := stored_does does
  cases stage with
  | error failure => simp [deeds_load, Happening.isDenial] at granted
  | ok stage =>
      obtain ⟨read, warned, rfl, -⟩ := stored_does reads
      cases read with
      | error failure => simp [deeds_load, Happening.isDenial] at granted
      | ok read => exact ⟨⟨stage, by simp [deeds_load]⟩, read, by simp [deeds_load]⟩

theorem kept_of_leads (noZero : ∀ byte ∈ Bytes.ofText id.text, byte ≠ 0)
    (leads : Scene.surroundings.Leads (id.keep, ⟨settings, slot, []⟩) (.done kept, last)) :
    kept = .ok ⟨settings.record.stage, some id⟩ ∨
      (∃ error, kept = .error error) ∧ ¬ last.IsGranted := by
  obtain ⟨_, same, does, serves⟩ := Scene.does_of_leads leads
  rw [Scene.IsGranted, same]
  obtain ⟨_, saved, reads, rfl, saves, goes⟩ := does_bind.1 does
  obtain ⟨reply, rfl, rfl⟩ := saveId_does saves
  cases reply with
  | error failure =>
      obtain ⟨rfl, rfl⟩ := goes
      exact .inr ⟨⟨_, rfl⟩, by simp [Happening.isDenial]⟩
  | ok _ =>
      obtain ⟨_, rfl, serves⟩ := serves
      have loads : Record.load.Does reads kept := goes
      rw [← List.append_nil reads] at serves
      obtain ⟨-, -, ⟨rfl, -⟩ | ⟨rfl, unread⟩⟩ := load_does loads serves
      · exact .inl (congrArg _ (SettingsTable.record_save_id settings id noZero))
      · refine .inr ⟨⟨_, rfl⟩, fun granted => unread (wasRead_of_granted loads ?_)⟩
        simp only [List.any_append, Bool.or_eq_false_iff] at granted
        exact granted.2.2

theorem lasts_of_ne_zero (noZero : ∀ byte ∈ Bytes.ofText id.text, byte ≠ 0) : id.Lasts where
  unrefused settings slot kept last leads granted := by
    rcases kept_of_leads noZero leads with whole | ⟨-, denied⟩
    · exact whole
    · exact absurd granted denied
  loaded settings slot record last leads := by
    rcases kept_of_leads noZero leads with whole | ⟨⟨error, refused⟩, -⟩
    · exact Except.ok.inj whole
    · contradiction
  files settings tree settled := by
    refine FileTree.yields_mono (SettingsDirectory.save_kept settled id.encode) ?_
    rintro saved between ⟨succeeds, kept⟩
    refine ⟨succeeds, fun succeeded => ?_⟩
    refine FileTree.yields_mono (SettingsDirectory.load_yields (kept succeeded)) ?_
    rintro loaded later ⟨rfl, rfl⟩
    exact ⟨⟨id.encode, rfl, decode?_encode id noZero⟩, rfl⟩

end Keeping

end RequestId

/-- The check of a request lets UUIDs through, and no other text. What it lets through is an
identifier that the record keeps, so an installation saves it first of all, and no installation
fails because the identifier is malformed. -/
theorem checked_requests_last :
    (∀ text, isCanonical text = true ↔ IsUuid text) ∧
    (∀ policy request, (Admission.submit policy request).Always LaunchesChecked fun _ => True) ∧
    ∀ request : Request, request.check = .ok () →
      ∃ id, RequestId.ofText? request.uuid = some id ∧ id.text = request.uuid ∧ id.Lasts ∧
        ∀ policy,
          (∃ next, Installation.fetch policy request =
            .ask (.device (.save Record.space Record.idKey id.encode)) next) ∧
          (Installation.run policy request).Fairly Honest (· ≠ .failed .malformed) := by
  refine ⟨isCanonical_iff, Admission.submit_launches, fun request valid => ?_⟩
  obtain ⟨id, known, text, noZero⟩ := Request.exists_id valid
  refine ⟨id, known, text, RequestId.lasts_of_ne_zero noZero, fun policy => ⟨?_, ?_⟩⟩
  · rw [Installation.fetch_eq known]
    exact ⟨_, rfl⟩
  · exact Installation.run_honest known

theorem checked_requests_last_sample :
    Request.sample.check = .ok () ∧
      ∃ id, RequestId.ofText? Request.sample.uuid = some id ∧ id.text = Request.sample.uuid ∧
        id.Lasts ∧ (Installation.run .standard .sample).Fairly Honest (· ≠ .failed .malformed) := by
  obtain ⟨id, known, text, lasts, runs⟩ :=
    checked_requests_last.2.2 .sample Request.check_sample
  exact ⟨Request.check_sample, id, known, text, lasts, (runs .standard).2⟩

end DualBank
