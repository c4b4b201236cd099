import DualBank.Proofs.Hearing
import DualBank.Proofs.Trial

/-! What an accepted cancel comes to. The installation looks at the slot before an attempt, at a
chunk, at the end of a download and after the last attempt. A cancel that such a look follows is
heard, and ends the installation in silence; one that comes after the last look is too late. -/

namespace DualBank

open Program Surroundings Cancellation Scene
open Agent.Call (Calm Fetches calm_device calm_of_announces calm_of_fetches fetches_of_stages)

section Fetching

variable {scene : Scene}

theorem handle_ends (step : UInt8) (progress : Progress) (chunk : Chunk)
    (attentive : scene.Attentive) :
    scene.Ends (fun answered later => later.Attentive ∧
      (answered.1 = .error .canceled → Accepted later.history))
      (Staging.handle step progress chunk) := by
  simp only [Staging.handle, Agent.slot, Agent.shared, Agent.device, Agent.log, bind_eq, ask_bind,
    done_bind, pure_eq_done]
  refine ends_look attentive (fun later unheard => ?_) (fun later attentive heard => ?_)
  · refine ensures_mono (ends_calm ?_ unheard)
      fun answered later (ended : answered.1 ≠ .error .canceled ∧ later.Unheard) =>
        ⟨ended.2.toAttentive, fun canceled => absurd canceled ended.1⟩
    refine ⟨calm_device (fun impossible => impossible), fun written => ?_⟩
    cases written with
    | error error => exact ⟨calm_device (fun impossible => impossible), fun _ => by simp⟩
    | ok written =>
        dsimp only
        split
        · simp
        · exact ⟨calm_device (fun impossible => impossible), fun _ => by simp⟩
  · refine ensures_done (stable_attentive.and
      (stable_history fun history happening accepted => accepted_append.2 (.inl accepted)))
      ⟨attentive, accepted_of_heard heard⟩ fun later holds => ⟨holds.1, fun _ => holds.2⟩

theorem ends_fetches {α : Type} {uuid : String} {program : Agent α}
    (always : program.Always (Fetches uuid) fun _ => True) (attentive : scene.Attentive) :
    scene.Ends (fun _ later => later.Attentive) program := by
  refine ensures_mono (ensures_always always stable_attentive ?_ (fun _ _ _ _ => trivial)
    attentive) fun _ _ ended => ended.2
  intro call fetches before reply after answers attentive
  rcases calm_of_fetches fetches with rfl | calm
  · exact (attentive_of_look answers attentive).1
  · exact attentive_of_answers answers calm attentive

theorem follow_ends (step : UInt8) {uuid : String} {report : UInt8 → Agent Unit}
    (reports : ∀ percent, (report percent).Always (Fetches uuid) fun _ => True)
    (download : Download) (candid : download.Candid) (progress : Progress)
    (attentive : scene.Attentive) :
    scene.Ends (fun followed later => followed.1 = .error .canceled → Accepted later.history)
      (Staging.follow step report download progress) := by
  have grows : ∀ history happening, Accepted history → Accepted (history ++ [happening]) :=
    fun _ _ accepted => accepted_append.2 (.inl accepted)
  induction download generalizing progress scene with
  | done result => exact fun _ _ canceled => absurd canceled candid
  | ask call next ih =>
      cases call with
      | source call =>
          have asks : (Agent.device (.source call)).Always (Fetches uuid) fun _ => True :=
            ⟨trivial, fun _ => trivial⟩
          refine ensures_bind (ends_fetches asks attentive) ?_
          intro reply later attentive
          exact ih reply (candid reply) progress attentive
      | deliver chunk =>
          rw [Staging.follow]
          refine ensures_bind (handle_ends step progress chunk attentive) ?_
          intro handled later ended
          obtain ⟨answer, progress⟩ := handled
          have refused (error : UpdateError) (same : answer = .error error) :
              later.Ends (fun followed later =>
                followed.1 = .error .canceled → Accepted later.history)
                (Staging.follow step report (next ⟨.error error, true⟩) progress) := by
            -- What follows such a verdict may be anything, but the cancel is already on record.
            by_cases canceled : error = .canceled
            · refine ensures_mono (ends_history grows _ (ended.2 (canceled ▸ same)))
                fun _ _ accepted _ => accepted
            · exact ih _ (candid _ (by simpa using canceled)) progress ended.1
          cases answer with
          | error error => exact refused error rfl
          | ok told =>
              cases told with
              | none => exact ih _ (candid ⟨.ok (), false⟩ (by simp)) progress ended.1
              | some percent =>
                  refine ensures_bind (ends_fetches (reports percent) ended.1) ?_
                  intro _ later attentive
                  exact ih _ (candid ⟨.ok (), false⟩ (by simp)) progress attentive

structure Judged (result : Except UpdateError Unit) (scene : Scene) : Prop where
  canceled : result = .error .canceled →
    (Heard scene.history ∨ Forged scene.history) ∧ Silent scene.history
  other : result ≠ .error .canceled → scene.Unheard

theorem judged_other {result : Except UpdateError Unit} (other : result ≠ .error .canceled)
    (unheard : scene.Unheard) : Judged result scene :=
  ⟨fun canceled => absurd canceled other, fun _ => unheard⟩

theorem stable_judged (result : Except UpdateError Unit) : surroundings.Stable (Judged result) := by
  rintro before after rfl judged
  refine ⟨fun canceled => ?_, fun other => unheard_cancel (judged.other other)⟩
  obtain ⟨told, silent⟩ := judged.canceled canceled
  exact ⟨told.imp heard_cancel.2 forged_append, silent_cancel silent⟩

theorem keeps_judged (result : Except UpdateError Unit) {call : Agent.Call} (calm : call.Calm) :
    surroundings.Keeps (Judged result) call := by
  intro before reply after answers judged
  refine ⟨fun canceled => ?_, fun other => unheard_of_answers answers calm (judged.other other)⟩
  obtain ⟨told, silent⟩ := judged.canceled canceled
  refine ⟨told.imp (heard_of_answers answers (calm.2 _)).2 fun forged => ?_,
    silent_of_answers answers calm.1 silent⟩
  rw [history_of_answers answers]
  exact forged_append forged

theorem ends_judged {α : Type} {result : Except UpdateError Unit} {program : Agent α}
    {condition : α → Prop} (always : program.Always Calm condition) (judged : Judged result scene) :
    scene.Ends (fun value later => condition value ∧ Judged result later) program :=
  ensures_always always (stable_judged result) (fun _ calm => keeps_judged result calm)
    (fun _ _ _ _ => trivial) judged

theorem finish_calm (progress : Progress) :
    (Staging.finish progress).Always Calm (· ≠ .error .canceled) := by
  rw [Staging.finish]
  split
  · exact ⟨calm_device (fun impossible => impossible), fun _ => by simp⟩
  · simp

theorem staging_ends (step : UInt8) (url : String) (headers : List (String × String))
    (timeout : UInt64) {uuid : String} {report : UInt8 → Agent Unit}
    (reports : ∀ percent, (report percent).Always (Fetches uuid) fun _ => True)
    (progress : Progress) (attentive : scene.Attentive) :
    scene.Ends (fun staged => Judged staged.1)
      (Staging.run step url headers timeout report progress) := by
  simp only [Staging.run, Agent.slot, Agent.shared, Agent.device, Agent.log, bind_eq, ask_bind,
    done_bind, pure_eq_done]
  refine ensures_ask stable_attentive attentive (fun _ _ => trivial) ?_
  intro before download after attentive answers
  have calm : Calm (.device (.download url headers timeout)) :=
    calm_device (fun impossible => impossible)
  have attentive := attentive_of_answers answers calm attentive
  have blamed : after.Ends (fun followed later => followed.1 = .error .canceled →
      Accepted later.history ∨ Forged later.history)
      (Staging.follow step report download progress) := by
    by_cases candid : download.Candid
    · exact ensures_mono (follow_ends step reports download candid progress attentive)
        fun _ _ accepted canceled => .inl (accepted canceled)
    · have forged : Forged after.history := by
        rw [history_of_answers answers]
        exact ⟨url, headers, timeout, download, candid, by simp⟩
      exact ensures_mono (ends_history (fun _ _ => forged_append) _ forged)
        fun _ _ forged _ => .inr forged
  refine ensures_bind (ensures_and
    (ends_fetches (follow_always (fun _ => fetches_of_stages) step reports download progress)
      attentive) blamed) ?_
  rintro ⟨result, progress⟩ later ⟨attentive, blamed⟩
  refine ends_look_keeping
    (fun history => result = .error .canceled → Accepted history ∨ Forged history)
    (fun history happening blamed canceled => ?_) attentive blamed
    (fun later unheard unasked blamed => ?_) fun later attentive heard => ?_
  · exact (blamed canceled).imp (fun accepted => accepted_append.2 (.inl accepted)) forged_append
  · cases result with
    | error error =>
        refine ensures_done (stable_judged (.error error)) ?_ fun _ judged => judged
        refine ⟨fun canceled => ⟨.inr ?_, unheard.silent⟩, fun _ => unheard⟩
        exact (blamed canceled).resolve_left unasked
    | ok value =>
        refine ensures_bind (ends_calm (finish_calm progress) unheard) ?_
        intro result later ended
        exact ensures_done (stable_judged result) (judged_other ended.1 ended.2)
          fun _ judged => judged
  · have judged : Judged (.error .canceled) later :=
      ⟨fun _ => ⟨.inl heard, attentive.silent⟩, fun other => absurd rfl other⟩
    have logs : (Program.ask (.device (.log ⟨.debug, some "pipeline", "OTA canceled"⟩)) fun _ =>
        .done (.error .canceled, progress) : Agent (Except UpdateError Unit × Progress)).Always Calm
        (fun staged => staged.1 = .error .canceled) :=
      ⟨calm_device (fun impossible => impossible), fun _ => rfl⟩
    exact ensures_mono (ends_judged logs judged) fun staged _ ended => ended.1 ▸ ended.2

theorem calm_log (record : Log.Record) : Calm (.device (.log record)) :=
  calm_device (fun impossible => impossible)

theorem attempt_ends (policy : Policy) (request : Request) (unheard : scene.Unheard) :
    scene.Ends Judged (Installation.attempt policy request) := by
  simp only [Installation.attempt, Agent.device, Agent.log, bind_eq, ask_bind, done_bind,
    pure_eq_done]
  have refused (error : UpdateError) (other : error ≠ .canceled) (record : Log.Record)
      {later : Scene} (unheard : later.Unheard) :
      later.Ends Judged (.ask (.device (.log record)) fun _ => .done (.error error)) := by
    refine ends_ask (calm_log record) unheard ?_
    intro _ later unheard
    exact ensures_done stable_unheard unheard fun _ => judged_other (by simpa using other)
  refine ends_ask (calm_device (fun impossible => impossible)) unheard ?_
  intro erased later unheard
  cases erased with
  | error error => exact refused .eraseSecondSlot (by simp) _ unheard
  | ok value =>
      refine ends_ask (calm_device (fun impossible => impossible)) unheard ?_
      intro opened later unheard
      cases opened with
      | error error => exact refused .initFlash (by simp) _ unheard
      | ok value =>
          refine ensures_bind (staging_ends _ _ _ _ (percentage_always request.uuid) _
            unheard.toAttentive) ?_
          intro staged later judged
          have closes : (Program.ask (.device .closeWriter) fun _ => .done staged.1 :
              Agent (Except UpdateError Unit)).Always Calm (· = staged.1) :=
            ⟨calm_device (fun impossible => impossible), fun _ => rfl⟩
          exact ensures_mono (ends_judged closes judged) fun _ _ ended => ended.1 ▸ ended.2

theorem told_ends {later : Scene} (attentive : later.Attentive) (heard : Heard later.history) :
    later.Ends Judged (.done (.error .canceled)) := by
  have judged : Judged (.error .canceled) later :=
    ⟨fun _ => ⟨.inl heard, attentive.silent⟩, fun other => absurd rfl other⟩
  exact ensures_done (stable_judged _) judged fun _ judged => judged

theorem attempts_ends (policy : Policy) (request : Request) (remaining number : Nat)
    (last : UpdateError) (other : last ≠ .canceled) (unheard : scene.Unheard) :
    scene.Ends Judged (Installation.attempts policy request remaining number last) := by
  have quiet {program : Agent Unit}
      (always : program.Always (Agent.Call.Announces request.uuid [.downloading, .error])
        fun _ => True) : program.Always Calm fun _ => True :=
    always_mono always (fun _ announces => calm_of_announces announces (by decide))
      fun _ _ => trivial
  induction remaining generalizing number last scene with
  | zero =>
      refine ends_look unheard.toAttentive (fun later unheard => ?_) fun _ => told_ends
      exact ensures_done stable_unheard unheard fun _ unheard =>
        judged_other (by simpa using other) unheard
  | succ remaining ih =>
      simp only [Installation.attempts, Agent.slot, Agent.shared, Agent.device, Agent.log, bind_eq,
        ask_bind, done_bind, pure_eq_done]
      refine ends_look unheard.toAttentive (fun later unheard => ?_) fun _ => told_ends
      refine ensures_bind (ends_calm (quiet (phase_always (.head _))) unheard) ?_
      intro _ later ended
      refine ensures_bind (attempt_ends policy request ended.2) ?_
      intro result later judged
      cases result with
      | ok value => exact ensures_done (stable_judged _) judged fun _ judged => judged
      | error error =>
          dsimp only
          split
          · rename_i retryable
            have other : error ≠ .canceled := by
              rintro rfl
              contradiction
            have unheard : later.Unheard := judged.other (by simpa using other)
            refine ends_ask (calm_device (fun impossible => impossible)) unheard ?_
            intro _ later unheard
            refine ensures_bind (ends_calm (quiet (error_always (.tail _ (.head _)) error)) unheard)
              ?_
            intro _ later ended
            exact ends_ask (calm_log _) ended.2 fun _ later unheard =>
              ih (number + 1) error other unheard
          · exact ensures_done (stable_judged _) judged fun _ judged => judged

end Fetching

section Outcomes

variable {scene : Scene}

theorem calm_save (key : String) (value : Bytes) :
    Calm (.device (.save Record.space key value)) :=
  calm_device (fun impossible => impossible)

theorem fetch_ends (policy : Policy) (request : Request) (unheard : scene.Unheard) :
    scene.Ends Judged (Installation.fetch policy request) := by
  simp only [Installation.fetch, Agent.log, Agent.device, bind_eq, ask_bind, done_bind,
    pure_eq_done]
  split
  · exact ensures_done stable_unheard unheard fun _ => judged_other (by simp)
  · refine ensures_bind (ends_calm (saveId_always calm_log calm_save _) unheard) ?_
    intro result later ended
    cases result with
    | error error =>
        refine ends_ask (calm_log _) ended.2 ?_
        intro _ later unheard
        exact ensures_done stable_unheard unheard fun _ => judged_other (by simp)
    | ok value => exact attempts_ends policy request _ _ _ (by simp) ended.2

theorem deploy_always (policy : Policy) (uuid : String) :
    (Installation.deploy policy uuid).Always
      (fun call : Agent.Call => call ≠ .shared (.slot .isRunning)) (· ≠ .error .canceled) := by
  simp only [Installation.deploy, Agent.log, Agent.device, bind_eq, ask_bind, done_bind,
    pure_eq_done]
  refine always_bind (always_mono (phase_always (.head [])) (fun call announces => ?_)
    fun _ _ => trivial) fun _ _ => ?_
  · exact (calm_of_announces announces (by decide)).2 _
  · refine ⟨(calm_log _).2 _, fun _ => ?_⟩
    refine always_bind (always_mono (saveStage_always calm_log calm_save _)
      (fun _ calm => calm.2 _) fun _ _ => trivial) ?_
    intro result _
    cases result with
    | error error => simp
    | ok value =>
        refine always_mono (handOver_always policy) (fun call handsOver => ?_) ?_
        · rintro rfl
          exact handsOver
        · rintro result (rfl | rfl) <;> simp

structure Told (canceled : Prop) (scene : Scene) : Prop where
  heard : Heard scene.history → canceled
  canceled : canceled → (Heard scene.history ∨ Forged scene.history) ∧ Silent scene.history

theorem told_of_unheard {canceled : Prop} (other : ¬ canceled) (unheard : ¬ Heard scene.history) :
    Told canceled scene :=
  ⟨fun heard => absurd heard unheard, fun impossible => absurd impossible other⟩

theorem told_of_judged {result : Except UpdateError Unit} (judged : Judged result scene) :
    Told (result = .error .canceled) scene := by
  refine ⟨fun heard => ?_, judged.canceled⟩
  exact Classical.byContradiction fun other => (judged.other other).unheard heard

theorem stable_told (canceled : Prop) : surroundings.Stable (Told canceled) := by
  rintro before after rfl told
  refine ⟨fun heard => told.heard (heard_cancel.1 heard), fun holds => ?_⟩
  obtain ⟨cause, silent⟩ := told.canceled holds
  exact ⟨cause.imp heard_cancel.2 forged_append, silent_cancel silent⟩

theorem keeps_told {canceled : Prop} {call : Agent.Call} (other : call ≠ .shared (.slot .isRunning))
    (quiet : canceled → ¬ call.Loud) : surroundings.Keeps (Told canceled) call := by
  intro before reply after answers told
  refine ⟨fun heard => told.heard ((heard_of_answers answers other).1 heard), fun holds => ?_⟩
  obtain ⟨cause, silent⟩ := told.canceled holds
  refine ⟨cause.imp (heard_of_answers answers other).2 fun forged => ?_,
    silent_of_answers answers (quiet holds) silent⟩
  rw [history_of_answers answers]
  exact forged_append forged

theorem execute_ends (policy : Policy) (request : Request) (unheard : scene.Unheard) :
    scene.Ends (fun result => Told (result = .error .canceled))
      (Installation.execute policy request) := by
  simp only [Installation.execute, Agent.log, Agent.device, bind_eq, ask_bind, done_bind,
    pure_eq_done]
  have refused (error : SettingsError) {later : Scene} (unheard : later.Unheard) :
      later.Ends (fun result : Except UpdateError Unit => Told (result = .error .canceled))
        (.done (.error (.settings error))) :=
    ensures_done stable_unheard unheard fun _ unheard => told_of_unheard (by simp) unheard.unheard
  have prepares := prepare_always calm_log (calm_device (fun impossible => impossible))
  refine ensures_bind (ends_calm prepares unheard) ?_
  intro prepared later ended
  cases prepared with
  | error error => exact refused error ended.2
  | ok value =>
      refine ends_ask (calm_log _) ended.2 ?_
      intro _ later unheard
      refine ensures_bind (ends_calm (saveStage_always calm_log calm_save _) unheard) ?_
      intro saved later ended
      cases saved with
      | error error => exact refused error ended.2
      | ok value =>
          refine ensures_bind (fetch_ends policy request ended.2) ?_
          intro fetched later judged
          cases fetched with
          | error error => exact ensures_done (stable_judged _) judged fun _ => told_of_judged
          | ok value =>
              have unheard : ¬ Heard later.history := (judged.other (by simp)).unheard
              refine ensures_mono (ensures_always (deploy_always policy request.uuid)
                (stable_told False) (fun _ other => keeps_told other (by simp))
                (fun _ _ _ _ => trivial)
                (told_of_unheard (by simp) unheard)) ?_
              intro result last ended
              exact told_of_unheard ended.1 ended.2.heard

theorem not_look_of_concludes {call : Agent.Call} (concludes : call.Concludes) :
    call ≠ .shared (.slot .isRunning) := by
  rintro rfl
  rcases concludes with clears | impossible
  · exact clears
  · simp at impossible

theorem not_loud_of_concludes {call : Agent.Call} (concludes : call.Concludes) : ¬ call.Loud := by
  rcases concludes with clears | rfl
  · unfold Agent.Call.Clears at clears
    split at clears <;> first | exact fun impossible => impossible | contradiction
  · exact fun impossible => impossible

theorem ends_log {α : Type} {canceled : Prop} {post : α → Scene → Prop} {record : Log.Record}
    {next : Unit → Agent α} (told : Told canceled scene)
    (onward : ∀ later : Scene, Told canceled later → later.Ends post (next ())) :
    scene.Ends post (.ask (.device (.log record)) next) := by
  refine ensures_ask (stable_told canceled) told (fun _ _ => trivial) ?_
  intro before reply after told answers
  exact onward after (keeps_told ((calm_log record).2 _) (fun _ => (calm_log record).1) before reply
    after answers told)

theorem not_look_of_announces {uuid : String} {phases : List Phase} {call : Agent.Call}
    (announces : call.Announces uuid phases) : call ≠ .shared (.slot .isRunning) := by
  rintro rfl
  exact announces

theorem conclude_ends (outcome : Outcome) {canceled : Prop} (told : Told canceled scene)
    (same : outcome = .canceled ↔ canceled) :
    scene.Ends (fun outcome => Told (outcome = .canceled)) (Installation.conclude outcome) := by
  refine ensures_mono (ensures_always (conclude_always outcome) (stable_told canceled)
    (fun _ concludes => keeps_told (not_look_of_concludes concludes)
      fun _ => not_loud_of_concludes concludes) (fun _ _ _ _ => trivial) told) ?_
  rintro outcome later ⟨rfl, told⟩
  exact ⟨fun heard => same.2 (told.heard heard), fun canceled => told.canceled (same.1 canceled)⟩

theorem run_ends (policy : Policy) (request : Request) (unheard : scene.Unheard) :
    scene.Ends (fun outcome => Told (outcome = .canceled)) (Installation.run policy request) := by
  simp only [Installation.run, Agent.log, Agent.device, bind_eq, ask_bind, done_bind, pure_eq_done]
  have quiet : (Announcement.phase request.uuid .acknowledged).Always Calm fun _ => True :=
    always_mono (phase_always (.head []))
      (fun _ announces => calm_of_announces announces (by decide)) fun _ _ => trivial
  refine ensures_bind (ends_calm quiet unheard) ?_
  intro _ later ended
  refine ends_ask (calm_log _) ended.2 ?_
  intro _ later unheard
  refine ensures_bind (execute_ends policy request unheard) ?_
  intro result later told
  split
  · refine ensures_done (stable_told _) told ?_
    intro last told
    exact told_of_unheard (by simp) fun heard => absurd (told.heard heard) (by simp)
  · exact ends_log told fun later told => conclude_ends .canceled told (by simp)
  · rename_i error other
    have unheard : Told False later :=
      told_of_unheard (fun impossible => impossible) fun heard => by
        cases told.heard heard
        contradiction
    refine ends_log unheard ?_
    intro later unheard
    refine ensures_bind (ensures_always (error_always (.head []) error) (stable_told False)
      (fun _ announces => keeps_told (not_look_of_announces announces) (by simp))
      (fun _ _ _ _ => trivial) unheard) ?_
    intro _ later ended
    refine conclude_ends (.failed error) ended.2 ?_
    simp

end Outcomes

section Trials

def Download.single : Download :=
  .ask (.deliver ⟨[1], 1, 1, true⟩) fun _ => .done (.ok ())

def Trial.install (download : Download) (last : Agent.Call → Bool) : Outcome × Trial :=
  (Installation.run .standard .sample).run (answerUntil last) (opening [download])

theorem Trial.leads_install (download : Download) (last : Agent.Call → Bool) :
    surroundings.Leads (Installation.run .standard .sample, Scene.opening .empty)
      (.done (install download last).1, (install download last).2.scene) :=
  leads_trial last .standard .sample (opening [download])

end Trials

end DualBank
