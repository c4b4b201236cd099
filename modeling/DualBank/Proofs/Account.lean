import DualBank.Proofs.Notices
import DualBank.Proofs.Trial

/-! What an installation tells the outside, event by event. It opens with an acknowledgement; then
each attempt is told of with rising percentages, and with an error if it is worth another one; and
it closes with an ending that matches the outcome. -/

namespace DualBank

open Program Surroundings Scene

/-- One attempt: where it began and ended, which percentages were told of it, and what became of
it. -/
structure Try where
  before : Scene
  after : Scene
  percents : List Nat
  result : Except UpdateError Unit

namespace Try

def fault? (attempt : Try) : Option UpdateError :=
  match attempt.result with
  | .ok () => none
  | .error error => if error.isRetryable then some error else none

theorem failed_of_fault {attempt : Try} (retried : attempt.fault?.isSome) :
    attempt.result ≠ .ok () := by
  intro succeeded
  simp [fault?, succeeded] at retried

def notices (attempt : Try) : List Notice :=
  .downloading 0 :: attempt.percents.map .downloading ++
    attempt.fault?.toList.map (.fault .error)

end Try

def Outcome.notices (deploying : Bool) : Outcome → List Notice
  | .rebooting => [.plain .deploying, .plain .deployed, .plain .rebooting]
  | .failed error => (if deploying then [.plain .deploying] else []) ++ [.fault .failure error]
  | .canceled => []

structure Try.Made (policy : Policy) (request : Request) (notices : List Notice) (scene : Scene)
    (attempt : Try) : Prop where
  announced : attempt.before.Tells request.uuid (notices ++ [.downloading 0])
  run : surroundings.Leads (Installation.attempt policy request, attempt.before)
    (.done attempt.result, attempt.after)
  past : attempt.after.history <+: scene.history
  rising : (0 :: attempt.percents).Pairwise (· < ·)
  bounded : ∀ percent ∈ attempt.percents, percent ≤ 100

theorem Try.Made.mono {policy : Policy} {request : Request} {notices : List Notice}
    {scene later : Scene} {attempt : Try} (made : attempt.Made policy request notices scene)
    (longer : scene.history <+: later.history) : attempt.Made policy request notices later :=
  { made with past := made.past.trans longer }

/-- These attempts were made one after the other from when these notices had been given, each but
the last with a fault that was worth another. -/
structure Tries (policy : Policy) (request : Request) (notices : List Notice) (scene : Scene)
    (tries : List Try) : Prop where
  made : ∀ earlier attempt later, tries = earlier ++ attempt :: later →
    attempt.Made policy request (notices ++ earlier.flatMap Try.notices) scene
  retried : ∀ attempt ∈ tries.dropLast, attempt.fault?.isSome

section Repeating

variable {policy : Policy} {request : Request} {notices : List Notice} {scene later : Scene}

structure Fetched (policy : Policy) (request : Request) (notices : List Notice) (remaining : Nat)
    (result : Except UpdateError Unit) (scene : Scene) (tries : List Try) : Prop where
  few : tries.length ≤ remaining
  chain : Tries policy request notices scene tries
  told : scene.Tells request.uuid (notices ++ tries.flatMap Try.notices)
  succeeded : result = .ok () ↔ ∃ attempt, tries.getLast? = some attempt ∧ attempt.result = .ok ()

theorem fetched_none (remaining : Nat) (error : UpdateError)
    (told : scene.Tells request.uuid notices) :
    Fetched policy request notices remaining (.error error) scene [] where
  few := Nat.zero_le _
  chain := ⟨by simp, by simp⟩
  told := by simpa using told
  succeeded := by simp

theorem fetched_last {attempt : Try} (remaining : Nat)
    (made : attempt.Made policy request notices scene)
    (told : scene.Tells request.uuid (notices ++ attempt.notices)) :
    Fetched policy request notices (remaining + 1) attempt.result scene [attempt] where
  few := by simp
  chain := by
    refine ⟨?_, by simp⟩
    intro earlier other rest parts
    cases earlier with
    | nil =>
        cases parts
        simpa using made
    | cons first earlier => simp at parts
  told := by simpa using told
  succeeded := by simp

theorem fetched_again {attempt : Try} {remaining : Nat} {result : Except UpdateError Unit}
    {tries : List Try} (made : attempt.Made policy request notices scene)
    (retried : attempt.fault?.isSome)
    (fetched : Fetched policy request (notices ++ attempt.notices) remaining result scene tries) :
    Fetched policy request notices (remaining + 1) result scene (attempt :: tries) where
  few := Nat.succ_le_succ fetched.few
  chain := by
    refine ⟨?_, ?_⟩
    · intro earlier other rest parts
      cases earlier with
      | nil =>
          cases parts
          simpa using made
      | cons first earlier =>
          cases parts
          simpa using fetched.chain.made earlier other rest rfl
    · cases tries with
      | nil => simp
      | cons second tries =>
          rw [List.dropLast_cons_cons]
          exact List.forall_mem_cons.2 ⟨retried, fetched.chain.retried⟩
  told := by simpa using fetched.told
  succeeded := by
    rw [fetched.succeeded]
    cases tries with
    | nil => simpa using Try.failed_of_fault retried
    | cons second tries => simp

theorem made_of_climbs {before : Scene} {result : Except UpdateError Unit} {progress : Progress}
    (announced : before.Tells request.uuid (notices ++ [.downloading 0]))
    (run : surroundings.Leads (Installation.attempt policy request, before)
      (.done result, later))
    (climbs : later.Climbs request.uuid (notices ++ [.downloading 0]) progress) :
    ∃ attempt : Try, attempt.result = result ∧ attempt.Made policy request notices later ∧
      later.Tells request.uuid
        (notices ++ .downloading 0 :: attempt.percents.map .downloading) := by
  obtain ⟨percents, climb, told⟩ := climbs
  refine ⟨⟨before, later, percents, result⟩, rfl, ?_, by simpa using told⟩
  exact ⟨announced, run, List.prefix_rfl, climb.rising, climb.bounded⟩

theorem ends_unfetched (remaining : Nat) (error : UpdateError)
    (told : scene.Tells request.uuid notices) :
    scene.Ends
      (fun result later => ∃ tries, Fetched policy request notices remaining result later tries)
      (.done (.error error)) :=
  ensures_done tells_withstands.stable told fun _ told => ⟨[], fetched_none remaining error told⟩

theorem ends_fetched_last {attempt : Try} (remaining : Nat)
    (made : attempt.Made policy request notices scene) (final : attempt.fault? = none)
    (told : scene.Tells request.uuid
      (notices ++ .downloading 0 :: attempt.percents.map .downloading)) :
    scene.Ends
      (fun result later =>
        ∃ tries, Fetched policy request notices (remaining + 1) result later tries)
      (.done attempt.result) := by
  have told : scene.Tells request.uuid (notices ++ attempt.notices) := by
    simpa [Try.notices, final] using told
  exact ends_told told fun _ told past =>
    ⟨[attempt], fetched_last remaining (made.mono past) told⟩

theorem ends_fetched_again {attempt : Try} {remaining : Nat}
    {program : Agent (Except UpdateError Unit)}
    (made : attempt.Made policy request notices scene) (retried : attempt.fault?.isSome)
    (rest : scene.Ends
      (fun result later => ∃ tries,
        Fetched policy request (notices ++ attempt.notices) remaining result later tries) program) :
    scene.Ends
      (fun result later =>
        ∃ tries, Fetched policy request notices (remaining + 1) result later tries)
      program := by
  refine ensures_mono (ensures_and rest (ends_past program)) ?_
  rintro result later ⟨⟨tries, fetched⟩, past⟩
  exact ⟨attempt :: tries, fetched_again (made.mono past) retried fetched⟩

theorem attempts_fetched (remaining number : Nat) (last : UpdateError)
    (told : scene.Tells request.uuid notices) :
    scene.Ends
      (fun result later => ∃ tries, Fetched policy request notices remaining result later tries)
      (Installation.attempts policy request remaining number last) := by
  -- What the later attempts tell comes after the block of this one, so the notices so far vary.
  induction remaining generalizing number last scene notices with
  | zero =>
      refine tells_withstands.ensures_ask (.shared (.slot .isRunning)) trivial told ?_
      intro running later told
      cases running with
      | false => exact ends_unfetched 0 .canceled told
      | true => exact ends_unfetched 0 last told
  | succ remaining ih =>
      simp only [Installation.attempts, Agent.slot, Agent.shared, Agent.device, Agent.log, bind_eq,
        ask_bind, done_bind, pure_eq_done]
      refine tells_withstands.ensures_ask (.shared (.slot .isRunning)) trivial told ?_
      intro running later told
      cases running with
      | false => exact ends_unfetched _ .canceled told
      | true =>
          refine ensures_bind (phase_tells .downloading told) ?_
          intro _ before announced
          refine ensures_bind (ensures_and (attempt_climbs policy request announced)
            (ensures_self _ before)) ?_
          rintro result later ⟨⟨progress, climbs⟩, run⟩
          obtain ⟨attempt, same, made, told⟩ := made_of_climbs announced run climbs
          subst same
          have final := ends_fetched_last remaining made
          cases same : attempt.result with
          | ok value =>
              rw [same] at final
              exact final (by simp [Try.fault?, same]) told
          | error error =>
              rw [same] at final
              dsimp only
              split
              · rename_i retryable
                have fault : attempt.fault? = some error := by simp [Try.fault?, same, retryable]
                refine ends_fetched_again made (by simp [fault]) ?_
                refine tells_withstands.ensures_ask (.device (.sleep _)) trivial told ?_
                intro _ later told
                refine ensures_bind (error_tells .error error told) ?_
                intro _ later told
                refine tells_withstands.ensures_ask (.device (.log _)) trivial told ?_
                intro _ later told
                refine ih (number + 1) error ?_
                simpa [Try.notices, fault] using told
              · rename_i unworthy
                exact final (by simp [Try.fault?, same, unworthy]) told

end Repeating

section Ending

variable {uuid : String} {notices : List Notice} {scene : Scene}

def Deployed (uuid : String) (notices succeeded failed : List Notice) :
    Except UpdateError Unit → Scene → Prop
  | .ok (), scene => scene.Tells uuid (notices ++ succeeded)
  | .error error, scene => error ≠ .canceled ∧ scene.Tells uuid (notices ++ failed)

theorem handOver_tells (policy : Policy) (told : scene.Tells uuid notices) :
    scene.Ends (Deployed uuid notices [.plain .deployed, .plain .rebooting] [])
      (Installation.handOver policy uuid) := by
  simp only [Installation.handOver, Agent.device, Agent.log, bind_eq, ask_bind, done_bind,
    pure_eq_done]
  have refused (record : Log.Record) {later : Scene} (told : later.Tells uuid notices) :
      later.Ends (Deployed uuid notices [.plain .deployed, .plain .rebooting] [])
        (.ask (.device (.log record)) fun _ => .done (.error .internal)) := by
    refine tells_withstands.ensures_ask (.device (.log record)) trivial told ?_
    intro _ later told
    exact ensures_done tells_withstands.stable told fun _ told =>
      ⟨by simp, by simpa using told⟩
  refine tells_withstands.ensures_ask (.device (.readHeader _)) trivial told ?_
  intro read later told
  cases read with
  | error error => exact refused _ told
  | ok header =>
      refine tells_withstands.ensures_ask (.device (.log _)) trivial told ?_
      intro _ later told
      refine tells_withstands.ensures_ask (.device .requestTest) trivial told ?_
      intro requested later told
      cases requested with
      | error error => exact refused _ told
      | ok value =>
          refine ensures_bind (phase_tells .deployed told) ?_
          intro _ later told
          refine ensures_bind (phase_tells .rebooting told) ?_
          intro _ later told
          rw [List.append_assoc] at told
          refine tells_withstands.ensures_ask (.device (.log _)) trivial told ?_
          intro _ later told
          refine tells_withstands.ensures_ask (.device (.sleep _)) trivial told ?_
          intro _ later told
          refine tells_withstands.ensures_ask (.device (.log _)) trivial told ?_
          intro _ later told
          refine tells_withstands.ensures_ask (.device .restart) trivial told ?_
          exact fun _ _ told => ensures_done tells_withstands.stable told fun _ told => told

theorem mute_log (record : Log.Record) : Agent.Call.Mute (.device (.log record)) :=
  trivial

theorem mute_save (key : String) (value : Bytes) :
    Agent.Call.Mute (.device (.save Record.space key value)) :=
  trivial

theorem mute_of_concludes {call : Agent.Call} (concludes : call.Concludes) : call.Mute := by
  rcases concludes with clears | rfl
  · unfold Agent.Call.Clears at clears
    split at clears <;> trivial
  · trivial

theorem deploy_tells (policy : Policy) (told : scene.Tells uuid notices) :
    scene.Ends
      (Deployed uuid notices [.plain .deploying, .plain .deployed, .plain .rebooting]
        [.plain .deploying])
      (Installation.deploy policy uuid) := by
  simp only [Installation.deploy, Agent.log, Agent.device, bind_eq, ask_bind, done_bind,
    pure_eq_done]
  refine ensures_bind (phase_tells .deploying told) ?_
  intro _ later told
  refine tells_withstands.ensures_ask (.device (.log _)) trivial told ?_
  intro _ later told
  refine ensures_bind (ends_mute (saveStage_always mute_log mute_save _) told) ?_
  rintro saved later ⟨_, told⟩
  cases saved with
  | error error =>
      exact ensures_done tells_withstands.stable told fun _ told => ⟨by simp, told⟩
  | ok value =>
      refine ensures_mono (handOver_tells policy told) ?_
      intro result later told
      cases result with
      | ok value => simpa [Deployed] using told
      | error error => simpa [Deployed] using told

theorem conclude_tells (outcome : Outcome) (told : scene.Tells uuid notices) :
    scene.Ends (fun value later => value = outcome ∧ later.Tells uuid notices)
      (Installation.conclude outcome) :=
  ends_mute (always_mono (conclude_always outcome) (fun _ => mute_of_concludes) fun _ same => same)
    told

end Ending

section Running

variable {policy : Policy} {request : Request} {notices : List Notice} {scene later : Scene}

structure Executed (policy : Policy) (request : Request) (notices : List Notice)
    (result : Except UpdateError Unit) (scene : Scene) (tries : List Try) (deploying : Bool) :
    Prop where
  few : tries.length ≤ policy.maxAttempts.toNat
  chain : Tries policy request notices scene tries
  succeeded : deploying = true ↔
    ∃ attempt, tries.getLast? = some attempt ∧ attempt.result = .ok ()
  told : match result with
    | .ok () => deploying = true ∧ scene.Tells request.uuid (notices ++ tries.flatMap Try.notices ++
        [.plain .deploying, .plain .deployed, .plain .rebooting])
    | .error error => (deploying = true → error ≠ .canceled) ∧
        scene.Tells request.uuid (notices ++ tries.flatMap Try.notices ++
          if deploying then [.plain .deploying] else [])

theorem tries_mono {tries : List Try} (chain : Tries policy request notices scene tries)
    (longer : scene.history <+: later.history) : Tries policy request notices later tries where
  made earlier attempt rest parts := (chain.made earlier attempt rest parts).mono longer
  retried := chain.retried

theorem ends_unexecuted (error : UpdateError) (told : scene.Tells request.uuid notices) :
    scene.Ends
      (fun result later =>
        ∃ tries deploying, Executed policy request notices result later tries deploying)
      (.done (.error error)) := by
  refine ensures_done tells_withstands.stable told fun _ told => ⟨[], false, ?_⟩
  exact ⟨Nat.zero_le _, ⟨by simp, by simp⟩, by simp, by simp, by simpa using told⟩

theorem fetch_fetched (told : scene.Tells request.uuid notices) :
    scene.Ends
      (fun result later => ∃ tries,
        Fetched policy request notices policy.maxAttempts.toNat result later tries)
      (Installation.fetch policy request) := by
  simp only [Installation.fetch, Agent.log, Agent.device, bind_eq, ask_bind, done_bind,
    pure_eq_done]
  split
  · exact ends_unfetched _ _ told
  · refine ensures_bind (ends_mute (saveId_always mute_log mute_save _) told) ?_
    rintro saved later ⟨_, told⟩
    cases saved with
    | error error =>
        refine tells_withstands.ensures_ask (.device (.log _)) trivial told ?_
        exact fun _ _ told => ends_unfetched _ _ told
    | ok value => exact attempts_fetched _ _ _ told

theorem execute_executed (told : scene.Tells request.uuid notices) :
    scene.Ends
      (fun result later =>
        ∃ tries deploying, Executed policy request notices result later tries deploying)
      (Installation.execute policy request) := by
  simp only [Installation.execute, Agent.log, Agent.device, bind_eq, ask_bind, done_bind,
    pure_eq_done]
  refine ensures_bind (ends_mute (prepare_always mute_log trivial) told) ?_
  rintro prepared later ⟨_, told⟩
  cases prepared with
  | error error => exact ends_unexecuted _ told
  | ok value =>
      refine tells_withstands.ensures_ask (.device (.log _)) trivial told ?_
      intro _ later told
      refine ensures_bind (ends_mute (saveStage_always mute_log mute_save _) told) ?_
      rintro saved later ⟨_, told⟩
      cases saved with
      | error error => exact ends_unexecuted _ told
      | ok value =>
          refine ensures_bind (fetch_fetched told) ?_
          rintro fetched later ⟨tries, done⟩
          cases fetched with
          | error error =>
              refine ends_told done.told fun last told past => ⟨tries, false, ?_⟩
              refine ⟨done.few, tries_mono done.chain past, ?_, by simp, by simpa using told⟩
              rw [← done.succeeded]
              simp
          | ok value =>
              refine ensures_mono (ensures_and (deploy_tells policy done.told) (ends_past _)) ?_
              rintro result last ⟨told, past⟩
              refine ⟨tries, true, done.few, tries_mono done.chain past, ?_, ?_⟩
              · rw [← done.succeeded]
                simp
              · cases result with
                | ok value => exact ⟨rfl, told⟩
                | error error => exact ⟨fun _ => told.1, told.2⟩

/-- What there is to say of a run that has come to an outcome. -/
structure Account (policy : Policy) (request : Request) (outcome : Outcome) (scene : Scene)
    (tries : List Try) (deploying : Bool) : Prop where
  few : tries.length ≤ policy.maxAttempts.toNat
  chain : Tries policy request [.plain .acknowledged] scene tries
  succeeded : deploying = true ↔
    ∃ attempt, tries.getLast? = some attempt ∧ attempt.result = .ok ()
  told : scene.Tells request.uuid
    (.plain .acknowledged :: tries.flatMap Try.notices ++ outcome.notices deploying)

theorem run_accounted (told : scene.Tells request.uuid []) :
    scene.Ends
      (fun outcome later => ∃ tries deploying,
        Account policy request outcome later tries deploying)
      (Installation.run policy request) := by
  simp only [Installation.run, Agent.log, Agent.device, bind_eq, ask_bind, done_bind, pure_eq_done]
  refine ensures_bind (phase_tells .acknowledged told) ?_
  intro _ later told
  refine tells_withstands.ensures_ask (.device (.log _)) trivial told ?_
  intro _ later told
  refine ensures_bind (execute_executed told) ?_
  rintro result later ⟨tries, deploying, few, chain, succeeded, told⟩
  split
  · exact ends_told told.2 fun last told past =>
      ⟨tries, deploying, few, tries_mono chain past, succeeded, told⟩
  · -- A cancel is looked for no more once the deployment was announced.
    have unannounced : deploying = false := by simpa using told.1
    refine ensures_mono (ensures_and (tells_withstands.ensures_ask (.device (.log _)) trivial
      told.2 fun _ _ told => conclude_tells .canceled told) (ends_past _)) ?_
    rintro outcome last ⟨⟨rfl, told⟩, past⟩
    refine ⟨tries, deploying, few, tries_mono chain past, succeeded, ?_⟩
    simpa [unannounced, Outcome.notices] using told
  · rename_i error _
    refine ensures_mono (ensures_and (tells_withstands.ensures_ask (.device (.log _)) trivial
      told.2 fun _ _ told => ensures_bind (error_tells .failure error told)
        fun _ _ told => conclude_tells (.failed error) told) (ends_past _)) ?_
    rintro outcome last ⟨⟨rfl, told⟩, past⟩
    refine ⟨tries, deploying, few, tries_mono chain past, succeeded, ?_⟩
    simpa [Outcome.notices] using told

end Running

/-- The events of a run that has come to an outcome: an acknowledgement, a block for each attempt,
and the ending of the outcome. -/
theorem events_of_run (policy : Policy) (request : Request) (settings : SettingsTable)
    (outcome : Outcome) (scene : Scene)
    (leads : surroundings.Leads (Installation.run policy request, opening settings)
      (.done outcome, scene)) :
    ∃ tries deploying, Account policy request outcome scene tries deploying :=
  (ensures_leads leads (run_accounted .nil)).ended

def Trial.resumed : Trial :=
  opening [.ofChunks (.error .network) [⟨[9, 9], 2, 4, false⟩],
    .ofChunks (.ok ()) [⟨[1], 1, 4, false⟩, ⟨[2, 3, 4], 4, 4, true⟩]]

theorem events_of_run_resumed :
    ∃ scene : Scene,
      surroundings.Leads (Installation.run .standard .sample, opening .empty)
        (.done .rebooting, scene) ∧
      ∃ tries deploying, Account .standard .sample .rebooting scene tries deploying := by
  have restarts : ((Installation.run .standard .sample).run (Trial.answerUntil fun _ => false)
      Trial.resumed).1 = .rebooting := by
    decide +kernel
  have leads := Trial.leads_trial (fun _ => false) .standard .sample Trial.resumed
  rw [restarts] at leads
  exact ⟨_, leads, events_of_run _ _ _ _ _ leads⟩

end DualBank
