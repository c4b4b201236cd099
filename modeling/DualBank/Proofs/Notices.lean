import DualBank.Proofs.Delivery
import DualBank.Proofs.Hearing
import Mathlib.Data.List.Forall2

/-! What the events of an installation say: what each announcement adds, and that the percentages
told of a download rise. -/

namespace DualBank

open Program Surroundings Scene

structure Notice where
  phase : Phase
  percent : Nat
  code : StatusCode

namespace Notice

def Conveyed (uuid : String) (notice : Notice) (event : Event) : Prop :=
  event.requestUuid = uuid ∧ event.status = notice.phase.status ∧
    event.progress.toInt = notice.percent ∧ event.code = notice.code.text ∧ event.message = ""

def plain (phase : Phase) : Notice :=
  ⟨phase, 0, .none⟩

def downloading (percent : Nat) : Notice :=
  ⟨.downloading, percent, .none⟩

def fault (phase : Phase) (error : UpdateError) : Notice :=
  ⟨phase, 0, error.statusCode⟩

theorem conveyed_plain (uuid : String) (phase : Phase) (time : Int64) :
    (plain phase).Conveyed uuid (.compose uuid phase 0 none "" time) :=
  ⟨rfl, rfl, rfl, rfl, rfl⟩

theorem conveyed_fault (uuid : String) (phase : Phase) (error : UpdateError) (time : Int64) :
    (fault phase error).Conveyed uuid (.compose uuid phase 0 (some error) "" time) :=
  ⟨rfl, rfl, rfl, rfl, rfl⟩

theorem clamp_ofNat {percent : Nat} (bounded : percent ≤ 100) :
    (Event.clamp (Int32.ofNat percent)).toInt = percent := by
  have same : (Int32.ofNat percent).toInt = percent := Int32.toInt_ofNat_of_lt (by omega)
  have low : ¬ Int32.ofNat percent < 0 := by
    rw [Int32.lt_iff_toInt_lt, same]
    simp
  have high : ¬ 100 < Int32.ofNat percent := by
    rw [Int32.lt_iff_toInt_lt, same]
    simp
    omega
  rw [Event.clamp, if_neg low, if_neg high, same]

theorem conveyed_downloading (uuid : String) {percent : Nat} (bounded : percent ≤ 100)
    (time : Int64) :
    (downloading percent).Conveyed uuid
      (.compose uuid .downloading (Int32.ofNat percent) none "" time) :=
  ⟨rfl, rfl, clamp_ofNat bounded, rfl, rfl⟩

end Notice

namespace Scene

def events (scene : Scene) : List Event :=
  scene.history.filterMap Happening.event?

def Tells (uuid : String) (notices : List Notice) (scene : Scene) : Prop :=
  List.Forall₂ (Notice.Conveyed uuid) notices scene.events

end Scene

def Agent.Call.Mute : Agent.Call → Prop
  | .device (.publish _) => False
  | _ => True

theorem Agent.Call.mute_of_whispers {call : Agent.Call} (whispers : call.Whispers) : call.Mute := by
  unfold Whispers at whispers
  split at whispers <;> trivial

section Telling

variable {uuid : String} {notices : List Notice} {scene : Scene}

theorem tells_of_silent {before after : Scene} {happening : Happening}
    (longer : after.history = before.history ++ [happening]) (silent : happening.event? = none)
    (told : before.Tells uuid notices) : after.Tells uuid notices := by
  rw [Tells, Scene.events, longer, List.filterMap_append, List.filterMap_cons_none silent,
    List.filterMap_nil, List.append_nil]
  exact told

theorem silent_of_mute {call : Agent.Call} (mute : call.Mute) (reply : Agent.Reply call) :
    (Happening.exchange call reply).event? = none := by
  cases call with
  | device call => cases call <;> first | rfl | exact mute.elim
  | shared call => rfl
  | join => rfl

theorem tells_withstands :
    Withstands surroundings (fun _ _ => True) Agent.Call.Mute (Tells uuid notices) where
  stable := by
    rintro before after rfl told
    exact tells_of_silent rfl rfl told
  kept := by
    intro call mute before reply after answers told
    exact tells_of_silent (history_of_answers answers) (silent_of_mute mute reply) told
  guarded _ _ _ _ := trivial

theorem ends_mute {α : Type} {program : Agent α} {condition : α → Prop}
    (always : program.Always Agent.Call.Mute condition) (told : scene.Tells uuid notices) :
    scene.Ends (fun value later => condition value ∧ later.Tells uuid notices) program :=
  tells_withstands.ensures always (fun _ mute => mute) told

theorem publish_tells {phase : Phase} {progress : Int32} {error : Option UpdateError}
    {notice : Notice}
    (conveyed : ∀ time, notice.Conveyed uuid (.compose uuid phase progress error "" time))
    (told : scene.Tells uuid notices) :
    scene.Ends (fun _ later => later.Tells uuid (notices ++ [notice]))
      (Announcement.publish uuid phase progress error "") := by
  have whispers (notices : List Notice) :
      Withstands surroundings (fun _ _ => True) Agent.Call.Whispers (Tells uuid notices) :=
    tells_withstands.mono fun _ => Agent.Call.mute_of_whispers
  refine ensures_mono (ensures_publish (whispers notices) (fun _ => whispers (notices ++ [notice]))
    (fun _ _ _ => trivial) ?_ told) ?_
  · intro time before reply after told answers
    rw [Tells, Scene.events, history_of_answers answers, List.filterMap_append]
    exact List.rel_append told (.cons (conveyed time) .nil)
  · rintro _ later ⟨_, told⟩
    exact told

theorem phase_tells (phase : Phase) (told : scene.Tells uuid notices) :
    scene.Ends (fun _ later => later.Tells uuid (notices ++ [.plain phase]))
      (Announcement.phase uuid phase) :=
  publish_tells (Notice.conveyed_plain uuid phase) told

theorem error_tells (phase : Phase) (error : UpdateError) (told : scene.Tells uuid notices) :
    scene.Ends (fun _ later => later.Tells uuid (notices ++ [.fault phase error]))
      (Announcement.error uuid phase error) :=
  publish_tells (Notice.conveyed_fault uuid phase error) told

end Telling

section Past

variable {scene : Scene}

theorem past_grows (past history : List Happening) (happening : Happening)
    (longer : past <+: history) : past <+: history ++ [happening] :=
  longer.trans (List.prefix_append ..)

theorem ends_past {α : Type} (program : Agent α) :
    scene.Ends (fun _ later => scene.history <+: later.history) program :=
  ends_history (past_grows scene.history) program List.prefix_rfl

theorem ends_told {α : Type} {uuid : String} {notices : List Notice} {value : α}
    {post : α → Scene → Prop} (told : scene.Tells uuid notices)
    (implies : ∀ later : Scene, later.Tells uuid notices → scene.history <+: later.history →
      post value later) :
    scene.Ends post (.done value) :=
  ensures_done (tells_withstands.stable.and (stable_history (past_grows scene.history)))
    ⟨told, List.prefix_rfl⟩ fun later holds => implies later holds.1 holds.2

end Past

section Climbing

namespace Progress

theorem percent_le (progress : Progress) : progress.percent.toNat ≤ 100 := by
  have bounded : (min (progress.written * 100 / progress.total) 100).toNat ≤ 100 := by
    rw [UInt64.toNat_min]
    exact Nat.min_le_right ..
  rw [percent, UInt64.toNat_toUInt8]
  exact Nat.le_trans (Nat.mod_le ..) bounded

theorem rounded_le (progress : Progress) (step : UInt8) :
    (progress.rounded step).toNat ≤ progress.percent.toNat := by
  have smaller : progress.percent % max step 1 ≤ progress.percent := by
    rw [UInt8.le_iff_toNat_le, UInt8.toNat_mod]
    exact Nat.mod_le ..
  rw [rounded, UInt8.toNat_sub_of_le _ _ smaller]
  exact Nat.sub_le ..

end Progress

structure Climb (percents : List Nat) (progress : Progress) : Prop where
  rising : (0 :: percents).Pairwise (· < ·)
  bounded : ∀ percent ∈ percents, percent ≤ 100
  below : ∀ percent ∈ 0 :: percents, percent ≤ progress.lastPercent.toNat

theorem climb_zero : Climb [] .zero :=
  ⟨by simp, by simp, by simp⟩

theorem climb_higher {percents : List Nat} {progress later : Progress} {percent : UInt8}
    (climb : Climb percents progress) (higher : progress.lastPercent < percent)
    (bounded : percent.toNat ≤ 100) (last : later.lastPercent = percent) :
    Climb (percents ++ [percent.toNat]) later := by
  have above : ∀ told ∈ 0 :: percents, told < percent.toNat := by
    intro told inside
    exact Nat.lt_of_le_of_lt (climb.below told inside) (UInt8.lt_iff_toNat_lt.1 higher)
  refine ⟨?_, ?_, ?_⟩
  · rw [← List.cons_append, List.pairwise_append]
    exact ⟨climb.rising, by simp, by simpa using above⟩
  · simpa [or_imp, forall_and] using ⟨climb.bounded, bounded⟩
  · rw [last, ← List.cons_append]
    intro told inside
    rcases List.mem_append.1 inside with earlier | same
    · exact Nat.le_of_lt (above told earlier)
    · exact Nat.le_of_eq (List.mem_singleton.1 same)

theorem climb_advance {percents : List Nat} {progress : Progress} (climb : Climb percents progress)
    (step : UInt8) :
    match (progress.advance step).1 with
    | none => Climb percents (progress.advance step).2
    | some percent => percent.toNat ≤ 100 ∧
        Climb (percents ++ [percent.toNat]) (progress.advance step).2 := by
  have bounded : (progress.rounded step).toNat ≤ 100 :=
    Nat.le_trans (progress.rounded_le step) progress.percent_le
  by_cases unknown : progress.total = 0
  · simpa only [Progress.advance, if_pos unknown] using climb
  · by_cases higher : progress.lastPercent < progress.rounded step
    · simp only [Progress.advance, if_neg unknown, if_pos higher]
      exact ⟨bounded, climb_higher climb higher bounded rfl⟩
    · simpa only [Progress.advance, if_neg unknown, if_neg higher] using climb

end Climbing

section Fetching

variable {uuid : String} {notices : List Notice} {scene : Scene}

def Scene.Climbs (uuid : String) (notices : List Notice) (progress : Progress) (scene : Scene) :
    Prop :=
  ∃ percents, Climb percents progress ∧
    scene.Tells uuid (notices ++ percents.map .downloading)

theorem stable_climbs (progress : Progress) :
    surroundings.Stable (Climbs uuid notices progress) := by
  rintro before after moves ⟨percents, climb, told⟩
  exact ⟨percents, climb, tells_withstands.stable before after moves told⟩

theorem climbs_withstands (progress : Progress) :
    Withstands surroundings (fun _ _ => True) Agent.Call.Mute (Climbs uuid notices progress) where
  stable := stable_climbs progress
  kept := by
    rintro call mute before reply after answers ⟨percents, climb, told⟩
    exact ⟨percents, climb, tells_withstands.kept call mute before reply after answers told⟩
  guarded _ _ _ _ := trivial

abbrev percentage (uuid : String) (percent : UInt8) : Agent Unit :=
  Announcement.publish uuid .downloading (Int32.ofNat percent.toNat) none ""

/-- What is left to tell after a chunk. -/
theorem handle_climbs (step : UInt8) (chunk : Chunk) {progress : Progress}
    (climbs : scene.Climbs uuid notices progress) :
    scene.Ends
      (fun handled later => match handled.1 with
        | .error _ | .ok none => later.Climbs uuid notices handled.2
        | .ok (some percent) => percent.toNat ≤ 100 ∧
            ∃ percents, Climb (percents ++ [percent.toNat]) handled.2 ∧
              later.Tells uuid (notices ++ percents.map .downloading))
      (Staging.handle step progress chunk) := by
  simp only [Staging.handle, Agent.slot, Agent.shared, Agent.device, Agent.log, bind_eq, ask_bind,
    done_bind, pure_eq_done]
  refine (climbs_withstands _).ensures_ask (.shared (.slot .isRunning)) trivial climbs ?_
  intro running later climbs
  cases running with
  | false => exact ensures_done (stable_climbs _) climbs fun _ climbs => climbs
  | true =>
      refine (climbs_withstands _).ensures_ask (.device (.write ..)) trivial climbs ?_
      rintro written later ⟨percents, climb, told⟩
      cases written with
      | error error =>
          refine (climbs_withstands _).ensures_ask (.device (.log _)) trivial
            ⟨percents, climb, told⟩ ?_
          intro _ later climbs
          exact ensures_done (stable_climbs _) climbs fun _ climbs => climbs
      | ok written =>
          have climb : Climb percents { progress with written := written, total := chunk.total } :=
            ⟨climb.rising, climb.bounded, climb.below⟩
          have advanced := climb_advance climb step
          dsimp only
          split
          · rename_i none
            rw [none] at advanced
            exact ensures_done tells_withstands.stable told fun _ told => ⟨percents, advanced, told⟩
          · rename_i percent some
            rw [some] at advanced
            refine tells_withstands.ensures_ask (.device (.log _)) trivial told ?_
            intro _ later told
            exact ensures_done tells_withstands.stable told fun _ told =>
              ⟨advanced.1, percents, advanced.2, told⟩

theorem follow_climbs (step : UInt8) (download : Download) {progress : Progress}
    (climbs : scene.Climbs uuid notices progress) :
    scene.Ends (fun followed later => later.Climbs uuid notices followed.2)
      (Staging.follow step (percentage uuid) download progress) := by
  induction download generalizing progress scene with
  | done result => exact ensures_done (stable_climbs _) climbs fun _ climbs => climbs
  | ask call next ih =>
      cases call with
      | source call =>
          refine (climbs_withstands _).ensures_ask (.device (.source call)) trivial climbs ?_
          exact fun reply later climbs => ih reply climbs
      | deliver chunk =>
          rw [Staging.follow]
          refine ensures_bind (handle_climbs step chunk climbs) ?_
          rintro ⟨answer, progress⟩ later climbs
          cases answer with
          | error error => exact ih _ climbs
          | ok told =>
              cases told with
              | none => exact ih _ climbs
              | some percent =>
                  obtain ⟨bounded, percents, climb, told⟩ := climbs
                  refine ensures_bind
                    (publish_tells (Notice.conveyed_downloading uuid bounded) told) ?_
                  intro _ later told
                  refine ih _ ⟨_, climb, ?_⟩
                  simpa using told

theorem finish_mute (progress : Progress) :
    (Staging.finish progress).Always Agent.Call.Mute fun _ => True := by
  rw [Staging.finish]
  split
  · exact ⟨trivial, fun _ => trivial⟩
  · trivial

theorem climbs_of_mute {program : Agent (Except UpdateError Unit × Progress)}
    {progress : Progress}
    (mute : program.Always Agent.Call.Mute fun staged => staged.2 = progress)
    (climbs : scene.Climbs uuid notices progress) :
    scene.Ends (fun staged later => later.Climbs uuid notices staged.2) program := by
  refine ensures_mono ((climbs_withstands progress).ensures mute (fun _ mute => mute) climbs) ?_
  rintro ⟨result, _⟩ later ⟨rfl, climbs⟩
  exact climbs

theorem staging_climbs (step : UInt8) (url : String) (headers : List (String × String))
    (timeout : UInt64) (told : scene.Tells uuid notices) :
    scene.Ends (fun staged later => later.Climbs uuid notices staged.2)
      (Staging.run step url headers timeout (percentage uuid) .zero) := by
  simp only [Staging.run, Agent.slot, Agent.shared, Agent.device, Agent.log, bind_eq, ask_bind,
    done_bind, pure_eq_done]
  have climbs : scene.Climbs uuid notices .zero := ⟨[], climb_zero, by simpa using told⟩
  refine (climbs_withstands _).ensures_ask (.device (.download ..)) trivial climbs ?_
  intro download later climbs
  refine ensures_bind (follow_climbs step download climbs) ?_
  rintro ⟨result, progress⟩ later climbs
  refine climbs_of_mute ⟨trivial, fun running => ?_⟩ climbs
  cases running with
  | false => exact ⟨trivial, fun _ => rfl⟩
  | true =>
      cases result with
      | error error => exact rfl
      | ok value => exact always_bind (finish_mute progress) fun _ _ => rfl

theorem attempt_climbs (policy : Policy) (request : Request)
    (told : scene.Tells request.uuid notices) :
    scene.Ends (fun _ later => ∃ progress, later.Climbs request.uuid notices progress)
      (Installation.attempt policy request) := by
  simp only [Installation.attempt, Agent.device, Agent.log, bind_eq, ask_bind, done_bind,
    pure_eq_done]
  have refused (error : UpdateError) (record : Log.Record) {later : Scene}
      (told : later.Tells request.uuid notices) :
      later.Ends (fun _ later => ∃ progress, later.Climbs request.uuid notices progress)
        (.ask (.device (.log record)) fun _ => .done (.error error) :
          Agent (Except UpdateError Unit)) := by
    refine tells_withstands.ensures_ask (.device (.log record)) trivial told ?_
    intro _ later told
    exact ensures_done tells_withstands.stable told fun _ told =>
      ⟨.zero, [], climb_zero, by simpa using told⟩
  refine tells_withstands.ensures_ask (.device (.erase _)) trivial told ?_
  intro erased later told
  cases erased with
  | error error => exact refused .eraseSecondSlot _ told
  | ok value =>
      refine tells_withstands.ensures_ask (.device (.openWriter _)) trivial told ?_
      intro opened later told
      cases opened with
      | error error => exact refused .initFlash _ told
      | ok value =>
          refine ensures_bind (staging_climbs _ _ _ _ told) ?_
          rintro ⟨result, progress⟩ later climbs
          refine (climbs_withstands _).ensures_ask (.device .closeWriter) trivial climbs ?_
          exact fun _ _ climbs =>
            ensures_done (stable_climbs _) climbs fun _ climbs => ⟨progress, climbs⟩

end Fetching

end DualBank
