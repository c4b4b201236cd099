import DualBank.Proofs.Hearing
import DualBank.Proofs.Transcript
import DualBank.Proofs.Account

/-! How often a download is tried. The attempts that were made are those of a plain count over what
each of them comes to, and between two of them lies the rest that their number asks for. -/

namespace DualBank

open Program

def Installation.isFinal : Except UpdateError Unit → Bool
  | .ok () => true
  | .error error => !error.isRetryable

def Installation.attemptsMade (limit : Nat) (results : Nat → Except UpdateError Unit) : Nat :=
  min limit ((List.range limit).findIdx (fun number => isFinal (results number)) + 1)

def Installation.lastResult (last : UpdateError) (made : Nat)
    (results : Nat → Except UpdateError Unit) : Except UpdateError Unit :=
  match made with
  | 0 => .error last
  | made + 1 => results made

def Installation.MayCome (policy : Policy) (request : Request)
    (result : Except UpdateError Unit) : Prop :=
  ∃ deeds, (attempt policy request).Does deeds result ∧ .look false ∉ deeds

open Installation (attemptsMade isFinal lastResult MayCome)

def Happening.Tells (uuid : String) (phase : Phase) (error : Option UpdateError)
    (happening : Happening) : Prop :=
  ∃ time reply, happening =
    .exchange (.device (.publish (.compose uuid phase 0 error "" time))) reply

/-- One attempt at a download: what is told before it, what it does and comes to, and what its
failure is followed by. -/
structure Bout where
  opening : Happening
  attempt : List Happening
  result : Except UpdateError Unit
  aftermath : List Happening

namespace Bout

def deeds (bout : Bout) : List Happening :=
  .look true :: bout.opening :: (bout.attempt ++ bout.aftermath)

def Rests (policy : Policy) (uuid : String) (number : Nat) (error : UpdateError)
    (aftermath : List Happening) : Prop :=
  ∃ told, Happening.Tells uuid .error (some error) told ∧
    aftermath = [.exchange
      (.device (.sleep (min (UInt64.size - 1) (number * policy.backoff.toNat)))) (), told]

def Follows (policy : Policy) (uuid : String) (number : Nat) (aftermath : List Happening) :
    Except UpdateError Unit → Prop
  | .ok () => aftermath = []
  | .error error =>
      if error.isRetryable then Rests policy uuid number error aftermath else aftermath = []

structure Fits (policy : Policy) (request : Request) (number : Nat) (bout : Bout) : Prop where
  opens : bout.opening.Tells request.uuid .downloading none
  attempts : (Installation.attempt policy request).Does bout.attempt bout.result
  erases : ∃ erased rest, bout.attempt = .exchange (.device (.erase .secondary)) erased :: rest ∧
    ∀ bank reply, .exchange (.device (.erase bank)) reply ∉ rest
  follows : Follows policy request.uuid number bout.aftermath bout.result

end Bout

/-- Attempts with numbers from this one on, at most so many of them, and what they end with. -/
structure Retried (policy : Policy) (request : Request) (limit number : Nat) (last : UpdateError)
    (bouts : List Bout) (deeds : List Happening) (result : Except UpdateError Unit) : Prop where
  deeds : ∃ closing, (closing = [] ∨ closing = [.look true]) ∧
    deeds = bouts.flatMap Bout.deeds ++ closing
  fits : ∀ index (inside : index < bouts.length), bouts[index].Fits policy request (number + index)
  count : ∀ results : Nat → Except UpdateError Unit,
    (∀ index (inside : index < bouts.length), results index = bouts[index].result) →
      bouts.length = attemptsMade limit results ∧
        result = lastResult last bouts.length results

section Counting

variable (results : Nat → Except UpdateError Unit)

theorem attemptsMade_final (limit : Nat) (final : isFinal (results 0) = true) :
    attemptsMade (limit + 1) results = 1 := by
  rw [attemptsMade, List.range_succ_eq_map, List.findIdx_cons, final]
  simp

theorem attemptsMade_again (limit : Nat) (again : isFinal (results 0) = false) :
    attemptsMade (limit + 1) results =
      attemptsMade limit (fun number => results (number + 1)) + 1 := by
  rw [attemptsMade, List.range_succ_eq_map, List.findIdx_cons, again, List.findIdx_map,
    attemptsMade, Nat.add_min_add_right]
  rfl

/-- After a failure it is this failure, not the one before, that counts if nothing follows. -/
theorem lastResult_again {error : UpdateError} (failed : results 0 = .error error)
    (last : UpdateError) (made : Nat) :
    lastResult last (made + 1) results =
      lastResult error made (fun number => results (number + 1)) := by
  cases made with
  | zero => exact failed
  | succ made => rfl

end Counting

theorem Policy.backoffAfter_ofNat (policy : Policy) {number : Nat} (small : number < 256) :
    (policy.backoffAfter (UInt8.ofNat number)).toNat =
      min (UInt64.size - 1) (number * policy.backoff.toNat) := by
  rw [backoffAfter, UInt8.toNat_ofNat_of_lt' small, Nat.min_comm, Nat.mul_comm]
  refine UInt64.toNat_ofNat_of_lt' ?_
  rw [UInt64.size]
  omega

theorem attempt_erases (policy : Policy) (request : Request) {deeds : List Happening}
    {result : Except UpdateError Unit}
    (does : (Installation.attempt policy request).Does deeds result) :
    ∃ erased rest, deeds = .exchange (.device (.erase .secondary)) erased :: rest ∧
      ∀ bank reply, .exchange (.device (.erase bank)) reply ∉ rest := by
  have quiet (percent : UInt8) :
      (Announcement.publish request.uuid .downloading (Int32.ofNat percent.toNat) none "").Always
        (fun call : Agent.Call => ∀ bank, call ≠ .device (.erase bank)) fun _ => True :=
    always_mono (publish_always (.head []) ..)
      (fun call announces bank same => by subst same; exact announces) fun _ _ => trivial
  obtain ⟨next, same, onward⟩ := attempt_begins
    (fun call stages bank same => by subst same; exact stages) (fun _ _ _ => nofun) policy request
    nofun nofun quiet
  rw [same] at does
  obtain ⟨erased, rest, rfl, does⟩ := does
  refine ⟨erased, rest, rfl, fun bank reply inside => ?_⟩
  obtain ⟨call, answer, same, other⟩ := (does_always (onward erased) does).2 _ inside
  cases same
  exact other bank rfl

section Trying

variable {policy : Policy} {request : Request} {remaining number : Nat} {last : UpdateError}
  {deeds : List Happening} {result : Except UpdateError Unit} {bout : Bout}

theorem retried_exhausted :
    Retried policy request 0 number last [] [.look true] (.error last) where
  deeds := ⟨[.look true], .inr rfl, rfl⟩
  fits _ inside := absurd inside (Nat.not_lt_zero _)
  count _ _ := ⟨rfl, rfl⟩

theorem retried_final (fits : bout.Fits policy request number)
    (final : isFinal bout.result = true) :
    Retried policy request (remaining + 1) number last [bout] bout.deeds bout.result where
  deeds := ⟨[], .inl rfl, by simp⟩
  fits index inside := by
    obtain rfl : index = 0 := by simpa using inside
    exact fits
  count results agree := by
    have first : results 0 = bout.result := agree 0 (Nat.succ_pos _)
    refine ⟨?_, first.symm⟩
    rw [attemptsMade_final results remaining (first ▸ final)]
    rfl

theorem retried_again {error : UpdateError} {bouts : List Bout} {whole : List Happening}
    (longer : whole = bout.deeds ++ deeds) (fits : bout.Fits policy request number)
    (failed : bout.result = .error error) (retryable : error.isRetryable = true)
    (onward : Retried policy request remaining (number + 1) error bouts deeds result) :
    Retried policy request (remaining + 1) number last (bout :: bouts) whole result where
  deeds := by
    obtain ⟨closing, closes, rfl⟩ := onward.deeds
    exact ⟨closing, closes, by simp [longer]⟩
  fits index inside := by
    cases index with
    | zero => exact fits
    | succ index =>
        have later := onward.fits index (Nat.lt_of_succ_lt_succ inside)
        rw [Nat.add_right_comm] at later
        exact later
  count results agree := by
    have first : results 0 = .error error := (agree 0 (Nat.succ_pos _)).trans failed
    have again : isFinal (results 0) = false := by simp [first, isFinal, retryable]
    obtain ⟨made, ended⟩ := onward.count (fun number => results (number + 1))
      fun index inside => agree (index + 1) (Nat.succ_lt_succ inside)
    refine ⟨?_, ?_⟩
    · rw [attemptsMade_again results remaining again, ← made]
      rfl
    · rw [ended, List.length_cons, lastResult_again results first]

theorem fits_of_does (time : Int64) (reply : Except Failure Unit)
    {attempt aftermath : List Happening} {came : Except UpdateError Unit}
    (attempts : (Installation.attempt policy request).Does attempt came)
    (follows : Bout.Follows policy request.uuid number aftermath came) :
    Bout.Fits policy request number ⟨.exchange (.device (.publish
      (.compose request.uuid .downloading 0 none "" time))) reply, attempt, came, aftermath⟩ :=
  ⟨⟨time, reply, rfl⟩, attempts, attempt_erases policy request attempts, follows⟩

theorem rests_of_does {α : Type} {error : UpdateError} {record : Log.Record} {onward : Agent α}
    {value : α} (small : number < 256)
    (does : (ask (.device (.sleep (policy.backoffAfter (UInt8.ofNat number)).toNat)) fun _ =>
      (Announcement.error request.uuid .error error).bind fun _ =>
        .ask (.device (.log record)) fun _ => onward : Agent α).Does deeds value) :
    ∃ aftermath rest, deeds = aftermath ++ rest ∧
      Bout.Rests policy request.uuid number error aftermath ∧ onward.Does rest value := by
  obtain ⟨_, _, rfl, goes⟩ := does
  obtain ⟨time, reply, rest, rfl, logs⟩ := does_announced goes
  refine ⟨[_, _], rest, rfl, ⟨_, ⟨time, reply, rfl⟩, ?_⟩, does_log.1 logs⟩
  rw [policy.backoffAfter_ofNat small]

/-- By induction on the attempts that are left; what the attempts before failed with counts only if
there are none. -/
theorem attempts_retried (small : number + remaining ≤ 256)
    (does : (Installation.attempts policy request remaining number last).Does deeds result)
    (running : .look false ∉ deeds) :
    ∃ bouts, Retried policy request remaining number last bouts deeds result := by
  induction remaining generalizing number last deeds with
  | zero =>
      obtain ⟨looked, _, rfl, ends⟩ := does
      cases looked with
      | false => exact absurd (List.mem_cons_self ..) running
      | true =>
          obtain ⟨rfl, rfl⟩ := ends
          exact ⟨[], retried_exhausted⟩
  | succ remaining ih =>
      simp only [Installation.attempts, Agent.slot, Agent.shared, Agent.device, Agent.log, bind_eq,
        ask_bind, done_bind, pure_eq_done] at does
      obtain ⟨looked, _, rfl, goes⟩ := does
      cases looked with
      | false => exact absurd (List.mem_cons_self ..) running
      | true =>
          obtain ⟨time, reply, _, rfl, tries⟩ := does_announced goes
          obtain ⟨attempt, tried, rest, rfl, attempts, ends⟩ := does_bind.1 tries
          cases tried with
          | ok value =>
              obtain ⟨rfl, rfl⟩ := ends
              exact ⟨_, retried_final (fits_of_does time reply attempts rfl) rfl⟩
          | error error =>
              cases retryable : error.isRetryable with
              | false =>
                  simp only [retryable, Bool.false_eq_true, if_false] at ends
                  obtain ⟨rfl, rfl⟩ := ends
                  refine ⟨_, retried_final (fits_of_does time reply attempts ?_) ?_⟩
                  · simp [Bout.Follows, retryable]
                  · simp [isFinal, retryable]
              | true =>
                  simp only [retryable, if_true] at ends
                  obtain ⟨aftermath, onward, rfl, rests, again⟩ := rests_of_does (by omega) ends
                  have running : .look false ∉ onward := fun inside => running (by simp [inside])
                  obtain ⟨bouts, retried⟩ := ih (by omega) again running
                  have follows :
                      Bout.Follows policy request.uuid number aftermath (.error error) := by
                    rwa [Bout.Follows, if_pos retryable]
                  have fits := fits_of_does time reply attempts follows
                  refine ⟨_, retried_again ?_ fits rfl retryable retried⟩
                  rw [Bout.deeds, List.cons_append, List.cons_append, List.append_assoc]
                  rfl

theorem saveId_does {id : RequestId} {saving : Except SettingsError Unit}
    (does : (Record.saveId id).Does deeds saving) :
    ∃ reply, deeds = [.exchange (.device (.save Record.space Record.idKey id.encode)) reply] ∧
      saving = reply.mapError fun _ => .save := by
  obtain ⟨reply, _, rfl, stores⟩ := does
  obtain ⟨rfl, rfl⟩ := orFail_does.1 stores
  exact ⟨reply, rfl, rfl⟩

theorem does_saveId (id : RequestId) :
    (Record.saveId id).Does
      [.exchange (.device (.save Record.space Record.idKey id.encode)) (.ok ())] (.ok ()) :=
  ⟨.ok (), [], rfl, rfl, rfl⟩

end Trying

section Coming

variable {policy : Policy} {request : Request} {came result : Except UpdateError Unit}

theorem bout_does {next : Except UpdateError Unit → Agent (Except UpdateError Unit)}
    {attempt : List Happening} (rest : List Happening)
    (attempts : (Installation.attempt policy request).Does attempt came)
    (ends : (next came).Does rest result) :
    (ask (.shared (.slot .isRunning)) fun running => if running = true then
        (Announcement.phase request.uuid .downloading).bind fun _ =>
          (Installation.attempt policy request).bind next
      else .done (.error .canceled) : Agent (Except UpdateError Unit)).Does
      (.look true :: .exchange (.device (.publish
        (.compose request.uuid .downloading 0 none "" 0))) (.ok ()) :: (attempt ++ rest))
      result := by
  have tries : ((Installation.attempt policy request).bind next).Does (attempt ++ rest) result :=
    does_bind.2 ⟨attempt, came, rest, rfl, attempts, ends⟩
  exact ⟨true, _, rfl, does_announcing request.uuid .downloading 0 none "" tries⟩

theorem exists_rests {α : Type} (policy : Policy) (request : Request) {number : Nat}
    (error : UpdateError) {onward : Agent α} {deeds : List Happening} {value : α}
    (small : number < 256) (does : onward.Does deeds value) :
    ∃ aftermath, Bout.Rests policy request.uuid number error aftermath ∧
      .look false ∉ aftermath ∧ ∀ record,
      (ask (.device (.sleep (policy.backoffAfter (UInt8.ofNat number)).toNat)) fun _ =>
        (Announcement.error request.uuid .error error).bind fun _ =>
          .ask (.device (.log record)) fun _ => onward : Agent α).Does (aftermath ++ deeds)
        value := by
  have tells : Happening.Tells request.uuid .error (some error) (.exchange (.device (.publish
      (.compose request.uuid .error 0 (some error) "" 0))) (.ok ())) := ⟨0, .ok (), rfl⟩
  refine ⟨_, ⟨_, tells, rfl⟩, by simp [Happening.look], ?_⟩
  intro record
  rw [← policy.backoffAfter_ofNat small]
  exact ⟨(), _, rfl, does_announcing _ _ _ _ _ (does_log.2 does)⟩

/-- Whatever attempts may come to, one after the other: there is a download in which they do. -/
theorem exists_attempts {results : Nat → Except UpdateError Unit} {remaining number : Nat}
    (last : UpdateError) (small : number + remaining ≤ 256)
    (possible : ∀ number, MayCome policy request (results number)) :
    ∃ deeds result bouts,
      (Installation.attempts policy request remaining number last).Does deeds result ∧
      .look false ∉ deeds ∧ Retried policy request remaining number last bouts deeds result ∧
      ∀ index (inside : index < bouts.length), bouts[index].result = results index := by
  induction remaining generalizing number last results with
  | zero =>
      exact ⟨[.look true], .error last, [], ⟨true, [], rfl, rfl, rfl⟩, by simp [Happening.look],
        retried_exhausted, fun _ inside => absurd inside (Nat.not_lt_zero _)⟩
  | succ remaining ih =>
      simp only [Installation.attempts, Agent.slot, Agent.shared, Agent.device, Agent.log, bind_eq,
        ask_bind, done_bind, pure_eq_done]
      obtain ⟨attempt, attempts, running⟩ := possible 0
      cases first : results 0 with
      | ok value =>
          rw [first] at attempts
          refine ⟨_, .ok (), [_], bout_does [] attempts ⟨rfl, rfl⟩, ?_,
            retried_final (fits_of_does 0 (.ok ()) attempts rfl) rfl, ?_⟩
          · simpa [Happening.look] using running
          · simp [first]
      | error error =>
          rw [first] at attempts
          cases retryable : error.isRetryable with
          | false =>
              have ends : Bout.Follows policy request.uuid number [] (.error error) := by
                simp [Bout.Follows, retryable]
              refine ⟨_, .error error, [_], bout_does [] attempts ?_, ?_,
                retried_final (fits_of_does 0 (.ok ()) attempts ends) ?_, ?_⟩
              · simp only [retryable, Bool.false_eq_true, if_false]
                exact ⟨rfl, rfl⟩
              · simpa [Happening.look] using running
              · simp [isFinal, retryable]
              · simp [first]
          | true =>
              -- The rest of the results are those of the attempts after this one.
              have fewer : number + 1 + remaining ≤ 256 := by omega
              obtain ⟨deeds, result, bouts, does, onward, retried, come⟩ :=
                ih error fewer fun index => possible (index + 1)
              have small : number < 256 := by omega
              obtain ⟨aftermath, rests, calm, goes⟩ := exists_rests policy request error small does
              have follows : Bout.Follows policy request.uuid number aftermath (.error error) := by
                rwa [Bout.Follows, if_pos retryable]
              have fits := fits_of_does 0 (.ok ()) attempts follows
              refine ⟨_, result, _ :: bouts, bout_does (aftermath ++ deeds) attempts ?_, ?_,
                retried_again ?_ fits rfl retryable retried, ?_⟩
              · simp only [retryable, if_true]
                exact goes _
              · simpa [Happening.look] using ⟨running, calm, onward⟩
              · rw [Bout.deeds, List.cons_append, List.cons_append, List.append_assoc]
              · intro index inside
                cases index with
                | zero => exact first.symm
                | succ index => exact come index (Nat.lt_of_succ_lt_succ inside)

end Coming

def Downloaded (policy : Policy) (request : Request) (bouts : List Bout) (deeds : List Happening)
    (result : Except UpdateError Unit) : Prop :=
  ∃ id attempts, RequestId.ofText? request.uuid = some id ∧
    deeds = .exchange (.device (.save Record.space Record.idKey id.encode)) (.ok ()) :: attempts ∧
    Retried policy request policy.maxAttempts.toNat 0 .internal bouts attempts result

section Fetching

variable {policy : Policy} {request : Request} {deeds : List Happening}
  {result : Except UpdateError Unit} {id : RequestId}

theorem exists_downloaded (known : RequestId.ofText? request.uuid = some id)
    {results : Nat → Except UpdateError Unit}
    (possible : ∀ number, MayCome policy request (results number)) :
    ∃ deeds result bouts, (Installation.fetch policy request).Does deeds result ∧
      Downloaded policy request bouts deeds result ∧ .look false ∉ deeds ∧
      ∀ index (inside : index < bouts.length), bouts[index].result = results index := by
  have small : 0 + policy.maxAttempts.toNat ≤ 256 := by
    have := policy.maxAttempts.toNat_lt
    omega
  obtain ⟨attempts, result, bouts, does, running, retried, come⟩ :=
    exists_attempts .internal small possible
  refine ⟨_, result, bouts, ?_, ⟨id, attempts, known, rfl, retried⟩, ?_, come⟩
  · rw [Installation.fetch, known]
    exact does_bind.2 ⟨_, .ok (), attempts, rfl, does_saveId id, does⟩
  · simpa [Happening.look] using running

theorem downloaded_of_does (does : (Installation.fetch policy request).Does deeds result)
    (stored : ∃ id, .exchange (.device (.save Record.space Record.idKey id)) (.ok ()) ∈ deeds)
    (uncanceled : .look false ∉ deeds) : ∃ bouts, Downloaded policy request bouts deeds result := by
  rw [Installation.fetch] at does
  obtain ⟨key, inside⟩ := stored
  cases known : RequestId.ofText? request.uuid with
  | none =>
      rw [known] at does
      obtain ⟨rfl, _⟩ := does
      cases inside
  | some id =>
      simp only [known, bind_eq] at does
      obtain ⟨_, saving, attempts, rfl, saves, goes⟩ := does_bind.1 does
      obtain ⟨reply, rfl, rfl⟩ := saveId_does saves
      cases reply with
      | error failure =>
          obtain ⟨rfl, _⟩ := does_log.1 goes
          cases List.mem_singleton.1 inside
      | ok value =>
          have running : .look false ∉ attempts := fun inside => uncanceled (by simp [inside])
          obtain ⟨bouts, retried⟩ := attempts_retried
            (by have := policy.maxAttempts.toNat_lt; omega) goes running
          exact ⟨bouts, id, attempts, known, rfl, retried⟩

end Fetching

/-- The retry policy of a download whose id was stored and that nobody canceled: as many attempts as
a plain count over their results says, each of them with a bank erased once and before all else; a
growing rest and word of the failure after each that is worth another, the last one too; and the
result of the last attempt for the whole. Any results that attempts may come to can be those. -/
theorem fetch_retries (policy : Policy) (request : Request) {deeds : List Happening}
    {result : Except UpdateError Unit}
    (does : (Installation.fetch policy request).Does deeds result)
    (stored : ∃ id, .exchange (.device (.save Record.space Record.idKey id)) (.ok ()) ∈ deeds)
    (uncanceled : .look false ∉ deeds) :
    (∃ bouts, Downloaded policy request bouts deeds result) ∧
    (∀ results : Nat → Except UpdateError Unit,
      (∀ number, MayCome policy request (results number)) →
      ∃ others ended bouts, (Installation.fetch policy request).Does others ended ∧
        Downloaded policy request bouts others ended ∧ .look false ∉ others ∧
        ∀ index (inside : index < bouts.length), bouts[index].result = results index) ∧
    ∀ error : UpdateError, error.isRetryable = true ↔
      error = .writeFlash ∨ error = .network ∨ error = .httpRequest := by
  have downloaded := downloaded_of_does does stored uncanceled
  refine ⟨downloaded, fun results possible => ?_,
    fun error => by cases error <;> simp [UpdateError.isRetryable]⟩
  obtain ⟨_, id, _, known, _⟩ := downloaded
  exact exists_downloaded known possible

namespace Happening

def savesId : Happening → Bool
  | .exchange (.device (.save space key _)) (.ok ()) => space = Record.space && key = Record.idKey
  | _ => false

def findsStop : Happening → Bool
  | .exchange (.shared (.slot .isRunning)) running => !running
  | _ => false

theorem eq_of_savesId {happening : Happening} (saves : happening.savesId = true) :
    ∃ id, happening = .exchange (.device (.save Record.space Record.idKey id)) (.ok ()) := by
  unfold savesId at saves
  split at saves
  · simp only [Bool.and_eq_true, decide_eq_true_eq] at saves
    obtain ⟨rfl, rfl⟩ := saves
    exact ⟨_, rfl⟩
  · contradiction

end Happening

theorem fetch_retries_resumed :
    ∃ deeds result, (Installation.fetch .standard .sample).Does deeds result ∧
      (∃ id, .exchange (.device (.save Record.space Record.idKey id)) (.ok ()) ∈ deeds) ∧
      .look false ∉ deeds ∧
      (∃ bouts, Downloaded .standard .sample bouts deeds result) ∧
      (∀ results : Nat → Except UpdateError Unit,
        (∀ number, MayCome .standard .sample (results number)) →
        ∃ others ended bouts, (Installation.fetch .standard .sample).Does others ended ∧
          Downloaded .standard .sample bouts others ended ∧ .look false ∉ others ∧
          ∀ index (inside : index < bouts.length), bouts[index].result = results index) ∧
      ∀ error : UpdateError, error.isRetryable = true ↔
        error = .writeFlash ∨ error = .network ∨ error = .httpRequest := by
  let last := ((Installation.fetch .standard .sample).run (Trial.answerUntil fun _ => false)
    Trial.resumed).2.scene
  have saves : last.deeds.any Happening.savesId = true := by decide +kernel
  have goes : last.deeds.any Happening.findsStop = false := by decide +kernel
  obtain ⟨deeds, same, does, _⟩ := Scene.does_of_leads
    (Trial.leads_answered (fun _ => false) (Installation.fetch .standard .sample) Trial.resumed)
  obtain rfl : last.deeds = deeds := same
  have stored : ∃ id, .exchange (.device (.save Record.space Record.idKey id)) (.ok ()) ∈
      last.deeds := by
    obtain ⟨happening, inside, saves⟩ := List.any_eq_true.1 saves
    obtain ⟨id, rfl⟩ := Happening.eq_of_savesId saves
    exact ⟨id, inside⟩
  have uncanceled : .look false ∉ last.deeds := fun inside =>
    absurd rfl (List.any_eq_false.1 goes _ inside)
  exact ⟨_, _, does, stored, uncanceled, fetch_retries .standard .sample does stored uncanceled⟩

end DualBank
