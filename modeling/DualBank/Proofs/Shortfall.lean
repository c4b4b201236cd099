import DualBank.Proofs.Following
import DualBank.Proofs.Integrity
import DualBank.Proofs.Notices

/-! What it means that a staging succeeded, where writes may fail and downloads do as they like. A
write that failed is told to the download and then forgotten, so it is for the download to end. -/

namespace DualBank

open Program Surroundings

namespace Download

inductive Dealing where
  | source (exchange : Source.Exchange)
  | deliver (chunk : Chunk) (verdict : Verdict)

namespace Dealing

def of : (call : Download.Call) → Download.Reply call → Dealing
  | .source call, reply => .source ⟨call, reply⟩
  | .deliver chunk, verdict => .deliver chunk verdict

def chunk? : Dealing → Option Chunk
  | .deliver chunk _ => some chunk
  | .source _ => none

end Dealing

abbrev dealing : Surroundings Download.interface where
  State := List Dealing
  Moves _ _ := False
  Answers call before reply after := after = before ++ [.of call reply]

theorem dealing_still : dealing.Still :=
  fun _ _ impossible => impossible

/-- A download that stops when a chunk is refused does not succeed then. -/
theorem obeys_ensures {download : Download} (obeys : download.Obeys) {dealings : List Dealing}
    (accepted : ∀ chunk verdict, .deliver chunk verdict ∈ dealings → verdict.result = .ok ()) :
    dealing.Ensures (fun _ _ => True)
      (fun result later => result = .ok () →
        ∀ chunk verdict, .deliver chunk verdict ∈ later → verdict.result = .ok ())
      download dealings := by
  induction download generalizing dealings with
  | done result => exact dealing_still.ensures_done fun _ => accepted
  | ask call next ih =>
      refine dealing_still.ensures_ask trivial ?_
      rintro reply _ rfl
      cases call with
      | source call => exact ih reply (obeys reply) (by simpa [Dealing.of] using accepted)
      | deliver chunk =>
          obtain ⟨result, aborted⟩ := reply
          cases result with
          | error error =>
              -- It has ended, and not well.
              rw [obeys.1 error aborted]
              exact dealing_still.ensures_done nofun
          | ok value =>
              refine ih _ (obeys.2 aborted) ?_
              simp only [Dealing.of, List.mem_append, List.mem_singleton]
              rintro other verdict (among | same)
              · exact accepted other verdict among
              · cases same
                rfl

end Download

open Download (Dealing)

inductive Seen where
  | source (exchange : Source.Exchange)
  | write (data : Bytes) (last taken : Bool)

def Happening.seen? : Happening → Option Seen
  | .exchange (.device (.source call)) reply => some (.source ⟨call, reply⟩)
  | .exchange (.device (.write data last)) reply => some (.write data last reply.isOk)
  | _ => none

def Happening.isFailedWrite : Happening → Bool
  | .exchange (.device (.write ..)) (.error _) => true
  | _ => false

-- A chunk that came after the end was asked for was not written.
def Download.Dealing.seen? : Dealing → Option Seen
  | .source exchange => some (.source exchange)
  | .deliver chunk verdict =>
      match verdict.result with
      | .ok () => some (.write chunk.data chunk.last true)
      | .error .canceled => none
      | .error _ => some (.write chunk.data chunk.last false)

structure Filing where
  staged : Staged
  slot : Slot
  history : List Happening

namespace Filing

def Answers : (call : Agent.Call) → Filing → Agent.Reply call → Filing → Prop
  | .device (.download url headers timeout), before, transfer, after => after = { before with
      history := before.history ++
        [.exchange (.device (.download url headers timeout)) transfer] }
  | .device call, before, reply, after => ∃ staged, call.Changes before.staged reply staged ∧
      after = ⟨staged, before.slot, before.history ++ [.exchange (.device call) reply]⟩
  | .shared (.slot operation), before, reply, after => reply = (before.slot.apply operation).1 ∧
      after = ⟨before.staged, (before.slot.apply operation).2,
        before.history ++ [.exchange (.shared (.slot operation)) reply]⟩
  | call, before, reply, after =>
      after = { before with history := before.history ++ [.exchange call reply] }

theorem history_of_answers {call : Agent.Call} {before after : Filing}
    {reply : Agent.Reply call} (answers : Answers call before reply after) :
    after.history = before.history ++ [.exchange call reply] := by
  unfold Answers at answers
  split at answers
  · cases answers
    rfl
  · obtain ⟨_, _, rfl⟩ := answers
    rfl
  · obtain ⟨_, rfl⟩ := answers
    rfl
  · cases answers
    rfl

def cancel (filing : Filing) : Filing :=
  ⟨filing.staged, (filing.slot.apply .cancel).2,
    filing.history ++ [.cancel (filing.slot.apply .cancel).1]⟩

abbrev surroundings : Surroundings Agent.interface where
  State := Filing
  Moves before after := after = before.cancel
  Answers := Answers

def opening : Filing :=
  ⟨⟨[], 0⟩, .running, []⟩

def Lossy (filing : Filing) : Prop :=
  ∃ happening ∈ filing.history, happening.isFailedWrite = true

instance (filing : Filing) : Decidable filing.Lossy :=
  inferInstanceAs (Decidable (∃ happening ∈ filing.history, happening.isFailedWrite = true))

theorem lossy_iff (filing : Filing) : filing.Lossy ↔
    ∃ data last, .write data last false ∈ filing.history.filterMap Happening.seen? := by
  simp only [Lossy, List.mem_filterMap]
  constructor
  · rintro ⟨happening, among, failed⟩
    unfold Happening.isFailedWrite at failed
    split at failed
    · exact ⟨_, _, _, among, rfl⟩
    · contradiction
  · rintro ⟨data, last, happening, among, same⟩
    refine ⟨happening, among, ?_⟩
    unfold Happening.seen? at same
    split at same
    · simp at same
    · rename_i written
      cases written with
      | ok value => simp [Except.isOk, Except.toBool] at same
      | error error => rfl
    · simp at same

end Filing

namespace Filing

def Holds (progress : Progress) (staged : Staged) (chunks : List Chunk) : Prop :=
  staged.bank = chunks.flatMap Chunk.data ∧ staged.taken = staged.bank.length ∧
    progress.written.toNat = staged.bank.length ∧
      ∀ final, chunks.getLast? = some final → progress.total = final.total

structure Beside (begun : Happening) (progress : Progress) (filing : Filing)
    (dealings : List Dealing) : Prop where
  begun : begun ∈ filing.history
  seen : filing.history.filterMap Happening.seen? = dealings.filterMap Dealing.seen?
  judged : ∀ chunk verdict, .deliver chunk verdict ∈ dealings → verdict = .taken ∨
    verdict = ⟨.error .writeFlash, true⟩ ∨
      verdict = ⟨.error .canceled, true⟩ ∧ filing.slot ≠ .running
  holds : (∀ chunk verdict, .deliver chunk verdict ∈ dealings → verdict = .taken) →
    Holds progress filing.staged (dealings.filterMap Dealing.chunk?)

section Beside

variable {begun : Happening} {progress : Progress} {filing : Filing} {dealings : List Dealing}

/-- What changes neither bank nor transfer, and does not start anything anew. -/
theorem beside_quiet (beside : Beside begun progress filing dealings) {slot : Slot}
    {happening : Happening} (unseen : happening.seen? = none)
    (stopped : filing.slot ≠ .running → slot ≠ .running) :
    Beside begun progress ⟨filing.staged, slot, filing.history ++ [happening]⟩ dealings where
  begun := List.mem_append_left _ beside.begun
  seen := by simpa [unseen] using beside.seen
  judged chunk verdict among := (beside.judged chunk verdict among).imp_right
    (Or.imp_right (And.imp_right stopped))
  holds := beside.holds

theorem stable_beside (begun : Happening) (progress : Progress) (dealings : List Dealing) :
    surroundings.Stable (Beside begun progress · dealings) := by
  rintro before _ rfl beside
  exact beside_quiet beside rfl fun _ => Slot.apply_cancel_ne_running before.slot

theorem beside_withstands (begun : Happening) (progress : Progress) (dealings : List Dealing) :
    Withstands surroundings (fun _ _ => True) Agent.Call.Incidental
      (Beside begun progress · dealings) where
  stable := stable_beside begun progress dealings
  kept := by
    intro call incidental before reply after answers beside
    unfold Agent.Call.Incidental at incidental
    split at incidental
    · obtain ⟨_, rfl, rfl⟩ := answers
      exact beside_quiet beside rfl id
    · obtain ⟨_, rfl, rfl⟩ := answers
      exact beside_quiet beside rfl id
    · obtain ⟨_, rfl, rfl⟩ := answers
      exact beside_quiet beside rfl id
    · cases answers
      exact beside_quiet beside rfl id
    · contradiction
  guarded _ _ _ _ := trivial

/-- What a chunk was answered takes its place behind the dealings before it. -/
theorem beside_deliver (beside : Beside begun progress filing dealings) (chunk : Chunk)
    {verdict : Verdict} {later : Filing} {advanced : Progress}
    (kept : begun ∈ later.history)
    (seen : later.history.filterMap Happening.seen? =
      filing.history.filterMap Happening.seen? ++ [Dealing.deliver chunk verdict].filterMap
        Dealing.seen?)
    (slot : later.slot = filing.slot)
    (judged : verdict = .taken ∨ verdict = ⟨.error .writeFlash, true⟩ ∨
      verdict = ⟨.error .canceled, true⟩ ∧ filing.slot ≠ .running)
    (holds : verdict = .taken → Holds progress filing.staged (dealings.filterMap Dealing.chunk?) →
      Holds advanced later.staged (dealings.filterMap Dealing.chunk? ++ [chunk])) :
    Beside begun advanced later (dealings ++ [.deliver chunk verdict]) where
  begun := kept
  seen := by rw [seen, beside.seen, List.filterMap_append]
  judged other outcome among := by
    rw [slot]
    rcases List.mem_append.1 among with among | same
    · exact beside.judged other outcome among
    · cases List.mem_singleton.1 same
      exact judged
  holds taken := by
    rw [List.filterMap_append]
    refine holds (taken chunk verdict (by simp)) (beside.holds ?_)
    exact fun other outcome among => taken other outcome (List.mem_append_left _ among)

def Refused (begun : Happening) (progress : Progress) (chunk : Chunk) (dealings : List Dealing)
    (later : Filing) : Prop :=
  Beside begun progress later (dealings ++ [.deliver chunk ⟨.error .canceled, true⟩])

def Written (begun : Happening) (step : UInt8) (progress : Progress) (chunk : Chunk)
    (dealings : List Dealing) : Except FlashError UInt64 → Filing → Prop
  | .ok written, later => Beside begun
      (Progress.advance { progress with written := written, total := chunk.total } step).2 later
        (dealings ++ [.deliver chunk .taken])
  | .error _, later => Beside begun progress later
      (dealings ++ [.deliver chunk ⟨.error .writeFlash, true⟩])

theorem written_of_answers (step : UInt8) {chunk : Chunk} {later : Filing}
    {reply : Except FlashError UInt64} (beside : Beside begun progress filing dealings)
    (answers : surroundings.Answers (.device (.write chunk.data chunk.last)) filing reply later) :
    Written begun step progress chunk dealings reply later := by
  obtain ⟨staged, changes, rfl⟩ := answers
  cases reply with
  | error error =>
      exact beside_deliver beside chunk (List.mem_append_left _ beside.begun)
        List.filterMap_append rfl (.inr (.inl rfl))
        fun taken => absurd taken (Verdict.error_ne_taken _ _)
  | ok written =>
      refine beside_deliver beside chunk (List.mem_append_left _ beside.begun)
        List.filterMap_append rfl (.inl rfl) ?_
      rintro _ ⟨bank, taken, _, _⟩
      obtain ⟨rfl, counted⟩ := changes
      obtain ⟨sameWritten, sameTotal⟩ := Progress.advance_snd
        { progress with written := written, total := chunk.total } step
      have longer : filing.staged.taken + chunk.data.length =
          (filing.staged.bank ++ chunk.data).length := by rw [List.length_append, taken]
      refine ⟨by simp [bank], longer, ?_, ?_⟩
      · rw [sameWritten, counted]
        exact longer
      · intro final found
        rw [sameTotal]
        simp only [List.getLast?_append, List.getLast?_singleton, Option.some_or,
          Option.some.injEq] at found
        rw [← found]

theorem stable_written (begun : Happening) (step : UInt8) (progress : Progress) (chunk : Chunk)
    (dealings : List Dealing) (reply : Except FlashError UInt64) :
    surroundings.Stable (Written begun step progress chunk dealings reply) := by
  cases reply with
  | error error => exact stable_beside begun progress _
  | ok written => exact stable_beside begun _ _

theorem written_log (begun : Happening) (step : UInt8) (progress : Progress) (chunk : Chunk)
    (dealings : List Dealing) (record : Log.Record) (reply : Except FlashError UInt64)
    (later : Filing) (written : Written begun step progress chunk dealings reply later) :
    surroundings.Ensures (fun _ _ => True)
      (fun _ after => Written begun step progress chunk dealings reply after)
      (Agent.device (.log record)) later := by
  cases reply with
  | error error =>
      exact (beside_withstands _ _ _).ensures_call (.device (.log record)) trivial written
  | ok count =>
      exact (beside_withstands _ _ _).ensures_call (.device (.log record)) trivial written

theorem look_beside (beside : Beside begun progress filing dealings) (chunk : Chunk) :
    surroundings.Ensures (fun _ _ => True)
      (fun running later => if running then Beside begun progress later dealings
        else Refused begun progress chunk dealings later)
      (Agent.slot .isRunning) filing := by
  refine ensures_ask (stable_beside begun progress dealings) beside (fun _ _ => trivial) ?_
  rintro before running after beside answers
  cases running with
  | true =>
      obtain ⟨_, rfl⟩ := answers
      exact ensures_done (stable_beside begun progress dealings) (beside_quiet beside rfl id)
        fun _ beside => beside
  | false =>
      obtain ⟨found, rfl⟩ := answers
      refine ensures_done (stable_beside begun progress _) ?_ fun _ refused => refused
      have stopped : before.slot ≠ .running := by
        intro running
        simp [running, Slot.apply, Slot.isRunning] at found
      exact beside_deliver beside chunk (List.mem_append_left _ beside.begun)
        List.filterMap_append rfl (.inr (.inr ⟨rfl, stopped⟩))
        fun taken => absurd taken (Verdict.error_ne_taken _ _)

theorem write_beside (step : UInt8) (beside : Beside begun progress filing dealings)
    (chunk : Chunk) :
    surroundings.Ensures (fun _ _ => True) (Written begun step progress chunk dealings)
      (Agent.device (.write chunk.data chunk.last)) filing := by
  refine ensures_ask (stable_beside begun progress dealings) beside (fun _ _ => trivial) ?_
  rintro before reply after beside answers
  exact ensures_done (stable_written begun step progress chunk dealings reply)
    (written_of_answers step beside answers) fun _ written => written

theorem escorts (begun : Happening) (step : UInt8) (uuid : String) :
    Staging.Escorts surroundings Download.dealing (fun _ _ => True) (fun _ _ => True) step
      (percentage uuid) (Beside begun) where
  stable progress dealings := stable_beside begun progress dealings
  source := by
    rintro call progress before dealings beside _
    refine ⟨trivial, ?_⟩
    rintro reply _ ⟨_, rfl, rfl⟩
    refine ⟨_, rfl, List.mem_append_left _ beside.begun, ?_, ?_, ?_⟩
    · simpa [Happening.seen?, Dealing.of, Dealing.seen?] using beside.seen
    · simpa [Dealing.of] using beside.judged
    · simpa [Dealing.of, Dealing.chunk?, List.filterMap_cons] using beside.holds
  deliver := by
    intro chunk progress site dealings beside _
    refine ensures_mono (Staging.handle_parts (fun later => Beside begun progress later dealings)
      (Refused begun progress chunk dealings) (Written begun step progress chunk dealings)
      (look_beside beside chunk) (fun later beside => write_beside step beside chunk)
      (written_log begun step progress chunk dealings) (stable_beside begun progress _)
      (stable_written begun step progress chunk dealings)) ?_
    rintro _ later (⟨rfl, beside⟩ | ⟨error, rfl, beside⟩ | ⟨written, told, rfl, beside⟩)
    · exact ⟨_, rfl, beside⟩
    · exact ⟨_, rfl, beside⟩
    · exact ⟨_, rfl, beside⟩
  report percent progress site dealings beside := by
    refine ensures_mono ((beside_withstands begun progress dealings).ensures
      (publish_always (.head []) ..) (fun _ => Agent.Call.incidental_of_announces) beside) ?_
    exact fun _ _ ended => ended.2

/-- No chunk came after the end was asked for. -/
def Unstopped (dealings : List Dealing) : Prop :=
  ∀ chunk verdict, .deliver chunk verdict ∈ dealings →
    verdict = .taken ∨ verdict = ⟨.error .writeFlash, true⟩

theorem look_unstopped (beside : Beside begun progress filing dealings) :
    surroundings.Ensures (fun _ _ => True)
      (fun running later => Beside begun progress later dealings ∧
        (running = true → Unstopped dealings))
      (Agent.slot .isRunning) filing := by
  have stable := stable_beside begun progress dealings
  refine ensures_ask stable beside (fun _ _ => trivial) ?_
  rintro before running after beside ⟨found, rfl⟩
  have unstopped : running = true → Unstopped dealings := by
    rintro rfl chunk verdict among
    rcases beside.judged chunk verdict among with taken | failed | ⟨_, stopped⟩
    · exact .inl taken
    · exact .inr failed
    · exact absurd (of_decide_eq_true found.symm) stopped
  exact ensures_done stable (beside_quiet beside rfl id) fun _ beside => ⟨beside, unstopped⟩

end Beside

section Runs

variable (step : UInt8) (url : String) (headers : List (String × String)) (timeout : UInt64)
  (uuid : String)

def Reached (followed : Except UpdateError Unit × Progress) (later : Filing) : Prop :=
  ∃ download dealings, Download.dealing.Leads (download, []) (.done followed.1, dealings) ∧
    Beside (.exchange (.device (.download url headers timeout)) download) followed.2 later dealings

def Looked (followed : Except UpdateError Unit × Progress) (running : Bool) (later : Filing) :
    Prop :=
  ∃ download dealings, Download.dealing.Leads (download, []) (.done followed.1, dealings) ∧
    Beside (.exchange (.device (.download url headers timeout)) download) followed.2 later
      dealings ∧ (running = true → Unstopped dealings)

def Fresh (filing : Filing) : Prop :=
  filing.staged = ⟨[], 0⟩ ∧ filing.history.filterMap Happening.seen? = []

theorem stable_fresh : surroundings.Stable Fresh := by
  rintro before _ rfl ⟨staged, unseen⟩
  refine ⟨staged, ?_⟩
  rw [cancel, List.filterMap_append, unseen]
  rfl

theorem staging_ensures :
    surroundings.Ensures (fun _ _ => True)
      (fun ended later => ∃ followed running,
        ended = (Staging.judgement running followed, followed.2) ∧
          Looked url headers timeout followed running later)
      (Staging.run step url headers timeout (percentage uuid) .zero) opening := by
  have stable (followed : Except UpdateError Unit × Progress) (running : Bool) :
      surroundings.Stable (Looked url headers timeout followed running) := by
    rintro before after moves ⟨download, dealings, leads, beside, unstopped⟩
    exact ⟨download, dealings, leads, stable_beside _ _ _ before after moves beside, unstopped⟩
  refine Staging.run_parts (Reached url headers timeout) _ ?_ ?_ ?_ stable
  · refine ensures_ask stable_fresh ⟨rfl, rfl⟩ (fun _ _ => trivial) ?_
    rintro before download _ ⟨staged, unseen⟩ rfl
    have beside : Beside (.exchange (.device (.download url headers timeout)) download) .zero
        { before with history := before.history ++
          [.exchange (.device (.download url headers timeout)) download] } [] := by
      refine ⟨by simp, by simp [unseen, Happening.seen?], by simp, fun _ => ?_⟩
      simp [Holds, staged, Progress.zero]
    refine ensures_mono (Staging.follow_beside (escorts _ step uuid)
      (ensures_self download []) beside) ?_
    rintro followed later ⟨dealings, leads, beside⟩
    exact ⟨download, dealings, leads, beside⟩
  · rintro followed later ⟨download, dealings, leads, beside⟩
    refine ensures_mono (look_unstopped beside) ?_
    rintro running after ⟨beside, unstopped⟩
    exact ⟨download, dealings, leads, beside, unstopped⟩
  · rintro followed running record later looked
    refine ensures_ask (stable followed running) looked (fun _ _ => trivial) ?_
    rintro before _ after ⟨download, dealings, leads, beside, unstopped⟩ answers
    refine ensures_done (stable followed running) ?_ fun _ looked => looked
    exact ⟨download, dealings, leads, (beside_withstands _ _ _).kept (.device (.log record))
      trivial _ _ _ answers beside, unstopped⟩

end Runs

variable {dealings : List Dealing}

theorem failed_iff (unstopped : Unstopped dealings) :
    (∃ data last, .write data last false ∈ dealings.filterMap Dealing.seen?) ↔
      ∃ chunk, .deliver chunk ⟨.error .writeFlash, true⟩ ∈ dealings := by
  simp only [List.mem_filterMap]
  constructor
  · rintro ⟨data, last, dealing, among, same⟩
    cases dealing with
    | source exchange => simp [Dealing.seen?] at same
    | deliver chunk verdict =>
        rcases unstopped chunk verdict among with rfl | rfl
        · simp [Dealing.seen?] at same
        · exact ⟨chunk, among⟩
  · rintro ⟨chunk, among⟩
    exact ⟨chunk.data, chunk.last, _, among, rfl⟩

end Filing

open Filing

/-- Where a staging succeeds, its download ended well and was told of every write that failed. Where
none failed, every chunk that was handed over is in the bank, one after the other, and there are as
many bytes as the last of them announced. That is so of every download that stops at a refusal and
reports it. -/
theorem success_accounted (step : UInt8) (url : String) (headers : List (String × String))
    (timeout : UInt64) (uuid : String) (progress : Progress) (last : Filing)
    (leads : surroundings.Leads
      (Staging.run step url headers timeout (percentage uuid) .zero, opening)
      (.done (.ok (), progress), last)) :
    ∃ (download : Download) (dealings : List Dealing),
      .exchange (.device (.download url headers timeout)) download ∈ last.history ∧
      Download.dealing.Leads (download, []) (.done (.ok ()), dealings) ∧
      last.history.filterMap Happening.seen? = dealings.filterMap Dealing.seen? ∧
      (∀ chunk verdict, .deliver chunk verdict ∈ dealings →
        verdict = .taken ∨ verdict = ⟨.error .writeFlash, true⟩) ∧
      (last.Lossy ↔ ∃ chunk, .deliver chunk ⟨.error .writeFlash, true⟩ ∈ dealings) ∧
      (¬ last.Lossy → last.staged.bank = (dealings.filterMap Dealing.chunk?).flatMap Chunk.data ∧
        last.staged.bank ≠ [] ∧ ∃ final, (dealings.filterMap Dealing.chunk?).getLast? = some final ∧
          last.staged.bank.length = final.total.toNat) ∧
      (download.Obeys → ¬ last.Lossy) := by
  obtain ⟨followed, running, same, download, dealings, led, beside, unstopped⟩ :=
    (ensures_leads leads (staging_ensures step url headers timeout uuid)).ended
  obtain ⟨succeeded, rfl⟩ := Prod.mk.inj same
  obtain ⟨rfl, ended, some, all⟩ := Staging.judgement_eq_ok.1 succeeded.symm
  have unstopped := unstopped rfl
  rw [ended] at led
  have lossy : last.Lossy ↔ ∃ chunk, .deliver chunk ⟨.error .writeFlash, true⟩ ∈ dealings := by
    rw [lossy_iff, beside.seen]
    exact failed_iff unstopped
  refine ⟨download, dealings, beside.begun, led, beside.seen, unstopped, lossy, ?_, ?_⟩
  · intro lossless
    -- Every chunk was taken: a refusal that is not a failed write would have been seen.
    obtain ⟨bank, _, counted, announced⟩ := beside.holds fun chunk verdict among =>
      (unstopped chunk verdict among).resolve_right fun failed =>
        lossless (lossy.2 ⟨chunk, failed ▸ among⟩)
    have filled : last.staged.bank ≠ [] := by
      intro empty
      rw [empty] at counted
      exact some (UInt64.toNat_inj.1 counted)
    refine ⟨bank, filled, ?_⟩
    cases handed : (dealings.filterMap Dealing.chunk?).getLast? with
    | none =>
        rw [List.getLast?_eq_none_iff.1 handed] at bank
        exact absurd bank filled
    | some final => exact ⟨final, rfl, by rw [← counted, all, announced final handed]⟩
  · intro obeys failed
    obtain ⟨chunk, among⟩ := lossy.1 failed
    have accepted := (ensures_leads led (Download.obeys_ensures obeys nofun)).ended rfl
    exact absurd (accepted chunk _ among) nofun

section Samples

def Download.heedless : List Chunk → Download
  | [] => .done (.ok ())
  | chunk :: rest => .ask (.deliver chunk) fun _ => heedless rest

namespace Filing

def isWrite : Happening → Bool
  | .exchange (.device (.write ..)) _ => true
  | _ => false

def note (filing : Filing) (call : Agent.Call) (reply : Agent.Reply call) : Filing :=
  { filing with history := filing.history ++ [.exchange call reply] }

def answer (download : Download) (failing : Nat) : (call : Agent.Call) → Filing →
    Option (Agent.Reply call × Filing)
  | .shared (.launch ..), _ | .join, _ => none
  | .device (.download url headers timeout), filing =>
      some (download, filing.note (.device (.download url headers timeout)) download)
  | .device (.write data last), filing =>
      if filing.history.countP isWrite + 1 = failing then
        some (.error .inputOutput, filing.note (.device (.write data last)) (.error .inputOutput))
      else served (.write data last) filing
  | .device call, filing => served call filing
  | .shared (.slot operation), filing =>
      some ((filing.slot.apply operation).1,
        { filing with slot := (filing.slot.apply operation).2 }.note (.shared (.slot operation))
          (filing.slot.apply operation).1)
  | .shared (.notify notification), filing =>
      some ((), filing.note (.shared (.notify notification)) ())
where
  served (call : Device.Call) (filing : Filing) : Option (Device.Reply call × Filing) :=
    (filing.staged.reply? (.done (.ok ())) call).map fun (reply, staged) =>
      (reply, { filing with staged := staged }.note (.device call) reply)

theorem changes_of_served {call : Device.Call} {before after : Filing} {reply : Device.Reply call}
    (served : answer.served call before = some (reply, after)) :
    ∃ staged, call.Changes before.staged reply staged ∧
      after = ⟨staged, before.slot, before.history ++ [.exchange (.device call) reply]⟩ := by
  obtain ⟨⟨_, staged⟩, replied, same⟩ := Option.map_eq_some_iff.1 served
  cases same
  have obeys : Download.Obeys (.done (.ok ())) := trivial
  exact ⟨staged, Staged.changes_of_reply obeys replied, rfl⟩

theorem answers_of_answer {download : Download} {failing : Nat} (call : Agent.Call)
    (before : Filing) (reply : Agent.Reply call) (after : Filing)
    (answered : answer download failing call before = some (reply, after)) :
    surroundings.Answers call before reply after := by
  cases call with
  | join => cases answered
  | shared call =>
      cases call <;> cases answered
      · exact ⟨rfl, rfl⟩
      · rfl
  | device call =>
      cases call with
      | download url headers timeout =>
          cases answered
          rfl
      | write data last =>
          simp only [answer] at answered
          split at answered
          · cases answered
            exact ⟨before.staged, trivial, rfl⟩
          · exact changes_of_served answered
      | _ => exact changes_of_served answered

def succeeds : Agent (Except UpdateError Unit × Progress) → Bool
  | .done (.ok (), _) => true
  | _ => false

theorem done_of_succeeds {program : Agent (Except UpdateError Unit × Progress)}
    (succeeded : succeeds program = true) : ∃ progress, program = .done (.ok (), progress) := by
  unfold succeeds at succeeded
  split at succeeded
  · exact ⟨_, rfl⟩
  · contradiction

theorem history_advance {α : Type} (download : Download) (failing : Nat) (program : Agent α)
    (filing : Filing) :
    filing.history <+: (program.advance (answer download failing) filing).2.history := by
  induction program generalizing filing with
  | done value => exact List.prefix_rfl
  | ask call next ih =>
      rw [Program.advance]
      split
      · exact List.prefix_rfl
      · rename_i reply after answered
        have noted := history_of_answers (answers_of_answer call filing reply after answered)
        exact (noted ▸ List.prefix_append _ _).trans (ih reply after)

def sampleRun (download : Download) (failing : Nat) :
    Agent (Except UpdateError Unit × Progress) × Filing :=
  (Staging.run 10 "image.bin" [] 60000 (percentage "") .zero).advance (answer download failing)
    opening

theorem leads_of_succeeds (download : Download) (failing : Nat)
    (succeeded : succeeds (sampleRun download failing).1 = true) :
    ∃ progress, surroundings.Leads
      (Staging.run 10 "image.bin" [] 60000 (percentage "") .zero, opening)
      (.done (.ok (), progress), (sampleRun download failing).2) := by
  obtain ⟨progress, same⟩ := done_of_succeeds succeeded
  refine ⟨progress, ?_⟩
  rw [← same]
  exact leads_advance surroundings id (answer download failing) answers_of_answer _ opening

theorem fetched_sample (download : Download) (failing : Nat) :
    .exchange (.device (.download "image.bin" [] 60000)) download ∈
      (sampleRun download failing).2.history := by
  simp only [sampleRun, Staging.run, Agent.device, bind_eq, ask_bind, done_bind, Program.advance]
  refine (history_advance download failing _
    (opening.note (.device (.download "image.bin" [] 60000)) download)).subset ?_
  simp [note]

def sampleWhole : List Chunk :=
  [⟨[1, 2], 2, 3, false⟩, ⟨[3], 3, 3, true⟩]

def sampleChunks : List Chunk :=
  [⟨[0, 1, 2, 3, 4], 5, 10, false⟩, ⟨[5, 6, 7, 8, 9], 10, 10, false⟩,
    ⟨[10, 11, 12, 13, 14], 15, 10, true⟩]

end Filing

theorem success_accounted_whole :
    ∃ (progress : Progress) (last : Filing) (download : Download) (dealings : List Dealing),
      surroundings.Leads (Staging.run 10 "image.bin" [] 60000 (percentage "") .zero, opening)
        (.done (.ok (), progress), last) ∧
      Download.dealing.Leads (download, []) (.done (.ok ()), dealings) ∧ ¬ last.Lossy ∧
      last.staged.bank = (dealings.filterMap Dealing.chunk?).flatMap Chunk.data ∧
      last.staged.bank ≠ [] := by
  obtain ⟨progress, leads⟩ :=
    leads_of_succeeds (.ofChunks (.ok ()) sampleWhole) 0 (by decide +kernel)
  obtain ⟨download, dealings, _, led, _, _, _, whole, _⟩ :=
    success_accounted _ _ _ _ _ progress _ leads
  have lossless :
      ¬ (sampleRun (.ofChunks (.ok ()) sampleWhole) 0).2.Lossy := by decide +kernel
  exact ⟨progress, _, download, dealings, leads, led, lossless, (whole lossless).1,
    (whole lossless).2.1⟩

/-- A download that goes on after a refusal can hand over other bytes for those that were lost, and
the staging succeeds. -/
theorem success_despite_loss :
    ∃ (progress : Progress) (last : Filing), surroundings.Leads
        (Staging.run 10 "image.bin" [] 60000 (percentage "") .zero, opening)
        (.done (.ok (), progress), last) ∧
      .exchange (.device (.download "image.bin" [] 60000)) (.heedless sampleChunks) ∈
        last.history ∧
      last.Lossy ∧ last.staged.bank = [0, 1, 2, 3, 4, 10, 11, 12, 13, 14] := by
  obtain ⟨progress, leads⟩ := leads_of_succeeds (.heedless sampleChunks) 2 (by decide +kernel)
  exact ⟨progress, _, leads, fetched_sample .., by decide +kernel, by decide +kernel⟩

end Samples

end DualBank
