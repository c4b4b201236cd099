import DualBank.Proofs.Delivery

/-! A download that is followed while its chunks are handled. What it comes to among answers of its
own is carried over to the agent that follows it, as long as the two stand beside each other. -/

namespace DualBank

open Program Surroundings

def Agent.Call.Incidental : Agent.Call → Prop
  | .device .now | .device (.log _) | .device (.publish _) | .shared (.notify _) => True
  | _ => False

theorem Agent.Call.incidental_of_announces {uuid : String} {phases : List Phase}
    {call : Agent.Call} (announces : call.Announces uuid phases) : call.Incidental := by
  unfold Announces at announces
  split at announces <;> trivial

namespace Staging

def verdict : Except UpdateError (Option UInt8) → Verdict
  | .ok _ => ⟨.ok (), false⟩
  | .error error => ⟨.error error, true⟩

section Parts

variable {agent : Surroundings Agent.interface} {guard : Agent.Call → agent.State → Prop}

def Handled (step : UInt8) (progress : Progress) (chunk : Chunk) (stopped : agent.State → Prop)
    (wrote : Except FlashError UInt64 → agent.State → Prop)
    (handled : Except UpdateError (Option UInt8) × Progress) (later : agent.State) : Prop :=
  (handled = (.error .canceled, progress) ∧ stopped later) ∨
  (∃ error, handled = (.error .writeFlash, progress) ∧ wrote (.error error) later) ∨
  ∃ written told, handled = (.ok told,
    (Progress.advance { progress with written := written, total := chunk.total } step).2) ∧
      wrote (.ok written) later

theorem handle_parts {step : UInt8} {progress : Progress} {chunk : Chunk} {site : agent.State}
    (ready stopped : agent.State → Prop) (wrote : Except FlashError UInt64 → agent.State → Prop)
    (look : agent.Ensures guard
      (fun running later => if running then ready later else stopped later)
      (Agent.slot .isRunning) site)
    (write : ∀ later, ready later →
      agent.Ensures guard wrote (Agent.device (.write chunk.data chunk.last)) later)
    (log : ∀ record reply later, wrote reply later →
      agent.Ensures guard (fun _ after => wrote reply after) (Agent.device (.log record)) later)
    (stops : agent.Stable stopped) (stays : ∀ reply, agent.Stable (wrote reply)) :
    agent.Ensures guard (Handled step progress chunk stopped wrote) (handle step progress chunk)
      site := by
  simp only [handle, bind_eq]
  refine ensures_bind look ?_
  intro running later looked
  cases running with
  | false => exact ensures_done stops looked fun _ stopped => .inl ⟨rfl, stopped⟩
  | true =>
      refine ensures_bind (write later looked) ?_
      intro written later wrote
      cases written with
      | error error =>
          refine ensures_bind (log _ _ later wrote) fun _ later wrote => ?_
          exact ensures_done (stays _) wrote fun _ wrote => .inr (.inl ⟨error, rfl, wrote⟩)
      | ok written =>
          dsimp only
          split
          · exact ensures_done (stays _) wrote fun _ wrote =>
              .inr (.inr ⟨written, none, rfl, wrote⟩)
          · rename_i percent _
            refine ensures_bind (log _ _ later wrote) fun _ later wrote => ?_
            exact ensures_done (stays _) wrote fun _ wrote =>
              .inr (.inr ⟨written, some percent, rfl, wrote⟩)

theorem finish_parts {progress : Progress} {assertion : agent.State → Prop} {site : agent.State}
    (log : ∀ record later, assertion later →
      agent.Ensures guard (fun _ after => assertion after) (Agent.device (.log record)) later)
    (stays : agent.Stable assertion) (holds : assertion site) :
    agent.Ensures guard
      (fun result later => result = (if progress.written = 0 || progress.written ≠ progress.total
        then .error .network else .ok ()) ∧ assertion later)
      (finish progress) site := by
  rw [finish]
  split
  · refine ensures_bind (log _ _ holds) fun _ later holds => ?_
    exact ensures_done stays holds fun _ holds => ⟨rfl, holds⟩
  · exact ensures_done stays holds fun _ holds => ⟨rfl, holds⟩

def judgement (running : Bool) (followed : Except UpdateError Unit × Progress) :
    Except UpdateError Unit :=
  if running then
    match followed.1 with
    | .error error => .error error
    | .ok () =>
        if followed.2.written = 0 || followed.2.written ≠ followed.2.total then .error .network
        else .ok ()
  else .error .canceled

theorem judgement_eq_ok {running : Bool} {followed : Except UpdateError Unit × Progress} :
    judgement running followed = .ok () ↔ running = true ∧ followed.1 = .ok () ∧
      followed.2.written ≠ 0 ∧ followed.2.written = followed.2.total := by
  obtain ⟨result, progress⟩ := followed
  cases running <;> cases result <;> simp [judgement, not_or]

theorem run_parts {step : UInt8} {url : String} {headers : List (String × String)}
    {timeout : UInt64} {report : UInt8 → Agent Unit} {progress : Progress} {site : agent.State}
    (reached : Except UpdateError Unit × Progress → agent.State → Prop)
    (looked : Except UpdateError Unit × Progress → Bool → agent.State → Prop)
    (follow : agent.Ensures guard reached
      ((Agent.device (.download url headers timeout)).bind fun transfer =>
        follow step report transfer progress) site)
    (look : ∀ followed later, reached followed later →
      agent.Ensures guard (looked followed) (Agent.slot .isRunning) later)
    (log : ∀ followed running record later, looked followed running later →
      agent.Ensures guard (fun _ after => looked followed running after)
        (Agent.device (.log record)) later)
    (stays : ∀ followed running, agent.Stable (looked followed running)) :
    agent.Ensures guard
      (fun ended later => ∃ followed running, ended = (judgement running followed, followed.2) ∧
        looked followed running later)
      (run step url headers timeout report progress) site := by
  simp only [run, bind_eq]
  rw [← bind_assoc]
  refine ensures_bind follow ?_
  rintro ⟨result, progress⟩ later reached
  refine ensures_bind (look _ later reached) ?_
  intro running later seen
  cases running with
  | false =>
      refine ensures_bind (log _ _ _ later seen) fun _ later seen => ?_
      exact ensures_done (stays _ _) seen fun _ seen => ⟨(result, progress), false, rfl, seen⟩
  | true =>
      cases result with
      | error error =>
          exact ensures_done (stays _ _) seen fun _ seen =>
            ⟨(.error error, progress), true, rfl, seen⟩
      | ok value =>
          refine ensures_bind (finish_parts (log _ _) (stays _ _) seen) ?_
          rintro _ later ⟨rfl, seen⟩
          exact ensures_done (stays _ _) seen fun _ seen =>
            ⟨(.ok (), progress), true, rfl, seen⟩

end Parts

section Following

variable {agent : Surroundings Agent.interface} {download : Surroundings Download.interface}

/-- Whatever the agent does for the download, it gives an answer that the download may be given, and
both stand beside each other again. -/
structure Escorts (agent : Surroundings Agent.interface)
    (download : Surroundings Download.interface) (guard : Agent.Call → agent.State → Prop)
    (admits : Download.Call → download.State → Prop) (step : UInt8) (report : UInt8 → Agent Unit)
    (beside : Progress → agent.State → download.State → Prop) : Prop where
  stable : ∀ progress place, agent.Stable (beside progress · place)
  source : ∀ call progress site place, beside progress site place → admits (.source call) place →
    guard (.device (.source call)) site ∧
      ∀ reply after, agent.Answers (.device (.source call)) site reply after →
        ∃ later, download.Answers (.source call) place reply later ∧ beside progress after later
  deliver : ∀ chunk progress site place, beside progress site place →
    admits (.deliver chunk) place →
      agent.Ensures guard (fun handled after => ∃ later,
        download.Answers (.deliver chunk) place (verdict handled.1) later ∧
          beside handled.2 after later)
        (handle step progress chunk) site
  report : ∀ percent progress site place, beside progress site place →
    agent.Ensures guard (fun _ after => beside progress after place) (report percent) site

variable {guard : Agent.Call → agent.State → Prop}
  {admits : Download.Call → download.State → Prop} {step : UInt8} {report : UInt8 → Agent Unit}
  {beside : Progress → agent.State → download.State → Prop}
  {post : Except UpdateError Unit → download.State → Prop}

theorem follow_beside (escorts : Escorts agent download guard admits step report beside)
    {transfer : Download} {place : download.State}
    (ensured : download.Ensures admits post transfer place) {progress : Progress}
    {site : agent.State} (near : beside progress site place) :
    agent.Ensures guard
      (fun followed after => ∃ later, post followed.1 later ∧ beside followed.2 after later)
      (follow step report transfer progress) site := by
  -- The agent may be moved between two of its calls, and `near` withstands that. The download is
  -- only there as the state that it would have reached.
  induction transfer generalizing progress site place with
  | done result =>
      exact ensures_done (escorts.stable progress place) near
        fun after near => ⟨place, ensured.ended, near⟩
  | ask call next ih =>
      obtain ⟨admitted, onward⟩ := ensured place .refl
      cases call with
      | source call =>
          have asked := fun later near => escorts.source call progress later place near admitted
          refine ensures_ask (escorts.stable progress place) near
            (fun later near => (asked later near).1) ?_
          intro before reply after near answers
          obtain ⟨later, answered, near⟩ := (asked before near).2 reply after answers
          exact ih reply (onward reply later answered) near
      | deliver chunk =>
          rw [follow]
          refine ensures_bind (escorts.deliver chunk progress site place near admitted) ?_
          rintro ⟨answer, progress⟩ after ⟨later, answered, near⟩
          have rest := onward _ later answered
          cases answer with
          | error error => exact ih _ rest near
          | ok told =>
              cases told with
              | none => exact ih _ rest near
              | some percent =>
                  refine ensures_bind (escorts.report percent progress after later near) ?_
                  exact fun _ _ near => ih _ rest near

end Following

section Filling

variable {agent : Surroundings Agent.interface} {step : UInt8}
  {filling : Download → Progress → agent.State → Prop}

/-- This is kept whatever the agent does for a download, and each chunk that is taken moves it on,
as does each answer of the place that the download comes from. -/
structure Fills (agent : Surroundings Agent.interface) (step : UInt8)
    (filling : Download → Progress → agent.State → Prop) : Prop where
  still : agent.Still
  aside : ∀ rest progress call, call.Incidental ∨ call = .shared (.slot .isRunning) →
    agent.Keeps (filling rest progress) call
  source : ∀ call next progress before reply after,
    filling (.ask (.source call) next) progress before →
    agent.Answers (.device (.source call)) before reply after → filling (next reply) progress after
  write : ∀ chunk next progress before written after,
    filling (.ask (.deliver chunk) next) progress before →
    agent.Answers (.device (.write chunk.data chunk.last)) before (.ok written) after →
      filling (next ⟨.ok (), false⟩)
        (Progress.advance { progress with written := written, total := chunk.total } step).2 after

variable (fills : Fills agent step filling)
include fills

theorem Fills.ensures_aside {rest : Download} {progress : Progress} {call : Agent.Call}
    {state : agent.State} (among : call.Incidental ∨ call = .shared (.slot .isRunning))
    (holds : filling rest progress state) :
    agent.Ensures (fun _ _ => True) (fun _ later => filling rest progress later)
      (.ask call .done) state :=
  fills.still.ensures_ask trivial fun reply after answers =>
    fills.still.ensures_done (fills.aside rest progress call among state reply after answers holds)

theorem Fills.handle_ensures {progress : Progress} {chunk : Chunk} {next : Verdict → Download}
    {state : agent.State} (holds : filling (.ask (.deliver chunk) next) progress state) :
    agent.Ensures (fun _ _ => True)
      (fun handled later => match handled.1 with
        | .ok _ => filling (next ⟨.ok (), false⟩) handled.2 later
        | .error _ => True)
      (handle step progress chunk) state := by
  have stays (assertion : agent.State → Prop) : agent.Stable assertion :=
    fun before after moves => (fills.still before after moves).elim
  refine ensures_mono (handle_parts (filling (.ask (.deliver chunk) next) progress)
    (fun _ => True)
    (fun reply later => ∀ written, reply = .ok written → filling (next ⟨.ok (), false⟩)
      (Progress.advance { progress with written := written, total := chunk.total } step).2 later)
    ?_ ?_ ?_ (stays _) fun _ => stays _) ?_
  · refine ensures_mono (fills.ensures_aside (.inr rfl) holds) ?_
    intro running later holds
    cases running with
    | false => trivial
    | true => exact holds
  · intro later holds
    refine fills.still.ensures_ask trivial fun reply after answers => ?_
    refine fills.still.ensures_done fun written same => ?_
    subst same
    exact fills.write chunk next progress later written after holds answers
  · intro record reply later wrote
    cases reply with
    | error error => exact fills.still.ensures_ask trivial fun _ _ _ =>
        fills.still.ensures_done fun _ impossible => by cases impossible
    | ok written =>
        have incidental : (Agent.Call.device (.log record)).Incidental := trivial
        refine ensures_mono (fills.ensures_aside (.inl incidental) (wrote written rfl)) ?_
        rintro _ after holds _ ⟨⟩
        exact holds
  · rintro _ later (⟨rfl, _⟩ | ⟨error, rfl, _⟩ | ⟨written, told, rfl, wrote⟩)
    · trivial
    · trivial
    · exact wrote written rfl

variable {report : UInt8 → Agent Unit}
  (reports : ∀ percent, (report percent).Always Agent.Call.Incidental fun _ => True)
include reports

/-- Where a download that obeys ends well, every chunk was taken. -/
theorem Fills.follow_ensures {download : Download} (obeys : download.Obeys) {progress : Progress}
    {state : agent.State} (holds : filling download progress state) :
    agent.Ensures (fun _ _ => True)
      (fun followed later => followed.1 = .ok () → filling (.done (.ok ())) followed.2 later)
      (follow step report download progress) state := by
  induction download generalizing progress state with
  | done result =>
      refine fills.still.ensures_done ?_
      rintro ⟨⟩
      exact holds
  | ask call next ih =>
      cases call with
      | source call =>
          refine fills.still.ensures_ask trivial fun reply after answers => ?_
          exact ih reply (obeys reply)
            (fills.source call next progress state reply after holds answers)
      | deliver chunk =>
          rw [follow]
          refine ensures_bind (fills.handle_ensures holds) ?_
          rintro ⟨answer, progress⟩ later holds
          cases answer with
          | error error =>
              -- A download that obeys hands over nothing after a refusal, and does not succeed.
              dsimp only
              rw [obeys.1 error true]
              exact fills.still.ensures_done fun succeeded => by cases succeeded
          | ok told =>
              cases told with
              | none => exact ih _ (obeys.2 false) holds
              | some percent =>
                  have stable : agent.Stable (filling (next ⟨.ok (), false⟩) progress) :=
                    fun before after moves => (fills.still before after moves).elim
                  refine ensures_bind (ensures_always (reports percent) stable
                    (fun call incidental => fills.aside _ _ call (.inl incidental))
                    (fun _ _ _ _ => trivial) holds) ?_
                  exact fun _ later ended => ih _ (obeys.2 false) ended.2

/-- A staging that succeeded has followed its download to the end, and has found as many bytes as
were announced. -/
theorem Fills.run_ensures {url : String} {headers : List (String × String)} {timeout : UInt64}
    {progress : Progress} {ready : agent.State → Prop}
    (begins : ∀ before download after, ready before →
      agent.Answers (.device (.download url headers timeout)) before download after →
        Download.Obeys download ∧ filling download progress after)
    {state : agent.State} (holds : ready state) :
    agent.Ensures (fun _ _ => True)
      (fun ended later => ended.1 = .ok () → filling (.done (.ok ())) ended.2 later ∧
        ended.2.written ≠ 0 ∧ ended.2.written = ended.2.total)
      (run step url headers timeout report progress) state := by
  have stays (assertion : agent.State → Prop) : agent.Stable assertion :=
    fun before after moves => (fills.still before after moves).elim
  refine ensures_mono (run_parts
    (fun followed later => followed.1 = .ok () → filling (.done (.ok ())) followed.2 later)
    (fun followed _ later => followed.1 = .ok () → filling (.done (.ok ())) followed.2 later)
    ?_ ?_ ?_ fun _ _ => stays _) ?_
  · refine fills.still.ensures_ask trivial fun download after answers => ?_
    obtain ⟨obeys, filled⟩ := begins state download after holds answers
    exact fills.follow_ensures reports obeys filled
  · intro followed later reached
    refine fills.still.ensures_ask trivial fun running after answers => ?_
    refine fills.still.ensures_done fun succeeded => ?_
    exact fills.aside _ _ _ (.inr rfl) later running after answers (reached succeeded)
  · intro followed running record later reached
    refine fills.still.ensures_ask trivial fun reply after answers => ?_
    refine fills.still.ensures_done fun succeeded => ?_
    exact fills.aside _ _ (.device (.log record)) (.inl trivial) later reply after answers
      (reached succeeded)
  · rintro _ later ⟨followed, running, rfl, reached⟩ succeeded
    obtain ⟨_, ended, counted⟩ := judgement_eq_ok.1 succeeded
    exact ⟨reached ended, counted⟩

end Filling

section Attempt

variable {agent : Surroundings Agent.interface} {policy : Policy} {request : Request}
  {filling : Download → Progress → agent.State → Prop}

/-- An attempt that succeeded erased the bank and opened it, followed its download to the end, and
let go of the bank. -/
theorem Fills.attempt_ensures (fills : Fills agent policy.progressStep filling)
    {state : agent.State} {erased opened closed : agent.State → Prop}
    (erases : ∀ after, agent.Answers (.device (.erase .secondary)) state (.ok ()) after →
      erased after)
    (opens : ∀ before after, erased before →
      agent.Answers (.device (.openWriter .secondary)) before (.ok ()) after → opened after)
    (begins : ∀ before download after, opened before →
      agent.Answers (.device (.download request.url policy.headers policy.downloadTimeout)) before
        download after → Download.Obeys download ∧ filling download .zero after)
    (closes : ∀ progress before after, filling (.done (.ok ())) progress before →
      progress.written ≠ 0 → progress.written = progress.total →
      agent.Answers (.device .closeWriter) before () after → closed after) :
    agent.Ensures (fun _ _ => True) (fun result later => result = .ok () → closed later)
      (Installation.attempt policy request) state := by
  have fails {error : UpdateError} {record : Log.Record} (later : agent.State) :
      agent.Ensures (fun _ _ => True)
        (fun (result : Except UpdateError Unit) later => result = .ok () → closed later)
        (.ask (.device (.log record)) fun _ => .done (.error error)) later :=
    fills.still.ensures_ask trivial fun _ _ _ =>
      fills.still.ensures_done fun succeeded => by cases succeeded
  simp only [Installation.attempt, Agent.device, Agent.log, bind_eq, ask_bind, done_bind,
    pure_eq_done]
  refine fills.still.ensures_ask trivial fun reply between answers => ?_
  cases reply with
  | error error => exact fails between
  | ok value =>
      have erased := erases between answers
      refine fills.still.ensures_ask trivial fun reply later answers => ?_
      cases reply with
      | error error => exact fails later
      | ok value =>
          have opened := opens between later erased answers
          refine ensures_bind (fills.run_ensures (fun percent => ?_) begins opened) ?_
          · exact always_mono (publish_always (.head []) ..)
              (fun _ => Agent.Call.incidental_of_announces) fun _ _ => trivial
          · rintro ⟨result, progress⟩ before reached
            refine fills.still.ensures_ask trivial fun _ after answers => ?_
            refine fills.still.ensures_done fun succeeded => ?_
            obtain ⟨filling, some, all⟩ := reached succeeded
            exact closes progress before after filling some all answers

end Attempt

end Staging

end DualBank
