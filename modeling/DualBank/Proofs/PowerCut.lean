import DualBank.Proofs.Durable

/-! The power goes between any two calls of an update: what it leaves behind is durable. -/

namespace DualBank

open Program Surroundings Site

namespace Setup

variable {setup : Setup} {held reached : Record → Prop}
  {staged : Option Bytes → Option Transfer → Prop} {site : Site}

section Following

theorem durable_of_writing {image : Bytes} {settings : SettingsTable} {device : FileDevice}
    {files : FileTree} {trace : Trace} (writing : setup.Writing image settings device files trace) :
    setup.Durable settings device files trace :=
  .inr (.inl ⟨image, writing⟩)

theorem stable_following (rest : Download) : surroundings.Stable (setup.Following rest) := by
  rintro before after rfl ⟨image, writing, reached⟩
  refine ⟨image, stable_holds _ _ rfl writing, fun running => ?_⟩
  have stopped : (before.slot.apply .cancel).2 ≠ .running := by
    cases before.slot <;> exact Slot.noConfusion
  exact absurd running stopped

theorem guard_of_following {rest : Download} {site : Site} (following : setup.Following rest site)
    (call : Agent.Call) : setup.guard call site := by
  obtain ⟨image, writing, _⟩ := following
  exact durable_of_writing writing

theorem following_note {rest : Download} {site : Site} {call : Agent.Call}
    {reply : Agent.Reply call} (ignored : Trace.Ignored call)
    (following : setup.Following rest site) :
    setup.Following rest (site.note (.exchange call reply)) := by
  obtain ⟨image, writing, reached⟩ := following
  have same : Transfer.latest (site.history ++ [.exchange call reply]) =
      Transfer.latest site.history :=
    congrArg Trace.transfer (Trace.ignores_of_ignored ignored site.history reply)
  refine ⟨image, holds_note (Trace.ignores_of_ignored ignored) writing, fun running => ?_⟩
  change Transfer.Reached (Transfer.latest (site.history ++ _)) rest image
  rw [same]
  exact reached running

theorem keeps_following {rest : Download} {call : Agent.Call} (quiet : Quiet call)
    (unslotted : ∀ operation, call ≠ .shared (.slot operation)) :
    surroundings.Keeps (setup.Following rest) call := by
  intro before reply after answers following
  rw [noted_of_answers quiet.spares unslotted answers]
  exact following_note quiet.ignored following

/-- A transfer that is still followed has its chunk written, or else the installation has to end. -/
theorem handle_ensures (step : UInt8) (progress : Progress) {chunk : Chunk}
    {next : Verdict → Download} {site : Site}
    (following : setup.Following (.ask (.deliver chunk) next) site) :
    surroundings.Ensures setup.guard
      (fun handled later => match handled.1 with
        | .error error => setup.Following (next ⟨.error error, true⟩) later
        | .ok _ => setup.Following (next ⟨.ok (), false⟩) later)
      (Staging.handle step progress chunk) site := by
  simp only [Staging.handle, Agent.slot, Agent.shared, Agent.device, Agent.log, bind_eq, ask_bind,
    done_bind, pure_eq_done]
  refine ensures_ask (stable_following _) following
    (fun later still => guard_of_following still _) ?_
  rintro later reply after following ⟨answered, rfl⟩
  have still : setup.Following (.ask (.deliver chunk) next)
      (later.note (.exchange (.shared (.slot .isRunning)) reply)) :=
    following_note trivial following
  obtain ⟨image, writing, reached⟩ := still
  cases reply with
  | false =>
      -- Nothing is written, and what the transfer reaches no longer matters.
      refine ensures_done (stable_following (next ⟨.error .canceled, true⟩)) ?_ fun _ holds => holds
      refine ⟨image, writing, fun running => ?_⟩
      have same : later.slot = .running := running
      simp [Slot.apply, Slot.isRunning, same] at answered
  | true =>
      have running : later.slot = .running := by
        simpa [Slot.apply, Slot.isRunning] using answered.symm
      -- A cancel may still come before the write, so from here the slot is not relied on.
      have holds : (later.note (.exchange (.shared (.slot .isRunning)) true)).Holds Trace.notes
          fun settings device files trace => setup.Writing image settings device files trace ∧
            Transfer.Reached trace.transfer (.ask (.deliver chunk) next) image :=
        ⟨writing, reached running⟩
      refine ensures_unnoted (fun _ _ _ _ both => durable_of_writing both.1) holds
        (.write chunk.data chunk.last) rfl trivial
        (fun (reply : Except FlashError UInt64) settings device files trace =>
          (∃ written, reply = .ok written) ∧
            setup.Writing (image ++ chunk.data) settings device files trace ∧
              Transfer.Reached trace.transfer (next ⟨.ok (), false⟩) (image ++ chunk.data))
        (fun settings device files trace both => ?_) ?_
      · refine FileTree.yields_mono (write_yields both.1 chunk.data chunk.last) ?_
        exact fun reply changed done => ⟨done.1, done.2, Transfer.reached_deliver both.2⟩
      · rintro reply later ⟨⟨written, rfl⟩, writing, behind⟩
        have onward : setup.Following (next ⟨.ok (), false⟩) later :=
          ⟨_, writing, fun _ => behind⟩
        dsimp only
        split
        · exact ensures_done (stable_following _) onward fun _ holds => holds
        · refine ensures_ask (stable_following _) onward
            (fun later still => guard_of_following still _) ?_
          intro later reply after still answers
          refine ensures_done (stable_following (next ⟨.ok (), false⟩)) ?_ fun _ holds => holds
          exact keeps_following quiet_log (fun _ => (by simp)) later reply after answers still

theorem download_follows {url : String} {headers : List (String × String)} {timeout : UInt64}
    {download : Download} {site : Site} (writing : site.Holds Trace.notes (setup.Writing [])) :
    setup.Following download
      (site.note (.exchange (.device (.download url headers timeout)) download)) := by
  refine ⟨[], ⟨writing.banks, writing.record, ?_, writing.files⟩, fun _ => ?_⟩
  · exact (Trace.tested_append site.history _).trans (by rw [writing.untested]; rfl)
  · change Transfer.Reached (Transfer.latest (site.history ++ _)) download []
    rw [Transfer.latest_append]
    exact Transfer.reached_start download

theorem source_follows {call : Source.Call} {next : Source.Reply call → Download} {site : Site}
    {reply : Source.Reply call} (following : setup.Following (.ask (.source call) next) site) :
    setup.Following (next reply) (site.note (.exchange (.device (.source call)) reply)) := by
  obtain ⟨image, writing, reached⟩ := following
  refine ⟨image, ⟨writing.banks, writing.record, ?_, writing.files⟩, fun running => ?_⟩
  · exact (Trace.tested_append site.history _).trans (by rw [writing.untested]; rfl)
  · change Transfer.Reached (Transfer.latest (site.history ++ _)) (next reply) image
    rw [Transfer.latest_append]
    exact Transfer.reached_source (reached running) reply

theorem follow_ensures (step : UInt8) {uuid : String} {phases : List Phase}
    {report : UInt8 → Agent Unit}
    (reports : ∀ percent, (report percent).Always (Agent.Call.Announces uuid phases)
      fun _ => True) {download : Download} (progress : Progress) {site : Site}
    (following : setup.Following download site) :
    surroundings.Ensures setup.guard (fun ended later => setup.Following (.done ended.1) later)
      (Staging.follow step report download progress) site := by
  induction download generalizing progress site with
  | done result => exact ensures_done (stable_following _) following fun _ holds => holds
  | ask call next ih =>
      cases call with
      | source call =>
          refine ensures_ask (stable_following _) following
            (fun later still => guard_of_following still _) ?_
          intro later reply after still answers
          obtain ⟨served, rfl, rfl⟩ := answers
          exact ih reply progress (source_follows still)
      | deliver chunk =>
          rw [Staging.follow]
          refine ensures_bind (handle_ensures step progress following) ?_
          rintro ⟨answer, progress⟩ later onward
          cases answer with
          | error error => exact ih _ progress onward
          | ok told =>
              cases told with
              | none => exact ih _ progress onward
              | some percent =>
                  refine ensures_bind (ensures_always (reports percent) (stable_following _)
                    (fun call announces => ?_)
                    (fun call later _ still => guard_of_following still call) onward) ?_
                  · refine keeps_following (quiet_of_announces announces) ?_
                    intro operation slot
                    rw [slot] at announces
                    exact announces
                  · exact fun _ later still => ih _ progress still.2

def Staged (secondary : Option Bytes) (transfer : Option Transfer) : Prop :=
  ∃ image, secondary = some image ∧ Transfer.Delivered transfer image

def Fetched (setup : Setup) : Except UpdateError Unit → SettingsTable → FileDevice → FileTree →
    Trace → Prop
  | .ok () => setup.Fetching Staged
  | .error _ => setup.Fetching fun _ _ => True

def Transferred (setup : Setup) (result : Except UpdateError Unit) (settings : SettingsTable)
    (device : FileDevice) (files : FileTree) (trace : Trace) : Prop :=
  ∃ image, setup.Writing image settings device files trace ∧
    (result = .ok () → Transfer.Delivered trace.transfer image)

theorem durable_of_transferred {result : Except UpdateError Unit} {settings : SettingsTable}
    {device : FileDevice} {files : FileTree} {trace : Trace}
    (transferred : setup.Transferred result settings device files trace) :
    setup.Durable settings device files trace := by
  obtain ⟨image, writing, _⟩ := transferred
  exact durable_of_writing writing

theorem finish_ensures (progress : Progress) {site : Site}
    (transferred : site.Holds Trace.notes (setup.Transferred (.ok ()))) :
    surroundings.Ensures setup.guard
      (fun result later => later.Holds Trace.notes (setup.Transferred result))
      (Staging.finish progress) site := by
  rw [Staging.finish]
  split
  · refine ensures_calm (fun _ _ _ _ => durable_of_transferred) transferred quiet_log ?_
    rintro reply later ⟨image, writing, _⟩
    have stopped : later.Holds Trace.notes (setup.Transferred (.error .network)) :=
      ⟨image, writing, by simp⟩
    exact ensures_done stable_holds stopped fun _ holds => holds
  · exact ensures_done stable_holds transferred fun _ holds => holds

theorem staging_ensures (step : UInt8) (url : String) (headers : List (String × String))
    (timeout : UInt64) {uuid : String} {phases : List Phase} {report : UInt8 → Agent Unit}
    (reports : ∀ percent, (report percent).Always (Agent.Call.Announces uuid phases)
      fun _ => True) (progress : Progress) {site : Site}
    (writing : site.Holds Trace.notes (setup.Writing [])) :
    surroundings.Ensures setup.guard
      (fun staged later => later.Holds Trace.notes (setup.Transferred staged.1))
      (Staging.run step url headers timeout report progress) site := by
  simp only [Staging.run, Agent.slot, Agent.shared, Agent.device, Agent.log, bind_eq, ask_bind,
    done_bind, pure_eq_done]
  refine ensures_ask stable_holds writing (fun _ => durable_of_writing) ?_
  intro later download after still answers
  obtain ⟨served, rfl, rfl⟩ := answers
  refine ensures_bind (follow_ensures step reports progress (download_follows still)) ?_
  rintro ⟨result, progress⟩ later following
  refine ensures_ask (stable_following _) following
    (fun later still => guard_of_following still _) ?_
  intro later reply after still answers
  obtain ⟨answered, rfl⟩ := answers
  have noted : setup.Following (.done result)
      (later.note (.exchange (.shared (.slot .isRunning)) reply)) := following_note trivial still
  obtain ⟨image, writing, reached⟩ := noted
  have stopped (error : UpdateError) :
      (later.note (.exchange (.shared (.slot .isRunning)) reply)).Holds Trace.notes
        (setup.Transferred (.error error)) :=
    ⟨image, writing, by simp⟩
  cases reply with
  | false =>
      refine ensures_calm (fun _ _ _ _ => durable_of_transferred) (stopped .canceled) quiet_log ?_
      exact fun _ later still => ensures_done stable_holds still fun _ holds => holds
  | true =>
      have running : later.slot = .running := by
        simpa [Slot.apply, Slot.isRunning] using answered.symm
      cases result with
      | error error => exact ensures_done stable_holds (stopped error) fun _ holds => holds
      | ok value =>
          have delivered := Transfer.delivered_of_reached (reached running)
          refine ensures_bind (finish_ensures progress ⟨image, writing, fun _ => delivered⟩) ?_
          exact fun result later holds => ensures_done stable_holds holds fun _ holds => holds

end Following

section Attempting

variable {site : Site}

theorem recordable_inProgress (record : Record) (same : record = ⟨.inProgress, some setup.id⟩) :
    setup.Recordable record := by
  subst same
  exact .inr ⟨rfl, .inl rfl⟩

theorem report_always (uuid : String) (percent : UInt8) :
    (Announcement.publish uuid .downloading (Int32.ofNat percent.toNat) none "").Always
      (Agent.Call.Announces uuid [.downloading]) fun _ => True :=
  publish_always (.head _) ..

theorem attempt_ensures (policy : Policy) (request : Request)
    (fetching : site.Holds Trace.notes (setup.Fetching staged)) :
    surroundings.Ensures setup.guard
      (fun result later => later.Holds Trace.notes (setup.Fetched result))
      (Installation.attempt policy request) site := by
  simp only [Installation.attempt, Agent.device, Agent.log, bind_eq, ask_bind, done_bind,
    pure_eq_done]
  refine ensures_unnoted (fun _ _ _ _ calm => durable_of_calm calm recordable_inProgress) fetching
    (.erase .secondary) rfl trivial
    (fun (reply : Except FlashError Unit) settings device files trace => reply = .ok () ∧
      setup.Fetching (fun secondary _ => secondary = some []) settings device files trace)
    (fun _ _ _ _ => erase_yields) ?_
  rintro reply site ⟨rfl, erased⟩
  refine ensures_unnoted (fun _ _ _ _ calm => durable_of_calm calm recordable_inProgress) erased
    (.openWriter .secondary) rfl trivial
    (fun (reply : Except FlashError Unit) settings device files trace => reply = .ok () ∧
      setup.Writing [] settings device files trace)
    (fun _ _ _ _ => openWriter_yields) ?_
  rintro reply site ⟨rfl, writing⟩
  dsimp only
  refine ensures_bind (staging_ensures _ _ _ _ (report_always request.uuid) _ writing) ?_
  rintro ⟨result, progress⟩ site transferred
  refine ensures_unnoted (fun _ _ _ _ => durable_of_transferred) transferred .closeWriter rfl
    trivial (fun _ => setup.Fetched result) (fun settings device files trace transferred => ?_) ?_
  · obtain ⟨image, writing, delivered⟩ := transferred
    refine FileTree.yields_mono (closeWriter_yields writing) ?_
    intro reply changed closed
    obtain ⟨secondary, scratch, same, stands⟩ := closed.files
    cases result with
    | error error =>
        exact ⟨closed.banks, closed.closed, closed.record, closed.untested, secondary, scratch,
          trivial, stands⟩
    | ok value =>
        exact ⟨closed.banks, closed.closed, closed.record, closed.untested, secondary, scratch,
          ⟨image, same, delivered rfl⟩, stands⟩
  · exact fun reply later fetched => ensures_done stable_holds fetched fun _ holds => holds

theorem attempts_ensures (policy : Policy) (request : Request) (remaining number : Nat)
    (last : UpdateError)
    (fetching : site.Holds Trace.notes (setup.Fetching fun _ _ => True)) :
    surroundings.Ensures setup.guard
      (fun result later => later.Holds Trace.notes (setup.Fetched result))
      (Installation.attempts policy request remaining number last) site := by
  have durable (settings : SettingsTable) (device : FileDevice) (files : FileTree) (trace : Trace)
      (calm : setup.Fetching (fun _ _ => True) settings device files trace) :
      setup.Durable settings device files trace := durable_of_calm calm recordable_inProgress
  have stops (error : UpdateError) {site : Site}
      (fetching : site.Holds Trace.notes (setup.Fetching fun _ _ => True)) :
      surroundings.Ensures setup.guard
        (fun result later => later.Holds Trace.notes (setup.Fetched result))
        (.done (.error error)) site :=
    ensures_done stable_holds fetching fun _ holds => holds
  -- Every attempt erases the bank first, so none relies on what the one before it left there.
  induction remaining generalizing number last site with
  | zero =>
      simp only [Installation.attempts, Agent.slot, Agent.shared, bind_eq, ask_bind, done_bind,
        pure_eq_done]
      refine ensures_calm durable fetching (quiet_slot .isRunning) ?_
      intro running site fetching
      cases running <;> exact stops _ fetching
  | succ remaining ih =>
      simp only [Installation.attempts, Agent.slot, Agent.shared, Agent.device, Agent.log, bind_eq,
        ask_bind, done_bind, pure_eq_done]
      refine ensures_calm durable fetching (quiet_slot .isRunning) ?_
      intro running site fetching
      cases running with
      | false => exact stops _ fetching
      | true =>
          refine ensures_told durable fetching (phase_always (.head [])) ?_
          intro site fetching
          refine ensures_bind (attempt_ensures policy request fetching) ?_
          intro result site fetched
          cases result with
          | ok value => exact ensures_done stable_holds fetched fun _ holds => holds
          | error error =>
              dsimp only
              split
              · refine ensures_calm durable fetched (quiet_sleep _) ?_
                intro _ site fetching
                refine ensures_told durable fetching (error_always (.head []) error) ?_
                intro site fetching
                refine ensures_calm durable fetching quiet_log ?_
                intro _ site fetching
                exact ih (number + 1) error fetching
              · exact stops error fetched

theorem fetch_ensures {request : Request} (known : RequestId.ofText? request.uuid = some setup.id)
    (noZero : ∀ byte ∈ Bytes.ofText setup.id.text, byte ≠ 0) (policy : Policy)
    (marked : site.Holds Trace.notes
      (setup.Calm (· = ⟨.inProgress, none⟩) fun _ _ => True)) :
    surroundings.Ensures setup.guard
      (fun result later => later.Holds Trace.notes (setup.Fetched result))
      (Installation.fetch policy request) site := by
  simp only [Installation.fetch, known, Agent.log, Agent.device, bind_eq, ask_bind, done_bind,
    pure_eq_done]
  refine ensures_bind (saveId_ensures (by rintro record rfl; exact .inl rfl) marked noZero
    (· = ⟨.inProgress, some setup.id⟩) (by rintro record rfl; rfl)) ?_
  rintro result later ⟨rfl, saved⟩
  exact attempts_ensures policy request _ _ _ saved

end Attempting

section Deploying

variable {site : Site}

theorem recordable_pendingReboot (record : Record)
    (same : record = ⟨.pendingReboot, some setup.id⟩) : setup.Recordable record := by
  subst same
  exact .inr ⟨rfl, .inr rfl⟩

theorem durable_of_pending {settings : SettingsTable} {device : FileDevice} {files : FileTree}
    {trace : Trace} (pending : setup.Pending settings device files trace) :
    setup.Durable settings device files trace :=
  .inr (.inr pending)

def Deployed (setup : Setup) : Except UpdateError Unit → SettingsTable → FileDevice → FileTree →
    Trace → Prop
  | .ok () => setup.Pending
  | .error _ => setup.Calm setup.Recordable fun _ _ => True

def Bootable (secondary : Option Bytes) (transfer : Option Transfer) : Prop :=
  ∃ image header, secondary = some image ∧ Transfer.Delivered transfer image ∧
    headerOf (some image) = .ok header

def Examined (setup : Setup) (held : Record → Prop) :
    Except FlashError Image.Header → SettingsTable → FileDevice → FileTree → Trace → Prop
  | .ok _ => setup.Calm held Bootable
  | .error _ => setup.Calm held fun _ _ => True

theorem readHeader_yields {settings : SettingsTable} {device : FileDevice} {files : FileTree}
    {trace : Trace} (calm : setup.Calm held Staged settings device files trace) :
    files.Yields (FileDevice.answer (.readHeader .secondary) device) fun reply changed =>
      setup.Examined held reply.1 settings reply.2 changed trace := by
  obtain ⟨secondary, scratch, ⟨image, rfl, delivered⟩, stands⟩ := calm.files
  rw [FileDevice.answer, calm.banks]
  refine FileTree.yields_mono (FileDevice.unchanged_yields
    (BankDirectory.readHeader_yields stands .secondary)) ?_
  rintro ⟨result, other⟩ changed ⟨rfl, same, rfl⟩
  have read : result = headerOf (some image) := same
  cases result with
  | ok header =>
      exact ⟨calm.banks, calm.closed, calm.record, calm.untested, some image, scratch,
        ⟨image, header, rfl, delivered, read.symm⟩, stands⟩
  | error error =>
      exact ⟨calm.banks, calm.closed, calm.record, calm.untested, some image, scratch, trivial,
        stands⟩

theorem requestTest_yields {settings : SettingsTable} {device : FileDevice} {files : FileTree}
    {trace : Trace} (calm : setup.Calm (· = ⟨.pendingReboot, some setup.id⟩) Bootable settings
      device files trace) :
    files.Yields (FileDevice.answer .requestTest device) fun reply changed => reply.1 = .ok () ∧
      setup.Pending settings reply.2 changed ⟨trace.transfer, true⟩ := by
  obtain ⟨secondary, scratch, ⟨image, header, rfl, delivered, read⟩, stands⟩ := calm.files
  rw [FileDevice.answer, calm.banks]
  refine FileTree.yields_mono (FileDevice.unchanged_yields
    (BankDirectory.requestTest_yields stands)) ?_
  rintro ⟨result, other⟩ changed ⟨rfl, requested, stands⟩
  exact ⟨requested, calm.banks, calm.record, rfl, image, header, scratch, delivered, read, stands⟩

theorem handOver_ensures (policy : Policy) (uuid : String)
    (staged : site.Holds Trace.notes
      (setup.Calm (· = ⟨.pendingReboot, some setup.id⟩) Staged)) :
    surroundings.Ensures setup.guard
      (fun result later => later.Holds Trace.notes (setup.Deployed result))
      (Installation.handOver policy uuid) site := by
  have durable (settings : SettingsTable) (device : FileDevice) (files : FileTree) (trace : Trace)
      (pending : setup.Pending settings device files trace) :
      setup.Durable settings device files trace := durable_of_pending pending
  simp only [Installation.handOver, Agent.device, Agent.log, bind_eq, ask_bind, done_bind,
    pure_eq_done]
  refine ensures_unnoted (fun _ _ _ _ calm => durable_of_calm calm recordable_pendingReboot) staged
    (.readHeader .secondary) rfl trivial
    (fun (reply : Except FlashError Image.Header) =>
      setup.Examined (· = ⟨.pendingReboot, some setup.id⟩) reply)
    (fun _ _ _ _ => readHeader_yields) ?_
  intro reply site read
  cases reply with
  | error error =>
      have calm : site.Holds Trace.notes (setup.Calm setup.Recordable fun _ _ => True) :=
        ⟨read.banks, read.closed, recordable_pendingReboot _ read.record, read.untested, read.files⟩
      refine ensures_calm (fun _ _ _ _ calm => durable_of_calm calm fun _ holds => holds) calm
        quiet_log ?_
      intro _ site calm
      exact ensures_done stable_holds calm fun _ holds => holds
  | ok header =>
      refine ensures_calm (fun _ _ _ _ calm => durable_of_calm calm recordable_pendingReboot) read
        quiet_log ?_
      intro _ site bootable
      refine ensures_flash bootable .requestTest rfl
        (fun _ calm => durable_of_calm calm recordable_pendingReboot)
        (fun (reply : Except FlashError Unit) settings device files trace => reply = .ok () ∧
          setup.Pending settings device files trace)
        Trace.request Trace.notes_request (fun settings device files trace calm => ?_) ?_
      · refine FileTree.yields_mono (requestTest_yields calm) ?_
        rintro ⟨result, other⟩ changed ⟨rfl, pending⟩
        exact ⟨rfl, pending⟩
      · rintro reply site ⟨rfl, pending⟩
        dsimp only
        refine ensures_told durable pending (phase_always (.head [])) ?_
        intro site pending
        refine ensures_told durable pending (phase_always (.head [])) ?_
        intro site pending
        refine ensures_calm durable pending quiet_log ?_
        intro _ site pending
        refine ensures_calm durable pending (quiet_sleep _) ?_
        intro _ site pending
        refine ensures_calm durable pending quiet_log ?_
        intro _ site pending
        refine ensures_calm durable pending quiet_restart ?_
        intro _ site pending
        exact ensures_done stable_holds pending fun _ holds => holds

theorem deploy_ensures (policy : Policy) (uuid : String)
    (staged : site.Holds Trace.notes (setup.Fetching Staged)) :
    surroundings.Ensures setup.guard
      (fun result later => later.Holds Trace.notes (setup.Deployed result))
      (Installation.deploy policy uuid) site := by
  have durable (settings : SettingsTable) (device : FileDevice) (files : FileTree) (trace : Trace)
      (calm : setup.Fetching Staged settings device files trace) :
      setup.Durable settings device files trace := durable_of_calm calm recordable_inProgress
  simp only [Installation.deploy, Agent.log, Agent.device, bind_eq, ask_bind, done_bind,
    pure_eq_done]
  refine ensures_told durable staged (phase_always (.head [])) ?_
  intro site staged
  refine ensures_calm durable staged quiet_log ?_
  intro _ site staged
  refine ensures_bind (saveStage_ensures recordable_inProgress staged .pendingReboot
    (· = ⟨.pendingReboot, some setup.id⟩) (by rintro record rfl; rfl)) ?_
  rintro result site ⟨rfl, saved⟩
  exact handOver_ensures policy uuid saved

theorem recordable_idle (record : Record) (same : record = ⟨.idle, none⟩) :
    setup.Recordable record := by
  subst same
  exact .inl rfl

theorem execute_ensures {request : Request}
    (known : RequestId.ofText? request.uuid = some setup.id)
    (noZero : ∀ byte ∈ Bytes.ofText setup.id.text, byte ≠ 0) (policy : Policy)
    (idle : site.Holds Trace.notes (setup.Calm (· = ⟨.idle, none⟩) fun _ _ => True)) :
    surroundings.Ensures setup.guard
      (fun result later => later.Holds Trace.notes (setup.Deployed result))
      (Installation.execute policy request) site := by
  simp only [Installation.execute, Agent.log, Agent.device, bind_eq, ask_bind, done_bind,
    pure_eq_done]
  refine ensures_bind (prepare_ensures recordable_idle idle) ?_
  rintro result site ⟨rfl, ready⟩
  refine ensures_calm (fun _ _ _ _ calm => durable_of_calm calm recordable_idle) ready quiet_log ?_
  intro _ site ready
  refine ensures_bind (saveStage_ensures recordable_idle ready .inProgress
    (· = ⟨.inProgress, none⟩) (by rintro record rfl; rfl)) ?_
  rintro result site ⟨rfl, saved⟩
  refine ensures_bind (fetch_ensures known noZero policy saved) ?_
  intro fetched site held
  cases fetched with
  | ok value => exact deploy_ensures policy request.uuid held
  | error error =>
      have calm : site.Holds Trace.notes (setup.Deployed (.error error)) :=
        ⟨held.banks, held.closed, recordable_inProgress _ held.record, held.untested, held.files⟩
      exact ensures_done stable_holds calm fun _ holds => holds

theorem conclude_ensures (outcome : Outcome)
    (calm : site.Holds Trace.notes (setup.Calm setup.Recordable fun _ _ => True)) :
    surroundings.Ensures setup.guard (fun _ later => later.Holds Trace.notes setup.Durable)
      (Installation.conclude outcome) site := by
  have recordable (record : Record) (none : record.id = none) : setup.Recordable record :=
    .inl none
  simp only [Installation.conclude, Record.reset, discard_eq_bind, Agent.slot, Agent.shared,
    Agent.log, Agent.device, bind_eq, ask_bind, done_bind, pure_eq_done,
    DualBank.Program.bind_assoc]
  refine ensures_bind (deleteId_ensures (fun _ holds => holds) calm (·.id = none)
    fun _ _ => rfl) ?_
  rintro result site ⟨rfl, forgotten⟩
  refine ensures_bind (saveStage_ensures recordable forgotten .idle (·.id = none)
    fun _ holds => holds) ?_
  rintro result site ⟨rfl, idle⟩
  refine ensures_calm (fun _ _ _ _ calm => durable_of_calm calm recordable) idle
    (quiet_slot .finish) ?_
  intro _ site idle
  exact ensures_done stable_holds idle fun _ holds => durable_of_calm holds recordable

theorem installation_ensures {request : Request}
    (known : RequestId.ofText? request.uuid = some setup.id)
    (noZero : ∀ byte ∈ Bytes.ofText setup.id.text, byte ≠ 0) (policy : Policy)
    (idle : site.Holds Trace.notes (setup.Calm (· = ⟨.idle, none⟩) fun _ _ => True)) :
    surroundings.Ensures setup.guard (fun _ later => later.Holds Trace.notes setup.Durable)
      (Installation.run policy request) site := by
  have durable (settings : SettingsTable) (device : FileDevice) (files : FileTree) (trace : Trace)
      (calm : setup.Calm (· = ⟨.idle, none⟩) (fun _ _ => True) settings device files trace) :
      setup.Durable settings device files trace := durable_of_calm calm recordable_idle
  have ended (settings : SettingsTable) (device : FileDevice) (files : FileTree) (trace : Trace)
      (calm : setup.Calm setup.Recordable (fun _ _ => True) settings device files trace) :
      setup.Durable settings device files trace := durable_of_calm calm fun _ holds => holds
  simp only [Installation.run, Agent.log, Agent.device, bind_eq, ask_bind, done_bind,
    pure_eq_done]
  refine ensures_told durable idle (phase_always (.head [])) ?_
  intro site idle
  refine ensures_calm durable idle quiet_log ?_
  intro _ site idle
  refine ensures_bind (execute_ensures known noZero policy idle) ?_
  intro result site deployed
  -- Only a restart leaves the trial pending; every other end puts the record away.
  split
  · exact ensures_done stable_holds deployed fun _ pending => durable_of_pending pending
  · refine ensures_calm ended deployed quiet_log ?_
    intro _ site calm
    exact conclude_ensures _ calm
  · refine ensures_calm ended deployed quiet_log ?_
    intro _ site calm
    refine ensures_told ended calm (error_always (.head []) _) ?_
    intro site calm
    exact conclude_ensures _ calm

/-- At whatever point the power goes, an update has left behind something that can be settled. -/
theorem durable_of_leads {policy : Policy} {request : Request}
    (known : RequestId.ofText? request.uuid = some setup.id)
    (noZero : ∀ byte ∈ Bytes.ofText setup.id.text, byte ≠ 0)
    (idle : site.Holds Trace.notes (setup.Calm (· = ⟨.idle, none⟩) fun _ _ => True))
    {rest : Agent Outcome} {later : Site}
    (leads : surroundings.Leads (Installation.run policy request, site) (rest, later)) :
    later.Holds Trace.notes setup.Durable :=
  holds_of_ensures (installation_ensures known noZero policy idle) leads

/-- It is so from the start, where nothing is on record and the banks are settled. -/
theorem durable_of_settled {policy : Policy} {request : Request} {id : RequestId}
    (known : RequestId.ofText? request.uuid = some id)
    (noZero : ∀ byte ∈ Bytes.ofText id.text, byte ≠ 0) {settings : SettingsTable}
    (idle : settings.record = ⟨.idle, none⟩) {device : FileDevice} {files : FileTree}
    {home : Location} {holdings : Holdings} (stands : device.banks.Stands home holdings files)
    (settled : holdings.trailer = .settled) {rest : Agent Outcome} {later : Site}
    (leads : surroundings.Leads (Installation.run policy request, opening settings device files)
      (rest, later)) :
    later.Holds Trace.notes (Durable ⟨device.banks, home, holdings.primary, id⟩) := by
  refine durable_of_leads known noZero ?_ leads
  obtain ⟨primary, secondary, scratch, trailer⟩ := holdings
  cases settled
  exact ⟨rfl, rfl, idle, rfl, secondary, scratch, trivial, stands⟩

end Deploying

end Setup

end DualBank
