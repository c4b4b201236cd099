import DualBank.Proofs.Cancellation
import DualBank.Proofs.CrashSafety
import DualBank.Proofs.Following
import DualBank.Proofs.Integrity
import DualBank.Proofs.Notices
import DualBank.Proofs.Site
import DualBank.Proofs.Streaming

/-! One attempt that copies a file into the file of a bank: the stream of its chunks, the pipeline
and the writer at work together, and others who may ask for the end between any two calls. -/

namespace DualBank

open Program Surroundings Cancellation FileSource
open Happening (look)

namespace Cancellation

variable {history : List Happening} {call : Agent.Call}

def Concludes (call : Agent.Call) : Prop :=
  call = .device .closeWriter ∨ call.Incidental

def Decided (history : List Happening) : Prop :=
  ∃ earlier running later, history = earlier ++ look running :: later ∧
    ∀ call reply, .exchange call reply ∈ later → Concludes call

theorem decided_look {running : Bool} : Decided (history ++ [look running]) :=
  ⟨history, running, [], rfl, by simp⟩

theorem decided_append {happening : Happening} (decided : Decided history)
    (concludes : ∀ call reply, happening = .exchange call reply → Concludes call) :
    Decided (history ++ [happening]) := by
  obtain ⟨earlier, running, later, rfl, since⟩ := decided
  refine ⟨earlier, running, later ++ [happening], by simp, fun call reply among => ?_⟩
  rcases List.mem_append.1 among with among | last
  · exact since call reply among
  · exact concludes call reply (List.mem_singleton.1 last).symm

theorem decided_cancel {accepted : Bool} (decided : Decided history) :
    Decided (history ++ [.cancel accepted]) :=
  decided_append decided (by simp)

theorem decided_exchange {reply : Agent.Reply call} (decided : Decided history)
    (concludes : Concludes call) : Decided (history ++ [.exchange call reply]) := by
  refine decided_append decided ?_
  rintro _ _ ⟨⟩
  exact concludes

/-- Only what was accepted before the last look has been heard. -/
theorem heard_iff {earlier later : List Happening} {running : Bool}
    (since : ∀ call reply, .exchange call reply ∈ later → Concludes call) :
    Heard (earlier ++ look running :: later) ↔ Accepted earlier := by
  refine ⟨?_, fun accepted => ⟨earlier, running, later, rfl, accepted⟩⟩
  induction later using List.reverseRecOn with
  | nil => exact heard_append_look.1
  | append_singleton later happening ih =>
      rw [← List.cons_append, ← List.append_assoc, heard_append]
      rintro (heard | ⟨_, found, rfl⟩)
      · exact ih (fun call reply among => since call reply (List.mem_append_left _ among)) heard
      · rcases since _ _ (List.mem_append_right _ (List.mem_singleton.2 rfl)) with same | incidental
        · cases same
        · exact incidental.elim

end Cancellation

structure Filed where
  last : Bool
  synced : List Synced

def filed (path : Path) : Bytes → List Chunk → List Filed
  | _, [] => []
  | image, chunk :: rest =>
      ⟨chunk.last, if chunk.last then [⟨path, .ok (image ++ chunk.data)⟩] else []⟩ ::
        filed path (image ++ chunk.data) rest

theorem filed_append (path : Path) (image : Bytes) (chunks : List Chunk) (chunk : Chunk) :
    filed path image (chunks ++ [chunk]) = filed path image chunks ++
      [⟨chunk.last, if chunk.last then
        [⟨path, .ok (image ++ chunks.flatMap Chunk.data ++ chunk.data)⟩] else []⟩] := by
  induction chunks generalizing image with
  | nil => simp [filed]
  | cons first rest ih => simp [filed, ih]

theorem filed_unfinished {path : Path} {image : Bytes} {chunks : List Chunk}
    (unfinished : ∀ chunk ∈ chunks, chunk.last = false) :
    ∀ one ∈ filed path image chunks, one = ⟨false, []⟩ := by
  induction chunks generalizing image with
  | nil => simp [filed]
  | cons chunk rest ih =>
      obtain ⟨first, others⟩ := List.forall_mem_cons.1 unfinished
      simp only [filed, first, List.forall_mem_cons]
      exact ⟨rfl, ih others⟩

structure Copying where
  site : Site
  reading : Reading
  writes : List Filed

def FileSource.Supply.plain (path : String) (content : Bytes) (timeout : UInt64) : Supply :=
  ⟨path, content, timeout, fun _ _ => True⟩

namespace FileSource.Supply

variable {supply : Supply} {call : Source.Call} {reading other : Reading}

theorem guards_source (admitted : supply.Guards (.source call) reading) :
    supply.Guards (.source call) other := by
  cases call <;> exact admitted

/-- What is read has nothing to do with what was delivered. -/
theorem answers_source {after : Reading} {reply : Source.Reply call}
    (answers : supply.Answers (.source call) { reading with delivered := [] } reply after) :
    supply.Answers (.source call) reading reply { after with delivered := reading.delivered } ∧
      after.delivered = [] := by
  cases call with
  | openFile path =>
      obtain ⟨same, rfl, rfl⟩ := answers
      exact ⟨⟨same, rfl, rfl⟩, rfl⟩
  | read limit =>
      obtain ⟨data, rest, rfl, parts, short, ends, rfl⟩ := answers
      exact ⟨⟨data, rest, rfl, parts, short, ends, rfl⟩, rfl⟩
  | elapsed =>
      obtain ⟨rest, started, delivered⟩ := reading
      cases started with
      | none =>
          cases answers
          exact ⟨rfl, rfl⟩
      | some started =>
          obtain ⟨intime, rfl⟩ := answers
          exact ⟨⟨intime, rfl⟩, rfl⟩
  | log record =>
      cases answers
      exact ⟨rfl, rfl⟩

end FileSource.Supply

namespace Copying

def Answers (supply : Supply) :
    (call : Agent.Call) → Copying → Agent.Reply call → Copying → Prop
  | .device (.download url headers timeout), before, download, after => ∃ site,
      before.site.Flashes (.download url headers timeout) download site ∧
        after = { before with
          site := site.note (.exchange (.device (.download url headers timeout)) download) }
  | .device (.source call), before, reply, after => ∃ reading,
      supply.Answers (.source call) before.reading reply reading ∧
        after = { before with
          site := before.site.note (.exchange (.device (.source call)) reply)
          reading := reading }
  | .device (.write data last), before, reply, after =>
      ∃ (machine later : Machine) (device : FileDevice), machine.files = before.site.files ∧
        machine.run (FileDevice.answer (.write data last) before.site.device) =
          (.finished (reply, device), later) ∧
        after = { before with
          site := { before.site with device := device, files := later.files }.note
            (.exchange (.device (.write data last)) reply)
          writes := before.writes ++
            [⟨last, machine.syncs (FileDevice.answer (.write data last) before.site.device)⟩] }
  | call, before, reply, after => ∃ site, Site.Answers call before.site reply site ∧
      after = { before with site := site }

abbrev surroundings (supply : Supply) : Surroundings Agent.interface where
  State := Copying
  Moves before after := after = { before with site := before.site.cancel }
  Answers := Answers supply

def opening (settings : SettingsTable) (device : FileDevice) (files : FileTree) : Copying :=
  ⟨.opening settings device files, .unread, []⟩

def Answerable (supply : Supply) (call : Agent.Call) (copying : Copying) : Prop :=
  ∃ reply after, (surroundings supply).Answers call copying reply after

section Incidental

variable {supply : Supply} {call : Agent.Call}

theorem spares_of_incidental (incidental : call.Incidental) :
    Site.Spares call ∧ ∀ operation, call ≠ .shared (.slot operation) := by
  unfold Agent.Call.Incidental at incidental
  split at incidental
  · exact ⟨⟨id, by rintro _ ⟨⟩; rfl⟩, by rintro _ ⟨⟩⟩
  · exact ⟨⟨id, by rintro _ ⟨⟩; rfl⟩, by rintro _ ⟨⟩⟩
  · exact ⟨⟨id, by rintro _ ⟨⟩; rfl⟩, by rintro _ ⟨⟩⟩
  · exact ⟨⟨id, by rintro _ ⟨⟩⟩, by rintro _ ⟨⟩⟩
  · contradiction

theorem answers_of_incidental (incidental : call.Incidental) {before after : Copying}
    {reply : Agent.Reply call} (answers : (surroundings supply).Answers call before reply after) :
    ∃ site, Site.surroundings.Answers call before.site reply site ∧
      after = { before with site := site } := by
  unfold Agent.Call.Incidental at incidental
  split at incidental <;> first | exact answers | contradiction

theorem answerable_of_incidental (incidental : call.Incidental) (copying : Copying) :
    Answerable supply call copying := by
  unfold Agent.Call.Incidental at incidental
  split at incidental
  · exact ⟨(0 : Int64), _, _, ⟨copying.site, by rfl, rfl⟩, rfl⟩
  · exact ⟨(), _, _, ⟨copying.site, by rfl, rfl⟩, rfl⟩
  · exact ⟨.ok (), _, _, ⟨copying.site, by rfl, rfl⟩, rfl⟩
  · exact ⟨(), _, _, rfl, rfl⟩
  · contradiction

end Incidental

section Beside

variable (banks : BankDirectory) (home : Location) (holdings : Holdings)

structure Full (progress : Progress) (writer : BankWriter) (image : Bytes) (writes : List Filed)
    (reading : Reading) : Prop where
  taken : ∀ one ∈ reading.delivered, one.2 = .taken
  whole : image = reading.image
  counted : writer.written = .ofNat image.length
  written : progress.written = .ofNat image.length
  total : ∀ final, reading.chunks.getLast? = some final → progress.total = final.total
  writes : writes = filed (banks.bankPath .secondary) [] reading.chunks

structure Beside (progress : Progress) (copying : Copying) (reading : Reading) : Prop where
  place : copying.reading = { reading with delivered := [] }
  attends : Attends copying.site.slot copying.site.history
  carries : ∃ writer image file, copying.site.device.writer = some writer ∧
    banks.Carries home holdings writer image file copying.site.files ∧
      image <+: reading.image ∧ (¬ Heard copying.site.history →
        Full banks progress writer image copying.writes reading)

variable {banks home holdings} {supply : Supply} {progress : Progress} {copying : Copying}
  {reading : Reading}

/-- Nothing that was copied is touched, and nothing is forgotten of what was heard. -/
theorem beside_alike (beside : Beside banks home holdings progress copying reading)
    {later : Copying} (device : later.site.device = copying.site.device)
    (files : later.site.files = copying.site.files) (place : later.reading = copying.reading)
    (writes : later.writes = copying.writes)
    (attends : Attends later.site.slot later.site.history)
    (heard : Heard copying.site.history → Heard later.site.history) :
    Beside banks home holdings progress later reading := by
  refine ⟨place.trans beside.place, attends, ?_⟩
  rw [device, files, writes]
  obtain ⟨writer, image, file, writing, carries, begins, full⟩ := beside.carries
  exact ⟨writer, image, file, writing, carries, begins, fun unheard => full (mt heard unheard)⟩

theorem stable_beside (progress : Progress) (reading : Reading) :
    (surroundings supply).Stable (Beside banks home holdings progress · reading) := by
  rintro before _ rfl beside
  exact beside_alike beside rfl rfl rfl rfl (attends_cancel beside.attends) heard_append_cancel.2

theorem beside_note (beside : Beside banks home holdings progress copying reading)
    {call : Agent.Call} {reply : Agent.Reply call} (other : call ≠ .shared (.slot .isRunning)) :
    Beside banks home holdings progress
      { copying with site := copying.site.note (.exchange call reply) } reading :=
  beside_alike beside rfl rfl rfl rfl (attends_exchange beside.attends)
    (heard_append_exchange other).2

theorem beside_withstands (progress : Progress) (reading : Reading) :
    Withstands (surroundings supply) (Answerable supply) Agent.Call.Incidental
      (Beside banks home holdings progress · reading) where
  stable := stable_beside progress reading
  kept := by
    intro call incidental before reply after answers beside
    obtain ⟨spares, unslotted⟩ := spares_of_incidental incidental
    obtain ⟨site, answered, rfl⟩ := answers_of_incidental incidental answers
    rw [Site.noted_of_answers spares unslotted answered]
    exact beside_note beside (unslotted .isRunning)
  guarded call copying incidental _ := answerable_of_incidental incidental copying

structure Aware (banks : BankDirectory) (home : Location) (holdings : Holdings)
    (progress : Progress) (reading : Reading) (running : Bool) (copying : Copying) : Prop where
  beside : Beside banks home holdings progress copying reading
  seen : running = true ↔ ¬ Heard copying.site.history
  decided : Decided copying.site.history

theorem aware_withstands (progress : Progress) (reading : Reading) (running : Bool) :
    Withstands (surroundings supply) (Answerable supply) Agent.Call.Incidental
      (Aware banks home holdings progress reading running) where
  stable := by
    rintro before _ rfl ⟨beside, seen, decided⟩
    exact ⟨stable_beside progress reading before _ rfl beside,
      seen.trans (not_congr heard_append_cancel.symm), decided_cancel decided⟩
  kept := by
    rintro call incidental before reply after answers ⟨beside, seen, decided⟩
    obtain ⟨spares, unslotted⟩ := spares_of_incidental incidental
    obtain ⟨site, answered, rfl⟩ := answers_of_incidental incidental answers
    rw [Site.noted_of_answers spares unslotted answered]
    exact ⟨beside_note beside (unslotted .isRunning),
      seen.trans (not_congr (heard_append_exchange (unslotted .isRunning)).symm),
      decided_exchange decided (.inr incidental)⟩
  guarded call copying incidental _ := answerable_of_incidental incidental copying

/-- A look hears of a cancel that was accepted before it. -/
theorem look_heard (beside : Beside banks home holdings progress copying reading) :
    (surroundings supply).Ensures (Answerable supply)
      (Aware banks home holdings progress reading)
      (Agent.slot .isRunning) copying := by
  refine ensures_ask (stable_beside progress reading) beside
    (fun later _ => ⟨_, _, _, ⟨rfl, rfl⟩, rfl⟩) ?_
  rintro before running _ beside ⟨_, ⟨found, rfl⟩, rfl⟩
  have seen : running = true ↔ ¬ Heard (before.site.history ++ [look running]) := by
    rw [heard_append_look, accepted_of_attends beside.attends, Bool.not_eq_false, found]
    rfl
  refine ensures_done (aware_withstands progress reading running).stable
    ⟨?_, seen, decided_look⟩ fun _ aware => aware
  exact beside_alike beside rfl rfl rfl rfl (attends_exchange beside.attends)
    fun heard => heard_append.2 (.inl heard)

section Handling

variable (chunk : Chunk)

theorem stable_unheard :
    (surroundings supply).Stable fun copying => ¬ Heard copying.site.history := by
  rintro before _ rfl unheard
  exact mt heard_append_cancel.1 unheard

def Refused (banks : BankDirectory) (home : Location) (holdings : Holdings) (progress : Progress)
    (chunk : Chunk) (reading : Reading) (later : Copying) : Prop :=
  Beside banks home holdings progress later
    { reading with delivered := reading.delivered ++ [(chunk, ⟨.error .canceled, true⟩)] }

def Written (banks : BankDirectory) (home : Location) (holdings : Holdings) (step : UInt8)
    (progress : Progress) (chunk : Chunk) (reading : Reading) :
    Except FlashError UInt64 → Copying → Prop
  | .ok written, later => Beside banks home holdings
      (Progress.advance { progress with written := written, total := chunk.total } step).2 later
        { reading with delivered := reading.delivered ++ [(chunk, .taken)] }
  | .error _, _ => False

theorem look_beside (beside : Beside banks home holdings progress copying reading) :
    (surroundings supply).Ensures (Answerable supply)
      (fun running later => if running
        then Beside banks home holdings progress later reading ∧ ¬ Heard later.site.history
        else Refused banks home holdings progress chunk reading later)
      (Agent.slot .isRunning) copying := by
  refine ensures_mono (look_heard beside) ?_
  rintro running later ⟨beside, seen, _⟩
  cases running with
  | true => exact ⟨beside, seen.1 rfl⟩
  | false =>
      have heard : Heard later.site.history := by simpa using seen
      obtain ⟨writer, image, file, writing, carries, begins, _⟩ := beside.carries
      refine ⟨beside.place, beside.attends, writer, image, file, writing, carries, ?_,
        fun unheard => absurd heard unheard⟩
      rw [Reading.image_append]
      exact begins.trans (List.prefix_append ..)

theorem full_write {writer later : BankWriter} {image : Bytes} {writes : List Filed}
    (full : Full banks progress writer image writes reading) (step : UInt8)
    (counted : later.written = writer.written + .ofNat chunk.data.length) :
    Full banks (Progress.advance { progress with
        written := later.written, total := chunk.total } step).2 later (image ++ chunk.data)
      (writes ++ [⟨chunk.last, if chunk.last then
        [⟨banks.bankPath .secondary, .ok (image ++ chunk.data)⟩] else []⟩])
      { reading with delivered := reading.delivered ++ [(chunk, .taken)] } := by
  obtain ⟨sameWritten, sameTotal⟩ :=
    Progress.advance_snd { progress with written := later.written, total := chunk.total } step
  have sum : later.written = .ofNat (image ++ chunk.data).length := by
    rw [counted, full.counted, List.length_append, UInt64.ofNat_add]
  refine ⟨?_, ?_, sum, sameWritten.trans sum, ?_, ?_⟩
  · simpa [or_imp, forall_and] using full.taken
  · rw [Reading.image_append, full.whole]
  · intro final found
    rw [Reading.chunks_append, List.getLast?_concat] at found
    rw [sameTotal, ← Option.some.inj found]
  · rw [Reading.chunks_append, filed_append, full.writes, full.whole]
    rfl

theorem write_beside (step : UInt8) (beside : Beside banks home holdings progress copying reading)
    (unheard : ¬ Heard copying.site.history) :
    (surroundings supply).Ensures (Answerable supply)
      (Written banks home holdings step progress chunk reading)
      (Agent.device (.write chunk.data chunk.last)) copying := by
  refine ensures_ask ((stable_beside progress reading).and stable_unheard) ⟨beside, unheard⟩ ?_ ?_
  · rintro later ⟨beside, _⟩
    obtain ⟨writer, image, file, writing, carries, _⟩ := beside.carries
    obtain ⟨⟨reply, device⟩, last, ran, _⟩ :=
      FileDevice.write_performs writing carries chunk.data chunk.last (.holding _) rfl
    exact ⟨reply, _, _, last, device, rfl, ran, rfl⟩
  · rintro before reply _ ⟨beside, unheard⟩ ⟨machine, later, device, same, ran, rfl⟩
    obtain ⟨writer, image, file, writing, carries, begins, full⟩ := beside.carries
    obtain ⟨other, file, answered, counted, carries, synced⟩ :=
      (FileDevice.write_performs writing carries chunk.data chunk.last).of_run same ran
    cases answered
    have full := full unheard
    refine ensures_done (stable_beside _ _) ?_ fun _ written => written
    refine ⟨beside.place, attends_exchange beside.attends, other, image ++ chunk.data, file, rfl,
      carries, ?_, fun _ => ?_⟩
    · rw [full.whole]
      exact ⟨[], (List.append_nil _).trans (Reading.image_append ..).symm⟩
    · rw [synced]
      exact full_write chunk full step counted

theorem stable_written (step : UInt8) (reply : Except FlashError UInt64) :
    (surroundings supply).Stable
      (Written banks home holdings step progress chunk reading reply) := by
  cases reply with
  | error error => exact fun _ _ _ impossible => impossible
  | ok written => exact stable_beside _ _

theorem written_log (step : UInt8) (record : Log.Record) (reply : Except FlashError UInt64)
    (later : Copying)
    (written : Written banks home holdings step progress chunk reading reply later) :
    (surroundings supply).Ensures (Answerable supply)
      (fun _ after => Written banks home holdings step progress chunk reading reply after)
      (Agent.device (.log record)) later := by
  cases reply with
  | error error => exact written.elim
  | ok count => exact (beside_withstands _ _).ensures_call (.device (.log record)) trivial written

end Handling

theorem escorts (lenient : ∀ chunks verdict, supply.judges chunks verdict) (step : UInt8)
    (uuid : String) :
    Staging.Escorts (surroundings supply) supply.surroundings (Answerable supply) supply.Guards
      step (percentage uuid) (Beside banks home holdings) where
  stable := stable_beside
  source := by
    intro call progress copying reading beside admitted
    obtain ⟨place, attends, carries⟩ := beside
    constructor
    · obtain ⟨reply, after, answers⟩ := Supply.answerable
        (fun chunks => ⟨.taken, lenient chunks _⟩) (.source call) copying.reading
        (Supply.guards_source admitted)
      exact ⟨reply, _, after, answers, rfl⟩
    · rintro reply _ ⟨after, answers, rfl⟩
      rw [place] at answers
      -- The device reads on from the same place, and knows nothing of what was delivered.
      obtain ⟨answers, same⟩ := Supply.answers_source answers
      refine ⟨_, answers, ?_, attends_exchange attends, ?_⟩
      · rw [← same]
      · obtain ⟨writer, image, file, writing, carries, begins, full⟩ := carries
        refine ⟨writer, image, file, writing, carries, begins, fun unheard => ?_⟩
        have full := full (mt (heard_append_exchange (by simp)).2 unheard)
        exact ⟨full.taken, full.whole, full.counted, full.written, full.total, full.writes⟩
  deliver := by
    intro chunk progress copying reading beside _
    refine ensures_mono (Staging.handle_parts
      (fun later : Copying => Beside banks home holdings progress later reading ∧
        ¬ Heard later.site.history)
      (Refused banks home holdings progress chunk reading)
      (Written banks home holdings step progress chunk reading) (look_beside chunk beside)
      (fun later ready => write_beside chunk step ready.1 ready.2)
      (written_log chunk step) (stable_beside progress _) (stable_written chunk step)) ?_
    rintro _ later (⟨rfl, beside⟩ | ⟨error, rfl, impossible⟩ | ⟨written, told, rfl, beside⟩)
    · exact ⟨_, ⟨lenient _ _, rfl⟩, beside⟩
    · exact impossible.elim
    · exact ⟨_, ⟨lenient _ _, rfl⟩, beside⟩
  report percent progress copying reading beside := by
    refine ensures_mono ((beside_withstands progress reading).ensures
      (publish_always (.head []) ..) (fun _ => Agent.Call.incidental_of_announces) beside) ?_
    exact fun _ _ ended => ended.2

end Beside

section Runs

variable (supply : Supply) (banks : BankDirectory) (home : Location) (holdings : Holdings)

def Reached (followed : Except UpdateError Unit × Progress) (later : Copying) : Prop :=
  ∃ limit reading, Streamed supply limit followed.1 reading ∧
    Beside banks home holdings followed.2 later reading

def Looked (followed : Except UpdateError Unit × Progress) (running : Bool) (later : Copying) :
    Prop :=
  ∃ limit reading, Streamed supply limit followed.1 reading ∧
    Aware banks home holdings followed.2 reading running later

/-- What an attempt with this result has made of this file, when this is the image that it left. -/
structure Copied (result : Except UpdateError Unit) (image : Bytes) (copying : Copying) :
    Prop where
  decided : Decided copying.site.history
  canceled : Heard copying.site.history → result = .error .canceled ∧ image <+: supply.content
  finished : ¬ Heard copying.site.history → (result = .ok () ↔ supply.content ≠ []) ∧
    image = supply.content ∧ ∃ earlier, copying.writes = earlier ++
      [⟨true, [⟨banks.bankPath .secondary, .ok supply.content⟩]⟩] ∧
        ∀ write ∈ earlier, write = ⟨false, []⟩

variable {supply banks home holdings} {copying : Copying}

theorem stable_looked (followed : Except UpdateError Unit × Progress) (running : Bool) :
    (surroundings supply).Stable (Looked supply banks home holdings followed running) := by
  rintro before after moves ⟨limit, reading, streamed, aware⟩
  exact ⟨limit, reading, streamed,
    (aware_withstands followed.2 reading running).stable before after moves aware⟩

theorem look_reached {followed : Except UpdateError Unit × Progress}
    (reached : Reached supply banks home holdings followed copying) :
    (surroundings supply).Ensures (Answerable supply) (Looked supply banks home holdings followed)
      (Agent.slot .isRunning) copying := by
  obtain ⟨limit, reading, streamed, beside⟩ := reached
  exact ensures_mono (look_heard beside) fun _ _ aware => ⟨limit, reading, streamed, aware⟩

theorem staging_ensures (lenient : ∀ chunks verdict, supply.judges chunks verdict)
    (fits : supply.content.length < UInt64.size) (step : UInt8) {url : String}
    (named : path? url = some supply.path) (headers : List (String × String)) (uuid : String)
    (beside : Beside banks home holdings .zero copying .unread) :
    (surroundings supply).Ensures (Answerable supply)
      (fun ended later => ∃ followed running,
        ended = (Staging.judgement running followed, followed.2) ∧
          Looked supply banks home holdings followed running later)
      (Staging.run step url headers supply.timeout (percentage uuid) .zero) copying := by
  refine Staging.run_parts (Reached supply banks home holdings) _ ?_
    (fun followed later => look_reached) ?_ stable_looked
  · refine ensures_ask (stable_beside .zero .unread) beside ?_ ?_
    · exact fun later _ => ⟨_, _, _, ⟨.holding _, _, _, rfl, rfl, rfl⟩, rfl⟩
    · rintro before download _ beside ⟨_, ⟨machine, _, _, same, ⟨⟩, rfl⟩, rfl⟩
      refine ensures_mono (Staging.follow_beside (escorts lenient step uuid)
        (download_ensures fits _ headers named) (beside_alike beside rfl same rfl rfl
          (attends_exchange beside.attends) (heard_append_exchange (by simp)).2)) ?_
      rintro followed later ⟨reading, streamed, beside⟩
      exact ⟨_, reading, streamed, beside⟩
  · rintro followed running record later ⟨limit, reading, streamed, aware⟩
    exact ensures_mono ((aware_withstands _ _ _).ensures_call (.device (.log record)) trivial aware)
      fun _ _ aware => ⟨limit, reading, streamed, aware⟩

section Full

variable {limit : Nat} {result : Except UpdateError Unit} {progress : Progress} {reading : Reading}
  {writer : BankWriter} {image : Bytes} {writes : List Filed}
  (streamed : Streamed supply limit result reading)
  (full : Full banks progress writer image writes reading)
include streamed full

/-- The count is that of the bytes of the file, and that is the total which was announced. -/
theorem full_counts (fits : supply.content.length < UInt64.size) :
    progress.written.toNat = supply.content.length ∧ progress.written = progress.total := by
  obtain ⟨_, before, final, chunks, _, _, portion⟩ := streamed.closed full.taken
  have counted : progress.written.toNat = supply.content.length := by
    rw [full.written, full.whole, (streamed.complete full.taken).2.1]
    exact UInt64.toNat_ofNat_of_lt' fits
  refine ⟨counted, ?_⟩
  rw [full.total final (by rw [chunks, List.getLast?_concat])]
  exact UInt64.toNat_inj.1 (counted.trans portion.total.symm)

theorem full_writes : ∃ earlier, writes = earlier ++
    [⟨true, [⟨banks.bankPath .secondary, .ok supply.content⟩]⟩] ∧
      ∀ write ∈ earlier, write = ⟨false, []⟩ := by
  obtain ⟨_, before, final, chunks, last, onward, _⟩ := streamed.closed full.taken
  have parts : [] ++ before.flatMap Chunk.data ++ final.data = supply.content := by
    rw [← (streamed.complete full.taken).2.1, Reading.image, chunks, List.flatMap_append,
      List.flatMap_singleton]
    rfl
  refine ⟨filed (banks.bankPath .secondary) [] before, ?_, filed_unfinished onward⟩
  rw [full.writes, chunks, filed_append, last, parts]
  rfl

end Full

/-- What the judgement says of what was copied. -/
theorem copied_of_looked (fits : supply.content.length < UInt64.size)
    {followed : Except UpdateError Unit × Progress} {running : Bool}
    (looked : Looked supply banks home holdings followed running copying) :
    ∃ writer image file, copying.site.device.writer = some writer ∧
      banks.Carries home holdings writer image file copying.site.files ∧
        Copied supply banks (Staging.judgement running followed) image copying := by
  obtain ⟨limit, reading, streamed, beside, seen, decided⟩ := looked
  obtain ⟨writer, image, file, writing, carries, begins, full⟩ := beside.carries
  refine ⟨writer, image, file, writing, carries, decided, fun heard => ?_, fun unheard => ?_⟩
  · -- Whatever the download came to, it is not asked.
    have stopped : running = false := by
      simpa using mt seen.1 (not_not_intro heard)
    rw [stopped]
    exact ⟨rfl, begins.trans streamed.portions.begins⟩
  · have full := full unheard
    obtain ⟨succeeded, content, _⟩ := streamed.complete full.taken
    obtain ⟨counted, all⟩ := full_counts streamed full fits
    refine ⟨?_, full.whole.trans content, full_writes streamed full⟩
    have some : followed.2.written ≠ 0 ↔ supply.content ≠ [] := by
      rw [ne_eq, ne_eq, ← List.length_eq_zero_iff, ← counted, ← UInt64.toNat_inj]
      rfl
    rw [Staging.judgement_eq_ok, ← some]
    exact ⟨fun judged => judged.2.2.1, fun some => ⟨seen.2 unheard, succeeded, some, all⟩⟩

theorem copied_alike {result : Except UpdateError Unit} {image : Bytes} {later : Copying}
    (copied : Copied supply banks result image copying) (writes : later.writes = copying.writes)
    (heard : Heard later.site.history ↔ Heard copying.site.history)
    (decided : Decided later.site.history) : Copied supply banks result image later := by
  refine ⟨decided, ?_, ?_⟩
  · rw [heard]
    exact copied.canceled
  · rw [heard, writes]
    exact copied.finished

def Holding (supply : Supply) (banks : BankDirectory) (home : Location) (holdings : Holdings)
    (result : Except UpdateError Unit) (copying : Copying) : Prop :=
  ∃ writer image file, copying.site.device.writer = some writer ∧
    banks.Carries home holdings writer image file copying.site.files ∧
      Copied supply banks result image copying

def Left (supply : Supply) (banks : BankDirectory) (result : Except UpdateError Unit)
    (copying : Copying) : Prop :=
  ∃ image, copying.site.files.read (banks.bankPath .secondary) = .ok image ∧
    Copied supply banks result image copying

theorem stable_holding (result : Except UpdateError Unit) :
    (surroundings supply).Stable (Holding supply banks home holdings result) := by
  rintro before _ rfl ⟨writer, image, file, writing, carries, copied⟩
  exact ⟨writer, image, file, writing, carries,
    copied_alike copied rfl heard_append_cancel (decided_cancel copied.decided)⟩

theorem stable_left (result : Except UpdateError Unit) :
    (surroundings supply).Stable (Left supply banks result) := by
  rintro before _ rfl ⟨image, reads, copied⟩
  exact ⟨image, reads, copied_alike copied rfl heard_append_cancel (decided_cancel copied.decided)⟩

theorem close_holding {result : Except UpdateError Unit}
    (holding : Holding supply banks home holdings result copying) :
    (surroundings supply).Ensures (Answerable supply)
      (fun _ later => Left supply banks result later) (Agent.device .closeWriter) copying := by
  refine ensures_ask (stable_holding result) holding ?_ ?_
  · rintro later ⟨writer, image, file, writing, carries, _⟩
    obtain ⟨reply, site, answers⟩ :=
      Site.answered_of_yields rfl (FileDevice.closeWriter_yields writing carries)
    exact ⟨reply, _, site, answers, rfl⟩
  · rintro before reply _ ⟨writer, image, file, writing, carries, copied⟩ ⟨site, answers, rfl⟩
    obtain ⟨device, files, ⟨_, stands⟩, rfl⟩ :=
      Site.flashed rfl (FileDevice.closeWriter_yields writing carries) answers
    refine ensures_done (stable_left result) ⟨image, ?_, ?_⟩ fun _ left => left
    · exact (BankDirectory.read_bank stands .secondary).trans rfl
    · exact copied_alike copied rfl (heard_append_exchange (by simp))
        (decided_exchange copied.decided (.inl rfl))

structure Ready (banks : BankDirectory) (home : Location) (holdings : Holdings)
    (copying : Copying) : Prop where
  same : copying.site.device.banks = banks
  stands : banks.Stands home holdings copying.site.files
  place : copying.reading = .unread
  writes : copying.writes = []
  attends : Attends copying.site.slot copying.site.history
  unheard : ¬ Heard copying.site.history

theorem stable_ready : (surroundings supply).Stable (Ready banks home holdings) := by
  rintro before _ rfl ready
  exact { ready with
    attends := attends_cancel ready.attends
    unheard := mt heard_append_cancel.1 ready.unheard }

theorem Ready.stood (ready : Ready banks home holdings copying) :
    copying.site.device.banks.Stands home holdings copying.site.files := by
  rw [ready.same]
  exact ready.stands

theorem erase_ready (ready : Ready banks home holdings copying) :
    (surroundings supply).Ensures (Answerable supply)
      (fun reply later => reply = .ok () ∧
        Ready banks home (holdings.set (some []) .secondary) later)
      (Agent.device (.erase .secondary)) copying := by
  refine ensures_ask stable_ready ready ?_ ?_
  · intro later ready
    obtain ⟨reply, site, answers⟩ :=
      Site.answered_of_yields rfl (FileDevice.erase_yields ready.stood .secondary)
    exact ⟨reply, _, site, answers, rfl⟩
  · rintro before reply _ ready ⟨site, answers, rfl⟩
    obtain ⟨device, files, ⟨same, stands⟩, rfl⟩ :=
      Site.flashed rfl (FileDevice.erase_yields ready.stood .secondary) answers
    cases same
    refine ensures_done stable_ready ?_ fun _ ready => ⟨rfl, ready⟩
    exact ⟨ready.same, ready.same ▸ stands, ready.place, ready.writes,
      attends_exchange ready.attends, mt (heard_append_exchange (by simp)).1 ready.unheard⟩

theorem open_ready (ready : Ready banks home (holdings.set (some []) .secondary) copying) :
    (surroundings supply).Ensures (Answerable supply)
      (fun reply later => reply = .ok () ∧ Beside banks home holdings .zero later .unread)
      (Agent.device (.openWriter .secondary)) copying := by
  refine ensures_ask stable_ready ready ?_ ?_
  · intro later ready
    obtain ⟨reply, site, answers⟩ :=
      Site.answered_of_yields rfl (FileDevice.openWriter_yields ready.stood .secondary rfl)
    exact ⟨reply, _, site, answers, rfl⟩
  · rintro before reply _ ready ⟨site, answers, rfl⟩
    obtain ⟨device, files, ⟨same, rfl⟩, rfl⟩ :=
      Site.flashed rfl (FileDevice.openWriter_yields ready.stood .secondary rfl) answers
    cases same
    refine ensures_done (stable_beside .zero .unread) ?_ fun _ beside => ⟨rfl, beside⟩
    refine ⟨ready.place, attends_exchange ready.attends, _, [], [], rfl, ?_, List.nil_prefix,
      fun _ => ?_⟩
    · exact ⟨congrArg (·.bankPath .secondary) ready.same, ready.stands, rfl⟩
    · exact ⟨by rintro _ ⟨⟩, rfl, rfl, rfl, by rintro _ ⟨⟩, ready.writes⟩

theorem attempt_ensures (lenient : ∀ chunks verdict, supply.judges chunks verdict)
    (fits : supply.content.length < UInt64.size) (policy : Policy) (request : Request)
    (named : path? request.url = some supply.path)
    (timeout : supply.timeout = policy.downloadTimeout)
    (ready : Ready banks home holdings copying) :
    (surroundings supply).Ensures (Answerable supply) (Left supply banks)
      (Installation.attempt policy request) copying := by
  simp only [Installation.attempt, bind_eq]
  refine ensures_bind (erase_ready ready) ?_
  rintro _ later ⟨rfl, ready⟩
  refine ensures_bind (open_ready ready) ?_
  rintro _ later ⟨rfl, beside⟩
  rw [← timeout]
  refine ensures_bind (staging_ensures lenient fits _ named _ _ beside) ?_
  rintro _ later ⟨followed, running, rfl, looked⟩
  refine ensures_bind (close_holding (copied_of_looked fits looked)) ?_
  rintro _ later left
  exact ensures_done (stable_left _) left fun _ left => left

end Runs

theorem history_of_answers {supply : Supply} {call : Agent.Call} {before after : Copying}
    {reply : Agent.Reply call} (answers : (surroundings supply).Answers call before reply after) :
    after.site.history = before.site.history ++ [.exchange call reply] := by
  change Answers supply call before reply after at answers
  unfold Answers at answers
  split at answers
  · obtain ⟨site, ⟨_, _, _, _, _, rfl⟩, rfl⟩ := answers
    rfl
  · obtain ⟨_, _, rfl⟩ := answers
    rfl
  · obtain ⟨_, _, _, _, _, rfl⟩ := answers
    rfl
  · obtain ⟨site, answered, rfl⟩ := answers
    exact Site.history_of_answers answered

/-- No call asks for the end. -/
theorem keeps_unasked (supply : Supply) (call : Agent.Call) :
    (surroundings supply).Keeps (fun copying => ¬ Accepted copying.site.history) call := by
  intro before reply after answers unasked accepted
  rw [history_of_answers answers] at accepted
  exact unasked (accepted_append_exchange.1 accepted)

theorem ready_opening {device : FileDevice} {files : FileTree} {home : Location}
    {holdings : Holdings} (settings : SettingsTable)
    (stands : device.banks.Stands home holdings files) :
    Ready device.banks home holdings (opening settings device files) where
  same := rfl
  stands := stands
  place := rfl
  writes := rfl
  attends := .inl ⟨rfl, List.not_mem_nil⟩
  unheard heard := List.not_mem_nil (accepted_of_heard heard)

end Copying

open Copying

/-- One attempt at a file leaves its bytes in the bank, whatever was there before. Where nobody
asked for the end before the agent last looked, it succeeds if there are any bytes, and the write of
the last of them has forced all of them to the medium. Where somebody did, it is canceled, and
leaves the beginning of the file. -/
theorem file_copied (policy : Policy) (request : Request) (path : String) (content : Bytes)
    (fits : content.length < UInt64.size) (named : path? request.url = some path)
    (settings : SettingsTable) (device : FileDevice) (files : FileTree) (home : Location)
    (holdings : Holdings) (stands : device.banks.Stands home holdings files) :
    (∃ result last, (surroundings (.plain path content policy.downloadTimeout)).Leads
        (Installation.attempt policy request, opening settings device files)
        (.done result, last) ∧ ¬ Accepted last.site.history) ∧
    (∀ rest midway, (surroundings (.plain path content policy.downloadTimeout)).Leads
        (Installation.attempt policy request, opening settings device files) (rest, midway) →
      ∃ result last, (surroundings (.plain path content policy.downloadTimeout)).Leads
        (rest, midway) (.done result, last)) ∧
    ∀ result last, (surroundings (.plain path content policy.downloadTimeout)).Leads
        (Installation.attempt policy request, opening settings device files)
        (.done result, last) →
      ∃ earlier running later, last.site.history = earlier ++ look running :: later ∧
        (∀ call reply, .exchange call reply ∈ later → Concludes call) ∧
        (¬ Accepted earlier → (result = .ok () ↔ content ≠ []) ∧
          last.site.files.read (device.banks.bankPath .secondary) = .ok content ∧
          ∃ others, last.writes = others ++
            [⟨true, [⟨device.banks.bankPath .secondary, .ok content⟩]⟩] ∧
              ∀ write ∈ others, write = ⟨false, []⟩) ∧
        (Accepted earlier → result = .error .canceled ∧
          ∃ image, last.site.files.read (device.banks.bankPath .secondary) = .ok image ∧
            image <+: content) := by
  have ensured : (surroundings (.plain path content policy.downloadTimeout)).Ensures _ _ _ _ :=
    attempt_ensures (fun _ _ => trivial) fits policy request named rfl
      (ready_opening settings stands)
  refine ⟨?_, fun rest midway leads => ?_, fun result last leads => ?_⟩
  · exact ends_keeping (fun _ _ answerable => answerable) ensured
      (fun copying => ¬ Accepted copying.site.history) (keeps_unasked _) List.not_mem_nil
  · exact ends_of_ensures (fun _ _ answerable => answerable) (ensures_leads leads ensured)
  · obtain ⟨image, reads, ⟨earlier, running, later, history, since⟩, canceled, finished⟩ :=
      (ensures_leads leads ensured).ended
    rw [history, heard_iff since] at canceled finished
    refine ⟨earlier, running, later, history, since, fun unasked => ?_, fun accepted => ?_⟩
    · obtain ⟨succeeded, rfl, written⟩ := finished unasked
      exact ⟨succeeded, reads, written⟩
    · exact ⟨(canceled accepted).1, image, reads, (canceled accepted).2⟩

theorem file_copied_sample :
    ∃ last, (surroundings (.plain "/tmp/image.bin" [1, 2, 3, 4, 5] 60000)).Leads
        (Installation.attempt .standard { Request.sample with url := "file:///tmp/image.bin" },
          opening .empty Setup.sampleDevice Setup.sampleFiles) (.done (.ok ()), last) ∧
      last.site.files.read (Setup.sampleDevice.banks.bankPath .secondary) =
        .ok [1, 2, 3, 4, 5] := by
  obtain ⟨⟨result, last, leads, unasked⟩, -, ended⟩ := file_copied .standard
    { Request.sample with url := "file:///tmp/image.bin" } "/tmp/image.bin" [1, 2, 3, 4, 5]
    (by decide) (by decide +kernel) .empty Setup.sampleDevice Setup.sampleFiles ["banks"] _
    Setup.stands_sample
  obtain ⟨earlier, running, later, history, -, finished, -⟩ := ended result last leads
  obtain ⟨succeeded, reads, -⟩ := finished fun accepted =>
    unasked (history ▸ List.mem_append_left _ accepted)
  cases succeeded.2 (by simp)
  exact ⟨last, leads, reads⟩

end DualBank
