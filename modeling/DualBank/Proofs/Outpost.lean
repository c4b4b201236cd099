import DualBank.Bench
import DualBank.Proofs.Itinerary
import DualBank.Proofs.Site
import DualBank.Proofs.Transcript

/-! Banks in files, and calls that are refused. The bootloader and the writer of a bank answer from
the files, or refuse. What is stored besides the banks may be anything, so the settings answer as
they like, and so does all else on the device, but a download obeys. -/

namespace DualBank

open Program Surroundings

def Device.Call.Alters : Device.Call → Holdings → Holdings → Prop
  | .erase bank, before, after =>
      after = before ∨ ∃ content, after = before.set (some content) (.ofBank bank)
  | .write .., before, after | .closeWriter, before, after =>
      after = before ∨ ∃ content, after = before.set (some content) .secondary
  | .confirm, before, after =>
      after = before ∨ after = { before with trailer := ⟨before.trailer.testPending, true⟩ }
  | .requestTest, before, after =>
      after = before ∨ after = { before with trailer := ⟨true, before.trailer.confirmed⟩ }
  | _, before, after => after = before

def Agent.Call.Alters : Agent.Call → Holdings → Holdings → Prop
  | .device call, before, after => call.Alters before after
  | _, before, after => after = before

/-- In this history an attempt at a download was made that ended well, and this image is all that
its download handed over. -/
def Installation.Fetched (history : List Happening) (image : Bytes) : Prop :=
  ∃ policy request before attempt after, history = before ++ attempt ++ after ∧
    (Installation.attempt policy request).Does (attempt.filter Happening.isDeed) (.ok ()) ∧
    Transfer.Whole (Transfer.latest attempt) image

/-- The history is all that happened since the process began, oldest first, and the past are the
histories of the processes before it. -/
structure Outpost where
  device : FileDevice
  files : FileTree
  history : List Happening
  past : List (List Happening)

namespace Outpost

def Writes (device : FileDevice) (holdings : Holdings) : Prop :=
  ∀ writer, device.writer = some writer →
    writer.path = device.banks.bankPath .secondary ∧ holdings.secondary ≠ none

def Flashes (call : Device.Call) (before : Outpost) (reply : Device.Reply call)
    (device : FileDevice) (files : FileTree) : Prop :=
  ∃ machine later : Machine, machine.files = before.files ∧ later.files = files ∧
    machine.run (FileDevice.answer call before.device) = (.finished (reply, device), later)

/-- The call fails. It opens no writer, and leaves no more on the banks than it was to leave. -/
structure Refuses (call : Device.Call) (before : Outpost) (reply : Device.Reply call)
    (device : FileDevice) (files : FileTree) : Prop where
  refused : ∃ failure error, Bench.refuse failure error call = some reply
  banks : device.banks = before.device.banks
  writer : ∀ writer, device.writer = some writer →
    ∃ earlier, before.device.writer = some earlier ∧ writer.path = earlier.path
  files : ∀ home holdings, before.device.banks.Stands home holdings before.files →
    ∃ changed, before.device.banks.Stands home changed files ∧ call.Alters holdings changed

def Serves : (call : Device.Call) → Outpost → Device.Reply call → Outpost → Prop
  | .download .., before, transfer, after => transfer.Obeys ∧ after = before
  | call, before, reply, after =>
      if call.isFlash then ∃ device files,
        (before.Flashes call reply device files ∨ before.Refuses call reply device files) ∧
          after = { before with device := device, files := files }
      else after = before

def note (outpost : Outpost) (happening : Happening) : Outpost :=
  { outpost with history := outpost.history ++ [happening] }

def Answers : (call : Agent.Call) → Outpost → Agent.Reply call → Outpost → Prop
  | .device call, before, reply, after => ∃ served, Serves call before reply served ∧
      after = served.note (.exchange (.device call) reply)
  | call, before, reply, after => after = before.note (.exchange call reply)

abbrev surroundings : Surroundings Agent.interface where
  State := Outpost
  Moves _ _ := False
  Answers := Answers

def MayRun (initial : Bytes) (outpost : Outpost) (image : Bytes) : Prop :=
  image = initial ∨ ∃ history ∈ outpost.history :: outpost.past, Installation.Fetched history image

structure Shows (banks : BankDirectory) (home : Location) (holdings : Holdings)
    (device : FileDevice) (files : FileTree) : Prop where
  same : device.banks = banks
  stands : banks.Stands home holdings files
  writes : Writes device holdings

def Keeps (banks : BankDirectory) (home : Location) (initial : Bytes)
    (sound : (Bytes → Prop) → Holdings → Prop) (outpost : Outpost) : Prop :=
  ∃ holdings, Shows banks home holdings outpost.device outpost.files ∧
    sound (outpost.MayRun initial) holdings

variable {banks : BankDirectory} {home : Location} {holdings : Holdings} {device : FileDevice}
  {files : FileTree}

theorem still : surroundings.Still :=
  fun _ _ impossible => impossible

theorem stable (assertion : Outpost → Prop) : surroundings.Stable assertion :=
  fun _ _ impossible => impossible.elim

section Flashing

theorem secondary_of_alters {call : Device.Call} {before after : Holdings}
    (alters : call.Alters before after) (there : before.secondary ≠ none) :
    after.secondary ≠ none := by
  cases call with
  | erase bank =>
      rcases alters with rfl | ⟨content, rfl⟩
      · exact there
      · cases bank with
        | primary => exact there
        | secondary => simp [Holdings.set, BankFile.ofBank]
  | write | closeWriter =>
      rcases alters with rfl | ⟨content, rfl⟩
      · exact there
      · simp [Holdings.set]
  | confirm | requestTest =>
      rcases alters with rfl | rfl <;> exact there
  | _ =>
      cases alters
      exact there

theorem writes_of_alters {call : Device.Call} {before after : Holdings}
    (alters : call.Alters before after) (writes : Writes device before) :
    Writes device after :=
  fun writer writing =>
    ⟨(writes writer writing).1, secondary_of_alters alters (writes writer writing).2⟩

theorem alters_same (call : Device.Call) (holdings : Holdings) :
    call.Alters holdings holdings := by
  cases call <;> first | rfl | exact .inl rfl

theorem carries_of_writes (stands : device.banks.Stands home holdings files)
    (writes : Writes device holdings) {writer : BankWriter}
    (writing : device.writer = some writer) :
    ∃ image file, device.banks.Carries home holdings writer image file files := by
  obtain ⟨path, there⟩ := writes writer writing
  obtain ⟨file, there⟩ := Option.ne_none_iff_exists'.1 there
  refine ⟨_, file, path, ?_, rfl⟩
  obtain ⟨primary, secondary, scratch, trailer⟩ := holdings
  cases there
  exact stands

/-- What the device comes to on its banks, with a writer that is its own. -/
theorem answer_yields {call : Device.Call} (flash : call.isFlash = true)
    (own : ∀ bank, call = .openWriter bank → bank = .secondary) (same : device.banks = banks)
    (stands : banks.Stands home holdings files) (writes : Writes device holdings) :
    files.Yields (FileDevice.answer call device) fun reply changed => reply.2.banks = banks ∧
      ∃ later, banks.Stands home later changed ∧ call.Alters holdings later ∧
        Writes reply.2 later := by
  subst same
  -- Operations of the bootloader leave the device as it is.
  have plain {α : Type} {program : Host α} {post : α → FileTree → Prop}
      (yields : files.Yields program post)
      (alters : ∀ value changed, post value changed → ∃ later,
        device.banks.Stands home later changed ∧ call.Alters holdings later) :
      files.Yields (device.unchanged program) fun reply changed =>
        reply.2.banks = device.banks ∧ ∃ later, device.banks.Stands home later changed ∧
          call.Alters holdings later ∧ Writes reply.2 later := by
    refine FileTree.yields_mono (FileDevice.unchanged_yields yields) ?_
    rintro ⟨value, other⟩ changed ⟨rfl, reached⟩
    obtain ⟨later, stands, alters⟩ := alters _ _ reached
    exact ⟨rfl, later, stands, alters, writes_of_alters alters writes⟩
  cases call with
  | erase bank =>
      exact plain (BankDirectory.erase_yields stands bank) fun _ _ erased =>
        ⟨_, erased.2, .inr ⟨[], rfl⟩⟩
  | openWriter bank =>
      cases own bank rfl
      refine FileTree.yields_bind (BankDirectory.openWriter_yields stands .secondary) ?_
      rintro result changed ⟨rfl, rfl⟩
      cases there : holdings.secondary with
      | none =>
          simp only [BankFile.ofBank, Holdings.content, there]
          exact FileTree.yields_done ⟨rfl, holdings, stands, rfl, writes⟩
      | some content =>
          simp only [BankFile.ofBank, Holdings.content, there]
          refine FileTree.yields_done ⟨rfl, holdings, stands, rfl, ?_⟩
          rintro writer ⟨⟩
          exact ⟨rfl, by simp [there]⟩
  | write data last =>
      cases writing : device.writer with
      | none =>
          rw [FileDevice.answer, writing]
          exact FileTree.yields_done ⟨rfl, holdings, stands, .inl rfl, writes⟩
      | some writer =>
          obtain ⟨image, file, carries⟩ := carries_of_writes stands writes writing
          refine (FileDevice.write_performs writing carries data last).yields ?_
          rintro _ changed _ ⟨later, file, rfl, _, carries, _⟩
          refine ⟨rfl, _, carries.stands, .inr ⟨file, rfl⟩, ?_⟩
          rintro other ⟨⟩
          exact ⟨carries.path, by simp [Holdings.set]⟩
  | closeWriter =>
      cases writing : device.writer with
      | none =>
          rw [FileDevice.answer, writing]
          exact FileTree.yields_done ⟨rfl, holdings, stands, .inl rfl, writes⟩
      | some writer =>
          obtain ⟨image, file, carries⟩ := carries_of_writes stands writes writing
          refine FileTree.yields_mono (FileDevice.closeWriter_yields writing carries) ?_
          rintro _ changed ⟨rfl, stands⟩
          refine ⟨rfl, _, stands, .inr ⟨image, rfl⟩, ?_⟩
          rintro other ⟨⟩
  | readHeader bank =>
      exact plain (BankDirectory.readHeader_yields stands bank) fun _ _ read =>
        ⟨holdings, read.2 ▸ stands, rfl⟩
  | swapType =>
      exact plain (BankDirectory.swapType_yields stands) fun _ _ read =>
        ⟨holdings, read.2 ▸ stands, rfl⟩
  | isConfirmed =>
      exact plain (BankDirectory.isConfirmed_yields stands) fun _ _ read =>
        ⟨holdings, read.2 ▸ stands, rfl⟩
  | confirm =>
      exact plain (BankDirectory.confirm_yields stands) fun _ _ confirmed =>
        ⟨_, confirmed.2, .inr rfl⟩
  | requestTest =>
      exact plain (BankDirectory.requestTest_yields stands) fun _ _ requested =>
        ⟨_, requested.2, .inr rfl⟩
  | _ => contradiction

/-- Whether it is answered or refused, a call does no more to the banks than what it is for. -/
theorem shows_of_run {call : Device.Call} {reply : Device.Reply call} {changed : FileDevice}
    {machine later : Machine} (flash : call.isFlash = true)
    (own : ∀ bank, call = .openWriter bank → bank = .secondary)
    (shows : Shows banks home holdings device files) (held : machine.files = files)
    (ran : machine.run (FileDevice.answer call device) = (.finished (reply, changed), later)) :
    ∃ after, call.Alters holdings after ∧ Shows banks home after changed later.files := by
  obtain ⟨same, after, stands, alters, writes⟩ :=
    (answer_yields flash own shows.same shows.stands shows.writes).of_run held ran
  exact ⟨after, alters, same, stands, writes⟩

end Flashing

end Outpost

namespace Agent.Call

def Own (call : Agent.Call) : Prop :=
  ∀ bank, call = .device (.openWriter bank) → bank = .secondary

variable {uuid : String} {phases : List Phase} {call : Agent.Call} {before after : Holdings}

theorem own_of_announces (announces : call.Announces uuid phases) : call.Own := by
  rintro bank rfl
  exact announces.elim

theorem own_of_aside (aside : call.Aside uuid) : call.Own := by
  rintro bank rfl
  exact aside.elim

theorem own_of_fetches (fetches : call.Fetches uuid) : call.Own := by
  rintro bank rfl
  exact fetches

theorem own_of_handsOver (handsOver : call.HandsOver uuid) : call.Own := by
  rintro bank rfl
  exact handsOver.elim

theorem own_of_settles (settles : call.Settles) : call.Own := by
  rintro bank rfl
  rcases settles with clears | ⟨uuid, announces⟩
  · exact clears.elim
  · exact announces.elim

theorem same_of_announces (announces : call.Announces uuid phases)
    (alters : call.Alters before after) : after = before := by
  unfold Announces at announces
  split at announces <;> first | exact alters | contradiction

theorem same_of_aside (aside : call.Aside uuid) (alters : call.Alters before after) :
    after = before := by
  unfold Aside at aside
  split at aside <;> first | exact alters | exact same_of_announces aside alters

theorem alters_of_fetches (fetches : call.Fetches uuid) (alters : call.Alters before after) :
    after = before ∨ ∃ content, after = before.set (some content) .secondary := by
  unfold Fetches at fetches
  split at fetches <;>
    first
    | subst fetches; exact alters
    | exact alters
    | exact .inl alters
    | exact .inl (same_of_announces fetches alters)

theorem alters_of_handsOver (handsOver : call.HandsOver uuid)
    (alters : call.Alters before after) :
    after = before ∨ after = { before with trailer := ⟨true, before.trailer.confirmed⟩ } := by
  unfold HandsOver at handsOver
  split at handsOver <;>
    first
    | exact alters
    | exact .inl alters
    | exact .inl (same_of_announces handsOver alters)

theorem alters_of_settles (settles : call.Settles) (alters : call.Alters before after) :
    after = before ∨
      after = { before with trailer := ⟨before.trailer.testPending, true⟩ } := by
  unfold Settles at settles
  split at settles
  · exact .inl alters
  · exact .inl alters
  · exact .inl alters
  · exact alters
  · rcases settles with clears | ⟨uuid, announces⟩
    · unfold Clears at clears
      split at clears <;> first | exact .inl alters | contradiction
    · exact .inl (same_of_announces announces alters)

end Agent.Call

namespace Outpost

variable {banks : BankDirectory} {home : Location} {holdings : Holdings} {initial : Bytes}
  {call : Agent.Call} {before after : Outpost} {reply : Agent.interface.Reply call}
  {sound weaker : (Bytes → Prop) → Holdings → Prop}

theorem fetched_append {history : List Happening} {image : Bytes}
    (fetched : Installation.Fetched history image) (more : List Happening) :
    Installation.Fetched (history ++ more) image := by
  obtain ⟨policy, request, earlier, attempt, later, rfl, ends⟩ := fetched
  exact ⟨policy, request, earlier, attempt, later ++ more, List.append_assoc .., ends⟩

theorem served_same {call : Device.Call} {reply : Device.Reply call}
    (serves : Serves call before reply after) :
    after.history = before.history ∧ after.past = before.past := by
  unfold Serves at serves
  split at serves
  · rw [serves.2]
    exact ⟨rfl, rfl⟩
  · split at serves
    · obtain ⟨device, files, _, rfl⟩ := serves
      exact ⟨rfl, rfl⟩
    · rw [serves]
      exact ⟨rfl, rfl⟩

theorem history_of_answers (answers : surroundings.Answers call before reply after) :
    after.history = before.history ++ [.exchange call reply] ∧ after.past = before.past := by
  change Answers call before reply after at answers
  unfold Answers at answers
  split at answers
  · obtain ⟨served, serves, rfl⟩ := answers
    obtain ⟨history, past⟩ := served_same serves
    exact ⟨by rw [note, history], past⟩
  · subst answers
    exact ⟨rfl, rfl⟩

theorem mayRun_of_answers (answers : surroundings.Answers call before reply after) {image : Bytes}
    (mayRun : before.MayRun initial image) : after.MayRun initial image := by
  obtain ⟨longer, past⟩ := history_of_answers answers
  rcases mayRun with same | ⟨history, among, fetched⟩
  · exact .inl same
  · refine .inr ?_
    rw [longer, past]
    rcases List.mem_cons.1 among with rfl | earlier
    · exact ⟨_, .head _, fetched_append fetched _⟩
    · exact ⟨history, .tail _ earlier, fetched⟩

/-- What is answered from the files, or refused, leaves banks that are as they were or as the call
was to make them. -/
theorem shows_of_answers (own : call.Own) (answers : surroundings.Answers call before reply after)
    (shows : Shows banks home holdings before.device before.files) :
    ∃ changed, call.Alters holdings changed ∧
      Shows banks home changed after.device after.files := by
  change Answers call before reply after at answers
  unfold Answers at answers
  split at answers
  · rename_i call reply
    obtain ⟨served, serves, rfl⟩ := answers
    unfold Serves at serves
    split at serves
    · obtain ⟨_, rfl⟩ := serves
      exact ⟨holdings, rfl, shows⟩
    · split at serves
      · rename_i flash
        have own (bank : Bank) (same : call = .openWriter bank) : bank = .secondary :=
          own bank (by rw [same])
        obtain ⟨device, files, flashes | refuses, rfl⟩ := serves
        · obtain ⟨machine, later, held, left, ran⟩ := flashes
          obtain ⟨changed, alters, shows⟩ := shows_of_run flash own shows held ran
          exact ⟨changed, alters, left ▸ shows⟩
        · -- What a refused call left behind is no writer, and no more than the call was to leave.
          obtain ⟨changed, stands, alters⟩ :=
            refuses.files home holdings (shows.same ▸ shows.stands)
          refine ⟨changed, alters, refuses.banks.trans shows.same, shows.same ▸ stands, ?_⟩
          intro writer writing
          obtain ⟨earlier, opened, path⟩ := refuses.writer writer writing
          obtain ⟨target, there⟩ := shows.writes earlier opened
          refine ⟨?_, secondary_of_alters alters there⟩
          change writer.path = device.banks.bankPath .secondary
          rw [path, target, refuses.banks]
      · subst serves
        exact ⟨holdings, alters_same call holdings, shows⟩
  · subst answers
    refine ⟨holdings, ?_, shows⟩
    cases call with
    | device call => exact alters_same call holdings
    | _ => rfl

/-- A call that is no flash call only goes into the history. -/
theorem noted_of_answers
    (unflashed : ∀ flash : Device.Call, call = .device flash → flash.isFlash = false)
    (answers : surroundings.Answers call before reply after) :
    after = before.note (.exchange call reply) := by
  change Answers call before reply after at answers
  unfold Answers at answers
  split at answers
  · rename_i call reply
    obtain ⟨served, serves, rfl⟩ := answers
    unfold Serves at serves
    split at serves
    · rw [serves.2]
    · rw [unflashed call rfl] at serves
      rw [serves]
  · exact answers

-- Where more images may run, nothing is lost.
def Grows (sound : (Bytes → Prop) → Holdings → Prop) : Prop :=
  ∀ (fewer more : Bytes → Prop) (holdings : Holdings), (∀ image, fewer image → more image) →
    sound fewer holdings → sound more holdings

theorem keeps_mono (keeps : before.Keeps banks home initial sound)
    (implies : ∀ images holdings, sound images holdings → weaker images holdings) :
    before.Keeps banks home initial weaker := by
  obtain ⟨holdings, shows, holds⟩ := keeps
  exact ⟨holdings, shows, implies _ _ holds⟩

theorem keeps_of_alters (own : call.Own) (grows : Grows sound)
    (kept : ∀ images before after, call.Alters before after → sound images before →
      sound images after) : surroundings.Keeps (Keeps banks home initial sound) call := by
  rintro before reply after answers ⟨holdings, shows, holds⟩
  obtain ⟨changed, alters, shows⟩ := shows_of_answers own answers shows
  exact ⟨changed, shows, grows _ _ _ (fun _ => mayRun_of_answers answers)
    (kept _ _ _ alters holds)⟩

theorem withstands {calls : Agent.Call → Prop} (own : ∀ call, calls call → call.Own)
    (grows : Grows sound)
    (kept : ∀ call, calls call → ∀ images before after, call.Alters before after →
      sound images before → sound images after)
    (implies : ∀ images holdings, sound images holdings → weaker images holdings) :
    Withstands surroundings (fun _ => Keeps banks home initial weaker) calls
      (Keeps banks home initial sound) where
  stable := stable _
  kept call among := keeps_of_alters (own call among) grows (kept call among)
  guarded _ _ _ keeps := keeps_mono keeps implies

end Outpost

end DualBank
