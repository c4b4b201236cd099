import DualBank.Proofs.Following
import DualBank.Proofs.Outpost

/-! What an attempt at a download leaves in the secondary bank where calls may be refused. If it
ended well, the bank holds all that the download handed over, and nothing else. -/

namespace DualBank

open Program Surroundings

namespace Outpost

variable {banks : BankDirectory} {home : Location} {holdings : Holdings} {begun : List Happening}
  {rest : Download} {progress : Progress} {before after outpost : Outpost}

def Carried (banks : BankDirectory) (home : Location) (image : Bytes) (device : FileDevice)
    (files : FileTree) : Prop :=
  device.banks = banks ∧ ∃ holdings writer file, device.writer = some writer ∧
    banks.Carries home holdings writer image file files ∧
    writer.written = .ofNat image.length

def Filling (banks : BankDirectory) (home : Location) (begun : List Happening) (rest : Download)
    (progress : Progress) (outpost : Outpost) : Prop :=
  ∃ attempt chunks, outpost.history = begun ++ attempt ∧
    Transfer.Handing (Transfer.latest attempt) rest chunks ∧
    Carried banks home (chunks.flatMap Chunk.data) outpost.device outpost.files ∧
    progress.written = .ofNat (chunks.flatMap Chunk.data).length ∧
    ∀ last, chunks.getLast? = some last → progress.total = last.total

theorem flashed_of_answers {call : Device.Call} {reply : Device.Reply call}
    (flash : call.isFlash = true)
    (granted : ∀ failure error, Bench.refuse failure error call ≠ some reply)
    (answers : surroundings.Answers (.device call) before reply after) :
    ∃ device files, before.Flashes call reply device files ∧
      after = { before with device := device, files := files }.note
        (.exchange (.device call) reply) := by
  obtain ⟨served, serves, rfl⟩ := answers
  unfold Serves at serves
  split at serves
  · contradiction
  · rw [if_pos flash] at serves
    obtain ⟨device, files, flashes | refuses, rfl⟩ := serves
    · exact ⟨device, files, flashes, rfl⟩
    · obtain ⟨failure, error, refused⟩ := refuses.refused
      exact absurd refused (granted failure error)

section Flashing

variable (shows : Shows banks home holdings before.device before.files)
include shows

theorem erased_of_answers
    (answers : surroundings.Answers (.device (.erase .secondary)) before (.ok ()) after) :
    Shows banks home (holdings.set (some []) .secondary) after.device after.files := by
  obtain ⟨device, files, ⟨machine, later, held, rfl, ran⟩, rfl⟩ :=
    flashed_of_answers rfl (by simp [Bench.refuse]) answers
  obtain ⟨same, stands⟩ :=
    (FileDevice.erase_yields (shows.same ▸ shows.stands) .secondary).of_run held ran
  cases same
  refine ⟨shows.same, shows.same ▸ stands, fun writer writing => ?_⟩
  exact ⟨(shows.writes writer writing).1, Option.some_ne_none []⟩

theorem opened_of_answers (empty : holdings.secondary = some [])
    (answers : surroundings.Answers (.device (.openWriter .secondary)) before (.ok ()) after) :
    Carried banks home [] after.device after.files := by
  obtain ⟨device, files, ⟨machine, later, held, rfl, ran⟩, rfl⟩ :=
    flashed_of_answers rfl (by simp [Bench.refuse]) answers
  obtain ⟨same, left⟩ :=
    (FileDevice.openWriter_yields (shows.same ▸ shows.stands) .secondary empty).of_run held ran
  cases same
  have stands : banks.Stands home (holdings.set (some []) .secondary) later.files := by
    obtain ⟨primary, secondary, scratch, trailer⟩ := holdings
    cases empty
    exact left ▸ shows.stands
  exact ⟨shows.same, holdings, _, [], rfl, ⟨by rw [shows.same], stands, rfl⟩, rfl⟩

end Flashing

theorem written_of_answers {image data : Bytes} {last : Bool} {written : UInt64}
    (carried : Carried banks home image before.device before.files)
    (answers : surroundings.Answers (.device (.write data last)) before (.ok written) after) :
    Carried banks home (image ++ data) after.device after.files ∧
      written = .ofNat (image ++ data).length := by
  obtain ⟨device, files, ⟨machine, later, held, rfl, ran⟩, rfl⟩ :=
    flashed_of_answers rfl (by simp [Bench.refuse]) answers
  obtain ⟨same, holdings, writer, file, writing, carries, counted⟩ := carried
  obtain ⟨next, file, answered, onward, carries, _⟩ :=
    (FileDevice.write_performs writing carries data last).of_run held ran
  cases answered
  have longer : next.written = .ofNat (image ++ data).length := by
    rw [onward, counted, List.length_append, UInt64.ofNat_add]
  exact ⟨⟨same, holdings, next, file, rfl, carries, longer⟩, longer⟩

theorem closed_of_answers {image : Bytes}
    (carried : Carried banks home image before.device before.files)
    (answers : surroundings.Answers (.device .closeWriter) before () after) :
    after.files.read (banks.bankPath .secondary) = .ok image := by
  obtain ⟨device, files, ⟨machine, later, held, rfl, ran⟩, rfl⟩ :=
    flashed_of_answers rfl (by simp [Bench.refuse]) answers
  obtain ⟨same, holdings, writer, file, writing, carries, _⟩ := carried
  obtain ⟨_, stands⟩ := (FileDevice.closeWriter_yields writing carries).of_run held ran
  exact BankDirectory.read_bank stands .secondary

/-- Chunk by chunk, the bank is filled with what the download hands over. -/
theorem fills (banks : BankDirectory) (home : Location) (begun : List Happening) (step : UInt8) :
    Staging.Fills surroundings step (Filling banks home begun) where
  still := still
  aside := by
    rintro rest progress call among before reply after answers
      ⟨attempt, chunks, history, handing, filled⟩
    have unflashed (flash : Device.Call) (same : call = .device flash) :
        flash.isFlash = false := by
      subst same
      rcases among with incidental | impossible
      · cases flash <;> first | rfl | exact incidental.elim
      · cases impossible
    rw [noted_of_answers unflashed answers]
    refine ⟨attempt ++ [.exchange call reply], chunks, ?_, ?_, filled⟩
    · rw [note, history, List.append_assoc]
    · rw [Transfer.latest_append]
      rcases among with incidental | rfl
      · cases call with
        | device call => cases call <;> first | exact handing | exact incidental.elim
        | shared call => exact handing
        | join => exact handing
      · exact handing
  source := by
    rintro call next progress before reply after ⟨attempt, chunks, history, handing, filled⟩ answers
    rw [noted_of_answers (by rintro _ ⟨⟩; rfl) answers]
    refine ⟨attempt ++ [.exchange (.device (.source call)) reply], chunks, ?_, ?_, filled⟩
    · rw [note, history, List.append_assoc]
    · rw [Transfer.latest_append]
      exact Transfer.handing_source handing reply
  write := by
    rintro chunk next progress before written after
      ⟨attempt, chunks, history, handing, carried, _, _⟩ answers
    obtain ⟨carried, counted⟩ := written_of_answers carried answers
    obtain ⟨sameWritten, sameTotal⟩ :=
      Progress.advance_snd { progress with written := written, total := chunk.total } step
    have longer : (chunks ++ [chunk]).flatMap Chunk.data =
        chunks.flatMap Chunk.data ++ chunk.data := by simp
    refine ⟨attempt ++ [.exchange (.device (.write chunk.data chunk.last)) (.ok written)],
      chunks ++ [chunk], ?_, ?_, longer ▸ carried, ?_, ?_⟩
    · rw [(history_of_answers answers).1, history, List.append_assoc]
    · rw [Transfer.latest_append]
      exact Transfer.handing_deliver handing
    · rw [sameWritten, longer]
      exact counted
    · intro last found
      rw [sameTotal]
      simp only [List.getLast?_append, List.getLast?_singleton, Option.some_or,
        Option.some.injEq] at found
      rw [← found]

theorem whole_of_filling (filling : outpost.Filling banks home begun (.done (.ok ())) progress)
    (some : progress.written ≠ 0) (all : progress.written = progress.total) :
    ∃ attempt image, outpost.history = begun ++ attempt ∧
      Transfer.Whole (Transfer.latest attempt) image ∧
      Carried banks home image outpost.device outpost.files := by
  obtain ⟨attempt, chunks, history, handing, carried, counted, announced⟩ := filling
  have filled : chunks.flatMap Chunk.data ≠ [] := by
    intro empty
    rw [empty] at counted
    exact some counted
  have delivered : chunks ≠ [] := by
    rintro rfl
    exact filled rfl
  refine ⟨attempt, _, history, ⟨chunks, chunks.getLast delivered,
    Transfer.handedOver_of_handing handing, rfl, filled,
    List.getLast?_eq_some_getLast delivered, ?_⟩, carried⟩
  rw [← counted, all, announced _ (List.getLast?_eq_some_getLast delivered)]

/-- An attempt erases the bank first, so what is there in the end was all written by itself. -/
theorem attempt_fills (policy : Policy) (request : Request)
    (shows : Shows banks home holdings outpost.device outpost.files) :
    surroundings.Ensures (fun _ _ => True)
      (fun result later => result = .ok () → ∃ attempt image,
        later.history = outpost.history ++ attempt ∧
        Transfer.Whole (Transfer.latest attempt) image ∧
        later.files.read (banks.bankPath .secondary) = .ok image)
      (Installation.attempt policy request) outpost := by
  have erases (after : Outpost)
      (answers : surroundings.Answers (.device (.erase .secondary)) outpost (.ok ()) after) :
      (∃ attempt, after.history = outpost.history ++ attempt) ∧
        Shows banks home (holdings.set (some []) .secondary) after.device after.files :=
    ⟨⟨[.exchange (.device (.erase .secondary)) (.ok ())], (history_of_answers answers).1⟩,
      erased_of_answers shows answers⟩
  have opens (before after : Outpost)
      (erased : (∃ attempt, before.history = outpost.history ++ attempt) ∧
        Shows banks home (holdings.set (some []) .secondary) before.device before.files)
      (answers : surroundings.Answers (.device (.openWriter .secondary)) before (.ok ()) after) :
      (∃ attempt, after.history = outpost.history ++ attempt) ∧
        Carried banks home [] after.device after.files := by
    obtain ⟨⟨attempt, history⟩, shows⟩ := erased
    refine ⟨⟨attempt ++ [.exchange (.device (.openWriter .secondary)) (.ok ())], ?_⟩,
      opened_of_answers shows rfl answers⟩
    rw [(history_of_answers answers).1, history, List.append_assoc]
  have begins (before : Outpost) (download : Download) (after : Outpost)
      (ready : (∃ attempt, before.history = outpost.history ++ attempt) ∧
        Carried banks home [] before.device before.files)
      (answers : surroundings.Answers (.device (.download request.url policy.headers
        policy.downloadTimeout)) before download after) :
      download.Obeys ∧ Filling banks home outpost.history download .zero after := by
    obtain ⟨_, ⟨obeys, rfl⟩, rfl⟩ := answers
    obtain ⟨⟨attempt, history⟩, carried⟩ := ready
    refine ⟨obeys, attempt ++ [.exchange (.device (.download request.url policy.headers
      policy.downloadTimeout)) download], [], ?_, ?_, carried, rfl, by simp⟩
    · rw [note, history, List.append_assoc]
    · rw [Transfer.latest_append]
      exact Transfer.handing_start download
  refine (fills banks home outpost.history policy.progressStep).attempt_ensures erases opens
    begins ?_
  intro progress before after filling some all answers
  obtain ⟨attempt, image, history, whole, carried⟩ := whole_of_filling filling some all
  refine ⟨attempt ++ [.exchange (.device .closeWriter) ()], image, ?_, ?_,
    closed_of_answers carried answers⟩
  · rw [(history_of_answers answers).1, history, List.append_assoc]
  · rw [Transfer.latest_append]
    exact whole

/-- A run of a program that has ended is a transcript of it. -/
theorem does_of_leads {α : Type} {program : Agent α} {value : α}
    (leads : surroundings.Leads (program, before) (.done value, after)) :
    ∃ made, after.history = before.history ++ made ∧
      program.Does (made.filter Happening.isDeed) value := by
  induction program generalizing before with
  | done outcome =>
      obtain ⟨same, passes⟩ := passes_of_leads leads
      cases same
      rw [still.stays passes]
      exact ⟨[], (List.append_nil _).symm, rfl, rfl⟩
  | ask call next ih =>
      obtain ⟨later, reply, between, passes, answers, onward⟩ := answers_of_leads leads
      obtain ⟨made, longer, does⟩ := ih reply onward
      rw [still.stays passes] at answers
      refine ⟨[.exchange call reply] ++ made, ?_, reply, _, List.filter_append .., does⟩
      rw [longer, (history_of_answers answers).1, List.append_assoc]

theorem attempt_fetches (policy : Policy) (request : Request)
    (shows : Shows banks home holdings outpost.device outpost.files) :
    surroundings.Ensures (fun _ _ => True)
      (fun result later => result = .ok () → ∃ image,
        later.files.read (banks.bankPath .secondary) = .ok image ∧
          Installation.Fetched later.history image)
      (Installation.attempt policy request) outpost := by
  have made := @ensures_self _ _ surroundings (Installation.attempt policy request) outpost
  refine ensures_mono (ensures_and (attempt_fills policy request shows) made) ?_
  rintro result later ⟨filled, leads⟩ succeeded
  obtain ⟨attempt, image, history, whole, read⟩ := filled succeeded
  obtain ⟨made, longer, does⟩ := does_of_leads leads
  obtain rfl : made = attempt := List.append_cancel_left (longer.symm.trans history)
  subst succeeded
  exact ⟨image, read, policy, request, outpost.history, made, [], by simp [history], does, whole⟩

end Outpost

end DualBank
