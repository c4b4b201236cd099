import DualBank.Proofs.Following
import DualBank.Proofs.Itinerary
import DualBank.Proofs.Trial

/-! What is in the bank when an installation looks at the image it staged. Attempts may fail at any
place and leave anything behind; the one that counts has erased the bank first, has written every
chunk it was handed, and has found as many bytes as the last of them announced. -/

namespace DualBank

open Program Surroundings

structure Staged where
  bank : Bytes
  taken : Nat

/-- Whether a device may give this reply, and what bank and writer then are. What is refused may
leave anything behind. -/
def Device.Call.Changes : (call : Device.Call) → (before : Staged) → Device.Reply call →
    (after : Staged) → Prop
  | .erase .secondary, _, .ok (), after => after.bank = []
  | .openWriter .secondary, before, .ok (), after => after = ⟨before.bank, 0⟩
  | .write data _, before, .ok written, after =>
      after = ⟨before.bank ++ data, before.taken + data.length⟩ ∧ written.toNat = after.taken
  | .erase .secondary, _, .error _, _ => True
  | .openWriter .secondary, _, .error _, _ => True
  | .write .., _, .error _, _ => True
  | .download .., before, transfer, after => transfer.Obeys ∧ after = before
  | _, before, _, after => after = before

structure Intake where
  staged : Staged
  history : List Happening

namespace Intake

def Answers : (call : Agent.Call) → Intake → Agent.Reply call → Intake → Prop
  | .device call, before, reply, after => ∃ staged, call.Changes before.staged reply staged ∧
      after = ⟨staged, before.history ++ [.exchange (.device call) reply]⟩
  | call, before, reply, after =>
      after = ⟨before.staged, before.history ++ [.exchange call reply]⟩

-- The slot is free to answer as it likes, so the installation may be told to end at any look.
abbrev surroundings : Surroundings Agent.interface where
  State := Intake
  Moves _ _ := False
  Answers := Answers

def opening (bank : Bytes) : Intake :=
  ⟨⟨bank, 0⟩, []⟩

def transfer (intake : Intake) : Option Transfer :=
  Transfer.latest intake.history

/-- The bank holds what the latest transfer handed over, chunk after chunk and nothing else; it is
not empty, and as long as the last chunk announced. -/
def Complete (intake : Intake) : Prop :=
  ∃ chunks last, Transfer.HandedOver intake.transfer chunks ∧
    intake.staged.bank = chunks.flatMap Chunk.data ∧ intake.staged.bank ≠ [] ∧
    chunks.getLast? = some last ∧ intake.staged.bank.length = last.total.toNat

def Filling (rest : Download) (progress : Progress) (intake : Intake) : Prop :=
  ∃ chunks, Transfer.Handing intake.transfer rest chunks ∧
    intake.staged.bank = chunks.flatMap Chunk.data ∧
    intake.staged.taken = intake.staged.bank.length ∧
    progress.written.toNat = intake.staged.bank.length ∧
    ∀ last, chunks.getLast? = some last → progress.total = last.total

end Intake

namespace Agent.Call

def Remote : Agent.Call → Prop
  | .device (.erase _) | .device (.openWriter _) | .device (.write ..) | .device (.download ..)
  | .device (.source _) => False
  | _ => True

def Supplied : Agent.Call → Intake → Prop
  | .device (.readHeader bank), intake => bank = .secondary ∧ intake.Complete
  | _, _ => True

variable {uuid : String} {call : Agent.Call}

theorem remote_of_announces {phases : List Phase} (announces : call.Announces uuid phases) :
    call.Remote := by
  unfold Announces at announces
  split at announces <;> trivial

theorem remote_of_incidental (incidental : call.Incidental) : call.Remote := by
  unfold Incidental at incidental
  split at incidental <;> trivial

theorem remote_of_aside (aside : call.Aside uuid) : call.Remote := by
  unfold Aside at aside
  split at aside <;> first | trivial | exact remote_of_announces aside

theorem remote_of_handsOver (handsOver : call.HandsOver uuid) : call.Remote := by
  unfold HandsOver at handsOver
  split at handsOver <;> first | trivial | exact remote_of_announces handsOver

theorem supplied_of_announces {phases : List Phase} (announces : call.Announces uuid phases)
    (intake : Intake) : call.Supplied intake := by
  unfold Announces at announces
  split at announces <;> trivial

theorem supplied_of_aside (aside : call.Aside uuid) (intake : Intake) : call.Supplied intake := by
  unfold Aside at aside
  split at aside <;> first | trivial | exact supplied_of_announces aside intake

theorem supplied_of_fetches (fetches : call.Fetches uuid) (intake : Intake) :
    call.Supplied intake := by
  unfold Fetches at fetches
  split at fetches <;> first | trivial | exact supplied_of_announces fetches intake

theorem supplied_of_handsOver (handsOver : call.HandsOver uuid) {intake : Intake}
    (complete : intake.Complete) : call.Supplied intake := by
  unfold HandsOver at handsOver
  split at handsOver <;>
    first | exact ⟨handsOver, complete⟩ | trivial | exact supplied_of_announces handsOver intake

end Agent.Call

open Agent.Call

namespace Intake

variable {call : Agent.Call} {before after : Intake} {reply : Agent.interface.Reply call}

theorem still : surroundings.Still :=
  fun _ _ impossible => impossible

theorem stable (assertion : Intake → Prop) : surroundings.Stable assertion :=
  fun _ _ impossible => impossible.elim

theorem remote_of_answers (answers : surroundings.Answers call before reply after)
    (remote : call.Remote) :
    after.staged = before.staged ∧ after.transfer = before.transfer := by
  cases call with
  | device call =>
      obtain ⟨staged, changes, rfl⟩ := answers
      refine ⟨?_, ?_⟩
      · cases call <;> first | exact remote.elim | exact changes
      · rw [transfer, Transfer.latest_append]
        cases call <;> first | exact remote.elim | rfl
  | shared call =>
      cases answers
      exact ⟨rfl, Transfer.latest_append ..⟩
  | join =>
      cases answers
      exact ⟨rfl, Transfer.latest_append ..⟩

theorem keeps_complete (call : Agent.Call) (remote : call.Remote) :
    surroundings.Keeps Complete call := by
  rintro before reply after answers ⟨chunks, last, handed, complete⟩
  obtain ⟨staged, transfer⟩ := remote_of_answers answers remote
  refine ⟨chunks, last, transfer ▸ handed, ?_⟩
  rw [staged]
  exact complete

theorem filling_remote {rest : Download} {progress : Progress} (remote : call.Remote)
    (answers : surroundings.Answers call before reply after)
    (filling : before.Filling rest progress) : after.Filling rest progress := by
  obtain ⟨chunks, handing, filled⟩ := filling
  obtain ⟨staged, transfer⟩ := remote_of_answers answers remote
  refine ⟨chunks, transfer ▸ handing, ?_⟩
  rw [staged]
  exact filled

section Fetching

variable {intake : Intake}

theorem filling_write {chunk : Chunk} {next : Verdict → Download} {progress : Progress}
    {before after : Intake} {written : UInt64} (step : UInt8)
    (filling : before.Filling (.ask (.deliver chunk) next) progress)
    (answers : surroundings.Answers (.device (.write chunk.data chunk.last)) before (.ok written)
      after) :
    after.Filling (next ⟨.ok (), false⟩)
      ({ progress with written := written, total := chunk.total }.advance step).2 := by
  obtain ⟨chunks, handing, bank, taken, _, _⟩ := filling
  obtain ⟨_, ⟨rfl, counted⟩, rfl⟩ := answers
  obtain ⟨sameWritten, sameTotal⟩ :=
    Progress.advance_snd { progress with written := written, total := chunk.total } step
  have longer : (before.staged.bank ++ chunk.data).length =
      before.staged.taken + chunk.data.length := by
    rw [List.length_append, taken]
  refine ⟨chunks ++ [chunk], ?_, ?_, longer.symm, ?_, ?_⟩
  · rw [transfer, Transfer.latest_append]
    exact Transfer.handing_deliver handing
  · simp [bank]
  · rw [sameWritten, counted]
    exact longer.symm
  · intro last found
    rw [sameTotal]
    simp only [List.getLast?_append, List.getLast?_singleton, Option.some_or,
      Option.some.injEq] at found
    rw [← found]

theorem fills (step : UInt8) :
    Staging.Fills surroundings step fun rest progress intake => intake.Filling rest progress where
  still := still
  aside := by
    intro rest progress call among before reply after answers filling
    refine filling_remote ?_ answers filling
    rcases among with incidental | rfl
    · exact remote_of_incidental incidental
    · trivial
  source := by
    rintro call next progress before reply after ⟨chunks, handing, filled⟩ ⟨_, rfl, rfl⟩
    refine ⟨chunks, ?_, filled⟩
    rw [transfer, Transfer.latest_append]
    exact Transfer.handing_source handing reply
  write _ _ _ _ _ _ filling answers := filling_write step filling answers

theorem complete_of_filling {progress : Progress}
    (filling : intake.Filling (.done (.ok ())) progress) (some : progress.written ≠ 0)
    (all : progress.written = progress.total) : intake.Complete := by
  obtain ⟨chunks, handing, bank, _, counted, announced⟩ := filling
  have filled : intake.staged.bank ≠ [] := by
    intro empty
    rw [empty] at counted
    exact some (UInt64.toNat_inj.1 counted)
  have delivered : chunks ≠ [] := by
    rintro rfl
    exact filled bank
  refine ⟨chunks, chunks.getLast delivered, Transfer.handedOver_of_handing handing, bank, filled,
    List.getLast?_eq_some_getLast delivered, ?_⟩
  rw [← counted, all, announced _ (List.getLast?_eq_some_getLast delivered)]

theorem attempt_completes (policy : Policy) (request : Request) (intake : Intake) :
    surroundings.Ensures (fun _ _ => True) (fun result later => result = .ok () → later.Complete)
      (Installation.attempt policy request) intake := by
  have erases (after : Intake)
      (answers : surroundings.Answers (.device (.erase .secondary)) intake (.ok ()) after) :
      after.staged.bank = [] := by
    obtain ⟨_, erased, rfl⟩ := answers
    exact erased
  have opens (before after : Intake) (erased : before.staged.bank = [])
      (answers : surroundings.Answers (.device (.openWriter .secondary)) before (.ok ()) after) :
      after.staged = ⟨[], 0⟩ := by
    obtain ⟨_, rfl, rfl⟩ := answers
    exact congrArg (Staged.mk · 0) erased
  have begins (before : Intake) (download : Download) (after : Intake)
      (erased : before.staged = ⟨[], 0⟩)
      (answers : surroundings.Answers (.device (.download request.url policy.headers
        policy.downloadTimeout)) before download after) :
      download.Obeys ∧ after.Filling download .zero := by
    obtain ⟨_, ⟨obeys, rfl⟩, rfl⟩ := answers
    refine ⟨obeys, [], ?_, by simp [erased], by simp [erased], by simp [erased, Progress.zero],
      by simp⟩
    rw [transfer, Transfer.latest_append]
    exact Transfer.handing_start download
  refine (fills policy.progressStep).attempt_ensures erases opens begins ?_
  intro progress before after filling some all answers
  exact keeps_complete (.device .closeWriter) trivial before () after answers
    (complete_of_filling filling some all)

end Fetching

theorem itinerary (policy : Policy) (request : Request) :
    Itinerary surroundings Supplied policy request (fun _ => True) Complete Complete
      (fun _ => True) (fun _ => True) fun _ => True := by
  have nothing : Withstands surroundings Supplied (Aside request.uuid) fun _ => True :=
    ⟨stable _, fun _ _ _ _ _ _ _ => trivial, fun _ state aside _ => supplied_of_aside aside state⟩
  refine
    { ready_withstands := nothing
      told_withstands := ⟨stable _, fun _ aside => keeps_complete _ (remote_of_aside aside),
        fun _ state aside _ => supplied_of_aside aside state⟩
      stuck_withstands := nothing
      stuck_of_ready := fun _ _ => trivial
      stuck_of_told := fun _ _ => trivial
      stable_staged := stable _
      stable_restarting := stable _
      stable_finished := stable _
      attempt := fun intake _ => ?_
      deploying := fun intake complete => ?_
      handOver := fun intake complete => ?_
      finish := fun _ _ _ _ => ⟨trivial, fun _ _ _ _ _ => trivial⟩ }
  · have fetching : Withstands surroundings Supplied (Fetches request.uuid) fun _ => True :=
      ⟨stable _, fun _ _ _ _ _ _ _ => trivial,
        fun _ state fetches _ => supplied_of_fetches fetches state⟩
    refine ensures_mono (ensures_and
      (fetching.ensures (attempt_always policy request) (fun _ fetches => fetches) trivial)
      (attempt_completes policy request intake)) ?_
    rintro result later ⟨_, complete⟩
    cases result with
    | ok value => exact complete rfl
    | error error => trivial
  · refine ensures_mono (ensures_always (phase_always (.head [])) (stable Complete)
      (fun _ announces => keeps_complete _ (remote_of_announces announces))
      (fun _ later announces _ => supplied_of_announces announces later) complete) ?_
    exact fun _ _ ended => ended.2
  · refine ensures_mono (ensures_always (handOver_always policy) (stable Complete)
      (fun _ handsOver => keeps_complete _ (remote_of_handsOver handsOver))
      (fun _ later handsOver complete => supplied_of_handsOver handsOver complete) complete) ?_
    intro result _ _
    cases result <;> trivial

end Intake

open Intake

/-- Whenever an installation reads the header of the image it staged, the bank holds exactly what
the last download handed over, which is something, and as long as its last chunk announced. -/
theorem staged_image_exact (policy : Policy) (request : Request) (bank : Bytes) (read : Bank)
    (next : Except FlashError Image.Header → Agent Outcome) (intake : Intake)
    (leads : surroundings.Leads (Installation.run policy request, opening bank)
      (.ask (.device (.readHeader read)) next, intake)) :
    read = .secondary ∧ ∃ chunks last, Transfer.HandedOver intake.transfer chunks ∧
      intake.staged.bank = chunks.flatMap Chunk.data ∧ intake.staged.bank ≠ [] ∧
      chunks.getLast? = some last ∧ intake.staged.bank.length = last.total.toNat :=
  (ensures_leads leads ((itinerary policy request).run_ensures trivial)).guarded

section Samples

def Staged.reply? (download : Download) : (call : Device.Call) → Staged →
    Option (Device.Reply call × Staged)
  | .erase .secondary, staged => some (.ok (), ⟨[], staged.taken⟩)
  | .openWriter .secondary, staged => some (.ok (), ⟨staged.bank, 0⟩)
  | .write data _, staged =>
      if staged.taken + data.length < UInt64.size then
        some (.ok (.ofNat (staged.taken + data.length)),
          ⟨staged.bank ++ data, staged.taken + data.length⟩)
      else none
  | .download .., staged => some (download, staged)
  | call, staged => some ((Bench.answer call .fresh).1, staged)

theorem Staged.changes_of_reply {download : Download} (obeys : download.Obeys)
    {call : Device.Call} {before after : Staged} {reply : Device.Reply call}
    (replied : before.reply? download call = some (reply, after)) :
    call.Changes before reply after := by
  cases call with
  | erase bank =>
      cases bank
      all_goals
        cases replied
        rfl
  | openWriter bank =>
      cases bank
      all_goals
        cases replied
        rfl
  | write data last =>
      rw [Staged.reply?] at replied
      split at replied
      · rename_i bound
        cases replied
        exact ⟨rfl, UInt64.toNat_ofNat_of_lt' bound⟩
      · cases replied
  | download url headers timeout =>
      cases replied
      exact ⟨obeys, rfl⟩
  | _ => exact (congrArg Prod.snd (Option.some.inj replied)).symm

def Agent.readsHeader {α : Type} : Agent α → Bool
  | .ask (.device (.readHeader .secondary)) _ => true
  | _ => false

theorem Agent.ask_of_readsHeader {α : Type} {program : Agent α}
    (reads : program.readsHeader = true) :
    ∃ next, program = .ask (.device (.readHeader .secondary)) next := by
  unfold readsHeader at reads
  split at reads
  · exact ⟨_, rfl⟩
  · contradiction

namespace Intake

def isDownload : Happening → Bool
  | .exchange (.device (.download ..)) _ => true
  | _ => false

def answer (script : Nat → Download) : (call : Agent.Call) → Intake →
    Option (Agent.Reply call × Intake)
  | .device (.readHeader _), _ | .shared (.launch ..), _ | .join, _ => none
  | .device call, intake =>
      (intake.staged.reply? (script (intake.history.countP isDownload)) call).map
        fun (reply, staged) => (reply, ⟨staged, intake.history ++ [.exchange (.device call) reply]⟩)
  | .shared (.slot operation), intake =>
      some (true, ⟨intake.staged,
        intake.history ++ [.exchange (.shared (.slot operation)) true]⟩)
  | .shared (.notify notification), intake =>
      some ((), ⟨intake.staged,
        intake.history ++ [.exchange (.shared (.notify notification)) ()]⟩)

theorem answers_of_answer {script : Nat → Download} (obeys : ∀ number, (script number).Obeys)
    (call : Agent.Call) (before : Intake) (reply : Agent.Reply call) (after : Intake)
    (answered : answer script call before = some (reply, after)) :
    surroundings.Answers call before reply after := by
  unfold answer at answered
  split at answered
  · cases answered
  · cases answered
  · cases answered
  · rename_i call intake _
    obtain ⟨⟨reply, staged⟩, replied, same⟩ := Option.map_eq_some_iff.1 answered
    cases same
    exact ⟨staged, Staged.changes_of_reply (obeys _) replied, rfl⟩
  · cases answered
    rfl
  · cases answered
    rfl

def script : Nat → Download
  | 0 => .ofChunks (.error .network) [⟨[9, 9], 2, 5, false⟩]
  | _ => .ofChunks (.ok ()) [⟨[1, 2], 2, 5, false⟩, ⟨[3], 3, 3, true⟩]

end Intake

theorem staged_image_exact_retried :
    ∃ (next : Except FlashError Image.Header → Agent Outcome) (intake : Intake),
      surroundings.Leads (Installation.run .standard .sample, opening [7])
        (.ask (.device (.readHeader .secondary)) next, intake) ∧
      ∃ chunks last, Transfer.HandedOver intake.transfer chunks ∧
        intake.staged.bank = chunks.flatMap Chunk.data ∧ intake.staged.bank ≠ [] ∧
        chunks.getLast? = some last ∧ intake.staged.bank.length = last.total.toNat := by
  have obeys (number : Nat) : (script number).Obeys := by
    cases number <;> exact Download.obeys_ofChunks ..
  have leads := leads_advance surroundings id (answer script) (answers_of_answer obeys)
    (Installation.run .standard .sample) (opening [7])
  have stops : Agent.readsHeader
      ((Installation.run .standard .sample).advance (answer script) (opening [7])).1 = true := by
    decide +kernel
  obtain ⟨next, same⟩ := Agent.ask_of_readsHeader stops
  rw [same] at leads
  exact ⟨next, _, leads, (staged_image_exact _ _ _ _ _ _ leads).2⟩

end Samples

end DualBank
