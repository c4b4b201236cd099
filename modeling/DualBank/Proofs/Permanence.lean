import DualBank.Proofs.Life

/-! Which image is permanent, through any sequence of updates that are prepared, confirmations and
passes of the bootloader. The trailer only says whether the image that runs is permanent, and a pass
that has nothing to try leaves it saying so. That is right as long as the bank that a trial replaced
is left alone while the trial is on. -/

namespace DualBank

open Program FileTree

namespace Device.Call

def Prepares : Device.Call → Prop
  | .erase bank | .openWriter bank => bank = .secondary
  | .write .. | .closeWriter | .requestTest => True
  | _ => False

def Inspects : Device.Call → Prop
  | .readHeader _ | .swapType | .isConfirmed => True
  | _ => False

end Device.Call

/-- The images that were made permanent are the one that ran in the beginning, and each that ran
when it was confirmed. -/
structure Custody where
  device : FileDevice
  files : FileTree
  permanent : List Bytes

namespace Custody

def start (device : FileDevice) (files : FileTree) (image : Bytes) : Custody :=
  ⟨{ device with writer := none }, files, [image]⟩

def keep (custody : Custody) : Except FlashError Unit → Custody
  | .error _ => custody
  | .ok () =>
      match custody.files.read (custody.device.banks.bankPath .primary) with
      | .ok image => { custody with permanent := custody.permanent ++ [image] }
      | .error _ => custody

def Confirmed (custody : Custody) : Prop :=
  custody.files.Yields custody.device.banks.isConfirmed fun confirmed _ => confirmed = true

inductive Step (admits : Custody → Prop) : Custody → Custody → Prop
  | inspect {custody : Custody} {call : Device.Call} {reply : Device.Reply call}
      {device : FileDevice} {machine later : Machine} :
      call.Inspects → machine.files = custody.files →
      machine.run (FileDevice.answer call custody.device) = (.finished (reply, device), later) →
      Step admits custody ⟨device, later.files, custody.permanent⟩
  | prepare {custody : Custody} {call : Device.Call} {reply : Device.Reply call}
      {device : FileDevice} {machine later : Machine} :
      call.Prepares → admits custody → machine.files = custody.files →
      machine.run (FileDevice.answer call custody.device) = (.finished (reply, device), later) →
      Step admits custody ⟨device, later.files, custody.permanent⟩
  | confirm {custody : Custody} {reply : Except FlashError Unit} {device : FileDevice}
      {machine later : Machine} :
      machine.files = custody.files →
      machine.run (FileDevice.answer .confirm custody.device) =
        (.finished (reply, device), later) →
      Step admits custody (keep ⟨device, later.files, custody.permanent⟩ reply)
  | boot {custody : Custody} {result : Except Failure BootAction} {machine later : Machine} :
      machine.files = custody.files →
      machine.run custody.device.banks.boot = (.finished result, later) →
      Step admits custody
        ⟨{ custody.device with writer := none }, later.files, custody.permanent⟩

def Reaches (admits : Custody → Prop) : Custody → Custody → Prop :=
  Relation.ReflTransGen (Step admits)

end Custody

namespace Holdings

structure Proven (permanent : List Bytes) (holdings : Holdings) : Prop where
  running : ∃ image, holdings.primary = some image ∧
    (holdings.trailer.confirmed = true → image ∈ permanent)
  replaced : holdings.trailer.confirmed = false → holdings.trailer = .onTrial ∧
    ∃ image ∈ permanent, holdings.secondary = some image

variable {permanent : List Bytes} {before after : Holdings}

theorem swappable_of_proven (proven : before.Proven permanent) (acts : before.action = .revert) :
    before.secondary ≠ none := by
  obtain ⟨_, image, _, there⟩ := proven.replaced (by rw [trailer_of_revert acts]; rfl)
  simp [there]

/-- Neither the primary bank nor the mark of what runs is touched. -/
theorem same_of_prepares {call : Device.Call} (prepares : call.Prepares)
    (alters : call.Alters before after) : after.primary = before.primary ∧
      after.trailer.confirmed = before.trailer.confirmed := by
  cases call with
  | erase bank | openWriter bank =>
      cases prepares
      rcases alters with rfl | ⟨content, rfl⟩ <;> exact ⟨rfl, rfl⟩
  | write | closeWriter =>
      rcases alters with rfl | ⟨content, rfl⟩ <;> exact ⟨rfl, rfl⟩
  | requestTest => rcases alters with rfl | rfl <;> exact ⟨rfl, rfl⟩
  | _ => contradiction

theorem proven_prepared {call : Device.Call} (prepares : call.Prepares)
    (alters : call.Alters before after) (confirmed : before.trailer.confirmed = true)
    (proven : before.Proven permanent) : after.Proven permanent := by
  obtain ⟨primary, mark⟩ := same_of_prepares prepares alters
  constructor
  case running =>
    rw [primary, mark]
    exact proven.running
  case replaced =>
    intro unconfirmed
    rw [mark, confirmed] at unconfirmed
    contradiction

theorem proven_confirmed {running : Bytes} (runs : before.primary = some running)
    (testPending : Bool) :
    { before with trailer := ⟨testPending, true⟩ }.Proven (permanent ++ [running]) :=
  ⟨⟨running, runs, fun _ => by simp⟩, fun unconfirmed => by contradiction⟩

theorem proven_booted (proven : before.Proven permanent) : before.booted.Proven permanent := by
  obtain ⟨running, runs, known⟩ := proven.running
  rw [booted]
  cases acts : before.action with
  | testSwap =>
      obtain ⟨pending, there⟩ := staged_of_testSwap acts
      obtain ⟨staged, there⟩ := Option.ne_none_iff_exists'.1 there
      have confirmed : before.trailer.confirmed = true := by
        by_contra unconfirmed
        have trial := (proven.replaced (by simpa using unconfirmed)).1
        rw [trial] at pending
        contradiction
      refine ⟨⟨staged, there, fun impossible => by contradiction⟩, fun _ => ?_⟩
      exact ⟨rfl, running, known confirmed, by simp [after, runs]⟩
  | revert =>
      obtain ⟨_, image, among, there⟩ := proven.replaced (by rw [trailer_of_revert acts]; rfl)
      exact ⟨⟨image, there, fun _ => among⟩, fun impossible => by contradiction⟩
  | normal | rejected =>
      have confirmed : before.trailer.confirmed = true := by
        by_contra unconfirmed
        have trial := (proven.replaced (by simpa using unconfirmed)).1
        simp [action, trial, SwapTrailer.onTrial] at acts
      exact ⟨⟨running, runs, fun _ => known confirmed⟩, fun impossible => by contradiction⟩

end Holdings

namespace Custody

structure Guards (banks : BankDirectory) (home : Location) (holdings : Holdings)
    (custody : Custody) : Prop where
  same : custody.device.banks = banks
  stands : banks.Stands home holdings custody.files
  writes : Outpost.Writes custody.device holdings
  proven : holdings.Proven custody.permanent

variable {banks : BankDirectory} {home : Location} {holdings : Holdings}
  {custody later : Custody}

theorem confirmed_of_guards (guards : custody.Guards banks home holdings)
    (confirmed : custody.Confirmed) : holdings.trailer.confirmed = true := by
  obtain ⟨value, after, ran, rfl⟩ := confirmed (.holding custody.files) rfl
  rw [guards.same] at ran
  exact ((BankDirectory.isConfirmed_yields guards.stands).of_run rfl ran).1.symm

/-- What a call comes to that is made on banks in good order, and writes to the secondary one at
most. -/
theorem answered_of_guards {call : Device.Call} (flash : call.isFlash = true)
    (own : ∀ bank, call = .openWriter bank → bank = .secondary)
    (guards : custody.Guards banks home holdings) {machine after : Machine}
    (held : machine.files = custody.files) {reply : Device.Reply call} {device : FileDevice}
    (ran : machine.run (FileDevice.answer call custody.device) =
      (.finished (reply, device), after)) :
    device.banks = banks ∧ ∃ changed, banks.Stands home changed after.files ∧
      call.Alters holdings changed ∧ Outpost.Writes device changed :=
  (Outpost.answer_yields flash own guards.same guards.stands guards.writes).of_run held ran

/-- Where what runs is permanent, it still is while an update is prepared. -/
theorem guards_prepared {call : Device.Call} (prepares : call.Prepares)
    (confirmed : holdings.trailer.confirmed = true) (guards : custody.Guards banks home holdings)
    {machine after : Machine} (held : machine.files = custody.files) {reply : Device.Reply call}
    {device : FileDevice}
    (ran : machine.run (FileDevice.answer call custody.device) =
      (.finished (reply, device), after)) :
    ∃ changed, changed.trailer.confirmed = true ∧
      Guards banks home changed ⟨device, after.files, custody.permanent⟩ := by
  have flash : call.isFlash = true := by cases call <;> first | rfl | contradiction
  have own (bank : Bank) (same : call = .openWriter bank) : bank = .secondary := by
    subst same
    exact prepares
  obtain ⟨same, changed, stands, alters, writes⟩ := answered_of_guards flash own guards held ran
  have mark := (Holdings.same_of_prepares prepares alters).2
  exact ⟨changed, mark.trans confirmed, same, stands, writes,
    Holdings.proven_prepared prepares alters confirmed guards.proven⟩

theorem guards_step (step : Step Confirmed custody later)
    (guards : custody.Guards banks home holdings) :
    ∃ changed, later.Guards banks home changed := by
  cases step with
  | @inspect call reply device machine after inspects held ran =>
      have flash : call.isFlash = true := by cases call <;> first | rfl | contradiction
      have own (bank : Bank) (same : call = .openWriter bank) : bank = .secondary := by
        subst same
        contradiction
      obtain ⟨same, changed, stands, alters, writes⟩ := answered_of_guards flash own guards held ran
      have unchanged : changed = holdings := by cases call <;> first | exact alters | contradiction
      subst unchanged
      exact ⟨changed, same, stands, writes, guards.proven⟩
  | @prepare call reply device machine after prepares confirmed held ran =>
      obtain ⟨changed, _, guards⟩ := guards_prepared prepares
        (confirmed_of_guards guards confirmed) guards held ran
      exact ⟨changed, guards⟩
  | @confirm reply device machine after held ran =>
      rw [FileDevice.answer, guards.same] at ran
      obtain ⟨rfl, rfl, stands⟩ := (FileDevice.unchanged_yields
        (BankDirectory.confirm_yields guards.stands)).of_run held ran
      obtain ⟨running, runs, _⟩ := guards.proven.running
      have read : after.files.read (custody.device.banks.bankPath .primary) = .ok running := by
        rw [guards.same]
        exact (BankDirectory.read_bank_iff stands .primary running).2 runs
      rw [keep, read]
      exact ⟨_, guards.same, stands, guards.writes, Holdings.proven_confirmed runs _⟩
  | @boot result machine after held ran =>
      rw [guards.same] at ran
      obtain ⟨_, stands⟩ := (BankDirectory.boot_yields guards.stands
        (Holdings.swappable_of_proven guards.proven)).of_run held ran
      refine ⟨_, guards.same, stands, ?_, Holdings.proven_booted guards.proven⟩
      rintro writer ⟨⟩

theorem guards_of_reaches (reaches : Reaches Confirmed custody later)
    (guards : custody.Guards banks home holdings) :
    ∃ changed, later.Guards banks home changed := by
  induction reaches with
  | refl => exact ⟨holdings, guards⟩
  | tail _ step ih =>
      obtain ⟨between, guards⟩ := ih
      exact guards_step step guards

end Custody

/-- An image is made permanent by confirmation only, as long as updates are prepared only while the
image that runs is permanent. -/
theorem permanent_by_confirmation (device : FileDevice) (files : FileTree) (home : Location)
    (holdings : Holdings) (stands : device.banks.Stands home holdings files) (initial : Bytes)
    (running : holdings.primary = some initial) (confirmed : holdings.trailer.confirmed = true)
    (custody : Custody)
    (reaches : Custody.Reaches Custody.Confirmed (.start device files initial) custody) :
    custody.files.Yields device.banks.isConfirmed fun confirmed after => after = custody.files ∧
      (confirmed = true → ∃ image ∈ custody.permanent,
        custody.files.read (device.banks.bankPath .primary) = .ok image) := by
  have proven : holdings.Proven [initial] :=
    ⟨⟨initial, running, fun _ => .head []⟩, fun unconfirmed => by simp [confirmed] at unconfirmed⟩
  have started : (Custody.start device files initial).Guards device.banks home holdings :=
    ⟨rfl, stands, (by rintro writer ⟨⟩), proven⟩
  obtain ⟨found, guards⟩ := Custody.guards_of_reaches reaches started
  refine yields_mono (BankDirectory.isConfirmed_yields guards.stands) ?_
  rintro value after ⟨rfl, rfl⟩
  refine ⟨rfl, fun permanent => ?_⟩
  obtain ⟨image, runs, known⟩ := guards.proven.running
  exact ⟨image, known permanent, (BankDirectory.read_bank_iff guards.stands .primary image).2 runs⟩

namespace Custody

variable {admits : Custody → Prop} {first custody : Custody} {banks : BankDirectory}
  {home : Location}

def serve (custody : Custody) (call : Device.Call) : Custody :=
  match (Machine.holding custody.files).run (FileDevice.answer call custody.device) with
  | (.finished (_, device), later) => ⟨device, later.files, custody.permanent⟩
  | (.exited _, _) => custody

def approve (custody : Custody) : Custody :=
  match (Machine.holding custody.files).run (FileDevice.answer .confirm custody.device) with
  | (.finished (reply, device), later) => keep ⟨device, later.files, custody.permanent⟩ reply
  | (.exited _, _) => custody

def restart (custody : Custody) : Custody :=
  match (Machine.holding custody.files).run custody.device.banks.boot with
  | (.finished _, later) =>
      ⟨{ custody.device with writer := none }, later.files, custody.permanent⟩
  | (.exited _, _) => custody

def vouches (custody : Custody) : Bool :=
  match ((Machine.holding custody.files).run custody.device.banks.isConfirmed).1 with
  | .finished confirmed => confirmed
  | .exited _ => false

theorem reaches_serve {call : Device.Call} (reaches : Reaches admits first custody)
    (prepares : call.Prepares) (admitted : admits custody) :
    Reaches admits first (custody.serve call) := by
  unfold serve
  split
  · rename_i reply device later ran
    exact reaches.tail (.prepare prepares admitted rfl ran)
  · exact reaches

theorem reaches_approve (reaches : Reaches admits first custody) :
    Reaches admits first custody.approve := by
  unfold approve
  split
  · rename_i reply device later ran
    exact reaches.tail (.confirm rfl ran)
  · exact reaches

theorem reaches_restart (reaches : Reaches admits first custody) :
    Reaches admits first custody.restart := by
  unfold restart
  split
  · rename_i result later ran
    exact reaches.tail (.boot rfl ran)
  · exact reaches

/-- Updates are prepared call by call, as long as each call leaves them admitted. -/
theorem reaches_prepared {ready : Custody → Prop} (admitted : ∀ custody, ready custody →
    admits custody) (kept : ∀ call custody, Device.Call.Prepares call → ready custody →
    ready (custody.serve call)) (calls : List Device.Call)
    (prepares : ∀ call ∈ calls, call.Prepares) (holds : ready custody)
    (reaches : Reaches admits first custody) :
    Reaches admits first (calls.foldl serve custody) := by
  induction calls generalizing custody with
  | nil => exact reaches
  | cons call calls ih =>
      obtain ⟨among, rest⟩ := List.forall_mem_cons.1 prepares
      exact ih rest (kept call custody among holds)
        (reaches_serve reaches among (admitted custody holds))

def Certain (banks : BankDirectory) (home : Location) (custody : Custody) : Prop :=
  ∃ holdings, holdings.trailer.confirmed = true ∧ custody.Guards banks home holdings

theorem confirmed_of_certain (certain : custody.Certain banks home) : custody.Confirmed := by
  obtain ⟨holdings, confirmed, guards⟩ := certain
  rw [Confirmed, guards.same]
  refine yields_mono (BankDirectory.isConfirmed_yields guards.stands) ?_
  exact fun _ _ found => found.1.trans confirmed

theorem certain_serve {call : Device.Call} (prepares : call.Prepares)
    (certain : custody.Certain banks home) : (custody.serve call).Certain banks home := by
  obtain ⟨holdings, confirmed, guards⟩ := certain
  unfold serve
  split
  · rename_i reply device later ran
    exact guards_prepared prepares confirmed guards rfl ran
  · exact ⟨holdings, confirmed, guards⟩

def sampleOld : Bytes :=
  Image.Header.encode 0 ⟨1, 0, 0, 0⟩

def sampleStart : Custody :=
  .start Setup.sampleDevice
    (Setup.sampleFiles.insert ["banks", "primary.bin"] (.file sampleOld)) sampleOld

theorem stands_sampleStart : Setup.sampleDevice.banks.Stands ["banks"]
    ⟨some sampleOld, none, none, .settled⟩ sampleStart.files :=
  BankDirectory.stands_write Setup.stands_sample .primary sampleOld

theorem certain_sampleStart : sampleStart.Certain Setup.sampleDevice.banks ["banks"] :=
  ⟨_, rfl, rfl, stands_sampleStart, (by rintro writer ⟨⟩),
    ⟨sampleOld, rfl, fun _ => .head []⟩, fun impossible => by contradiction⟩

def sampleCalls : List Device.Call :=
  [.erase .secondary, .openWriter .secondary, .write Outpost.sampleImage true, .closeWriter,
    .requestTest]

theorem prepares_sampleCalls : ∀ call ∈ sampleCalls, call.Prepares := by
  simp [sampleCalls, Device.Call.Prepares]

def sampleTrial : Custody :=
  (sampleCalls.foldl serve sampleStart).restart

def sampleAccepted : Custody :=
  sampleTrial.approve.restart

def sampleUsurped : Custody :=
  (sampleTrial.serve .requestTest).restart.restart

theorem reaches_sampleAccepted : Reaches Confirmed sampleStart sampleAccepted := by
  have staged : Reaches Confirmed sampleStart (sampleCalls.foldl serve sampleStart) :=
    reaches_prepared (fun _ => confirmed_of_certain) (fun _ _ => certain_serve) sampleCalls
      prepares_sampleCalls certain_sampleStart .refl
  exact reaches_restart (reaches_approve (reaches_restart staged))

theorem reaches_sampleUsurped : Reaches (fun _ => True) sampleStart sampleUsurped := by
  have staged : Reaches (fun _ => True) sampleStart (sampleCalls.foldl serve sampleStart) :=
    reaches_prepared (fun _ always => always) (fun _ _ _ always => always) sampleCalls
      prepares_sampleCalls trivial .refl
  have trial := reaches_restart staged
  exact reaches_restart (reaches_restart (reaches_serve trial trivial trivial))

end Custody

open Custody

/-- An image that was tested, booted and confirmed is permanent, after another pass too. -/
theorem permanent_by_confirmation_sample :
    Reaches Confirmed sampleStart sampleAccepted ∧
      sampleTrial.vouches = false ∧ sampleAccepted.vouches = true ∧
      sampleAccepted.permanent = [sampleOld, Outpost.sampleImage] ∧
      sampleAccepted.files.read (Setup.sampleDevice.banks.bankPath .primary) =
        .ok Outpost.sampleImage ∧
      sampleAccepted.files.Yields Setup.sampleDevice.banks.isConfirmed fun confirmed after =>
        after = sampleAccepted.files ∧ (confirmed = true → ∃ image ∈ sampleAccepted.permanent,
          sampleAccepted.files.read (Setup.sampleDevice.banks.bankPath .primary) = .ok image) := by
  refine ⟨reaches_sampleAccepted, ?_, ?_, ?_, ?_, ?_⟩
  · decide +kernel
  · decide +kernel
  · decide +kernel
  · decide +kernel
  · exact permanent_by_confirmation Setup.sampleDevice sampleStart.files ["banks"] _
      stands_sampleStart sampleOld rfl rfl _ reaches_sampleAccepted

/-- Where a trial can be asked for during a trial, the image on trial becomes permanent without ever
being confirmed. -/
theorem permanent_unconfirmed :
    Setup.sampleDevice.banks.Stands ["banks"] ⟨some sampleOld, none, none, .settled⟩
        sampleStart.files ∧
      Reaches (fun _ => True) (.start Setup.sampleDevice sampleStart.files sampleOld)
        sampleUsurped ∧
      sampleUsurped.vouches = true ∧ sampleUsurped.permanent = [sampleOld] ∧
      sampleUsurped.files.read (Setup.sampleDevice.banks.bankPath .primary) =
        .ok Outpost.sampleImage ∧
      Outpost.sampleImage ∉ sampleUsurped.permanent := by
  refine ⟨stands_sampleStart, reaches_sampleUsurped, ?_, ?_, ?_, ?_⟩ <;> decide +kernel

end DualBank
