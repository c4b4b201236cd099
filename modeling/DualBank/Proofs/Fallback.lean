import DualBank.Proofs.Fetching

/-! The image to fall back on, through an update, settling it and the pass of the bootloader, on
banks whose calls may be refused. -/

namespace DualBank

open Program Surroundings Outpost

namespace Holdings

def Runs (images : Bytes → Prop) (holdings : Holdings) : Prop :=
  ∃ image, images image ∧ holdings.primary = some image

/-- Whatever the next pass of the bootloader makes of these banks, one of these images runs. -/
def Sound (images : Bytes → Prop) (holdings : Holdings) : Prop :=
  holdings.Runs images ∧
    (holdings.trailer ≠ .settled → ∃ image, images image ∧ holdings.secondary = some image)

def Backed (images : Bytes → Prop) (holdings : Holdings) : Prop :=
  holdings.Runs images ∧ ∃ image, images image ∧ holdings.secondary = some image

def Free (images : Bytes → Prop) (holdings : Holdings) : Prop :=
  holdings.Runs images ∧ holdings.trailer = .settled

variable {images : Bytes → Prop} {before after : Holdings} {call : Agent.Call} {uuid : String}

theorem grows_runs : Grows Runs := by
  rintro fewer more holdings within ⟨image, among, there⟩
  exact ⟨image, within image among, there⟩

theorem grows_sound : Grows Sound := by
  rintro fewer more holdings within ⟨running, staged⟩
  refine ⟨grows_runs fewer more holdings within running, fun unsettled => ?_⟩
  obtain ⟨image, among, there⟩ := staged unsettled
  exact ⟨image, within image among, there⟩

theorem grows_backed : Grows Backed := by
  rintro fewer more holdings within ⟨running, image, among, there⟩
  exact ⟨grows_runs fewer more holdings within running, image, within image among, there⟩

theorem grows_free : Grows Free := by
  rintro fewer more holdings within ⟨running, settled⟩
  exact ⟨grows_runs fewer more holdings within running, settled⟩

theorem sound_of_free (free : before.Free images) : before.Sound images :=
  ⟨free.1, fun unsettled => absurd free.2 unsettled⟩

theorem sound_of_backed (backed : before.Backed images) : before.Sound images :=
  ⟨backed.1, fun _ => backed.2⟩

theorem backed_of_handsOver (handsOver : call.HandsOver uuid) (alters : call.Alters before after)
    (backed : before.Backed images) : after.Backed images := by
  rcases Agent.Call.alters_of_handsOver handsOver alters with rfl | rfl
  · exact backed
  · exact backed

theorem free_of_fetches (fetches : call.Fetches uuid) (alters : call.Alters before after)
    (free : before.Free images) : after.Free images := by
  rcases Agent.Call.alters_of_fetches fetches alters with rfl | ⟨content, rfl⟩
  · exact free
  · exact free

theorem sound_of_settles (settles : call.Settles) (alters : call.Alters before after)
    (sound : before.Sound images) : after.Sound images := by
  rcases Agent.Call.alters_of_settles settles alters with rfl | rfl
  · exact sound
  · refine ⟨sound.1, fun unsettled => sound.2 fun settled => unsettled ?_⟩
    rw [settled]
    rfl

/-- A pass of the bootloader exchanges the banks only where both hold an image that may run. -/
theorem sound_booted (sound : before.Sound images) : before.booted.Sound images := by
  have swapped (asked : before.trailer ≠ .settled) (trailer : SwapTrailer) :
      { before.after .testSwap with trailer := trailer }.Backed images := by
    obtain ⟨⟨running, old, there⟩, staged⟩ := sound
    exact ⟨staged asked, running, old, by simp [after, there]⟩
  rw [booted, action]
  -- A trailer that is not settled stands for a second image, so both exchanges are of two images.
  split
  · rename_i asked
    have unsettled : before.trailer ≠ .settled := by
      intro settled
      rw [settled] at asked
      contradiction
    split
    · exact sound_of_backed (swapped unsettled _)
    · exact sound_of_free ⟨sound.1, rfl⟩
  · split
    · exact sound_of_free ⟨sound.1, rfl⟩
    · rename_i unconfirmed
      have unsettled : before.trailer ≠ .settled := by
        intro settled
        rw [settled] at unconfirmed
        exact unconfirmed rfl
      exact sound_of_backed (swapped unsettled _)

theorem swappable_of_sound (sound : before.Sound images) (asked : before.action = .revert) :
    before.secondary ≠ none := by
  have unsettled : before.trailer ≠ .settled := by
    intro settled
    simp [action, settled, SwapTrailer.settled] at asked
  obtain ⟨image, _, there⟩ := sound.2 unsettled
  rw [there]
  exact Option.some_ne_none image

end Holdings

namespace Outpost

open Holdings

variable {banks : BankDirectory} {home : Location} {initial : Bytes} {outpost : Outpost}

abbrev guard (banks : BankDirectory) (home : Location) (initial : Bytes) (_ : Agent.Call)
    (outpost : Outpost) : Prop :=
  outpost.Keeps banks home initial Sound

theorem aside_withstands (uuid : String) {sound : (Bytes → Prop) → Holdings → Prop}
    (grows : Grows sound)
    (implies : ∀ images holdings, sound images holdings → holdings.Sound images) :
    Withstands surroundings (guard banks home initial) (Agent.Call.Aside uuid)
      (Keeps banks home initial sound) :=
  withstands (fun _ => Agent.Call.own_of_aside) grows
    (fun _ aside _ _ _ alters holds => Agent.Call.same_of_aside aside alters ▸ holds) implies

/-- What all calls of a program keep is kept by the program. -/
theorem kept_ensures {α : Type} {program : Agent α} {calls : Agent.Call → Prop}
    {condition : α → Prop} (always : program.Always calls condition)
    {sound : (Bytes → Prop) → Holdings → Prop} (own : ∀ call, calls call → call.Own)
    (grows : Grows sound)
    (kept : ∀ call, calls call → ∀ images before after, call.Alters before after →
      sound images before → sound images after)
    (implies : ∀ images holdings, sound images holdings → holdings.Sound images)
    (keeps : outpost.Keeps banks home initial sound) :
    surroundings.Ensures (guard banks home initial)
      (fun _ later => later.Keeps banks home initial sound) program outpost :=
  ensures_mono ((withstands own grows kept implies).ensures always (fun _ among => among) keeps)
    fun _ _ ended => ended.2

/-- An attempt that succeeded leaves an image in the secondary bank that may run. -/
theorem attempt_ensures (policy : Policy) (request : Request)
    (free : outpost.Keeps banks home initial Free) :
    surroundings.Ensures (guard banks home initial)
      (fun result later => match result with
        | .ok () => later.Keeps banks home initial Backed
        | .error _ => later.Keeps banks home initial Free)
      (Installation.attempt policy request) outpost := by
  have spared := kept_ensures (attempt_always policy request)
    (fun _ => Agent.Call.own_of_fetches) grows_free
    (fun _ fetches _ _ _ => free_of_fetches fetches) (fun _ _ => sound_of_free) free
  obtain ⟨holdings, shows, _⟩ := free
  refine ensures_mono (ensures_and spared (attempt_fetches policy request shows)) ?_
  rintro result later ⟨free, fetched⟩
  cases result with
  | error error => exact free
  | ok value =>
      obtain ⟨image, read, fetched⟩ := fetched rfl
      obtain ⟨holdings, shows, running, _⟩ := free
      refine ⟨holdings, shows, running, image, .inr ⟨_, .head _, fetched⟩, ?_⟩
      exact (BankDirectory.read_bank_iff shows.stands .secondary image).1 read

theorem handOver_ensures {uuid : String} (policy : Policy)
    (backed : outpost.Keeps banks home initial Backed) :
    surroundings.Ensures (guard banks home initial)
      (fun _ later => later.Keeps banks home initial Sound)
      (Installation.handOver policy uuid) outpost := by
  refine ensures_mono (kept_ensures (handOver_always policy)
    (fun _ => Agent.Call.own_of_handsOver) grows_backed
    (fun _ handsOver _ _ _ => backed_of_handsOver handsOver) (fun _ _ => sound_of_backed)
    backed) ?_
  exact fun _ later backed => keeps_mono backed fun _ _ => sound_of_backed

theorem itinerary (policy : Policy) (request : Request) :
    Itinerary surroundings (guard banks home initial) policy request
      (Keeps banks home initial Free) (Keeps banks home initial Backed)
      (Keeps banks home initial Backed) (Keeps banks home initial Sound)
      (Keeps banks home initial Sound) (Keeps banks home initial Sound) where
  ready_withstands := aside_withstands request.uuid grows_free fun _ _ => sound_of_free
  told_withstands := aside_withstands request.uuid grows_backed fun _ _ => sound_of_backed
  stuck_withstands := aside_withstands request.uuid grows_sound fun _ _ sound => sound
  stuck_of_ready _ keeps := keeps_mono keeps fun _ _ => sound_of_free
  stuck_of_told _ keeps := keeps_mono keeps fun _ _ => sound_of_backed
  stable_staged := stable _
  stable_restarting := stable _
  stable_finished := stable _
  attempt _ := attempt_ensures policy request
  deploying outpost backed :=
    kept_ensures (phase_always (.head [])) (fun _ => Agent.Call.own_of_announces) grows_backed
      (fun _ announces _ _ _ alters backed =>
        Agent.Call.same_of_announces announces alters ▸ backed) (fun _ _ => sound_of_backed) backed
  handOver outpost backed := by
    refine ensures_mono (handOver_ensures policy backed) ?_
    intro result later sound
    cases result <;> exact sound
  finish outpost sound := by
    have finishes : surroundings.Keeps (Keeps banks home initial Sound)
        (.shared (.slot .finish)) := by
      refine keeps_of_alters ?_ grows_sound ?_
      · rintro bank ⟨⟩
      · rintro images before _ rfl sound
        exact sound
    refine ensures_ask (stable _) sound (fun _ sound => sound) ?_
    intro before reply after sound answers
    exact ensures_done (stable _) (finishes before reply after answers sound) fun _ sound => sound

theorem installation_ensures (policy : Policy) (request : Request)
    (free : outpost.Keeps banks home initial Free) :
    surroundings.Ensures (guard banks home initial)
      (fun _ later => later.Keeps banks home initial Sound)
      (Installation.run policy request) outpost := by
  refine ensures_mono ((itinerary policy request).run_ensures free) ?_
  intro outcome later sound
  cases outcome <;> exact sound

theorem resolution_ensures (sound : outpost.Keeps banks home initial Sound) :
    surroundings.Ensures (guard banks home initial)
      (fun _ later => later.Keeps banks home initial Sound) Resolution.run outpost :=
  kept_ensures resolution_always (fun _ => Agent.Call.own_of_settles) grows_sound
    (fun _ settles _ _ _ => sound_of_settles settles) (fun _ _ sound => sound) sound

def restarted (outpost : Outpost) (files : FileTree) : Outpost where
  device := { outpost.device with writer := none }
  files := files
  history := []
  past := outpost.past ++ [outpost.history]

theorem mayRun_restarted {image : Bytes} (files : FileTree)
    (mayRun : outpost.MayRun initial image) : (outpost.restarted files).MayRun initial image := by
  rcases mayRun with same | ⟨history, among, fetched⟩
  · exact .inl same
  · rcases List.mem_cons.1 among with rfl | earlier
    · exact .inr ⟨_, .tail _ (List.mem_append_right _ (.head _)), fetched⟩
    · exact .inr ⟨history, .tail _ (List.mem_append_left _ earlier), fetched⟩

def Rests (outpost : Outpost) : Prop :=
  ∀ home holdings, outpost.device.banks.Stands home holdings outpost.files →
    holdings.trailer = .settled

theorem free_of_rests (rests : outpost.Rests) (sound : outpost.Keeps banks home initial Sound) :
    outpost.Keeps banks home initial Free := by
  obtain ⟨holdings, shows, sound⟩ := sound
  exact ⟨holdings, shows, sound.1, rests home holdings (shows.same ▸ shows.stands)⟩

theorem same_of_keeps {sound : (Bytes → Prop) → Holdings → Prop}
    (keeps : outpost.Keeps banks home initial sound) : outpost.device.banks = banks := by
  obtain ⟨holdings, shows, _⟩ := keeps
  exact shows.same

/-- What is kept of the banks is kept by a new process too. -/
theorem keeps_restarted {sound : (Bytes → Prop) → Holdings → Prop} (grows : Grows sound)
    {files : FileTree} {holdings : Holdings} (same : outpost.device.banks = banks)
    (stands : banks.Stands home holdings files) (holds : sound (outpost.MayRun initial) holdings) :
    (outpost.restarted files).Keeps banks home initial sound := by
  refine ⟨holdings, ⟨same, stands, ?_⟩, grows _ _ _ (fun _ => mayRun_restarted files) holds⟩
  rintro writer ⟨⟩

theorem boot_yields (sound : outpost.Keeps banks home initial Sound) :
    outpost.files.Yields banks.boot fun result files => ∃ action image, result = .ok action ∧
      (outpost.restarted files).Keeps banks home initial Sound ∧
      files.read (banks.bankPath .primary) = .ok image ∧ outpost.MayRun initial image := by
  obtain ⟨holdings, shows, sound⟩ := sound
  refine FileTree.yields_mono
    (BankDirectory.boot_yields shows.stands (swappable_of_sound sound)) ?_
  rintro result files ⟨rfl, stands⟩
  have booted := sound_booted sound
  obtain ⟨image, among, runs⟩ := booted.1
  exact ⟨_, image, rfl, keeps_restarted grows_sound shows.same stands booted,
    (BankDirectory.read_bank_iff stands .primary image).2 runs, among⟩

end Outpost

end DualBank
