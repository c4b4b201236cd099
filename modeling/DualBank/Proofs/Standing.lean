import DualBank.Proofs.Durable
import DualBank.Proofs.Outpost

/-! An installation on whatever the banks hold: they stay, and the bootloader can still pass over
them if it could before. -/

namespace DualBank

open Program Surroundings
open Agent.Call (Announces Aside Fetches HandsOver Own)

namespace Holdings

/-- A pass of the bootloader over these banks succeeds: to undo a trial it needs the image that the
trial replaced. -/
def Bootable (holdings : Holdings) : Prop :=
  holdings.action = .revert → holdings.secondary ≠ none

variable {uuid : String} {call : Agent.Call} {before after : Holdings}

theorem bootable_of_fetches (fetches : call.Fetches uuid) (alters : call.Alters before after)
    (bootable : before.Bootable) : after.Bootable := by
  rcases Agent.Call.alters_of_fetches fetches alters with rfl | ⟨content, rfl⟩
  · exact bootable
  · exact fun _ => Option.some_ne_none content

theorem bootable_of_handsOver (handsOver : call.HandsOver uuid) (alters : call.Alters before after)
    (bootable : before.Bootable) : after.Bootable := by
  rcases Agent.Call.alters_of_handsOver handsOver alters with rfl | rfl
  · exact bootable
  · intro reverts
    simp only [action, if_true] at reverts
    split at reverts <;> contradiction

end Holdings

namespace Site

variable {call : Agent.Call} {before after : Site} {reply : Agent.interface.Reply call}
  {banks : BankDirectory} {home : Location} {holdings : Holdings} {found : Prop}

theorem served_same {call : Device.Call} (unflashed : ¬ call.isFlash = true)
    {reply : Device.Reply call} (serves : Serves call before reply after) :
    after.device = before.device ∧ after.files = before.files := by
  unfold Serves at serves
  split at serves
  · rw [serves.2]
    exact ⟨rfl, rfl⟩
  · rw [serves.2]
    exact ⟨rfl, rfl⟩
  · rw [serves.2]
    exact ⟨rfl, rfl⟩
  · rw [serves.2]
    exact ⟨rfl, rfl⟩
  · rw [if_neg unflashed] at serves
    rw [serves]
    exact ⟨rfl, rfl⟩

/-- The banks are left as they were, or as the call was to make them. -/
theorem shows_of_answers (own : call.Own) (answers : surroundings.Answers call before reply after)
    (shows : Outpost.Shows banks home holdings before.device before.files) :
    ∃ changed, call.Alters holdings changed ∧
      Outpost.Shows banks home changed after.device after.files := by
  change Answers call before reply after at answers
  unfold Answers at answers
  split at answers
  · rename_i call reply
    obtain ⟨served, serves, rfl⟩ := answers
    by_cases flash : call.isFlash
    · obtain ⟨machine, later, device, held, ran, rfl⟩ := (serves_iff flash).1 serves
      have own (bank : Bank) (same : call = .openWriter bank) : bank = .secondary :=
        own bank (by rw [same])
      exact Outpost.shows_of_run flash own shows held ran
    · obtain ⟨device, files⟩ := served_same flash serves
      refine ⟨holdings, Outpost.alters_same call holdings, ?_⟩
      rw [note, device, files]
      exact shows
  · obtain ⟨_, rfl⟩ := answers
    exact ⟨holdings, rfl, shows⟩
  · subst answers
    refine ⟨holdings, ?_, shows⟩
    cases call with
    | device call => exact Outpost.alters_same call holdings
    | _ => rfl

def Stays (banks : BankDirectory) (home : Location) (found : Prop) (site : Site) : Prop :=
  ∃ holdings, Outpost.Shows banks home holdings site.device site.files ∧
    (found → holdings.Bootable)

theorem stable_stays : surroundings.Stable (Stays banks home found) := by
  rintro before after rfl stays
  exact stays

theorem keeps_stays (own : call.Own)
    (kept : ∀ before after, call.Alters before after → before.Bootable → after.Bootable) :
    surroundings.Keeps (Stays banks home found) call := by
  rintro before reply after answers ⟨holdings, shows, bootable⟩
  obtain ⟨changed, alters, shows⟩ := shows_of_answers own answers shows
  exact ⟨changed, shows, fun first => kept holdings changed alters (bootable first)⟩

theorem stays_withstands {calls : Agent.Call → Prop} (own : ∀ call, calls call → call.Own)
    (kept : ∀ call, calls call → ∀ before after, call.Alters before after → before.Bootable →
      after.Bootable) :
    Withstands surroundings (fun _ => Stays banks home found) calls (Stays banks home found) where
  stable := stable_stays
  kept call among := keeps_stays (own call among) (kept call among)
  guarded _ _ _ stays := stays

theorem stays_ensures {α : Type} {program : Agent α} {calls : Agent.Call → Prop}
    {condition : α → Prop} (always : program.Always calls condition)
    (own : ∀ call, calls call → call.Own)
    (kept : ∀ call, calls call → ∀ before after, call.Alters before after → before.Bootable →
      after.Bootable) {site : Site} (stays : site.Stays banks home found) :
    surroundings.Ensures (fun _ => Stays banks home found)
      (fun _ later => later.Stays banks home found) program site :=
  ensures_mono ((stays_withstands own kept).ensures always (fun _ among => among) stays)
    fun _ _ ended => ended.2

theorem aside_stays (uuid : String) :
    Withstands surroundings (fun _ => Stays banks home found) (Aside uuid)
      (Stays banks home found) :=
  stays_withstands (fun _ => Agent.Call.own_of_aside)
    fun _ aside _ _ alters bootable => Agent.Call.same_of_aside aside alters ▸ bootable

/-- An installation leaves the banks bootable if it found them so. -/
theorem standing_itinerary (policy : Policy) (request : Request) :
    Itinerary surroundings (fun _ => Stays banks home found) policy request
      (Stays banks home found) (Stays banks home found) (Stays banks home found)
      (Stays banks home found) (Stays banks home found) (Stays banks home found) where
  ready_withstands := aside_stays request.uuid
  told_withstands := aside_stays request.uuid
  stuck_withstands := aside_stays request.uuid
  stuck_of_ready _ stays := stays
  stuck_of_told _ stays := stays
  stable_staged := stable_stays
  stable_restarting := stable_stays
  stable_finished := stable_stays
  attempt state stays := by
    refine ensures_mono (stays_ensures (attempt_always policy request)
      (fun _ => Agent.Call.own_of_fetches)
      (fun _ fetches _ _ => Holdings.bootable_of_fetches fetches) stays) ?_
    rintro (_ | _) later stays <;> exact stays
  deploying state stays :=
    stays_ensures (phase_always (.head [])) (fun _ => Agent.Call.own_of_announces)
      (fun _ announces _ _ alters bootable =>
        Agent.Call.same_of_announces announces alters ▸ bootable) stays
  handOver state stays := by
    refine ensures_mono (stays_ensures (handOver_always policy)
      (fun _ => Agent.Call.own_of_handsOver)
      (fun _ handsOver _ _ => Holdings.bootable_of_handsOver handsOver) stays) ?_
    rintro (_ | _) later stays <;> exact stays
  finish state stays := by
    have kept : surroundings.Keeps (Stays banks home found) (.shared (.slot .finish)) := by
      refine keeps_stays ?_ ?_
      · rintro bank ⟨⟩
      · rintro before _ rfl bootable
        exact bootable
    refine ensures_ask stable_stays stays (fun _ stays => stays) ?_
    intro before reply after stays answers
    exact ensures_done stable_stays (kept before reply after answers stays) fun _ stays => stays

theorem stays_of_leads {policy : Policy} {request : Request} {settings : SettingsTable}
    {device : FileDevice} {files : FileTree} {holdings : Holdings}
    (stands : device.banks.Stands home holdings files) {rest : Agent Outcome} {site : Site}
    (leads : surroundings.Leads (Installation.run policy request, opening settings device files)
      (rest, site)) : site.Stays device.banks home holdings.Bootable := by
  have start : (opening settings device files).Stays device.banks home holdings.Bootable := by
    refine ⟨holdings, ⟨rfl, stands, ?_⟩, fun bootable => bootable⟩
    rintro writer ⟨⟩
  refine holds_of_ensures
    (ensures_mono ((standing_itinerary policy request).run_ensures start) ?_) leads
  intro outcome later ended
  cases outcome <;> exact ended

def Boots (site : Site) (banks : BankDirectory) : Prop :=
  site.files.Yields banks.boot fun booted _ => ∃ action, booted = .ok action

theorem boots_of_stays {site : Site} (stays : site.Stays banks home found) (first : found) :
    site.Boots banks := by
  obtain ⟨holdings, shows, bootable⟩ := stays
  refine FileTree.yields_mono (BankDirectory.boot_yields shows.stands (bootable first)) ?_
  rintro booted files ⟨rfl, _⟩
  exact ⟨_, rfl⟩

end Site

end DualBank
