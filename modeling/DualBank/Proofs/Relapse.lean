import DualBank.Proofs.CrashSafety

/-! The power goes in the middle of settling a trial, and comes back, again and again. Settling is
not one step: once the image is confirmed, the record still says that its restart is due, until its
id is forgotten. Where the power goes in between, the next start takes the confirmed image for one
that was never tried, and reports a failure. -/

namespace DualBank

open Program Surroundings Site

namespace Site

def Returns (site later : Site) : Prop :=
  ∃ (machine after : Machine) (action : BootAction), machine.files = site.files ∧
    machine.run site.device.banks.boot = (.finished (.ok action), after) ∧
    later = site.restarted after.files

def events (site : Site) : List Event :=
  (Telling.notes.of site.history).events

def Confirmed (site : Site) : Prop :=
  .exchange (.device .confirm) (.ok ()) ∈ site.history

def Announced (site : Site) (uuid : String) (phase : Phase) : Prop :=
  ∃ event ∈ site.events, event.requestUuid = uuid ∧ event.status = phase.status

instance (site : Site) (uuid : String) (phase : Phase) : Decidable (site.Announced uuid phase) :=
  inferInstanceAs (Decidable (∃ event ∈ site.events, _))

/-- The image is confirmed, and the id is still on record. -/
def Exposed (site : Site) : Prop :=
  site.Confirmed ∧ site.settings.record.id ≠ none

/-- The power comes back after it went here, and goes again and again: each time settling has come
as far as the next of these sites, if not to its end. -/
inductive Restarts : Site → List Site → Prop
  | none (cut : Site) : Restarts cut []
  | next {cut later again : Site} {rest : Agent Resolution} {cuts : List Site} :
      cut.Returns later → surroundings.Leads (Resolution.run, later) (rest, again) →
      Restarts again cuts → Restarts cut (again :: cuts)

end Site

/-- What is told of an update from one start to the next agrees: nothing that was confirmed is
reported as failed later on, and nobody is told of both a success and a failure. -/
structure Consistent (uuid : String) (cuts : List Site) : Prop where
  kept : cuts.Pairwise fun earlier later => earlier.Confirmed → ¬ later.Announced uuid .failure
  single : ∀ other, ¬ ((∃ cut ∈ cuts, cut.Announced other .success) ∧
    ∃ cut ∈ cuts, cut.Announced other .failure)

namespace Setup

variable {setup : Setup} {trailer : SwapTrailer} {stored weaker : SettingsTable → Prop}
  {told wider : Telling → Prop} {settings : SettingsTable} {device : FileDevice}
  {files : FileTree} {telling : Telling}

theorem back_mono (back : setup.Back trailer stored told settings device files telling)
    (keeps : ∀ settings, stored settings → weaker settings)
    (widens : ∀ telling, told telling → wider telling) :
    setup.Back trailer weaker wider settings device files telling :=
  ⟨back.banks, keeps _ back.stored, widens _ back.told, back.files⟩

def Due (setup : Setup) (settings : SettingsTable) : Prop :=
  settings.record = ⟨.pendingReboot, some setup.id⟩

def Forgotten (settings : SettingsTable) : Prop :=
  settings.record.id = none

def Tells (setup : Setup) (phase : Phase) (confirms : Bool) (telling : Telling) : Prop :=
  telling.confirms = confirms ∧
    ∀ event ∈ telling.events, event.requestUuid = setup.id.text ∧ event.status = phase.status

theorem tells_nothing (phase : Phase) (confirms : Bool) :
    setup.Tells phase confirms ⟨[], confirms⟩ :=
  ⟨rfl, by simp⟩

theorem tells_of_announced {phase : Phase} {error : Option UpdateError} {confirms : Bool}
    (announced : DualBank.Announced setup.id.text phase error confirms telling) :
    setup.Tells phase confirms telling := by
  obtain ⟨time, rfl⟩ := announced
  refine ⟨rfl, fun event inside => ?_⟩
  cases List.mem_singleton.1 inside
  exact ⟨rfl, rfl⟩

def Trying (setup : Setup) (settings : SettingsTable) (device : FileDevice) (files : FileTree)
    (telling : Telling) : Prop :=
  setup.Back .onTrial setup.Due (· = ⟨[], false⟩) settings device files telling ∨
    setup.Back .settled setup.Due (setup.Tells .success true) settings device files telling ∨
    setup.Back .settled Forgotten (setup.Tells .success true) settings device files telling

def Lapsing (setup : Setup) (settings : SettingsTable) (device : FileDevice) (files : FileTree)
    (telling : Telling) : Prop :=
  setup.Back .settled setup.Due (setup.Tells .failure false) settings device files telling ∨
    setup.Back .settled Forgotten (setup.Tells .failure false) settings device files telling

def Resting (setup : Setup) : SettingsTable → FileDevice → FileTree → Telling → Prop :=
  setup.Back .settled Forgotten (· = ⟨[], false⟩)

end Setup

section Spells

variable {setup : Setup} {start cut : Site} {rest : Agent Resolution}

theorem watches_of_implies
    {assertion wider : SettingsTable → FileDevice → FileTree → Telling → Prop}
    (implies : ∀ settings device files telling, assertion settings device files telling →
      wider settings device files telling) :
    Watches (fun _ site => site.Holds Telling.notes wider) assertion :=
  fun _ _ holds _ => implies _ _ _ _ holds

/-- Settling keeps to what may be found on the way, if each of its three parts does. -/
theorem spell_ensures (resolution : Resolution) {trailer last : SwapTrailer}
    {told reached : Telling → Prop} {settings : SettingsTable}
    {wider : SettingsTable → FileDevice → FileTree → Telling → Prop}
    (before : ∀ stored device files telling,
      setup.Back trailer (· = settings) told stored device files telling →
      wider stored device files telling)
    (resolved : ∀ stored device files telling,
      setup.Back last (· = settings) reached stored device files telling →
      wider stored device files telling)
    (forgotten : ∀ stored device files telling,
      setup.Back last Setup.Forgotten reached stored device files telling →
      wider stored device files telling)
    (resolves : ∀ later : Site,
      later.Holds Telling.notes (setup.Back trailer (· = settings) told) →
      surroundings.Ensures (fun _ site => site.Holds Telling.notes wider)
        (fun found later => found = resolution ∧ later.Holds Telling.notes
          (setup.Back last (· = settings) reached))
        (Resolution.resolve settings.record) later)
    (back : start.Holds Telling.notes (setup.Back trailer (· = settings) told)) :
    surroundings.Ensures (fun _ site => site.Holds Telling.notes wider)
      (fun _ site => site.Holds Telling.notes wider) Resolution.run start := by
  refine ensures_mono (resolution_ensures (watches_of_implies before)
    (watches_of_implies resolved) (watches_of_implies forgotten) resolves back) ?_
  rintro found later ⟨_, back⟩
  refine forgotten _ _ _ _ (Setup.back_mono back ?_ fun _ told => told)
  intro stored idle
  rw [Setup.Forgotten, idle]

theorem trying_ensures
    (back : start.Holds Telling.notes (setup.Back .onTrial setup.Due (· = ⟨[], false⟩))) :
    surroundings.Ensures (fun _ site => site.Holds Telling.notes setup.Trying)
      (fun _ site => site.Holds Telling.notes setup.Trying) Resolution.run start := by
  have record : start.settings.record = ⟨.pendingReboot, some setup.id⟩ := back.stored
  have due : ∀ stored, stored = start.settings → setup.Due stored := by
    rintro stored rfl
    exact record
  have waiting : ∀ stored device files telling,
      setup.Back .onTrial (· = start.settings) (· = ⟨[], false⟩) stored device files telling →
      setup.Trying stored device files telling :=
    fun _ _ _ _ back => .inl (Setup.back_mono back due fun _ told => told)
  have confirmed : ∀ stored device files telling,
      setup.Back .settled (· = start.settings) (· = ⟨[], true⟩) stored device files telling →
      setup.Trying stored device files telling := by
    refine fun _ _ _ _ back => .inr (.inl (Setup.back_mono back due ?_))
    rintro telling rfl
    exact Setup.tells_nothing .success true
  have told : ∀ stored device files telling,
      setup.Back .settled (· = start.settings) (Announced setup.id.text .success none true)
        stored device files telling →
      setup.Trying stored device files telling :=
    fun _ _ _ _ back => .inr (.inl (Setup.back_mono back due fun _ => Setup.tells_of_announced))
  have forgotten : ∀ stored device files telling,
      setup.Back .settled Setup.Forgotten (Announced setup.id.text .success none true)
        stored device files telling →
      setup.Trying stored device files telling :=
    fun _ _ _ _ back =>
      .inr (.inr (Setup.back_mono back (fun _ known => known) fun _ => Setup.tells_of_announced))
  refine spell_ensures (.confirmed setup.id) waiting told forgotten ?_
    ⟨back.banks, rfl, back.told, back.files⟩
  exact fun later back => resolve_trial (by rw [record]) (by rw [record])
    (watches_of_implies waiting) (watches_of_implies confirmed) (watches_of_implies told) back

theorem lapsing_ensures
    (back : start.Holds Telling.notes (setup.Back .settled setup.Due (· = ⟨[], false⟩))) :
    surroundings.Ensures (fun _ site => site.Holds Telling.notes setup.Lapsing)
      (fun _ site => site.Holds Telling.notes setup.Lapsing) Resolution.run start := by
  have record : start.settings.record = ⟨.pendingReboot, some setup.id⟩ := back.stored
  have due : ∀ stored, stored = start.settings → setup.Due stored := by
    rintro stored rfl
    exact record
  have silent : ∀ stored device files telling,
      setup.Back .settled (· = start.settings) (· = ⟨[], false⟩) stored device files telling →
      setup.Lapsing stored device files telling := by
    refine fun _ _ _ _ back => .inl (Setup.back_mono back due ?_)
    rintro telling rfl
    exact Setup.tells_nothing .failure false
  have told : ∀ stored device files telling,
      setup.Back .settled (· = start.settings)
        (Announced setup.id.text .failure (some .swapFail) false) stored device files telling →
      setup.Lapsing stored device files telling :=
    fun _ _ _ _ back => .inl (Setup.back_mono back due fun _ => Setup.tells_of_announced)
  have forgotten : ∀ stored device files telling,
      setup.Back .settled Setup.Forgotten
        (Announced setup.id.text .failure (some .swapFail) false) stored device files telling →
      setup.Lapsing stored device files telling :=
    fun _ _ _ _ back =>
      .inr (Setup.back_mono back (fun _ known => known) fun _ => Setup.tells_of_announced)
  refine spell_ensures (.failed setup.id .swapFail) silent told forgotten ?_
    ⟨back.banks, rfl, back.told, back.files⟩
  exact fun later back => resolve_unswapped (by rw [record]) (by rw [record])
    (watches_of_implies silent) (watches_of_implies told) back

theorem resting_ensures (back : start.Holds Telling.notes setup.Resting) :
    surroundings.Ensures (fun _ site => site.Holds Telling.notes setup.Resting)
      (fun _ site => site.Holds Telling.notes setup.Resting) Resolution.run start := by
  have unknown : start.settings.record.id = none := back.stored
  have same : ∀ stored device files telling,
      setup.Back .settled (· = start.settings) (· = ⟨[], false⟩) stored device files telling →
      setup.Resting stored device files telling := by
    refine fun _ _ _ _ back => Setup.back_mono back ?_ fun _ told => told
    rintro stored rfl
    exact unknown
  refine spell_ensures .nothingPending same same (fun _ _ _ _ back => back) ?_
    ⟨back.banks, rfl, back.told, back.files⟩
  exact fun later back => resolve_nothing unknown (watches_of_implies same) back

end Spells

section Confirming

variable {setup : Setup} {start cut : Site} {program rest : Agent Resolution}

def Setup.Placed (setup : Setup) : SettingsTable → FileDevice → FileTree → Telling → Prop :=
  fun settings device files telling =>
    ∃ trailer, setup.Back trailer (fun _ => True) (fun _ => True) settings device files telling

theorem confirm_of_answers {reply : Agent.interface.Reply (.device .confirm)} {before after : Site}
    (placed : before.Holds Telling.notes setup.Placed)
    (answers : surroundings.Answers (.device .confirm) before reply after) : reply = .ok () := by
  obtain ⟨trailer, back⟩ := placed
  obtain ⟨device, files, reached, _⟩ :=
    flashed rfl (confirm_yields back (fun _ => True) trivial) answers
  exact reached.1

theorem placed_of_trying {site : Site} (trying : site.Holds Telling.notes setup.Trying) :
    site.Holds Telling.notes setup.Placed := by
  have anyhow {trailer : SwapTrailer} {stored : SettingsTable → Prop} {told : Telling → Prop}
      (back : site.Holds Telling.notes (setup.Back trailer stored told)) :
      site.Holds Telling.notes setup.Placed :=
    ⟨trailer, Setup.back_mono back (fun _ _ => trivial) fun _ _ => trivial⟩
  rcases trying with waiting | confirmed | forgotten
  · exact anyhow waiting
  · exact anyhow confirmed
  · exact anyhow forgotten

/-- While a trial is settled, an image that was to be confirmed was confirmed. -/
theorem confirmed_of_leads
    (ensured : surroundings.Ensures (fun _ site => site.Holds Telling.notes setup.Trying)
      (fun _ site => site.Holds Telling.notes setup.Trying) program start)
    (fresh : start.history = []) (leads : surroundings.Leads (program, start) (rest, cut))
    (spoken : (Telling.notes.of cut.history).confirms = true) : cut.Confirmed := by
  have answered : ∀ reply, .exchange (.device .confirm) reply ∈ cut.history → reply = .ok () := by
    refine kept_of_leads (fun site : Site => ∀ reply,
      .exchange (.device .confirm) reply ∈ site.history → reply = .ok ()) ensured ?_ ?_ ?_ leads
    · rintro before after rfl confirmed reply inside
      exact confirmed reply (by simpa [Site.cancel, note] using inside)
    · intro call before reply after trying confirmed answers other inside
      rw [history_of_answers answers, List.mem_append, List.mem_singleton] at inside
      rcases inside with earlier | latest
      · exact confirmed other earlier
      · cases latest
        exact confirm_of_answers (placed_of_trying trying) answers
    · simp [fresh]
  obtain ⟨happening, inside, asked⟩ := List.any_eq_true.1 spoken
  unfold Happening.isConfirm at asked
  split at asked
  · rename_i reply
    rw [Site.Confirmed, ← answered reply inside]
    exact inside
  · contradiction

end Confirming

section Starting

variable {setup : Setup} {start cut later : Site} {cuts : List Site}

theorem not_confirmed (silent : (Telling.notes.of cut.history).confirms = false) :
    ¬ cut.Confirmed := by
  intro confirmed
  have spoken : (Telling.notes.of cut.history).confirms = true :=
    List.any_eq_true.2 ⟨_, confirmed, rfl⟩
  rw [silent] at spoken
  contradiction

/-- After a pass of the bootloader the banks are settled, unless a trial was asked for. -/
theorem back_of_returns {trailer : SwapTrailer} {stored : SettingsTable → Prop}
    {told : Telling → Prop} (returns : cut.Returns later) (unasked : trailer.testPending = false)
    (back : cut.Holds Telling.notes (setup.Back trailer stored told)) :
    ∃ primary, later.Holds Telling.notes
      ((setup.running primary).Back .settled stored (· = ⟨[], false⟩)) := by
  obtain ⟨machine, after, action, same, ran, rfl⟩ := returns
  obtain ⟨secondary, scratch, stands⟩ := back.files
  rw [back.banks] at ran
  obtain ⟨rfl, booted⟩ := (BankDirectory.boot_yields_ok stands).of_run same ran action rfl
  have settles : (⟨setup.primary, secondary, scratch, trailer⟩ : Holdings).action.trailer =
      .settled := by
    simp only [Holdings.action, unasked, Bool.false_eq_true, if_false]
    split <;> rfl
  rw [Holdings.booted, settles] at booted
  exact ⟨(Holdings.after _ _).primary, back.banks, back.stored, rfl, _, _, booted⟩

theorem silent_of_restarts {trailer : SwapTrailer} {told : Telling → Prop}
    (restarts : Restarts cut cuts) (unasked : trailer.testPending = false)
    (back : cut.Holds Telling.notes (setup.Back trailer Setup.Forgotten told)) :
    ∀ later ∈ cuts, Telling.notes.of later.history = ⟨[], false⟩ := by
  induction restarts generalizing setup trailer told with
  | none cut => simp
  | next returns leads onward ih =>
      obtain ⟨primary, back⟩ := back_of_returns returns unasked back
      have resting := holds_of_ensures (resting_ensures back) leads
      exact List.forall_mem_cons.2 ⟨resting.told, ih rfl resting⟩

/-- Once a trial is over and its restart still on record, nothing but a failure is told. -/
theorem tells_of_restarts {trailer : SwapTrailer} {told : Telling → Prop}
    (restarts : Restarts cut cuts) (unasked : trailer.testPending = false)
    (back : cut.Holds Telling.notes (setup.Back trailer setup.Due told)) :
    ∀ later ∈ cuts, setup.Tells .failure false (Telling.notes.of later.history) := by
  induction restarts generalizing setup trailer told with
  | none cut => simp
  | next returns leads onward ih =>
      obtain ⟨primary, back⟩ := back_of_returns returns unasked back
      rcases holds_of_ensures (lapsing_ensures back) leads with due | forgotten
      · have rest := ih rfl due
        exact List.forall_mem_cons.2 ⟨due.told, rest⟩
      · have rest := silent_of_restarts onward rfl forgotten
        refine List.forall_mem_cons.2 ⟨forgotten.told, fun later inside => ?_⟩
        rw [rest later inside]
        exact Setup.tells_nothing .failure false

/-- Where the power can go while a trial is settled for the first time, and what is told after it
came back. -/
theorem cases_of_restarts {rest : Agent Resolution}
    (back : start.Holds Telling.notes (setup.Back .onTrial setup.Due (· = ⟨[], false⟩)))
    (fresh : start.history = []) (leads : surroundings.Leads (Resolution.run, start) (rest, cut))
    (restarts : Restarts cut cuts) :
    (Telling.notes.of cut.history = ⟨[], false⟩ ∧
      ∀ later ∈ cuts, setup.Tells .failure false (Telling.notes.of later.history)) ∨
    (cut.Exposed ∧ setup.Tells .success true (Telling.notes.of cut.history) ∧
      ∀ later ∈ cuts, setup.Tells .failure false (Telling.notes.of later.history)) ∨
    (¬ cut.Exposed ∧ setup.Tells .success true (Telling.notes.of cut.history) ∧
      ∀ later ∈ cuts, Telling.notes.of later.history = ⟨[], false⟩) := by
  have ensured := trying_ensures back
  -- The cut leaves one of three states; what is told later depends on the record it left.
  rcases holds_of_ensures ensured leads with waiting | confirmed | forgotten
  · exact .inl ⟨waiting.told, tells_of_restarts restarts rfl waiting⟩
  · refine .inr (.inl ⟨⟨?_, ?_⟩, confirmed.told, tells_of_restarts restarts rfl confirmed⟩)
    · exact confirmed_of_leads ensured fresh leads confirmed.told.1
    · rw [show cut.settings.record = ⟨.pendingReboot, some setup.id⟩ from confirmed.stored]
      simp
  · refine .inr (.inr ⟨?_, forgotten.told, silent_of_restarts restarts rfl forgotten⟩)
    exact fun exposed => exposed.2 forgotten.stored

theorem announced_of_tells {phase other : Phase} {confirms : Bool} {uuid : String}
    (tells : setup.Tells phase confirms (Telling.notes.of cut.history))
    (announced : cut.Announced uuid other) : other.status = phase.status := by
  obtain ⟨event, inside, _, status⟩ := announced
  exact status.symm.trans (tells.2 event inside).2

theorem unannounced_of_quiet {phase : Phase} {uuid : String} (quiet : cut.events = []) :
    ¬ cut.Announced uuid phase := by
  rintro ⟨event, inside, _⟩
  rw [quiet] at inside
  contradiction

theorem consistent_of_unconfirmed {uuid : String}
    (unconfirmed : ∀ cut ∈ cuts, ¬ cut.Confirmed)
    (unannounced : ∀ cut ∈ cuts, ∀ other, ¬ cut.Announced other .success) :
    Consistent uuid cuts where
  kept := List.pairwise_of_forall_mem_list fun earlier inside _ _ confirmed =>
    absurd confirmed (unconfirmed earlier inside)
  single := by
    rintro other ⟨⟨cut, inside, announced⟩, _⟩
    exact unannounced cut inside other announced

theorem consistent_of_quiet {uuid : String}
    (tells : setup.Tells .success true (Telling.notes.of cut.history))
    (quiet : ∀ later ∈ cuts, later.events = []) : Consistent uuid (cut :: cuts) where
  kept := by
    refine List.pairwise_cons.2
      ⟨fun later inside _ => unannounced_of_quiet (quiet later inside), ?_⟩
    exact List.pairwise_of_forall_mem_list fun _ _ later inside _ =>
      unannounced_of_quiet (quiet later inside)
  single := by
    rintro other ⟨_, failed, inside, announced⟩
    rcases List.mem_cons.1 inside with rfl | inside
    · exact absurd (announced_of_tells tells announced) (by decide)
    · exact unannounced_of_quiet (quiet failed inside) announced

theorem quiet_of_consistent
    (consistent : Consistent setup.id.text (cut :: cuts)) (confirmed : cut.Confirmed)
    (tells : ∀ cut ∈ cuts, setup.Tells .failure false (Telling.notes.of cut.history)) :
    ∀ later ∈ cuts, later.events = [] := by
  intro later inside
  refine List.eq_nil_iff_forall_not_mem.2 fun event told => ?_
  have kept := (List.pairwise_cons.1 consistent.kept).1 later inside confirmed
  exact kept ⟨event, told, (tells later inside).2 event told⟩

end Starting

/-- Recovery from a power cut while a trial is settled: what is told from then on agrees just if the
power did not go where the image was confirmed and its id still on record, or nothing more is told.
-/
theorem consistent_iff_unexposed (start : Site) (home : Location) (holdings : Holdings)
    (stands : start.device.banks.Stands home holdings start.files)
    (trial : holdings.trailer = .onTrial) (id : RequestId)
    (due : start.settings.record = ⟨.pendingReboot, some id⟩) (fresh : start.history = [])
    (rest : Agent Resolution) (cut : Site)
    (leads : surroundings.Leads (Resolution.run, start) (rest, cut)) (cuts : List Site)
    (restarts : Restarts cut cuts) :
    Consistent id.text (cut :: cuts) ↔ (cut.Exposed → ∀ later ∈ cuts, later.events = []) := by
  obtain ⟨primary, secondary, scratch, trailer⟩ := holdings
  cases trial
  let setup : Setup := ⟨start.device.banks, home, primary, id⟩
  have back : start.Holds Telling.notes (setup.Back .onTrial setup.Due (· = ⟨[], false⟩)) :=
    ⟨rfl, due, by rw [fresh]; rfl, secondary, scratch, stands⟩
  rcases cases_of_restarts back fresh leads restarts with
    ⟨silent, tells⟩ | ⟨exposed, told, tells⟩ | ⟨unexposed, told, silent⟩
  · have unconfirmed : ¬ cut.Confirmed := not_confirmed (by rw [silent])
    refine iff_of_true (consistent_of_unconfirmed ?_ ?_) fun exposed =>
      absurd exposed.1 unconfirmed
    · exact List.forall_mem_cons.2
        ⟨unconfirmed, fun later inside => not_confirmed (tells later inside).1⟩
    · refine List.forall_mem_cons.2 ⟨fun other => unannounced_of_quiet ?_, ?_⟩
      · rw [Site.events, silent]
      · intro later inside other announced
        exact absurd (announced_of_tells (tells later inside) announced) (by decide)
  · constructor
    · exact fun consistent _ => quiet_of_consistent consistent exposed.1 tells
    · exact fun quiet => consistent_of_quiet told (quiet exposed)
  · have quiet : ∀ later ∈ cuts, later.events = [] := by
      intro later inside
      rw [Site.events, silent later inside]
    exact iff_of_true (consistent_of_quiet told quiet) fun exposed => absurd exposed unexposed

namespace Site

def answerUntil (stops : Device.Call → Bool) :
    (call : Agent.Call) → Site → Option (Agent.Reply call × Site)
  | .device call, site =>
      if stops call then none
      else if call.isFlash then
        match (Machine.holding site.files).run (FileDevice.answer call site.device) with
        | (.finished (reply, device), later) =>
            some (reply, { site with device := device, files := later.files }.note
              (.exchange (.device call) reply))
        | (.exited _, _) => none
      else
        let (reply, bench) := Bench.answer call { Bench.fresh with settings := site.settings }
        some (reply, { site with settings := bench.settings }.note (.exchange (.device call) reply))
  | .shared (.slot operation), site =>
      some ((site.slot.apply operation).1, { site with slot := (site.slot.apply operation).2 }.note
        (.exchange (.shared (.slot operation)) (site.slot.apply operation).1))
  | .shared (.notify notification), site =>
      some ((), site.note (.exchange (.shared (.notify notification)) ()))
  | .shared (.launch policy request), site =>
      some ((), site.note (.exchange (.shared (.launch policy request)) ()))
  | .join, site => some (.nothing, site.note (.exchange .join .nothing))

theorem serves_bench {call : Device.Call} (calm : call.isFlash = false) (site : Site) :
    let answered := Bench.answer call { Bench.fresh with settings := site.settings }
    Serves call site answered.1 { site with settings := answered.2.settings } := by
  cases call with
  | source call => cases call <;> rfl
  | _ => first | contradiction | exact ⟨rfl, rfl⟩ | rfl

theorem answers_of_answerUntil (stops : Device.Call → Bool) (call : Agent.Call) (site : Site)
    (reply : Agent.Reply call) (after : Site)
    (answered : answerUntil stops call site = some (reply, after)) :
    surroundings.Answers call site reply after := by
  unfold answerUntil at answered
  split at answered
  · rename_i call site
    split at answered
    · contradiction
    · split at answered
      · rename_i flash
        split at answered
        · rename_i reply device later ran
          cases answered
          exact ⟨_, (serves_iff flash).2 ⟨_, later, device, rfl, ran, rfl⟩, rfl⟩
        · contradiction
      · rename_i calm
        cases answered
        exact ⟨_, serves_bench (by simpa using calm) _, rfl⟩
  all_goals
    cases answered
    first | exact ⟨rfl, rfl⟩ | rfl

def unforgotten (site : Site) : Site :=
  (Resolution.run.advance (answerUntil fun call => match call with
    | .delete .. => true
    | _ => false) site).2

theorem leads_unforgotten (site : Site) :
    ∃ rest, surroundings.Leads (Resolution.run, site) (rest, site.unforgotten) :=
  ⟨_, leads_advance surroundings id (answerUntil _) (answers_of_answerUntil _) Resolution.run site⟩

def booted (site : Site) : Ended (Except Failure BootAction) × Machine :=
  (Machine.holding site.files).run site.device.banks.boot

def boots (site : Site) : Bool :=
  match site.booted.1 with
  | .finished (.ok _) => true
  | _ => false

theorem returns_of_boots {site : Site} (boots : site.boots = true) :
    site.Returns (site.restarted site.booted.2.files) := by
  unfold Site.boots at boots
  split at boots
  · rename_i action ended
    exact ⟨_, site.booted.2, action, rfl, Prod.ext ended rfl, rfl⟩
  · contradiction

end Site

namespace Setup

def sampleTrial : FileTree :=
  ((Machine.holding sampleFiles).run (sampleDevice.banks.storeTrailer .onTrial)).2.files

theorem stands_sampleTrial :
    sampleDevice.banks.Stands ["banks"] ⟨some [1, 2, 3], none, none, .onTrial⟩ sampleTrial := by
  obtain ⟨result, later, ran, _, stands⟩ :=
    BankDirectory.storeTrailer_yields stands_sample .onTrial (.holding sampleFiles) rfl
  rw [sampleTrial, ran]
  exact stands

def sampleId : RequestId :=
  ⟨Request.sample.uuid, by decide +kernel⟩

def sampleDue : SettingsTable :=
  (SettingsTable.empty.save Record.space Record.stageKey [Stage.pendingReboot.byte]).save
    Record.space Record.idKey sampleId.encode

theorem record_sampleDue : sampleDue.record = ⟨.pendingReboot, some sampleId⟩ := by
  decide +kernel

def sampleStart : Site :=
  ⟨sampleDue, sampleDevice, sampleTrial, .idle, []⟩

def sampleAgain : Site :=
  sampleStart.unforgotten.restarted sampleStart.unforgotten.booted.2.files

theorem restarts_sample : Restarts sampleStart.unforgotten [sampleAgain.unforgotten] := by
  have boots : sampleStart.unforgotten.boots = true := by decide +kernel
  obtain ⟨rest, leads⟩ := leads_unforgotten sampleAgain
  exact .next (returns_of_boots boots) leads (.none _)

end Setup

open Setup in
theorem consistent_iff_unexposed_sample :
    Restarts sampleStart.unforgotten [sampleAgain.unforgotten] ∧
      (Consistent sampleId.text [sampleStart.unforgotten, sampleAgain.unforgotten] ↔
        (sampleStart.unforgotten.Exposed →
          ∀ later ∈ [sampleAgain.unforgotten], later.events = [])) := by
  obtain ⟨rest, leads⟩ := leads_unforgotten sampleStart
  exact ⟨restarts_sample, consistent_iff_unexposed sampleStart ["banks"] _ stands_sampleTrial rfl
    sampleId record_sampleDue rfl rest _ leads _ restarts_sample⟩

open Setup in
/-- A trial is confirmed, and a failure of the same update told at the next start. -/
theorem trial_contradicted :
    sampleStart.device.banks.Stands ["banks"] ⟨some [1, 2, 3], none, none, .onTrial⟩
        sampleStart.files ∧
      sampleStart.settings.record = ⟨.pendingReboot, some sampleId⟩ ∧ sampleStart.history = [] ∧
      (∃ rest, surroundings.Leads (Resolution.run, sampleStart)
        (rest, sampleStart.unforgotten)) ∧
      Restarts sampleStart.unforgotten [sampleAgain.unforgotten] ∧
      ¬ Consistent sampleId.text [sampleStart.unforgotten, sampleAgain.unforgotten] := by
  have success : sampleStart.unforgotten.Announced sampleId.text .success := by decide +kernel
  have failure : sampleAgain.unforgotten.Announced sampleId.text .failure := by decide +kernel
  refine ⟨stands_sampleTrial, record_sampleDue, rfl, leads_unforgotten sampleStart,
    restarts_sample, fun consistent => ?_⟩
  exact consistent.single sampleId.text
    ⟨⟨_, .head _, success⟩, ⟨_, .tail _ (.head _), failure⟩⟩

end DualBank
