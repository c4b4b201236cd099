import DualBank.Proofs.Station
import DualBank.Proofs.Unwinding
import DualBank.Proofs.WriteAhead

/-! What a thread is in the middle of, and what it leaves behind: an installation frees its slot as
its last act unless it restarts the device, what it left stays until somebody else is let in, and
once the device is restarting nothing changes any more. -/

namespace DualBank

open Program Surroundings Scene Agent.Call

section Parting

structure Scene.Departed (request : Option Request) (scene : Scene) : Prop where
  slot : scene.slot ≠ .idle
  record : ∃ id : RequestId, request.map Request.uuid = some id.text ∧
    scene.settings.record = ⟨.pendingReboot, some id⟩

def Scene.Parted (request : Option Request) (outcome : Option Outcome) (scene : Scene) : Prop :=
  if outcome = some .rebooting then scene.Departed request else scene.Freed

/-- Only to finish sets a slot free. -/
theorem Slot.apply_of_taken {slot : Slot} {operation : Slot.Operation}
    (other : operation ≠ .finish) (taken : slot ≠ .idle) : (slot.apply operation).2 ≠ .idle := by
  cases operation <;> cases slot <;> first | decide | contradiction

variable {scene : Scene}

theorem taken_withstands :
    Withstands surroundings (fun _ _ => True) (· ≠ .shared (.slot .finish))
      (fun scene : Scene => scene.slot ≠ .idle) where
  stable := by
    rintro before after rfl taken
    exact Slot.apply_cancel_of_taken taken
  kept call other := by
    intro before reply after answers taken
    change Scene.Answers call before reply after at answers
    unfold Scene.Answers at answers
    split at answers
    · obtain ⟨settings, _, rfl⟩ := answers
      exact taken
    · rename_i operation _
      obtain ⟨_, rfl⟩ := answers
      exact Slot.apply_of_taken (by simpa using other) taken
    · subst answers
      exact taken
  guarded _ _ _ _ := trivial

theorem stable_departed (request : Option Request) : surroundings.Stable (Departed request) := by
  rintro before after rfl departed
  exact ⟨Slot.apply_cancel_of_taken departed.slot, departed.record⟩

theorem stable_parted (request : Option Request) (outcome : Option Outcome) :
    surroundings.Stable (Parted request outcome) := by
  intro before after moves parted
  unfold Parted at parted ⊢
  split
  · rename_i restarted
    rw [if_pos restarted] at parted
    exact stable_departed request before after moves parted
  · rename_i other
    rw [if_neg other] at parted
    exact stable_freed before after moves parted

theorem unguarded {α : Type} {guard : Agent.Call → Scene → Prop} {post : α → Scene → Prop}
    {program : Agent α} (ensured : surroundings.Ensures guard post program scene) :
    scene.Ends post program := by
  induction program generalizing scene with
  | done value => exact ensured
  | ask call next ih =>
      intro later passes
      exact ⟨trivial, fun reply after answers =>
        ih reply ((ensured later passes).2 reply after answers)⟩

theorem not_finish_of_works {call : Agent.Call} (works : call.Works) :
    call ≠ .shared (.slot .finish) := by
  rintro rfl
  rcases works with apart | impossible
  · exact apart
  · simp at impossible

/-- A run frees its slot unless it restarts the device. -/
theorem run_frees (policy : Policy) (request : Request) (taken : scene.slot ≠ .idle) :
    scene.Ends
      (fun outcome later => if outcome = .rebooting then later.slot ≠ .idle else later.Freed)
      (Installation.run policy request) := by
  have works {α : Type} {program : Agent α} {scene : Scene}
      (always : program.Always Works fun _ => True) (taken : scene.slot ≠ .idle) :
      scene.Ends (fun _ later => later.slot ≠ .idle) program :=
    ensures_mono (taken_withstands.ensures always (fun _ => not_finish_of_works) taken)
      fun _ _ ended => ended.2
  have concludes {outcome : Outcome} (other : outcome ≠ .rebooting) (scene : Scene) :
      scene.Ends
        (fun outcome later => if outcome = .rebooting then later.slot ≠ .idle else later.Freed)
        (Installation.conclude outcome) := by
    refine ensures_mono (conclude_freed outcome scene) ?_
    rintro result later ⟨rfl, freed⟩
    rw [if_neg other]
    exact freed
  simp only [Installation.run, Agent.log, Agent.device, bind_eq, ask_bind, done_bind,
    pure_eq_done]
  refine ensures_bind (works (announcing_works (phase_always (.head []))) taken) ?_
  intro _ later taken
  refine taken_withstands.ensures_ask _ (by simp) taken ?_
  intro _ later taken
  refine ensures_bind (works (execute_works policy request) taken) ?_
  intro result later taken
  split
  · exact ensures_done taken_withstands.stable taken fun _ taken => by simpa using taken
  · refine taken_withstands.ensures_ask _ (by simp) taken ?_
    exact fun _ later _ => concludes (by simp) later
  · refine taken_withstands.ensures_ask _ (by simp) taken ?_
    intro _ later taken
    refine ensures_bind (works (announcing_works (error_always (.head []) _)) taken) ?_
    exact fun _ later _ => concludes (by simp) later

theorem installation_parts {request : Request} (policy : Policy)
    (valid : request.check = .ok ()) (taken : scene.slot ≠ .idle) :
    scene.Ends (fun outcome later => later.Parted (some request) outcome)
      (Session.installation policy request) := by
  obtain ⟨id, known, same, noZero⟩ := Request.exists_id valid
  refine ensures_bind (ensures_and (run_frees policy request taken)
    (unguarded (installation_ensures known noZero policy scene))) ?_
  rintro outcome later ⟨freed, recorded⟩
  refine ensures_done (stable_parted (some request) (some outcome)) ?_ fun _ parted => parted
  by_cases restarted : outcome = .rebooting
  · rw [if_pos restarted] at freed
    rw [Parted, if_pos (by rw [restarted])]
    exact ⟨freed, id, congrArg some same.symm, (recorded restarted).1⟩
  · rw [if_neg restarted] at freed
    rw [Parted, if_neg (by simpa using restarted)]
    exact freed

theorem panicked_parts (request : Option Request) (scene : Scene) :
    scene.Ends (fun outcome later => later.Parted request outcome) Session.panicked := by
  refine ensures_bind (unwind_freed scene) ?_
  intro _ later freed
  exact ensures_done stable_freed freed fun _ freed => by simpa [Parted] using freed

end Parting

section Taken

variable {process : Process} {call : Agent.Call} {next : Agent.Reply call → Agent Answer}
  {reply : Agent.Reply call} {session : Session}

theorem tally_outside (busy : process.Busy) (outside : Agent.Outside (.ask call next))
    (answers : process.session.Answers call reply session) (number : Nat) :
    process.tally number call reply = process := by
  cases outside with
  | tells tells => exact tally_apart (apart_of_tells tells.1) number
  | start refused admitted =>
      cases answers
      simp only [Session.share, Slot.apply_start_of_taken busy.slot]
      rfl
  | _ => rfl

/-- While the slot is taken, all that an installation can notice of a client is a cancel. -/
theorem passes_client (busy : process.Busy) (outside : Agent.Outside (.ask call next))
    (answers : process.session.Answers call reply session) {before after : SettingsTable}
    (affects : call.Affects before reply after) (history : List Happening) :
    surroundings.Passes ⟨before, process.session.slot, history⟩
      ⟨after, session.slot, call.heard reply history⟩ := by
  obtain rfl : after = before :=
    settings_of_affects affects (not_stores_of_untouched (taken_untouched outside))
  cases outside with
  | tells tells =>
      have same : call.heard reply history = history := by
        have quiet := tells.1
        unfold Agent.Call.Tells at quiet
        split at quiet <;> first | rfl | exact quiet.elim
      rw [same, (answers_apart (apart_of_tells tells.1) answers).1]
      exact .refl
  | start refused admitted =>
      cases answers
      simp only [Session.share, Slot.apply_start_of_taken busy.slot]
      exact .refl
  | cancel tells =>
      cases answers
      exact .single rfl
  | busy refused admitted =>
      cases answers
      exact .refl
  | join tells =>
      rw [(answers_join answers).2.1]
      exact .refl

theorem answers_thread {station : Station} {call : Agent.Call} {reply : Agent.Reply call}
    {session : Session} {settings : SettingsTable}
    (answers : station.process.session.Answers call reply session)
    (affects : call.Affects station.settings reply settings) :
    surroundings.Answers call station.scene reply
      ⟨settings, session.slot, station.history ++ [.exchange call reply]⟩ := by
  cases answers with
  | device call reply => exact ⟨settings, affects, rfl⟩
  | shared call =>
      obtain rfl : settings = station.settings := affects
      cases call with
      | slot operation => exact ⟨rfl, rfl⟩
      | _ => exact rfl
  | nothing _ =>
      obtain rfl : settings = station.settings := affects
      exact rfl
  | ended _ =>
      obtain rfl : settings = station.settings := affects
      exact rfl

end Taken

namespace Station

variable {policy : Policy} {station before after : Station}

structure Working (station : Station) (rest : Agent (Option Outcome)) : Prop where
  busy : station.process.Busy
  launched : station.process.launched = station.process.latest
  ends : station.scene.Ends (fun outcome later => later.Parted station.request outcome) rest

structure Over (number : Nat) (station : Station) : Prop where
  admitted : number < station.process.admitted
  gone : number ∉ station.process.existing
  record : station.process.admitted = number + 1 → station.scene.Granted (· = ⟨.idle, none⟩)

structure Retired (station : Station) : Prop where
  busy : station.process.Busy
  spent : station.process.session.Spent
  departed : station.scene.Departed station.request

def Tended (station : Station) : Prop :=
  match station.process.session.thread with
  | none => True
  | some (.running rest) => station.Working rest ∨
      ∃ outcome, rest = .done outcome ∧ outcome ≠ some .rebooting ∧
        station.Over station.process.launched
  | some (.ended outcome) => outcome ≠ some .rebooting ∧ station.Over station.process.launched ∨
      outcome = some .rebooting ∧ station.Retired

structure Sound (policy : Policy) (station : Station) : Prop where
  orderly : station.process.Orderly policy
  proper : ∀ client, station.process.client = some client →
    client.rest.Always Proper fun _ => True
  leaves : ∀ client, station.process.client = some client →
    client.demand.Leaves policy client.rest
  tended : station.Tended

theorem sound_opening (policy : Policy) (settings : SettingsTable) :
    (opening settings).Sound policy where
  orderly := orderly_opening policy
  proper := (by rintro _ ⟨⟩)
  leaves := (by rintro _ ⟨⟩)
  tended := trivial

theorem admitted_tally (process : Process) (number : Nat) (call : Agent.Call)
    (reply : Agent.Reply call) : process.admitted ≤ (process.tally number call reply).admitted := by
  unfold Process.tally
  split
  · exact Nat.le_succ _
  · exact Nat.le_refl _
  · exact Nat.le_refl _
  · exact Nat.le_refl _

theorem admitted_step (step : Step policy before after) :
    before.process.admitted ≤ after.process.admitted := by
  cases step with
  | client _ _ _ => exact admitted_tally _ _ _ _
  | thread _ _ _ => exact admitted_tally _ _ _ _
  | stray _ _ _ => exact admitted_tally _ _ _ _
  | _ => exact Nat.le_refl _

/-- With nobody let in since, the slot is free again. -/
theorem free_of_over {number : Nat} (orderly : station.process.Orderly policy)
    (past : station.Over number) (last : station.process.admitted = number + 1) :
    station.process.Free := by
  have latest : station.process.latest = number := by simp [Process.latest, last]
  rcases orderly.mode with free | opening | busy
  · exact free
  · exact absurd (by simp [opening.existing, latest]) past.gone
  · exact absurd (by simp [busy.existing, latest]) past.gone

theorem unlaunched_of_free {process : Process} (free : process.Free) {demand : Demand}
    {call : Agent.Call} {next : Agent.Reply call → Agent Answer} {met : Option (List Nat)}
    (demanding : process.client = some ⟨demand, .ask call next, met⟩) (policy : Policy)
    (request : Request) : call ≠ .shared (.launch policy request) := by
  rintro rfl
  rcases free.client _ demanding with outside | apart
  · exact unlaunched_of_outside outside _ _ rfl
  · exact apart.1

theorem refusals_heard {call : Agent.Call}
    (unlaunched : ∀ policy request, call ≠ .shared (.launch policy request))
    (reply : Agent.Reply call) (history : List Happening) :
    (call.heard reply history).any Happening.isRefusal = history.any Happening.isRefusal := by
  unfold Agent.Call.heard
  split
  · simp [Happening.isRefusal]
  · exact absurd rfl (unlaunched _ _)
  · rfl

theorem over_step {number : Nat} (sound : before.Sound policy) (step : Step policy before after)
    (past : before.Over number) : after.Over number := by
  obtain ⟨admitted, gone⟩ := gone_step (process_step step) ⟨past.admitted, past.gone⟩
  refine ⟨admitted, gone, fun last => ?_⟩
  have first : before.process.admitted = number + 1 :=
    Nat.le_antisymm (last ▸ admitted_step step) past.admitted
  have granted := past.record first
  have free := free_of_over sound.orderly past first
  cases step with
  | demand => exact granted
  | answer => exact granted
  | client demanding answers affects =>
      rename_i reply _ _
      intro unrefused
      have same := refusals_heard (unlaunched_of_free free demanding) reply before.history
      exact idle_of_proper (sound.proper _ demanding).1 affects
        (granted (same.symm.trans unrefused))
  | clientPanic demanding answered =>
      exact fun unrefused =>
        idle_of_proper (sound.proper _ demanding).1 answered (granted unrefused)
  | thread running => exact absurd running (free.spent _ _)
  | threadEnd => exact granted
  | threadPanic running => exact absurd running (free.spent _ _)
  | stray found =>
      rw [sound.orderly.strays] at found
      simp at found

theorem unlaunched_same {process : Process} {call : Agent.Call} {reply : Agent.Reply call}
    {session : Session} (unlaunched : ∀ policy request, call ≠ .shared (.launch policy request))
    (answers : process.session.Answers call reply session) (number : Nat)
    (request : Option Request) :
    (session.thread = process.session.thread ∨ session.thread = none) ∧
      (process.tally number call reply).launched = process.launched ∧
      call.launches request = request := by
  refine ⟨?_, ?_, ?_⟩
  · cases answers with
    | device call reply => exact .inl rfl
    | shared call =>
        cases call with
        | launch given request => exact absurd rfl (unlaunched _ _)
        | _ => exact .inl rfl
    | nothing _ => exact .inl rfl
    | ended _ => exact .inr rfl
  · unfold Process.tally
    split
    · rfl
    · rfl
    · exact absurd rfl (unlaunched _ _)
    · rfl
  · unfold Agent.Call.launches
    split
    · exact absurd rfl (unlaunched _ _)
    · rfl

structure Undisturbed (before after : Station) : Prop where
  busy : after.process.Busy
  latest : after.process.latest = before.process.latest
  request : after.request = before.request
  passes : surroundings.Passes before.scene after.scene

theorem undisturbed_withClient (busy : before.process.Busy) {client : Option Client}
    (onward : ∀ demanding, client = some demanding →
      demanding.rest.Always Agent.Call.Tells (fun _ => True) ∨
        demanding.met = none ∧ demanding.rest.Outside) :
    before.Undisturbed { before with process := { before.process with client := client } } :=
  ⟨busy.withClient onward, rfl, rfl, .refl⟩

theorem undisturbed_demand (busy : before.process.Busy) (demand : Demand) :
    before.Undisturbed { before with process := { before.process with
      client := some ⟨demand, demand.program policy, none⟩ } } := by
  refine undisturbed_withClient busy ?_
  rintro _ ⟨rfl⟩
  exact .inr ⟨rfl, demand_outside policy demand⟩

theorem undisturbed_clientPanic {demand : Demand} {call : Device.Call}
    {next : Device.Reply call → Agent Answer} {met : Option (List Nat)} {reply : Device.Reply call}
    {settings : SettingsTable} (busy : before.process.Busy)
    (demanding : before.process.client = some ⟨demand, .ask (.device call) next, met⟩)
    (answered : call.Answered before.settings reply settings) :
    before.Undisturbed { before with
      process := { before.process with client := none }
      settings := settings } := by
  obtain rfl : settings = before.settings := Device.Call.settings_of_answered answered
    (not_stores_of_untouched (taken_untouched (busy.outside demanding)))
  exact undisturbed_withClient busy (by simp)

theorem undisturbed_client {demand : Demand} {call : Agent.Call}
    {next : Agent.Reply call → Agent Answer} {met : Option (List Nat)} {reply : Agent.Reply call}
    {session : Session} {settings : SettingsTable} (busy : before.process.Busy)
    (demanding : before.process.client = some ⟨demand, .ask call next, met⟩)
    (answers : before.process.session.Answers call reply session)
    (affects : call.Affects before.settings reply settings) :
    before.Undisturbed {
      process := (before.process.tally before.process.latest call reply).resume session
        ⟨demand, next reply, before.process.look met call⟩
      settings := settings
      request := call.launches before.request
      history := call.heard reply before.history } := by
  have outside := busy.outside demanding
  have same := tally_outside busy outside answers before.process.latest
  refine ⟨busy_client busy answers outside rfl, ?_, ?_,
    passes_client busy outside answers affects _⟩
  · change (before.process.tally before.process.latest call reply).latest = before.process.latest
    rw [same]
  · exact (unlaunched_same (unlaunched_of_outside outside) answers 0 before.request).2.2

theorem retired_of_undisturbed (retired : before.Retired) (spent : after.process.session.Spent)
    (undisturbed : before.Undisturbed after) : after.Retired := by
  refine ⟨undisturbed.busy, spent, ?_⟩
  rw [undisturbed.request]
  exact (stable_departed _).passes undisturbed.passes retired.departed

/-- A step of a client that leaves the thread where it was. -/
theorem tended_of_same (sound : before.Sound policy) (step : Step policy before after)
    (thread : after.process.session.thread = before.process.session.thread)
    (launched : after.process.launched = before.process.launched)
    (undisturbed : before.process.Busy → before.Undisturbed after) : after.Tended := by
  have tended := sound.tended
  unfold Tended at tended ⊢
  rw [thread, launched]
  cases same : before.process.session.thread with
  | none => trivial
  | some thread' =>
      rw [same] at tended
      cases thread' with
      | running rest =>
          rcases tended with working | ⟨outcome, done, other, past⟩
          · obtain ⟨busy, latest, request, passes⟩ := undisturbed working.busy
            refine .inl ⟨busy, launched.trans (working.launched.trans latest.symm), ?_⟩
            rw [request]
            exact ensures_passes working.ends passes
          · exact .inr ⟨outcome, done, other, over_step sound step past⟩
      | ended outcome =>
          rcases tended with ⟨other, past⟩ | ⟨restarted, retired⟩
          · exact .inl ⟨other, over_step sound step past⟩
          · exact .inr ⟨restarted, retired_of_undisturbed retired
              (spent_of_thread thread retired.spent) (undisturbed retired.busy)⟩

theorem tended_launch {demand : Demand} {given : Policy} {request : Request}
    {next : Unit → Agent Answer} {met : Option (List Nat)} (sound : before.Sound policy)
    (demanding : before.process.client =
      some ⟨demand, .ask (.shared (.launch given request)) next, met⟩) (client : Client)
    (same : client.rest = next ()) :
    Tended {
      process := (before.process.tally before.process.latest (.shared (.launch given request))
        ()).resume (before.process.session.share (.launch given request)).2 client
      settings := before.settings
      request := some request
      history := [] } := by
  have valid : request.check = .ok () := (sound.proper _ demanding).1.2 _ _ rfl
  rcases sound.orderly.mode with free | opening | busy
  · exact absurd rfl (unlaunched_of_free free demanding _ _)
  · obtain ⟨_, found, rest⟩ := opening.client
    obtain rfl := Option.some.inj (demanding.symm.trans found)
    rcases rest with admitting | ⟨impossible, _⟩ | ⟨tells, _⟩
    · cases admitting with
      | launch tells =>
          refine .inl ⟨⟨⟨opening.existing, opening.admitted, opening.slot⟩, ?_, ?_⟩, rfl, ?_⟩
          · exact .inr ⟨rfl, _, rfl, installation_closes _ _⟩
          · rintro _ ⟨rfl⟩
            exact .inl (same ▸ tells)
          · exact installation_parts given valid opening.slot
    · cases impossible
    · exact tells.elim
  · exact absurd rfl (unlaunched_of_outside (busy.outside demanding) _ _)

theorem tended_client {demand : Demand} {call : Agent.Call} {next : Agent.Reply call → Agent Answer}
    {met : Option (List Nat)} {reply : Agent.Reply call} {session : Session}
    {settings : SettingsTable} (sound : before.Sound policy)
    (demanding : before.process.client = some ⟨demand, .ask call next, met⟩)
    (answers : before.process.session.Answers call reply session)
    (affects : call.Affects before.settings reply settings) :
    Tended {
      process := (before.process.tally before.process.latest call reply).resume session
        ⟨demand, next reply, before.process.look met call⟩
      settings := settings
      request := call.launches before.request
      history := call.heard reply before.history } := by
  by_cases launching : ∃ given request, call = .shared (.launch given request)
  · obtain ⟨given, request, rfl⟩ := launching
    cases answers
    obtain rfl : settings = before.settings := affects
    exact tended_launch sound demanding _ rfl
  · have unlaunched (given : Policy) (request : Request) :
        call ≠ .shared (.launch given request) := fun same => launching ⟨given, request, same⟩
    obtain ⟨left | gone, launched, _⟩ :=
      unlaunched_same unlaunched answers before.process.latest before.request
    · exact tended_of_same sound (.client demanding answers affects) left launched fun busy =>
        undisturbed_client busy demanding answers affects
    · unfold Tended
      simp only [Process.resume, gone]

theorem works_same {process : Process} {call : Agent.Call} {reply : Agent.Reply call}
    {session : Session} (works : call.Works)
    (answers : process.session.Answers call reply session) (number : Nat) :
    process.tally number call reply = process ∧ session.slot = process.session.slot := by
  rcases works with apart | rfl
  · exact ⟨tally_apart apart number, (answers_apart apart answers).1⟩
  · cases answers
    exact ⟨rfl, rfl⟩

theorem tended_thread {call : Agent.Call} {next : Agent.Reply call → Agent (Option Outcome)}
    {reply : Agent.Reply call} {session : Session} {settings : SettingsTable}
    (sound : before.Sound policy)
    (running : before.process.session.thread = some (.running (.ask call next)))
    (answers : before.process.session.Answers call reply session)
    (affects : call.Affects before.settings reply settings) :
    Tended { before with
      process := { before.process.tally before.process.launched call reply with
        session := { session with thread := some (.running (next reply)) } }
      settings := settings
      history := before.history ++ [.exchange call reply] } := by
  have tended := sound.tended
  unfold Tended at tended
  rw [running] at tended
  rcases tended with working | ⟨_, impossible, _⟩
  · have onward := (working.ends _ .refl).2 reply _ (answers_thread answers affects)
    rcases working.busy.work with spent | ⟨launched, rest, found, closes⟩
    · exact absurd running (spent _ _)
    · obtain rfl : rest = .ask call next := by simpa [found] using running
      rcases closes with ⟨rfl, ends⟩ | ⟨works, closes⟩
      · obtain ⟨outcome, done⟩ := ends reply
        rw [done] at onward ⊢
        cases answers
        have parted := onward.ended
        have other : outcome ≠ some .rebooting := by
          rintro rfl
          rw [Parted, if_pos rfl] at parted
          exact parted.slot rfl
        rw [Parted, if_neg other] at parted
        refine .inr ⟨outcome, rfl, other, ?_, ?_, fun _ => parted.record⟩
        · change before.process.launched < before.process.admitted
          rw [working.launched]
          exact Nat.sub_lt working.busy.admitted Nat.one_pos
        · simp [Process.tally, working.busy.existing, working.launched]
      · obtain ⟨same, slot⟩ := works_same works answers before.process.launched
        rw [same]
        exact .inl ⟨working.busy.withThread slot (.inr ⟨launched, _, rfl, closes reply⟩),
          working.launched, onward⟩
  · cases impossible

theorem tended_step (sound : before.Sound policy) (step : Step policy before after) :
    after.Tended := by
  cases step with
  | demand demand none =>
      exact tended_of_same sound (.demand demand none) rfl rfl fun busy =>
        undisturbed_demand busy demand
  | answer demanding =>
      exact tended_of_same sound (.answer demanding) rfl rfl fun busy =>
        undisturbed_withClient busy (by simp)
  | client demanding answers affects => exact tended_client sound demanding answers affects
  | clientPanic demanding answered =>
      exact tended_of_same sound (.clientPanic demanding answered) rfl rfl fun busy =>
        undisturbed_clientPanic busy demanding answered
  | thread running answers affects => exact tended_thread sound running answers affects
  | threadEnd running =>
      rename_i outcome
      have tended := sound.tended
      unfold Tended at tended
      rw [running] at tended
      rcases tended with working | ⟨_, ⟨⟩, other, past⟩
      · have parted := working.ends.ended
        by_cases restarted : outcome = some .rebooting
        · rw [Parted, if_pos restarted] at parted
          exact .inr ⟨restarted, working.busy.withThread rfl (.inl nofun), nofun,
            parted.slot, parted.record⟩
        · rw [Parted, if_neg restarted] at parted
          exact absurd parted.slot working.busy.slot
      · exact .inl ⟨other, past.admitted, past.gone, past.record⟩
  | threadPanic running answered =>
      have tended := sound.tended
      unfold Tended at tended
      rw [running] at tended
      rcases tended with working | ⟨_, impossible, _⟩
      · exact .inl ⟨working.busy.withThread rfl (.inr ⟨working.launched, _, rfl, panicked_closes⟩),
          working.launched, panicked_parts _ _⟩
      · cases impossible
  | stray found answers affects =>
      rw [sound.orderly.strays] at found
      simp at found

/-- What holds of all that may be left of a demand, holds of what is left of it. -/
theorem client_step {motive : Demand → Agent Answer → Prop}
    (all : ∀ demand : Demand, motive demand (demand.program policy))
    (onward : ∀ demand call (next : Agent.Reply call → Agent Answer) reply,
      motive demand (.ask call next) → motive demand (next reply))
    (step : Step policy before after)
    (holds : ∀ client, before.process.client = some client → motive client.demand client.rest) :
    ∀ client, after.process.client = some client → motive client.demand client.rest := by
  intro client demanding
  cases step with
  | demand demand _ =>
      cases demanding
      exact all demand
  | answer _ => cases demanding
  | client found _ _ =>
      cases demanding
      exact onward _ _ _ _ (holds _ found)
  | clientPanic _ _ => cases demanding
  | thread _ _ _ => exact holds _ ((client_tally _).symm.trans demanding)
  | threadEnd _ => exact holds _ demanding
  | threadPanic _ _ => exact holds _ demanding
  | stray _ _ _ => exact holds _ ((client_tally _).symm.trans demanding)

theorem sound_step (sound : before.Sound policy) (step : Step policy before after) :
    after.Sound policy where
  orderly := orderly_step (process_step step) sound.orderly
  tended := tended_step sound step
  proper := by
    refine client_step (motive := fun _ rest => rest.Always (Proper ·) fun _ => True)
      (demand_proper policy) ?_ step sound.proper
    exact fun _ _ _ reply proper => proper.2 reply
  leaves := client_step (fun _ => .all) (fun _ _ _ reply leaves => leaves_step leaves reply) step
    sound.leaves

theorem sound_leads (sound : before.Sound policy) (leads : Leads policy before after) :
    after.Sound policy := by
  induction leads with
  | refl => exact sound
  | tail _ step ih => exact sound_step ih step

theorem sound_of_reachable (reachable : station.Reachable policy) : station.Sound policy := by
  obtain ⟨settings, leads⟩ := reachable
  exact sound_leads (sound_opening policy settings) leads

theorem over_leads {number : Nat} (sound : before.Sound policy) (leads : Leads policy before after)
    (past : before.Over number) : after.Over number := by
  induction leads with
  | refl => exact past
  | tail earlier step ih => exact over_step (sound_leads sound earlier) step ih

/-- Once the device is restarting, nothing that is asked changes it. -/
theorem retired_step (sound : before.Sound policy) (step : Step policy before after)
    (retired : before.Retired) : after.Retired ∧ after.request = before.request := by
  have spent := retired.spent
  have onward (spent : after.process.session.Spent) (undisturbed : before.Undisturbed after) :
      after.Retired ∧ after.request = before.request :=
    ⟨retired_of_undisturbed retired spent undisturbed, undisturbed.request⟩
  cases step with
  | demand demand _ => exact onward spent (undisturbed_demand retired.busy demand)
  | answer _ => exact onward spent (undisturbed_withClient retired.busy (by simp))
  | client demanding answers affects =>
      refine onward ?_ (undisturbed_client retired.busy demanding answers affects)
      have outside := retired.busy.outside demanding
      rcases (unlaunched_same (unlaunched_of_outside outside) answers 0 none).1 with left | gone
      · exact spent_of_thread left spent
      · exact spent_of_none gone
  | clientPanic demanding answered =>
      exact onward spent (undisturbed_clientPanic retired.busy demanding answered)
  | thread running => exact absurd running (spent _ _)
  | threadEnd running =>
      exact onward nofun ⟨retired.busy.withThread rfl (.inl nofun), rfl, rfl, .refl⟩
  | threadPanic running => exact absurd running (spent _ _)
  | stray found =>
      rw [sound.orderly.strays] at found
      simp at found

theorem retired_leads (sound : before.Sound policy) (leads : Leads policy before after)
    (retired : before.Retired) : after.Retired ∧ after.request = before.request := by
  induction leads with
  | refl => exact ⟨retired, rfl⟩
  | tail earlier step ih =>
      obtain ⟨still, same⟩ := retired_step (sound_leads sound earlier) step ih.1
      exact ⟨still, same.trans ih.2⟩

end Station

end DualBank
