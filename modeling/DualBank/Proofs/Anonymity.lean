import DualBank.Proofs.Cancellation
import DualBank.Proofs.Refusal
import DualBank.Proofs.Shadowing
import DualBank.Proofs.Tending

/-! The slot keeps no uuid, so a cancel reaches whichever installation is at work, whatever uuid it
names; and it reaches it only where the installation looks at the slot. -/

namespace DualBank

open Program Surroundings Agent.Call Station

section Commands

variable (policy : Policy) {demand : Demand} {uuid : String}

theorem command_of_cancel {command : Command} (cancels : command.errand = .cancel uuid) :
    Admission.command policy command = Admission.cancel uuid := by
  obtain ⟨named, url, operation⟩ := command
  cases named with
  | none => cases cancels
  | some given =>
      cases operation with
      | none => cases cancels
      | some operation =>
          simp only [Command.errand] at cancels
          simp only [Admission.command]
          cases parsed : Operation.ofText? operation with
          | none => simp [parsed] at cancels
          | some known =>
              rw [parsed] at cancels
              cases known with
              | update => cases cancels
              | cancel =>
                  cases cancels
                  rfl

/-- A cancel comes in several forms. -/
theorem program_of_cancel (cancels : demand.errand? = some (.cancel uuid)) :
    demand.program policy = (Demand.cancel uuid).program policy := by
  cases demand with
  | cancel named =>
      cases cancels
      rfl
  | command given =>
      simp only [Demand.program, command_of_cancel policy (Option.some.inj cancels)]
  | payload given =>
      simp only [Demand.errand?, Option.some.injEq] at cancels
      simp only [Demand.program, Admission.payload]
      cases parsed : (Json.parse? given).bind Command.ofJson? with
      | none => simp [parsed] at cancels
      | some command =>
          rw [parsed] at cancels
          simp only [command_of_cancel policy cancels]
  | _ => cases cancels

theorem cancels_of_errand (cancels : demand.errand? = some (.cancel uuid)) :
    (demand.program policy).Cancels := by
  rw [program_of_cancel policy cancels]
  exact cancels_of_outside (cancel_outside policy uuid) trivial

end Commands

namespace Station

variable {policy : Policy} {before after : Station} {marks : List Mark}

theorem proceeds_of_runs (vacant : before.process.client = none)
    (undemanded : ∀ demand, .demand demand ∉ marks) (runs : Runs policy before marks after) :
    ∃ count, Proceeds policy count before after := by
  induction runs with
  | refl => exact ⟨0, .refl vacant⟩
  | tail _ shows ih =>
      obtain ⟨count, proceeds⟩ :=
        ih fun demand inside => undemanded demand (List.mem_append_left _ inside)
      cases shows with
      | demand demand _ => exact absurd (by simp) (undemanded demand)
      | thread step told =>
          obtain ⟨_, _, _, _, _, _, client, _⟩ := exchange_cases step told
          exact ⟨_, proceeds.tail step (client.trans proceeds.vacant)⟩
      | silent step silent => exact ⟨_, proceeds.tail step (silent.client proceeds.vacant)⟩

theorem recorded_shows {call : Agent.Call} {reply : Agent.Reply call}
    (shows : Shows policy before marks after) (inside : .exchange call reply ∈ after.history) :
    .exchange call reply ∈ before.history ∨ .exchange call reply ∈ marks := by
  cases shows with
  | demand demand _ => exact .inl inside
  | thread step told =>
      rw [told] at inside
      rcases List.mem_append.1 inside with earlier | last
      · exact .inl earlier
      · cases List.mem_singleton.1 last
        exact .inr (List.mem_singleton_self _)
  | silent step silent =>
      left
      cases step with
      | demand _ _ => exact inside
      | answer _ => exact inside
      | clientPanic _ _ => exact inside
      | thread _ _ _ => exact absurd rfl (silent.history _ _)
      | threadEnd _ => exact inside
      | threadPanic _ _ => cases inside
      | stray _ _ _ => exact inside
      | client _ _ _ =>
          change _ ∈ heard _ _ _ at inside
          unfold heard at inside
          split at inside
          · simpa using inside
          · cases inside
          · exact inside

theorem recorded_runs {call : Agent.Call} {reply : Agent.Reply call}
    (runs : Runs policy before marks after) (fresh : before.history = [])
    (inside : .exchange call reply ∈ after.history) : .exchange call reply ∈ marks := by
  induction runs with
  | refl => simp [fresh] at inside
  | tail _ shows ih =>
      rcases recorded_shows shows inside with earlier | last
      · exact List.mem_append_left _ (ih earlier)
      · exact List.mem_append_right _ last

/-- Nobody has canceled, and what is left of the installation ends accordingly, unless it
panicked. -/
structure Unasked (station : Station) : Prop where
  uncanceled : ¬ Cancellation.Accepted station.history
  thread : match station.process.session.thread with
    | none => True
    | some (.running rest) =>
        station.scene.Ends (fun outcome => Told (outcome = some .canceled)) rest ∨
          rest.Always (fun _ => True) (· = none)
    | some (.ended outcome) => Told (outcome = some .canceled) station.scene ∨ outcome = none

theorem unasked_step (orderly : before.process.Orderly policy) (unasked : before.Unasked)
    (vacant : before.process.client = none) (step : Step policy before after)
    (still : after.process.client = none) : after.Unasked := by
  obtain ⟨uncanceled, thread⟩ := unasked
  cases step with
  | demand demand _ => cases still
  | answer demanding => exact absurd (vacant.symm.trans demanding) (by simp)
  | client demanding _ _ => exact absurd (vacant.symm.trans demanding) (by simp)
  | clientPanic demanding _ => exact absurd (vacant.symm.trans demanding) (by simp)
  | stray found _ _ => simp [orderly.strays] at found
  | thread running answers affects =>
      rw [running] at thread
      refine ⟨?_, ?_⟩
      · rw [Cancellation.accepted_append]
        simpa using uncanceled
      · rcases thread with ends | panicked
        · have answered := answers_thread answers affects
          exact .inl ((ends _ .refl).2 _ _ answered)
        · exact .inr (panicked.2 _)
  | threadEnd running =>
      rw [running] at thread
      exact ⟨uncanceled, thread.imp_left fun ends => ends _ .refl⟩
  | threadPanic running answered =>
      refine ⟨List.not_mem_nil, .inr ?_⟩
      exact always_bind (always_trivial _) fun _ _ => rfl

theorem unasked_proceeds {count : Nat} (orderly : before.process.Orderly policy)
    (unasked : before.Unasked) (proceeds : Proceeds policy count before after) :
    after.process.Orderly policy ∧ after.Unasked := by
  induction proceeds with
  | refl _ => exact ⟨orderly, unasked⟩
  | tail earlier step still ih =>
      obtain ⟨orderly, unasked⟩ := ih orderly unasked
      exact ⟨orderly_step (process_step step) orderly,
        unasked_step orderly unasked earlier.vacant step still⟩

theorem installation_told (request : Request) {scene : Scene} (unheard : scene.Unheard) :
    scene.Ends (fun outcome => Told (outcome = some .canceled))
      (Session.installation policy request) := by
  refine ensures_bind (run_ends policy request unheard) ?_
  intro outcome later told
  exact ensures_done (stable_told _) told fun _ told => by simpa using told

/-- Where nobody demands anything, only a download can say that the installation was canceled. -/
theorem uncanceled_runs {request : Request} (orderly : before.process.Orderly policy)
    (vacant : before.process.client = none) (opened : before.scene = .opening before.settings)
    (running : before.process.session.thread =
      some (.running (Session.installation policy request)))
    (undemanded : ∀ demand, .demand demand ∉ marks)
    (candid : ∀ url headers timeout, ∀ download : Download,
      .exchange (.device (.download url headers timeout)) download ∈ marks → download.Candid)
    (runs : Runs policy before marks after) :
    after.process.session.thread ≠ some (.ended (some .canceled)) := by
  intro canceled
  have fresh : before.history = [] := congrArg Scene.history opened
  have unasked : before.Unasked := by
    refine ⟨?_, ?_⟩
    · rw [fresh]
      exact List.not_mem_nil
    · rw [running, opened]
      exact .inl (installation_told request (Scene.unheard_opening before.settings))
  obtain ⟨count, proceeds⟩ := proceeds_of_runs vacant undemanded runs
  obtain ⟨uncanceled, thread⟩ := (unasked_proceeds orderly unasked proceeds).2
  rw [canceled] at thread
  rcases thread with told | impossible
  · obtain ⟨heard | ⟨url, headers, timeout, download, forged, inside⟩, _⟩ := told.canceled rfl
    · exact uncanceled (Cancellation.accepted_of_heard heard)
    · exact forged (candid url headers timeout download (recorded_runs runs fresh inside))
  · cases impossible

def foreignUuid : String :=
  "11111111-2222-3333-4444-555555555555"

def sampleForeign : Station :=
  sampleBusy.asked .standard (.cancel foreignUuid)

theorem runs_sampleForeign :
    ∃ marks last, Runs .standard sampleForeign marks last ∧
      last.process.session.thread = some (.ended (some .canceled)) ∧
      (∀ demand, .demand demand ∉ marks) ∧ ∀ url headers timeout download,
        .exchange (.device (.download url headers timeout)) download ∉ marks := by
  have canceled : Runs .standard sampleForeign _ _ :=
    .single (.client rfl (.shared (.slot .cancel)) rfl)
  have acknowledged : Runs .standard sampleForeign _ _ :=
    ((canceled.tail (.thread (.thread rfl (.device .now 0) rfl) rfl)).tail
      (.thread (.thread rfl (.shared (.notify _)) rfl) rfl)).tail
      (.thread (.thread rfl (.device (.publish _) (.ok ())) rfl) rfl)
  have prepared : Runs .standard sampleForeign _ _ :=
    ((acknowledged.tail (.thread (.thread rfl (.device (.log _) ()) rfl) rfl)).tail
      (.thread (.thread rfl (.device .initSettings (.ok ())) rfl) rfl)).tail
      (.thread (.thread rfl (.device (.log _) ()) rfl) rfl)
  have saved : Runs .standard sampleForeign _ _ :=
    (prepared.tail (.thread (.thread rfl (.device (.save _ _ _) (.ok ())) rfl) rfl)).tail
      (.thread (.thread rfl (.device (.save _ _ _) (.ok ())) rfl) rfl)
  have stopped : Runs .standard sampleForeign _ _ :=
    (saved.tail (.thread (.thread rfl (.shared (.slot .isRunning)) rfl) rfl)).tail
      (.thread (.thread rfl (.device (.log _) ()) rfl) rfl)
  have concluded : Runs .standard sampleForeign _ _ :=
    ((stopped.tail (.thread (.thread rfl (.device (.delete _ _) (.ok ())) rfl) rfl)).tail
      (.thread (.thread rfl (.device (.save _ _ _) (.ok ())) rfl) rfl)).tail
      (.thread (.thread rfl (.shared (.slot .finish)) rfl) rfl)
  have ended : Runs .standard sampleForeign _ _ :=
    concluded.tail (.silent (.threadEnd rfl) ⟨nofun, by simp⟩)
  exact ⟨_, _, ended, rfl, by simp, by simp⟩

end Station

/-- Whatever uuid a cancel names, the same happens. And what happens is what would have happened
without the cancel, up to the first look at the slot that would not have told to stop. -/
theorem cancel_unseen_until_look (policy : Policy) {before last : Station} {cancel : Demand}
    {uuid : String} {marks : List Mark} (reachable : before.Reachable policy)
    (vacant : before.process.client = none) (cancels : cancel.errand? = some (.cancel uuid))
    (runs : Runs policy (before.asked policy cancel) marks last) :
    (∀ other named, other.errand? = some (.cancel named) →
      ∃ twin, Runs policy (before.asked policy other) marks twin ∧
        last.backdrop = twin.backdrop) ∧
    ((∃ twin, Runs policy before marks twin ∧ last.backdrop.Shadows twin.backdrop) ∨
      Parts policy (before.asked policy cancel) before marks last) := by
  have orderly : (before.asked policy cancel).process.Orderly policy :=
    orderly_step (.demand cancel vacant) (orderly_of_reachable (process_reachable reachable))
  have asks := cancels_of_errand policy cancels
  constructor
  · intro other named names
    have beside : Beside False (before.asked policy cancel) (before.asked policy other) :=
      ⟨⟨.inl rfl, rfl⟩, .cancel asks (cancels_of_errand policy names)⟩
    rcases beside_runs orderly beside runs with ⟨twin, alike, still⟩ | ⟨impossible, _⟩
    · exact ⟨twin, alike, still.near.level⟩
    · exact impossible.elim
  · have beside : Beside True (before.asked policy cancel) before :=
      ⟨⟨.inl rfl, rfl⟩, .lone trivial asks (vacant ▸ Client.quiet_none)⟩
    rcases beside_runs orderly beside runs with ⟨twin, alike, still⟩ | ⟨_, parts⟩
    · exact .inl ⟨twin, alike, still.near⟩
    · exact .inr parts

theorem cancel_unseen_until_look_canceled :
    ∃ marks last, last.process.session.thread = some (.ended (some .canceled)) ∧
      Runs .standard sampleForeign marks last ∧
      (∀ other named, other.errand? = some (.cancel named) →
        ∃ twin, Runs .standard (sampleBusy.asked .standard other) marks twin ∧
          last.backdrop = twin.backdrop) ∧
      ((∃ twin, Runs .standard sampleBusy marks twin ∧ last.backdrop.Shadows twin.backdrop) ∨
        Parts .standard sampleForeign sampleBusy marks last) := by
  obtain ⟨marks, last, runs, ended, _⟩ := runs_sampleForeign
  exact ⟨marks, last, ended, runs,
    cancel_unseen_until_look .standard reachable_sampleBusy rfl rfl runs⟩

/-- A cancel ends the installation as canceled although it names another update; without it there
would have been no such end, unless by a download that claims it. -/
theorem foreign_cancel_heeded :
    sampleBusy.Reachable .standard ∧ sampleBusy.request = some .sample ∧
      foreignUuid ≠ Request.sample.uuid ∧
      (∃ marks last, Runs .standard (sampleBusy.asked .standard (.cancel foreignUuid)) marks last ∧
        last.process.session.thread = some (.ended (some .canceled)) ∧
        (∀ demand, .demand demand ∉ marks) ∧ ∀ url headers timeout download,
          .exchange (.device (.download url headers timeout)) download ∉ marks) ∧
      ∀ marks last, Runs .standard sampleBusy marks last → (∀ demand, .demand demand ∉ marks) →
        (∀ url headers timeout, ∀ download : Download,
          .exchange (.device (.download url headers timeout)) download ∈ marks →
            download.Candid) →
        last.process.session.thread ≠ some (.ended (some .canceled)) := by
  have orderly := orderly_of_reachable (process_reachable reachable_sampleBusy)
  refine ⟨reachable_sampleBusy, rfl, by decide, runs_sampleForeign, ?_⟩
  intro marks last runs undemanded candid
  exact uncanceled_runs orderly rfl rfl rfl undemanded candid runs

end DualBank
