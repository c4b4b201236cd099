import DualBank.Proofs.Banks

/-! What each operation of the bootloader makes of what the banks hold. -/

namespace DualBank

open Program FileTree

namespace BankDirectory

variable {banks : BankDirectory} {home : Location} {holdings : Holdings} {tree : FileTree}

def Showing (banks : BankDirectory) (home : Location) (among : Holdings → Prop)
    (tree : FileTree) : Prop :=
  ∃ found, among found ∧ banks.Stands home found tree

section Operations

variable (among : Holdings → Prop) (stands : banks.Stands home holdings tree)
include stands

theorem read_trailer {stored : Option Bytes}
    (there : tree.node? (home ++ [trailerSpace] ++ [trailerKey]) = stored.map .file) :
    tree.read (banks.settings.place trailerSpace trailerKey) =
      stored.elim (.error .notFound) .ok := by
  cases folder : tree.node? (home ++ [trailerSpace]) with
  | none =>
      have under : tree.node? (home ++ [trailerSpace] ++ [trailerKey]) = none := by
        by_contra present
        have parent := isDirectory_of_under stands.grounded.whole (by simp) present
        simp [folder] at parent
      have absent : stored = none := by simpa only [under, Option.map_eq_none_iff] using there.symm
      have missing : tree.find (banks.settings.place trailerSpace trailerKey) = .error .notFound :=
        find_below_missing isName_space stands.grounded.root isName_key folder
          (short_trailer stands.grounded)
          (short_below stands.grounded isName_space (by decide +kernel))
      rw [FileTree.read, missing, absent]
      rfl
  | some node =>
      cases node with
      | file content => exact absurd folder (stands.folder content)
      | directory =>
          rw [read_of_leads (leads_trailer stands.grounded folder), there]
          cases stored <;> rfl

theorem load_endures (now : among holdings) :
    tree.Endures (banks.Showing home among) (banks.settings.load trailerSpace trailerKey)
      fun result changed =>
        changed = tree ∧ ∃ stored, result = .ok stored ∧ trailerOf stored = holdings.trailer := by
  have shown : banks.Showing home among tree := ⟨holdings, now, stands⟩
  obtain ⟨stored, there, means⟩ := stands.trailer
  simp only [SettingsDirectory.load, Host.request, bind_eq, ask_bind, done_bind, pure_eq_done]
  refine endures_ask shown (meets_read _) ?_
  rw [read_trailer stands there]
  cases stored with
  | none => exact endures_done shown ⟨rfl, none, rfl, means⟩
  | some content => exact endures_done shown ⟨rfl, some content, rfl, means⟩

theorem loadTrailer_endures (now : among holdings) :
    tree.Endures (banks.Showing home among) banks.loadTrailer fun trailer changed =>
      trailer = holdings.trailer ∧ changed = tree := by
  have shown : banks.Showing home among tree := ⟨holdings, now, stands⟩
  simp only [loadTrailer, SettingsDirectory.loadJson, bind_eq, pure_eq_done, done_bind,
    DualBank.Program.bind_assoc]
  refine endures_bind (load_endures among stands now) ?_
  rintro result changed ⟨rfl, stored, rfl, means⟩
  rw [← means, trailerOf]
  cases decoded : Stored.decode SwapTrailer.ofJson? trailerSpace trailerKey stored with
  | error failure =>
      simp only [Except.bind, decoded]
      exact endures_log shown (endures_done shown ⟨rfl, rfl⟩)
  | ok found =>
      simp only [Except.bind, decoded]
      cases found with
      | none => exact endures_done shown ⟨rfl, rfl⟩
      | some trailer => exact endures_done shown ⟨rfl, rfl⟩

theorem loadTrailer_yields :
    tree.Yields banks.loadTrailer fun trailer changed =>
      trailer = holdings.trailer ∧ changed = tree :=
  yields_of_endures (loadTrailer_endures (fun _ => True) stands trivial)

theorem makeFolder_endures (now : among holdings) :
    tree.Endures (banks.Showing home among)
      (Host.makeDirectories (banks.settings.folder trailerSpace)) fun result changed =>
        result = .ok () ∧ banks.Stands home holdings changed ∧
          changed.node? (home ++ [trailerSpace]) = some .directory := by
  have shown : banks.Showing home among tree := ⟨holdings, now, stands⟩
  cases folder : tree.node? (home ++ [trailerSpace]) with
  | none =>
      have made := stands_folder stands folder
      refine endures_mono (makeDirectories_endures_missing (leads_folder stands.grounded) folder
        shown ⟨holdings, now, made⟩) ?_
      rintro result changed ⟨rfl, rfl⟩
      refine ⟨rfl, made, ?_⟩
      rw [node?_insert tree _ (by simp), if_pos rfl]
  | some node =>
      cases node with
      | file content => exact absurd folder (stands.folder content)
      | directory =>
          refine endures_mono
            (makeDirectories_endures (find_folder stands.grounded folder) shown) ?_
          rintro result changed ⟨rfl, rfl⟩
          exact ⟨rfl, stands, folder⟩

/-- Wherever the power goes while a trailer is stored, the banks show it, or the one before. -/
theorem storeTrailer_endures (trailer : SwapTrailer) (now : among holdings)
    (stored : among { holdings with trailer := trailer }) :
    tree.Endures (banks.Showing home among) (banks.storeTrailer trailer) fun result changed =>
      result = .ok () ∧ banks.Stands home { holdings with trailer := trailer } changed := by
  simp only [storeTrailer, SettingsDirectory.saveJson, SettingsDirectory.save, Host.request,
    bind_eq, ask_bind, done_bind, pure_eq_done, DualBank.Program.bind_assoc]
  refine endures_bind (makeFolder_endures among stands now) ?_
  rintro result tree ⟨rfl, stands, made⟩
  dsimp only
  have leads := leads_temporary stands.grounded made
  have inside : home ++ [trailerSpace] ++ [temporaryName] ≠ [] := by simp
  have created := stands_temporary stands made []
  have createdMade := (extends_insert (.file []) inside stands.temporary).directories _ made
  have written := stands_temporary created createdMade trailer.toJson.encode
  have writtenMade := (extends_insert (.file trailer.toJson.encode) inside
    created.temporary).directories _ createdMade
  rw [DualBank.Program.bind_assoc]
  refine endures_bind (write_endures leads stands.temporary _ ⟨holdings, now, stands⟩
    ⟨holdings, now, created⟩ ⟨holdings, now, written⟩) ?_
  rintro result changed ⟨rfl, changes⟩
  rw [← changes] at written writtenMade
  have there : changed.node? (home ++ [trailerSpace] ++ [temporaryName]) =
      some (.file trailer.toJson.encode) := by
    rw [changes, node?_insert _ _ inside, if_pos rfl]
  have renamed := rename_of_leads (leads_temporary written.grounded writtenMade)
    (leads_trailer written.grounded writtenMade) (by simp [temporaryName, trailerKey]) there
    (trailer_free written)
  have committed := stands_commit written writtenMade there
  rw [trailerOf_encode] at committed
  have shown : banks.Showing home among _ := ⟨_, stored, committed⟩
  refine endures_ask ⟨holdings, now, written⟩ (meets_rename renamed) ?_
  exact endures_ask shown (meets_syncDirectory _) (endures_done shown ⟨rfl, committed⟩)

theorem storeTrailer_yields (trailer : SwapTrailer) :
    tree.Yields (banks.storeTrailer trailer) fun result changed =>
      result = .ok () ∧ banks.Stands home { holdings with trailer := trailer } changed :=
  yields_of_endures (storeTrailer_endures (fun _ => True) stands trailer trivial trivial)

theorem read_bank (bank : Bank) : tree.read (banks.bankPath bank) =
    (holdings.content (.ofBank bank)).elim (.error .notFound) .ok := by
  rw [read_of_leads (leads_bank stands.grounded bank), stands.content]
  cases holdings.content (.ofBank bank) <;> rfl

theorem read_bank_iff (bank : Bank) (content : Bytes) :
    tree.read (banks.bankPath bank) = .ok content ↔
      holdings.content (.ofBank bank) = some content := by
  rw [read_bank stands]
  cases holdings.content (.ofBank bank) <;> simp

theorem readHeader_endures (bank : Bank) (now : among holdings) :
    tree.Endures (banks.Showing home among) (banks.readHeader bank) fun result changed =>
      result = headerOf (holdings.content (.ofBank bank)) ∧ changed = tree := by
  have shown : banks.Showing home among tree := ⟨holdings, now, stands⟩
  simp only [readHeader, Host.request, bind_eq, ask_bind, done_bind, pure_eq_done]
  refine endures_ask shown (meets_readFirst _ _) ?_
  rw [read_bank stands]
  unfold headerOf
  cases holdings.content (.ofBank bank) with
  | none => exact endures_done shown ⟨rfl, rfl⟩
  | some content =>
      dsimp only [Option.elim, Except.map]
      cases Image.Header.parse? (content.take Image.Header.size) with
      | none => exact endures_done shown ⟨rfl, rfl⟩
      | some header => exact endures_done shown ⟨rfl, rfl⟩

theorem readHeader_yields (bank : Bank) :
    tree.Yields (banks.readHeader bank) fun result changed =>
      result = headerOf (holdings.content (.ofBank bank)) ∧ changed = tree :=
  yields_of_endures (readHeader_endures (fun _ => True) stands bank trivial)

theorem erase_yields (bank : Bank) :
    tree.Yields (banks.erase bank) fun result changed =>
      result = .ok () ∧ banks.Stands home (holdings.set (some []) (.ofBank bank)) changed := by
  have created := create_of_leads (leads_bank stands.grounded bank)
    (content_free stands (.ofBank bank))
  simp only [erase, Host.request, bind_eq, ask_bind, done_bind, pure_eq_done]
  refine yields_bind (makeDirectories_yields stands.grounded.root) ?_
  rintro result changed ⟨rfl, rfl⟩
  refine yields_ask (meets_create created) ?_
  exact yields_ask (meets_sync _) (yields_done ⟨rfl, stands_write stands _ []⟩)

theorem openWriter_yields (bank : Bank) :
    tree.Yields (banks.openWriter bank) fun result changed => changed = tree ∧
      result = (holdings.content (.ofBank bank)).elim (.error (.ofSystem .notFound))
        fun _ => .ok ⟨banks.bankPath bank, [], 0⟩ := by
  simp only [openWriter, Host.request, bind_eq, ask_bind, done_bind, pure_eq_done]
  refine yields_ask (meets_openForAppend _) ?_
  rw [read_bank stands]
  cases holdings.content (.ofBank bank) with
  | none => exact yields_done ⟨rfl, rfl⟩
  | some content => exact yields_done ⟨rfl, rfl⟩

theorem swapType_yields :
    tree.Yields banks.swapType fun type changed =>
      type = (if holdings.trailer.testPending then .test else .none) ∧ changed = tree := by
  simp only [swapType, bind_eq, pure_eq_done]
  refine yields_bind (loadTrailer_yields stands) ?_
  rintro trailer changed ⟨rfl, rfl⟩
  exact yields_done ⟨rfl, rfl⟩

theorem isConfirmed_yields :
    tree.Yields banks.isConfirmed fun confirmed changed =>
      confirmed = holdings.trailer.confirmed ∧ changed = tree := by
  simp only [isConfirmed, bind_eq, pure_eq_done]
  refine yields_bind (loadTrailer_yields stands) ?_
  rintro trailer changed ⟨rfl, rfl⟩
  exact yields_done ⟨rfl, rfl⟩

theorem confirm_yields :
    tree.Yields banks.confirm fun result changed => result = .ok () ∧
      banks.Stands home
        { holdings with trailer := ⟨holdings.trailer.testPending, true⟩ } changed := by
  simp only [confirm, bind_eq]
  refine yields_bind (loadTrailer_yields stands) ?_
  rintro trailer changed ⟨rfl, rfl⟩
  exact storeTrailer_yields stands _

theorem requestTest_yields :
    tree.Yields banks.requestTest fun result changed => result = .ok () ∧
      banks.Stands home
        { holdings with trailer := ⟨true, holdings.trailer.confirmed⟩ } changed := by
  simp only [requestTest, bind_eq]
  refine yields_bind (loadTrailer_yields stands) ?_
  rintro trailer changed ⟨rfl, rfl⟩
  exact storeTrailer_yields stands _

theorem meets_rename_file (source target : BankFile) (differs : source ≠ target)
    {content : Bytes} (there : holdings.content source = some content) :
    ∃ changed, (Host.Call.rename (banks.root.below source.name)
        (banks.root.below target.name)).Meets tree (.ok ()) changed ∧
      banks.Stands home ((holdings.set none source).set (some content) target) changed := by
  have file : tree.node? (home ++ [source.name]) = some (.file content) := by
    rw [stands.content source, there]
    rfl
  have names : source.name ≠ target.name := fun same => differs (BankFile.name_injective same)
  refine ⟨_, meets_rename ?_, stands_move stands differs there⟩
  exact rename_of_leads (leads_file stands.grounded source) (leads_file stands.grounded target)
    names file (content_free stands target)

theorem exchange_endures {old image : Bytes} (running : holdings.primary = some old)
    (staged : holdings.secondary = some image)
    (exchanging : ∀ found ∈ holdings.exchanging, among found) :
    tree.Endures (banks.Showing home among)
      (renameAll [(banks.bankPath .primary, banks.scratchPath),
        (banks.bankPath .secondary, banks.bankPath .primary),
        (banks.scratchPath, banks.bankPath .secondary)])
      fun result changed => result = .ok () ∧
        banks.Stands home ⟨some image, some old, none, holdings.trailer⟩ changed := by
  simp only [Holdings.exchanging, running, staged, Option.getD_some, List.forall_mem_cons]
    at exchanging
  obtain ⟨begun, between, missing, exchanged, -⟩ := exchanging
  obtain ⟨primary, secondary, scratch, trailer⟩ := holdings
  cases running
  cases staged
  simp only [renameAll, Host.request, bind_eq, pure_eq_done, ask_bind, done_bind]
  obtain ⟨tree, saved, first⟩ :=
    meets_rename_file stands .primary .scratch (by decide) rfl
  refine endures_ask ⟨_, begun, stands⟩ saved ?_
  obtain ⟨tree, moved, second⟩ :=
    meets_rename_file first .secondary .primary (by decide) rfl
  refine endures_ask ⟨_, between, first⟩ moved ?_
  obtain ⟨tree, restored, last⟩ :=
    meets_rename_file second .scratch .secondary (by decide) rfl
  refine endures_ask ⟨_, missing, second⟩ restored ?_
  exact endures_done ⟨_, exchanged, last⟩ ⟨rfl, last⟩

theorem swapBanks_endures {image : Bytes} (staged : holdings.secondary = some image)
    (now : among holdings) (exchanging : ∀ found ∈ holdings.exchanging, among found) :
    tree.Endures (banks.Showing home among) banks.swapBanks fun result changed =>
      result = .ok () ∧ banks.Stands home
        ⟨some image, some (holdings.primary.getD []), none, holdings.trailer⟩ changed := by
  have shown : banks.Showing home among tree := ⟨holdings, now, stands⟩
  have leads := leads_bank stands.grounded .primary
  simp only [swapBanks, Host.request, bind_eq, pure_eq_done, ask_bind, done_bind]
  refine endures_ask shown (meets_isThere _) ?_
  rw [isThere_of_leads leads, stands.content]
  cases there : holdings.primary with
  | none =>
      simp only [Holdings.content, BankFile.ofBank, there]
      refine endures_ask shown
        (meets_create (create_of_leads leads (content_free stands .primary))) ?_
      refine exchange_endures among (stands_write stands .primary []) rfl staged ?_
      simpa [Holdings.exchanging, Holdings.set, there] using exchanging
  | some content =>
      simp only [Holdings.content, BankFile.ofBank, there]
      exact exchange_endures among stands there staged exchanging

theorem decide_endures (now : among holdings) :
    tree.Endures (banks.Showing home among) (banks.decide holdings.trailer) fun action changed =>
      action = holdings.action ∧ changed = tree := by
  have shown : banks.Showing home among tree := ⟨holdings, now, stands⟩
  simp only [decide, bind_eq, pure_eq_done, Holdings.action]
  cases holdings.trailer.testPending with
  | true =>
      refine endures_bind (readHeader_endures among stands .secondary now) ?_
      rintro result changed ⟨rfl, rfl⟩
      simp only [BankFile.ofBank, Holdings.content, if_true]
      cases headerOf holdings.secondary <;> exact endures_done shown ⟨rfl, rfl⟩
  | false =>
      cases holdings.trailer.confirmed <;> exact endures_done shown ⟨rfl, rfl⟩

theorem swapFor_endures {action : BootAction}
    (swappable : action.Swaps → holdings.secondary ≠ none) (now : among holdings)
    (exchanging : action.Swaps → ∀ found ∈ holdings.exchanging, among found) :
    tree.Endures (banks.Showing home among) (banks.swapFor action) fun result changed =>
      result = .ok () ∧ banks.Stands home (holdings.after action) changed := by
  have shown : banks.Showing home among tree := ⟨holdings, now, stands⟩
  have swaps (asked : action.Swaps) :
      tree.Endures (banks.Showing home among) banks.swapBanks fun result changed =>
        result = .ok () ∧ banks.Stands home (holdings.after .testSwap) changed := by
    rw [Holdings.after]
    obtain ⟨image, staged⟩ := Option.ne_none_iff_exists'.1 (swappable asked)
    rw [staged]
    exact swapBanks_endures among stands staged now (exchanging asked)
  cases action with
  | testSwap => exact swaps (.inl rfl)
  | revert => exact swaps (.inr rfl)
  | normal => exact endures_done shown ⟨rfl, stands⟩
  | rejected => exact endures_done shown ⟨rfl, stands⟩

/-- The pass of the bootloader, for every trailer it can find, and what the banks show wherever the
power goes in the course of it. To undo a trial it needs the image that the trial replaced. -/
theorem boot_endures (swappable : holdings.action = .revert → holdings.secondary ≠ none)
    (passing : ∀ found ∈ holdings.passing, among found) :
    tree.Endures (banks.Showing home among) banks.boot fun result changed =>
      result = .ok holdings.action ∧ banks.Stands home holdings.booted changed := by
  have staged (asked : holdings.action = .testSwap) : holdings.secondary ≠ none :=
    (Holdings.staged_of_testSwap asked).2
  obtain ⟨now, acted, booted, exchanging⟩ := Holdings.passing_iff.1 passing
  have shown : banks.Showing home among tree := ⟨holdings, now, stands⟩
  simp only [boot, bind_eq, pure_eq_done]
  refine endures_bind (makeDirectories_endures stands.grounded.root shown) ?_
  rintro result tree ⟨rfl, rfl⟩
  dsimp only
  refine endures_bind (loadTrailer_endures among stands now) ?_
  rintro trailer tree ⟨rfl, rfl⟩
  refine endures_bind (decide_endures among stands now) ?_
  rintro action tree ⟨rfl, rfl⟩
  refine endures_bind
    (swapFor_endures among stands (fun asked => asked.elim staged swappable) now exchanging) ?_
  rintro result tree ⟨rfl, stands⟩
  dsimp only
  refine endures_bind (storeTrailer_endures among stands holdings.action.trailer acted booted) ?_
  rintro result tree ⟨rfl, stands⟩
  have shown : banks.Showing home among tree := ⟨_, booted, stands⟩
  exact endures_log shown (endures_done shown ⟨rfl, stands⟩)

theorem boot_yields (swappable : holdings.action = .revert → holdings.secondary ≠ none) :
    tree.Yields banks.boot fun result changed =>
      result = .ok holdings.action ∧ banks.Stands home holdings.booted changed :=
  yields_of_endures (boot_endures (fun _ => True) stands swappable fun _ _ => trivial)

theorem exchange_fails {old : Bytes} (running : holdings.primary = some old)
    (missing : holdings.secondary = none) :
    tree.Yields
      (renameAll [(banks.bankPath .primary, banks.scratchPath),
        (banks.bankPath .secondary, banks.bankPath .primary),
        (banks.scratchPath, banks.bankPath .secondary)])
      fun result _ => ∃ error, result = .error error := by
  simp only [renameAll, Host.request, bind_eq, pure_eq_done, ask_bind, done_bind]
  obtain ⟨tree, saved, stands⟩ :=
    meets_rename_file stands .primary .scratch (by decide) running
  refine yields_ask saved ?_
  have absent : tree.node? (home ++ [BankFile.secondary.name]) = none := by
    rw [stands.content .secondary]
    simp [Holdings.set, Holdings.content, missing]
  refine yields_ask (meets_rename_error (rename_of_missing (leads_bank stands.grounded .secondary)
    (leads_bank stands.grounded .primary) absent)) ?_
  exact yields_done ⟨_, rfl⟩

theorem swapBanks_fails (missing : holdings.secondary = none) :
    tree.Yields banks.swapBanks fun result _ => ∃ error, result = .error error := by
  have leads := leads_bank stands.grounded .primary
  simp only [swapBanks, Host.request, bind_eq, pure_eq_done, ask_bind, done_bind]
  refine yields_ask (meets_isThere _) ?_
  rw [isThere_of_leads leads, stands.content]
  cases there : holdings.primary with
  | none =>
      simp only [Holdings.content, BankFile.ofBank, there]
      refine yields_ask (meets_create (create_of_leads leads (content_free stands .primary))) ?_
      exact exchange_fails (stands_write stands .primary []) rfl missing
  | some content =>
      simp only [Holdings.content, BankFile.ofBank, there]
      exact exchange_fails stands there missing

/-- A pass that succeeds did what the trailer asks for, whatever the banks hold. -/
theorem boot_yields_ok :
    tree.Yields banks.boot fun result changed => ∀ action, result = .ok action →
      action = holdings.action ∧ banks.Stands home holdings.booted changed := by
  by_cases swappable : holdings.action = .revert → holdings.secondary ≠ none
  · refine yields_mono (boot_yields stands swappable) ?_
    rintro result changed ⟨rfl, booted⟩ action same
    cases same
    exact ⟨rfl, booted⟩
  · obtain ⟨acts, missing⟩ := Classical.not_imp.1 swappable
    simp only [boot, bind_eq, pure_eq_done]
    refine yields_bind (makeDirectories_yields stands.grounded.root) ?_
    rintro result tree ⟨rfl, rfl⟩
    dsimp only
    refine yields_bind (loadTrailer_yields stands) ?_
    rintro trailer tree ⟨rfl, rfl⟩
    refine yields_bind (yields_of_endures (decide_endures (fun _ => True) stands trivial)) ?_
    rintro action tree ⟨rfl, rfl⟩
    rw [acts]
    refine yields_bind (swapBanks_fails stands (by simpa using missing)) ?_
    rintro result tree ⟨error, rfl⟩
    exact yields_done fun action impossible => by simp at impossible

end Operations

section Writing

structure Carries (banks : BankDirectory) (home : Location) (holdings : Holdings)
    (writer : BankWriter) (image file : Bytes) (tree : FileTree) : Prop where
  path : writer.path = banks.bankPath .secondary
  stands : banks.Stands home (holdings.set (some file) .secondary) tree
  whole : file ++ writer.buffered = image

variable {writer : BankWriter} {image file : Bytes}

theorem append_carries (carries : banks.Carries home holdings writer image file tree)
    (data : Bytes) :
    ∃ changed, (Host.Call.append writer.path data).Meets tree (.ok ()) changed ∧
      banks.Stands home (holdings.set (some (file ++ data)) .secondary) changed := by
  have found : tree.node? (home ++ [BankFile.secondary.name]) = some (.file file) := by
    rw [carries.stands.content .secondary, Holdings.content_set, if_pos rfl]
    rfl
  have appended := append_of_leads (leads_bank carries.stands.grounded .secondary) found data
  rw [carries.path]
  exact ⟨_, meets_append appended, stands_write carries.stands .secondary (file ++ data)⟩

theorem flush_yields (carries : banks.Carries home holdings writer image file tree) :
    tree.Yields writer.flush fun reply changed => reply.1 = .ok () ∧
      banks.Carries home holdings reply.2 image image changed := by
  rw [BankWriter.flush]
  split
  · rename_i nothing
    have all : file = image := by simpa [nothing] using carries.whole
    subst all
    exact yields_done ⟨rfl, carries⟩
  · obtain ⟨changed, appended, stands⟩ := append_carries carries writer.buffered
    rw [carries.whole] at stands
    refine yields_ask appended (yields_done ⟨rfl, carries.path, stands, ?_⟩)
    simp

theorem collect_carries (carries : banks.Carries home holdings writer image file tree)
    (data : Bytes) :
    ∃ file, banks.Carries home holdings { writer with buffered := writer.buffered ++ data }
      (image ++ data) file tree := by
  refine ⟨file, carries.path, carries.stands, ?_⟩
  rw [← carries.whole, List.append_assoc]

/-- Data that goes straight to the file does not overtake what is still collected. -/
theorem store_yields (carries : banks.Carries home holdings writer image file tree)
    (data : Bytes) (direct : BankWriter.capacity ≤ data.length → file = image) :
    tree.Yields
      (if BankWriter.capacity ≤ data.length then
        (Host.request (.append writer.path data)).bind fun appended => .done (appended, writer)
      else .done (.ok (), { writer with buffered := writer.buffered ++ data }))
      fun reply changed => reply.1 = .ok () ∧
        ∃ file, banks.Carries home holdings reply.2 (image ++ data) file changed := by
  split
  · rename_i large
    have all := direct large
    subst all
    obtain ⟨changed, appended, stands⟩ := append_carries carries data
    have nothing : writer.buffered = [] := by simpa using carries.whole
    refine yields_ask appended (yields_done ⟨rfl, file ++ data, carries.path, stands, ?_⟩)
    simp [nothing]
  · exact yields_done ⟨rfl, collect_carries carries data⟩

theorem take_yields (carries : banks.Carries home holdings writer image file tree)
    (data : Bytes) :
    tree.Yields (writer.take data) fun reply changed => reply.1 = .ok () ∧
      ∃ file, banks.Carries home holdings reply.2 (image ++ data) file changed := by
  rw [BankWriter.take]
  split
  · exact yields_done ⟨rfl, collect_carries carries data⟩
  · simp only [BankWriter.overflow, bind_eq, pure_eq_done]
    split
    · refine yields_bind (flush_yields carries) ?_
      rintro ⟨result, writer⟩ tree ⟨rfl, carries⟩
      exact store_yields carries data fun _ => rfl
    · -- Data that fits and still fills the whole room finds nothing collected before it.
      rename_i fits
      refine store_yields carries data ?_
      intro large
      have nothing : writer.buffered = [] := by
        rw [← List.length_eq_zero_iff]
        simp only [BankWriter.room, BankWriter.capacity] at fits large
        omega
      simpa [nothing] using carries.whole

theorem close_yields (carries : banks.Carries home holdings writer image file tree) :
    tree.Yields writer.close fun _ changed =>
      banks.Stands home (holdings.set (some image) .secondary) changed := by
  refine yields_bind (flush_yields carries) ?_
  rintro reply changed ⟨_, carries⟩
  exact yields_done carries.stands

end Writing

end BankDirectory

end DualBank
