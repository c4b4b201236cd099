import DualBank.Proofs.Atomicity

/-! Settings in files beside settings in memory: what the same calls are answered by the one and by
the other. -/

namespace DualBank

open Program

namespace SettingsTable

theorem load_save_eq (table : SettingsTable) (space key : String) (value : Bytes) :
    (table.save space key value).load = Contents.put table.load space key (some value) := by
  funext otherSpace otherKey
  exact load_save table space key otherSpace otherKey value

theorem load_delete_eq (table : SettingsTable) (space key : String) :
    (table.delete space key).load = Contents.put table.load space key none := by
  funext otherSpace otherKey
  exact load_delete table space key otherSpace otherKey

end SettingsTable

namespace SettingsCall

def onTable : SettingsCall → SettingsTable → Answer × SettingsTable
  | .init, table => (.done (.ok ()), table)
  | .save space key value, table => (.done (.ok ()), table.save space key value)
  | .load space key, table => (.loaded (.ok (table.load space key)), table)
  | .delete space key, table => (.done (.ok ()), table.delete space key)

/-- What files do, told of a table: a save takes the value away that is beside its key, and fails if
there is no room for it. -/
def onShelf (settings : SettingsDirectory) : SettingsCall → SettingsTable → Answer × SettingsTable
  | .save space key value, table =>
      if settings.HasRoom space key then
        (SettingsCall.save space key value).onTable
          (table.delete space (SettingsDirectory.beside key))
      else (.done (.error (.system none .nameTooLong)), table)
  | call, table => call.onTable table

def inTurn (perform : SettingsCall → SettingsTable → Answer × SettingsTable) :
    List SettingsCall → SettingsTable → List Answer × SettingsTable
  | [], table => ([], table)
  | call :: rest, table =>
      ((perform call table).1 :: (inTurn perform rest (perform call table).2).1,
        (inTurn perform rest (perform call table).2).2)

def allOnFiles (settings : SettingsDirectory) : List SettingsCall → Host (List Answer)
  | [] => .done []
  | call :: rest =>
      (call.onFiles settings).bind fun answer =>
        (allOnFiles settings rest).bind fun answers => .done (answer :: answers)

def IsNamed (settings : SettingsDirectory) : SettingsCall → Prop
  | .init => True
  | .save space key _ | .load space key | .delete space key => settings.Names space key

theorem inTurn_append (perform : SettingsCall → SettingsTable → Answer × SettingsTable)
    (first second : List SettingsCall) (table : SettingsTable) :
    inTurn perform (first ++ second) table =
      ((inTurn perform first table).1 ++ (inTurn perform second (inTurn perform first table).2).1,
        (inTurn perform second (inTurn perform first table).2).2) := by
  induction first generalizing table with
  | nil => rfl
  | cons call rest ih => simp only [List.cons_append, inTurn, ih]

section Files

open SettingsDirectory FileTree

variable {settings : SettingsDirectory} {home : Location} {tree : FileTree} {table : SettingsTable}
  {call : SettingsCall}

theorem onFiles_yields (shelf : settings.Shelf home tree) (same : contents home tree = table.load)
    (named : call.IsNamed settings) :
    tree.Yields (call.onFiles settings) fun answer changed =>
      answer = (call.onShelf settings table).1 ∧ settings.Shelf home changed ∧
        contents home changed = (call.onShelf settings table).2.load := by
  cases call with
  | init =>
      have inits : tree.Outlasts (fun _ => True) _ _ := init_outlasts shelf fun _ _ _ => trivial
      refine yields_bind inits.2 ?_
      rintro result changed ⟨rfl, stands, kept⟩
      exact yields_done ⟨rfl, stands, kept.trans same⟩
  | load space key =>
      refine yields_bind (load_finds shelf named) ?_
      rintro result changed ⟨rfl, rfl⟩
      exact yields_done ⟨by rw [same]; rfl, shelf, same⟩
  | delete space key =>
      have deletes : tree.Outlasts (fun _ => True) _ _ :=
        delete_outlasts shelf named trivial fun _ _ _ => trivial
      refine yields_bind deletes.2 ?_
      rintro result changed ⟨rfl, stands, kept⟩
      refine yields_done ⟨rfl, stands, ?_⟩
      exact (kept.trans (by rw [same])).trans (SettingsTable.load_delete_eq table space key).symm
  | save space key value =>
      rw [onShelf]
      split
      · rename_i room
        refine yields_bind (save_stores shelf named room value) ?_
        rintro result changed ⟨rfl, stands, kept⟩
        refine yields_done ⟨rfl, stands, ?_⟩
        rw [kept, same, onTable, SettingsTable.load_save_eq, SettingsTable.load_delete_eq]
      · rename_i cramped
        refine yields_bind (save_refused shelf named cramped value) ?_
        rintro result changed ⟨rfl, stands, kept⟩
        exact yields_done ⟨rfl, stands, kept.trans same⟩

/-- Calls on a shelf are answered as they would be on a table that holds the same, and leave a
shelf that holds what the table does then. -/
theorem allOnFiles_yields {calls : List SettingsCall} (shelf : settings.Shelf home tree)
    (same : contents home tree = table.load)
    (named : ∀ call ∈ calls, call.IsNamed settings) :
    tree.Yields (allOnFiles settings calls) fun answers last =>
      answers = (inTurn (onShelf settings) calls table).1 ∧ settings.Shelf home last ∧
        contents home last = (inTurn (onShelf settings) calls table).2.load := by
  induction calls generalizing tree table with
  | nil => exact yields_done ⟨rfl, shelf, same⟩
  | cons call rest ih =>
      obtain ⟨now, onward⟩ := List.forall_mem_cons.1 named
      refine yields_bind (onFiles_yields shelf same now) ?_
      rintro answer changed ⟨rfl, stands, kept⟩
      refine yields_bind (ih stands kept onward) ?_
      rintro answers last ⟨rfl, shelved, held⟩
      exact yields_done ⟨rfl, shelved, held⟩

end Files

def kept (past : List SettingsCall) : SettingsTable :=
  (inTurn onTable past .empty).2

-- The file that the call writes first is the one of this key.
def Displaces (space key : String) : SettingsCall → Prop
  | .save otherSpace other _ => otherSpace = space ∧ SettingsDirectory.beside other = key
  | .init | .load .. | .delete .. => False

/-- A key had a value when its file was taken for another key, and nothing was left there since. -/
def Displaced (past : List SettingsCall) (space key : String) : Prop :=
  ∃ earlier taker later, past = earlier ++ taker :: later ∧ taker.Displaces space key ∧
    (kept earlier).load space key ≠ none ∧ ∀ call ∈ later, call.leaves space key = none

def IsSafe (settings : SettingsDirectory) (past : List SettingsCall) : SettingsCall → Prop
  | .save space key _ => settings.HasRoom space key
  | .load space key => ¬ Displaced past space key
  | .init | .delete .. => True

def AllSafe (settings : SettingsDirectory) (calls : List SettingsCall) : Prop :=
  ∀ past call, past ++ [call] <+: calls → call.IsSafe settings past

section Comparing

variable {settings : SettingsDirectory} {past : List SettingsCall} {call : SettingsCall}
  {space key : String}

theorem leaves_of_displaces (displaces : call.Displaces space key) :
    call.leaves space key = none := by
  cases call with
  | init | load _ _ | delete _ _ => exact displaces.elim
  | save otherSpace other value =>
      obtain ⟨rfl, rfl⟩ := displaces
      refine if_neg fun same => SettingsDirectory.ne_beside other ?_
      exact (Prod.mk.inj same).2

theorem load_onTable (call : SettingsCall) (table : SettingsTable) (space key : String) :
    (call.onTable table).2.load space key =
      (call.leaves space key).getD (table.load space key) := by
  cases call with
  | init | load _ _ => rfl
  | save otherSpace other value =>
      rw [onTable, leaves, SettingsTable.load_save_eq, Contents.put]
      split <;> rfl
  | delete otherSpace other =>
      rw [onTable, leaves, SettingsTable.load_delete_eq, Contents.put]
      split <;> rfl

theorem kept_snoc (past : List SettingsCall) (call : SettingsCall) (space key : String) :
    (kept (past ++ [call])).load space key =
      (call.leaves space key).getD ((kept past).load space key) := by
  rw [kept, inTurn_append]
  exact load_onTable call (kept past) space key

theorem load_onShelf_of_idle (settings : SettingsDirectory) (table : SettingsTable)
    (idle : call.leaves space key = none) (apart : ¬ call.Displaces space key) :
    (call.onShelf settings table).2.load space key = table.load space key := by
  cases call with
  | init | load _ _ => rfl
  | delete otherSpace other =>
      have same := load_onTable (.delete otherSpace other) table space key
      rwa [idle] at same
  | save otherSpace other value =>
      have differs : (space, key) ≠ (otherSpace, other) := by
        intro same
        rw [leaves, if_pos same] at idle
        contradiction
      rw [onShelf]
      split
      · rw [onTable, SettingsTable.load_save_eq, SettingsTable.load_delete_eq,
          Contents.put_of_ne _ _ differs, Contents.put_of_ne]
        rintro ⟨⟩
        exact apart ⟨rfl, rfl⟩
      · rfl

theorem load_onShelf_of_leaves (table : SettingsTable) {value : Option Bytes}
    (safe : call.IsSafe settings past) (left : call.leaves space key = some value) :
    (call.onShelf settings table).2.load space key = value := by
  have same (table : SettingsTable) : (call.onTable table).2.load space key = value := by
    rw [load_onTable, left, Option.getD_some]
  cases call with
  | init | load _ _ => contradiction
  | delete otherSpace other => exact same table
  | save otherSpace other written =>
      have room : settings.HasRoom otherSpace other := safe
      rw [onShelf, if_pos room]
      exact same _

theorem load_onShelf_of_displaces (table : SettingsTable) (safe : call.IsSafe settings past)
    (displaces : call.Displaces space key) :
    (call.onShelf settings table).2.load space key = none := by
  have idle := leaves_of_displaces displaces
  cases call with
  | init | load _ _ | delete _ _ => exact displaces.elim
  | save otherSpace other value =>
      obtain ⟨rfl, rfl⟩ := displaces
      have room : settings.HasRoom otherSpace other := safe
      rw [onShelf, if_pos room, load_onTable, idle, Option.getD_none,
        SettingsTable.load_delete_eq]
      exact if_pos rfl

theorem displaced_snoc : Displaced (past ++ [call]) space key ↔
    call.leaves space key = none ∧ Displaced past space key ∨
      call.Displaces space key ∧ (kept past).load space key ≠ none := by
  constructor
  · rintro ⟨earlier, taker, later, split, displaces, had, idle⟩
    rcases List.eq_nil_or_concat later with rfl | ⟨between, last, rfl⟩
    · obtain ⟨rfl, ⟨⟩⟩ := List.append_inj' split rfl
      exact .inr ⟨displaces, had⟩
    · rw [List.concat_eq_append] at split idle
      rw [← List.cons_append, ← List.append_assoc] at split
      obtain ⟨rfl, ⟨⟩⟩ := List.append_inj' split rfl
      simp only [List.mem_append, List.mem_singleton, or_imp, forall_and, forall_eq] at idle
      exact .inl ⟨idle.2, earlier, taker, between, rfl, displaces, had, idle.1⟩
  · rintro (⟨idle, earlier, taker, later, rfl, displaces, had, quiet⟩ | ⟨displaces, had⟩)
    · refine ⟨earlier, taker, later ++ [call], by simp, displaces, had, ?_⟩
      simpa only [List.mem_append, List.mem_singleton, or_imp, forall_and, forall_eq]
        using ⟨quiet, idle⟩
    · exact ⟨past, call, [], rfl, displaces, had, nofun⟩

theorem kept_of_displaced (displaced : Displaced past space key) :
    (kept past).load space key ≠ none := by
  induction past using List.reverseRecOn with
  | nil =>
      obtain ⟨earlier, taker, later, split, -⟩ := displaced
      simp at split
  | append_singleton past call ih =>
      rw [kept_snoc]
      rcases displaced_snoc.1 displaced with ⟨idle, before⟩ | ⟨displaces, had⟩
      · rw [idle]
        exact ih before
      · rw [leaves_of_displaces displaces]
        exact had

theorem allSafe_snoc : AllSafe settings (past ++ [call]) ↔
    AllSafe settings past ∧ call.IsSafe settings past := by
  constructor
  · intro safe
    refine ⟨fun before next inside => safe before next (inside.trans (List.prefix_append _ _)), ?_⟩
    exact safe past call (List.prefix_refl _)
  · rintro ⟨safe, last⟩ before next inside
    rcases List.prefix_concat_iff.1 inside with whole | inner
    · obtain ⟨rfl, ⟨⟩⟩ := List.append_inj' whole rfl
      exact last
    · exact safe before next inner

/-- While calls are safe, files hold what a table does, but for the keys that are displaced. -/
theorem load_inTurn_onShelf (safe : AllSafe settings past) (space key : String) :
    (Displaced past space key →
      (inTurn (onShelf settings) past .empty).2.load space key = none) ∧
    (¬ Displaced past space key →
      (inTurn (onShelf settings) past .empty).2.load space key = (kept past).load space key) := by
  induction past using List.reverseRecOn with
  | nil => exact ⟨fun _ => rfl, fun _ => rfl⟩
  | append_singleton past call ih =>
      obtain ⟨before, last⟩ := allSafe_snoc.1 safe
      obtain ⟨gone, there⟩ := ih before
      rw [inTurn_append, kept_snoc]
      cases left : call.leaves space key with
      | some value =>
          have now := load_onShelf_of_leaves (inTurn (onShelf settings) past .empty).2 last left
          refine ⟨fun displaced => ?_, fun _ => now⟩
          rcases displaced_snoc.1 displaced with ⟨idle, -⟩ | ⟨displaces, -⟩
          · rw [left] at idle
            contradiction
          · rw [leaves_of_displaces displaces] at left
            contradiction
      | none =>
          -- The call is on another key, but the file of this one may be what it writes first.
          by_cases displaces : call.Displaces space key
          · have now := load_onShelf_of_displaces (inTurn (onShelf settings) past .empty).2 last
              displaces
            refine ⟨fun _ => now, fun present => now.trans ?_⟩
            by_contra had
            exact present (displaced_snoc.2 (.inr ⟨displaces, fun empty => had empty.symm⟩))
          · have now := load_onShelf_of_idle settings
              (inTurn (onShelf settings) past .empty).2 left displaces
            have same : Displaced (past ++ [call]) space key ↔ Displaced past space key := by
              simp [displaced_snoc, left, displaces]
            rw [same]
            exact ⟨fun displaced => now.trans (gone displaced),
              fun present => now.trans (there present)⟩

theorem answer_onShelf_iff (safe : AllSafe settings past) :
    (call.onShelf settings (inTurn (onShelf settings) past .empty).2).1 =
      (call.onTable (kept past)).1 ↔ call.IsSafe settings past := by
  cases call with
  | init | delete _ _ => exact iff_of_true rfl trivial
  | save space key value =>
      rw [onShelf, IsSafe]
      split
      · rename_i room
        exact iff_of_true rfl room
      · rename_i cramped
        exact iff_of_false nofun cramped
  | load space key =>
      obtain ⟨gone, there⟩ := load_inTurn_onShelf safe space key
      constructor
      · rintro answered displaced
        have same : (inTurn (onShelf settings) past .empty).2.load space key =
            (kept past).load space key := by simpa [onShelf, onTable] using answered
        exact kept_of_displaced displaced (same.symm.trans (gone displaced))
      · intro present
        simp only [onShelf, onTable, there present]

/-- Files answer as a table does just when all calls are safe. -/
theorem answers_onShelf_iff (settings : SettingsDirectory) (calls : List SettingsCall) :
    (inTurn (onShelf settings) calls .empty).1 = (inTurn onTable calls .empty).1 ↔
      AllSafe settings calls := by
  induction calls using List.reverseRecOn with
  | nil =>
      refine iff_of_true rfl fun past call inside => ?_
      simp at inside
  | append_singleton past call ih =>
      rw [inTurn_append, inTurn_append, allSafe_snoc, ← ih]
      constructor
      · intro same
        obtain ⟨first, second⟩ := List.append_inj' same rfl
        exact ⟨first, (answer_onShelf_iff (ih.1 first)).1 (List.head_eq_of_cons_eq second)⟩
      · rintro ⟨first, last⟩
        have second := (answer_onShelf_iff (ih.1 first)).2 last
        exact congrArg₂ (· ++ ·) first (congrArg (fun answer => [answer]) second)

/-- Keys that do not begin with a dot are beside no other ones, so calls on them are safe. -/
theorem allSafe_of_plain {calls : List SettingsCall}
    (plain : ∀ call ∈ calls, call.IsPlain settings) : AllSafe settings calls := by
  intro past call inside
  have now := plain call (inside.subset (by simp))
  cases call with
  | init | delete _ _ => trivial
  | save space key value => exact now.room
  | load space key =>
      rintro ⟨earlier, taker, later, -, displaces, -⟩
      cases taker with
      | init | load _ _ | delete _ _ => exact displaces
      | save otherSpace other value =>
          obtain ⟨rfl, rfl⟩ := displaces
          exact ne_beside_of_plain now rfl

end Comparing

end SettingsCall

structure SettingsDirectory.Fresh (settings : SettingsDirectory) (home : Location)
    (tree : FileTree) : Prop where
  settled : tree.IsSettled
  root : tree.find settings.root = .ok (home, .directory) ∨ settings.Missing home tree
  bare : ∀ rest, rest ≠ [] → tree.node? (home ++ rest) = none

namespace SettingsDirectory

variable {settings : SettingsDirectory} {home : Location} {tree : FileTree}

theorem node?_of_fresh (fresh : settings.Fresh home tree) (space key : String) :
    tree.node? (home ++ [space] ++ [key]) = none := by
  rw [List.append_assoc]
  exact fresh.bare _ (by simp)

theorem shelf_of_fresh (fresh : settings.Fresh home tree) : settings.Shelf home tree where
  settled := fresh.settled
  root := fresh.root
  folder space _ content := by simp [fresh.bare [space] (by simp)]
  place space key _ _ := by
    rw [node?_of_fresh fresh]
    nofun

theorem contents_of_fresh (fresh : settings.Fresh home tree) :
    contents home tree = SettingsTable.empty.load := by
  funext space key
  rw [contents, node?_of_fresh fresh]
  rfl

end SettingsDirectory

open SettingsCall FileTree SettingsDirectory

/-- In a fresh directory calls have the answers of a table, but that a save deletes the key whose
file it writes first, and fails if that name is too long. So they have all the answers of the other
table just when no save is such a failure and no load is of a key deleted so. What a load finds is
not changed by a call that is on another key and does not write that file. -/
theorem backends_agree_iff {settings : SettingsDirectory} {home : Location} {tree : FileTree}
    {calls : List SettingsCall} (fresh : settings.Fresh home tree)
    (named : ∀ call ∈ calls, call.IsNamed settings) :
    tree.Yields (allOnFiles settings calls) fun answers last =>
      answers = (inTurn (onShelf settings) calls .empty).1 ∧
      (answers = (inTurn onTable calls .empty).1 ↔ AllSafe settings calls) ∧
      ∀ (call : SettingsCall) (space key : String), call.IsNamed settings →
        settings.Names space key → call.leaves space key = none →
        ¬ call.Displaces space key → ∃ held,
          (last.Yields (settings.load space key) fun result _ => result = .ok held) ∧
          last.Yields (call.onFiles settings) fun _ changed =>
            changed.Yields (settings.load space key) fun result _ => result = .ok held := by
  have loads {tree : FileTree} (shelf : settings.Shelf home tree) {space key : String}
      (names : settings.Names space key) :
      tree.Yields (settings.load space key) fun result _ =>
        result = .ok (contents home tree space key) :=
    yields_mono (load_finds shelf names) fun _ _ found => found.1
  refine yields_mono (allOnFiles_yields (shelf_of_fresh fresh) (contents_of_fresh fresh) named) ?_
  rintro answers last ⟨rfl, shelf, held⟩
  refine ⟨rfl, answers_onShelf_iff settings calls, ?_⟩
  intro call space key next names idle apart
  refine ⟨_, loads shelf names, yields_mono (onFiles_yields shelf held next) ?_⟩
  rintro answer changed ⟨-, stands, now⟩
  have same : contents home changed space key = contents home last space key := by
    rw [now, held, load_onShelf_of_idle settings _ idle apart]
  rw [← same]
  exact loads stands names

namespace Setup

def newSettings : SettingsDirectory :=
  ⟨.ofText "/device/settings"⟩

theorem fresh_new : newSettings.Fresh ["device", "settings"] .empty where
  settled := room_bare.settled
  root := by
    refine .inr ⟨[], [], ["device", "settings"], by simp, rfl, ?_⟩
    constructor
    case sound => constructor <;> decide +kernel
    case level => decide +kernel
    case split => decide +kernel
    case above => rfl
    case named =>
      simp only [List.mem_cons, List.not_mem_nil, or_false, forall_eq_or_imp, forall_eq]
      constructor <;> constructor <;> decide +kernel
    case bare =>
      intro part _ some
      simp [FileTree.node?, FileTree.empty, some]
  bare := by
    intro rest some
    simp [FileTree.node?, FileTree.empty]

theorem plain_new : newSettings.Plain "ota" "state" where
  ofSpace := plain_state.ofSpace
  ofKey := plain_state.ofKey
  short := by decide +kernel
  room := by decide +kernel
  undotted := plain_state.undotted

def plainCalls : List SettingsCall :=
  [.init, .save "ota" "state" [1], .load "ota" "state", .delete "ota" "state",
    .load "ota" "state"]

theorem plain_calls : ∀ call ∈ plainCalls, call.IsPlain newSettings := by
  simp [plainCalls, SettingsCall.IsPlain, plain_new]

def crossedCalls : List SettingsCall :=
  [.save "ota" ".state.tmp" [1], .save "ota" "state" [2], .load "ota" ".state.tmp"]

theorem named_crossed : ∀ call ∈ crossedCalls, call.IsNamed newSettings := by
  have beside : newSettings.Names "ota" ".state.tmp" := by
    constructor
    case ofSpace => exact plain_new.ofSpace
    case ofKey => constructor <;> decide +kernel
    case short => decide +kernel
  simp [crossedCalls, SettingsCall.IsNamed, plain_new.toNames, beside]

end Setup

open Setup

theorem backends_agree_iff_plain : newSettings.Fresh ["device", "settings"] .empty ∧
    (∀ call ∈ plainCalls, call.IsNamed newSettings) ∧
    FileTree.empty.Yields (allOnFiles newSettings plainCalls) fun answers _ =>
      answers = [.done (.ok ()), .done (.ok ()), .loaded (.ok (some [1])), .done (.ok ()),
        .loaded (.ok none)] := by
  have named : ∀ call ∈ plainCalls, call.IsNamed newSettings := by
    simp [plainCalls, SettingsCall.IsNamed, plain_new.toNames]
  refine ⟨fresh_new, named, yields_mono (backends_agree_iff fresh_new named) ?_⟩
  rintro answers last ⟨-, agree, -⟩
  exact (agree.2 (allSafe_of_plain plain_calls)).trans (by decide +kernel)

/-- The two keys are names of files with room to spare, and yet the first value is lost. -/
theorem backends_disagree : newSettings.Fresh ["device", "settings"] .empty ∧
    (∀ call ∈ crossedCalls, call.IsNamed newSettings) ∧
    (inTurn onTable crossedCalls .empty).1 =
      [.done (.ok ()), .done (.ok ()), .loaded (.ok (some [1]))] ∧
    FileTree.empty.Yields (allOnFiles newSettings crossedCalls) fun answers _ =>
      answers = [.done (.ok ()), .done (.ok ()), .loaded (.ok none)] := by
  refine ⟨fresh_new, named_crossed, by decide +kernel, yields_mono (allOnFiles_yields
    (shelf_of_fresh fresh_new) (contents_of_fresh fresh_new) named_crossed) ?_⟩
  rintro answers last ⟨rfl, -, -⟩
  decide +kernel

end DualBank
