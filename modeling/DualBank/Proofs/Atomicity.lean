import DualBank.Proofs.Shelf

/-! Settings in files, whose calls may be cut short any number of times: what is found under a key
is what some call on the key has left there, and nothing is in the way of a later call. -/

namespace DualBank

open Program

inductive SettingsCall where
  | init
  | save (space key : String) (value : Bytes)
  | load (space key : String)
  | delete (space key : String)

namespace SettingsCall

inductive Answer where
  | done (result : Except Failure Unit)
  | loaded (result : Except Failure (Option Bytes))
deriving DecidableEq

def Answer.isOk : Answer → Bool
  | .done result => result.isOk
  | .loaded result => result.isOk

def onFiles (settings : SettingsDirectory) : SettingsCall → Host Answer
  | .init => settings.init.bind fun result => .done (.done result)
  | .save space key value =>
      (settings.save space key value).bind fun result => .done (.done result)
  | .load space key => (settings.load space key).bind fun result => .done (.loaded result)
  | .delete space key => (settings.delete space key).bind fun result => .done (.done result)

def leaves (space key : String) : SettingsCall → Option (Option Bytes)
  | .save otherSpace otherKey value =>
      if (space, key) = (otherSpace, otherKey) then some (some value) else none
  | .delete otherSpace otherKey =>
      if (space, key) = (otherSpace, otherKey) then some none else none
  | .init | .load .. => none

end SettingsCall

/-- Names that leave room for the file beside the key, and a key that does not begin with a dot. -/
structure SettingsDirectory.Plain (settings : SettingsDirectory) (space key : String) : Prop
    extends settings.Names space key where
  room : settings.HasRoom space key
  undotted : key.toList.head? ≠ some '.'

def SettingsCall.IsPlain (settings : SettingsDirectory) : SettingsCall → Prop
  | .init => True
  | .save space key _ | .load space key | .delete space key => settings.Plain space key

/-- A call that was run to its end, or cut short. -/
structure Episode where
  call : SettingsCall
  completed : Bool

inductive Chronicle (settings : SettingsDirectory) : List Episode → FileTree → FileTree → Prop
  | nil {tree : FileTree} : Chronicle settings [] tree tree
  | completed {call : SettingsCall} {machine later : Machine} {answer : SettingsCall.Answer}
      {rest : List Episode} {last : FileTree} :
      machine.run (call.onFiles settings) = (.finished answer, later) →
      Chronicle settings rest later.files last →
      Chronicle settings (⟨call, true⟩ :: rest) machine.files last
  | cut {call : SettingsCall} {machine stopped : Machine} {rest : List Episode} {last : FileTree} :
      machine.Interrupted (call.onFiles settings) stopped →
      Chronicle settings rest stopped.files last →
      Chronicle settings (⟨call, false⟩ :: rest) machine.files last

/-- A value that a key may have after some episodes: one that a call on it leaves, completed or
cut short, since when no call on it was completed; or the first one, if none was completed. -/
def MayHold (initial : Option Bytes) (episodes : List Episode) (space key : String)
    (value : Option Bytes) : Prop :=
  (value = initial ∧
      ∀ episode ∈ episodes, episode.completed → episode.call.leaves space key = none) ∨
    ∃ before episode after, episodes = before ++ episode :: after ∧
      episode.call.leaves space key = some value ∧
      ∀ later ∈ after, later.completed → later.call.leaves space key = none

section Histories

variable {settings : SettingsDirectory} {space key : String} {initial middle value : Option Bytes}
  {episode : Episode} {rest : List Episode}

theorem mayHold_cons (holds : MayHold middle rest space key value)
    (reached : middle = initial ∧
        (episode.completed → episode.call.leaves space key = none) ∨
      episode.call.leaves space key = some middle) :
    MayHold initial (episode :: rest) space key value := by
  rcases holds with ⟨rfl, quiet⟩ | ⟨before, other, after, rfl, left, quiet⟩
  · rcases reached with ⟨rfl, idle⟩ | left
    · exact .inl ⟨rfl, List.forall_mem_cons.2 ⟨idle, quiet⟩⟩
    · exact .inr ⟨[], episode, rest, rfl, left, quiet⟩
  · exact .inr ⟨episode :: before, other, after, rfl, left, quiet⟩

end Histories

section Steps

open SettingsDirectory FileTree

variable {settings : SettingsDirectory} {home : Location} {tree changed : FileTree}
  {call : SettingsCall} {space key : String}

-- A shelf that holds under every key what it held before, or what the call leaves there.
structure SettingsDirectory.Spares (settings : SettingsDirectory) (home : Location)
    (tree : FileTree) (call : SettingsCall) (changed : FileTree) : Prop where
  shelf : settings.Shelf home changed
  holds : ∀ space key, settings.Plain space key →
    contents home changed space key = contents home tree space key ∨
      call.leaves space key = some (contents home changed space key)

structure SettingsDirectory.Reaches (settings : SettingsDirectory) (home : Location)
    (tree : FileTree) (call : SettingsCall) (changed : FileTree) : Prop where
  shelf : settings.Shelf home changed
  holds : ∀ space key, settings.Plain space key → contents home changed space key =
    (call.leaves space key).getD (contents home tree space key)

theorem spares_of_reaches (reaches : Reaches settings home tree call changed) :
    Spares settings home tree call changed := by
  refine ⟨reaches.shelf, fun space key plain => ?_⟩
  rw [reaches.holds space key plain]
  cases call.leaves space key with
  | none => exact .inl rfl
  | some left => exact .inr rfl

/-- A key that does not begin with a dot is beside no other one. -/
theorem ne_beside_of_plain {other : String} (plain : settings.Plain space key) :
    (space, key) ≠ (space, beside other) := by
  rintro same
  rw [(Prod.mk.inj same).2] at plain
  exact plain.undotted (by simp [beside])

theorem reaches_save {value : Bytes} (stands : settings.Shelf home changed)
    (same : contents home changed =
      ((contents home tree).put space (beside key) none).put space key (some value)) :
    Reaches settings home tree (.save space key value) changed := by
  refine ⟨stands, fun otherSpace otherKey plain => ?_⟩
  rw [same, Contents.put, SettingsCall.leaves]
  split
  · rfl
  · refine Contents.put_of_ne _ _ ?_
    rintro ⟨⟩
    exact ne_beside_of_plain plain rfl

theorem reaches_delete (stands : settings.Shelf home changed)
    (same : contents home changed = (contents home tree).put space key none) :
    Reaches settings home tree (.delete space key) changed := by
  refine ⟨stands, fun otherSpace otherKey _ => ?_⟩
  rw [same, Contents.put, SettingsCall.leaves]
  split <;> rfl

/-- Wherever a call is cut short, each key has what it had or what the call leaves under it. If
it is not, it succeeds, and keys have what it leaves. -/
theorem call_outlasts (shelf : settings.Shelf home tree) (plain : call.IsPlain settings) :
    tree.Outlasts (Spares settings home tree call) (call.onFiles settings)
      fun answer changed => answer.isOk = true ∧ Reaches settings home tree call changed := by
  have unchanged (changed : FileTree) (stands : settings.Shelf home changed)
      (same : contents home changed = contents home tree) :
      Spares settings home tree call changed :=
    ⟨stands, fun space key _ => .inl (by rw [same])⟩
  cases call with
  | init =>
      refine outlasts_bind (init_outlasts shelf unchanged) ?_
      rintro result changed ⟨rfl, stands, same⟩
      exact outlasts_done (unchanged changed stands same)
        ⟨rfl, stands, fun space key _ => by rw [same]; rfl⟩
  | load space key =>
      refine outlasts_bind (load_outlasts shelf plain.toNames (unchanged tree shelf rfl)) ?_
      rintro result changed ⟨rfl, rfl⟩
      exact outlasts_done (unchanged changed shelf rfl) ⟨rfl, shelf, fun _ _ _ => rfl⟩
  | save space key value =>
      have beside (changed : FileTree) (left : Option Bytes) (stands : settings.Shelf home changed)
          (same : contents home changed = (contents home tree).put space (beside key) left) :
          Spares settings home tree (.save space key value) changed := by
        refine ⟨stands, fun otherSpace otherKey named => .inl ?_⟩
        rw [same, Contents.put_of_ne]
        rintro ⟨⟩
        exact ne_beside_of_plain named rfl
      refine outlasts_bind (save_outlasts shelf plain.toNames plain.room value beside
        fun changed stands same => spares_of_reaches (reaches_save stands same)) ?_
      rintro result changed ⟨rfl, stands, same⟩
      have reaches := reaches_save stands same
      exact outlasts_done (spares_of_reaches reaches) ⟨rfl, reaches⟩
  | delete space key =>
      refine outlasts_bind (delete_outlasts shelf plain.toNames (unchanged tree shelf rfl)
        fun changed stands same => spares_of_reaches (reaches_delete stands same)) ?_
      rintro result changed ⟨rfl, stands, same⟩
      have reaches := reaches_delete stands same
      exact outlasts_done (spares_of_reaches reaches) ⟨rfl, reaches⟩

/-- From one episode to the next there is a shelf, and what is under a key came there by one of
them. -/
theorem chronicle_holds {episodes : List Episode} {first last : FileTree}
    (chronicle : Chronicle settings episodes first last) (shelf : settings.Shelf home first)
    (plain : ∀ episode ∈ episodes, episode.call.IsPlain settings) :
    settings.Shelf home last ∧ ∀ space key, settings.Plain space key →
      MayHold (contents home first space key) episodes space key
        (contents home last space key) := by
  induction chronicle with
  | nil => exact ⟨shelf, fun space key _ => .inl ⟨rfl, fun _ inside => absurd inside (by simp)⟩⟩
  | completed ran rest ih =>
      obtain ⟨now, onward⟩ := List.forall_mem_cons.1 plain
      obtain ⟨-, reaches⟩ := (call_outlasts shelf now).2.of_run rfl ran
      obtain ⟨stands, holds⟩ := ih reaches.shelf onward
      refine ⟨stands, fun space key named => mayHold_cons (holds space key named) ?_⟩
      rw [reaches.holds space key named]
      cases SettingsCall.leaves space key _ with
      | none => exact .inl ⟨rfl, fun _ => rfl⟩
      | some value => exact .inr rfl
  | cut interrupted rest ih =>
      obtain ⟨now, onward⟩ := List.forall_mem_cons.1 plain
      have spares := (call_outlasts shelf now).1 _ _ rfl interrupted
      obtain ⟨stands, holds⟩ := ih spares.shelf onward
      refine ⟨stands, fun space key named => mayHold_cons (holds space key named) ?_⟩
      rcases spares.holds space key named with same | left
      · exact .inl ⟨same, fun completed => by simp at completed⟩
      · exact .inr left

theorem save_then_load (shelf : settings.Shelf home tree) (plain : settings.Plain space key)
    (value : Bytes) :
    tree.Yields (settings.save space key value) fun saved between => saved = .ok () ∧
      between.Yields (settings.load space key) fun loaded later =>
        loaded = .ok (some value) ∧ later = between := by
  refine yields_mono (save_stores shelf plain.toNames plain.room value) ?_
  rintro saved between ⟨rfl, stands, same⟩
  have loads := load_finds stands plain.toNames
  rw [same, Contents.put, if_pos rfl] at loads
  exact ⟨rfl, loads⟩

end Steps

/-- Calls on a shelf, any of them cut short anywhere: under each key there is the value of one that
came after all completed ones on the key, or of the last of these, or the first one if there are
none. Whatever was left half done, further calls succeed, and what is saved is found. -/
theorem interrupted_saves_are_atomic {settings : SettingsDirectory} {home : Location}
    {first last : FileTree} {episodes : List Episode} (shelf : settings.Shelf home first)
    (chronicle : Chronicle settings episodes first last)
    (plain : ∀ episode ∈ episodes, episode.call.IsPlain settings) :
    (∀ space key, settings.Plain space key →
      (∃ initial value,
        (first.Yields (settings.load space key) fun result _ => result = .ok initial) ∧
        (last.Yields (settings.load space key) fun result changed =>
          result = .ok value ∧ changed = last) ∧
        MayHold initial episodes space key value) ∧
      ∀ value, last.Yields (settings.save space key value) fun saved between =>
        saved = .ok () ∧ between.Yields (settings.load space key) fun loaded later =>
          loaded = .ok (some value) ∧ later = between) ∧
    ∀ call : SettingsCall, call.IsPlain settings →
      last.Yields (call.onFiles settings) fun answer _ => answer.isOk = true := by
  obtain ⟨stands, holds⟩ := chronicle_holds chronicle shelf plain
  refine ⟨fun space key named => ⟨⟨_, _, ?_, ?_, holds space key named⟩, ?_⟩, fun call next => ?_⟩
  · exact FileTree.yields_mono (SettingsDirectory.load_finds shelf named.toNames)
      fun _ _ found => found.1
  · exact SettingsDirectory.load_finds stands named.toNames
  · exact save_then_load stands named
  · exact FileTree.yields_mono (call_outlasts stands next).2 fun _ _ ended => ended.1

namespace Setup

theorem shelf_bare : bareSettings.Shelf [] .empty where
  settled := room_bare.settled
  root := .inl room_bare.root
  folder := nofun
  place := nofun

theorem plain_state : bareSettings.Plain "ota" "state" where
  ofSpace := room_bare.ofSpace
  ofKey := by constructor <;> decide +kernel
  short := by decide +kernel
  room := by decide +kernel
  undotted := by decide +kernel

def tornEpisodes : List Episode :=
  [⟨.save "ota" "state" [1], true⟩, ⟨.save "ota" "state" [2, 3], false⟩]

def tornMachine : Machine :=
  let saved := (Machine.holding .empty).run
    ((SettingsCall.save "ota" "state" [1]).onFiles bareSettings)
  saved.2.cutAt 3 1 ((SettingsCall.save "ota" "state" [2, 3]).onFiles bareSettings)

theorem chronicle_torn : Chronicle bareSettings tornEpisodes .empty tornMachine.files := by
  have plain : (SettingsCall.save "ota" "state" [1]).IsPlain bareSettings := plain_state
  obtain ⟨answer, later, ran, -⟩ := (call_outlasts shelf_bare plain).2 (Machine.holding .empty) rfl
  change Chronicle bareSettings tornEpisodes (Machine.holding .empty).files tornMachine.files
  refine .completed ran (.cut ?_ .nil)
  have same := congrArg Prod.snd ran
  simp only [tornMachine, same]
  exact Machine.interrupted_cutAt 3 1 _ later

end Setup

open Setup

theorem interrupted_saves_are_atomic_torn :
    tornMachine.files.read (bareSettings.temporary "ota" "state") = .ok [2] ∧
      (∃ value, (tornMachine.files.Yields (bareSettings.load "ota" "state") fun result changed =>
        result = .ok value ∧ changed = tornMachine.files) ∧
        ∃ initial, MayHold initial tornEpisodes "ota" "state" value) ∧
      tornMachine.files.Yields (bareSettings.save "ota" "state" [4]) fun saved between =>
        saved = .ok () ∧ between.Yields (bareSettings.load "ota" "state") fun loaded later =>
          loaded = .ok (some [4]) ∧ later = between := by
  have plain : ∀ episode ∈ tornEpisodes, episode.call.IsPlain bareSettings := by
    simp [tornEpisodes, SettingsCall.IsPlain, plain_state]
  obtain ⟨⟨initial, value, -, loads, holds⟩, saves⟩ :=
    (interrupted_saves_are_atomic shelf_bare chronicle_torn plain).1 "ota" "state" plain_state
  refine ⟨by decide +kernel, ⟨value, loads, initial, holds⟩, saves [4]⟩

end DualBank
