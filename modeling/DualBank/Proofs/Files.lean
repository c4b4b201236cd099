import DualBank.FileTree
import Mathlib.Data.List.Induction
import Mathlib.Logic.Basic

/-! Files below a directory: where a path leads that adds a name to the path of a directory, and
what the operations on files change. -/

namespace DualBank

theorem bind_eq_ok_iff {ε α β : Type} {first : Except ε α} {next : α → Except ε β} {result : β} :
    (first >>= next) = .ok result ↔ ∃ value, first = .ok value ∧ next value = .ok result := by
  cases first <;> simp [bind, Except.bind]

namespace Path

structure IsName (name : String) : Prop where
  single : ofText name = ⟨[name]⟩
  filled : name ≠ ""
  here : name ≠ "."
  above : name ≠ ".."
  zero : '\x00' ∉ name.toList
  short : name.utf8ByteSize ≤ FileTree.nameLimit

theorem parts_below {path : Path} {name : String} (single : ofText name = ⟨[name]⟩) :
    (path.below name).parts =
      (if path.endsInSlash then path.parts.dropLast else path.parts) ++ [name] := by
  have relative : (Path.mk [name]).isAbsolute = false := by simp [isAbsolute]
  rw [below, single, join, relative, if_neg Bool.false_ne_true]
  split <;> rfl

theorem parts_of_endsInSlash {path : Path} (slash : path.endsInSlash = true) :
    path.parts = path.parts.dropLast ++ [""] := by
  simp only [endsInSlash, decide_eq_true_eq] at slash
  rw [List.getLast?_eq_some_iff] at slash
  obtain ⟨init, same⟩ := slash
  simp [same]

theorem text_below {path : Path} {name : String} (single : ofText name = ⟨[name]⟩)
    (filled : path.text ≠ "") : (path.below name).text =
      path.text ++ (if path.endsInSlash then "" else "/") ++ name := by
  rw [text, parts_below single]
  split
  · rename_i slash
    have parts := parts_of_endsInSlash slash
    have others : path.parts.dropLast ≠ [] := by
      intro none
      rw [none] at parts
      simp [text, parts] at filled
    rw [String.intercalate_append_of_ne_nil others (by simp), text, parts,
      String.intercalate_append_of_ne_nil (by simpa using others) (by simp)]
    simp
  · have some : path.parts ≠ [] := by
      intro none
      simp [text, none] at filled
    rw [String.intercalate_append_of_ne_nil some (by simp), text]
    simp

theorem endsInSlash_below {path : Path} {name : String} (named : IsName name) :
    (path.below name).endsInSlash = false := by
  simp [endsInSlash, parts_below named.single, named.filled]

theorem isAbsolute_below {path : Path} {name : String} (single : ofText name = ⟨[name]⟩)
    (filled : path.text ≠ "") : (path.below name).isAbsolute = path.isAbsolute := by
  rw [isAbsolute, isAbsolute, parts_below single]
  split
  · rename_i slash
    have parts := parts_of_endsInSlash slash
    cases init : path.parts.dropLast with
    | nil =>
        rw [init] at parts
        simp [text, parts] at filled
    | cons first rest =>
        rw [init] at parts
        rw [parts]
        simp
  · rename_i slash
    cases parts : path.parts with
    | nil => simp [text, parts] at filled
    | cons first rest =>
        cases rest with
        | nil =>
            have other : first ≠ "" := by simpa [endsInSlash, parts] using slash
            simp [other]
        | cons second others => simp

end Path

namespace FileTree

variable {tree : FileTree}

def start (tree : FileTree) (path : Path) : Location :=
  if path.isAbsolute then [] else tree.here

theorem checkName_of_isName {name : String} (named : Path.IsName name) :
    checkName name = .ok () := by
  rw [checkName, if_neg (Nat.not_lt.2 named.short)]

theorem enter_directory {location : Location} {name : String} (named : Path.IsName name)
    (directory : tree.node? (location ++ [name]) = some .directory) :
    tree.enter location name = .ok (location ++ [name]) := by
  simp [enter, named.filled, named.here, named.above, checkName_of_isName named,
    directory, bind, Except.bind]

theorem enter_missing {location : Location} {name : String} (named : Path.IsName name)
    (free : tree.node? (location ++ [name]) = none) :
    tree.enter location name = .error .notFound := by
  simp [enter, named.filled, named.here, named.above, checkName_of_isName named, free,
    bind, Except.bind]

theorem enter_blanks (blanks : List String) (blank : ∀ part ∈ blanks, part = "")
    (location : Location) : blanks.foldlM tree.enter location = .ok location := by
  induction blanks with
  | nil => rfl
  | cons part rest ih =>
      have first : part = "" := blank part (.head _)
      have entered : tree.enter location part = .ok location := by simp [enter, first]
      rw [List.foldlM_cons, entered]
      exact ih fun part inside => blank part (.tail _ inside)

theorem parts_eq_append (path : Path) :
    path.parts = (path.parts.reverse.dropWhile (· = "")).reverse ++
      (path.parts.reverse.takeWhile (· = "")).reverse := by
  rw [← List.reverse_append, List.takeWhile_append_dropWhile, List.reverse_reverse]

theorem blank_of_takeWhile (path : Path) :
    ∀ part ∈ (path.parts.reverse.takeWhile (· = "")).reverse, part = "" := by
  intro part inside
  have all := List.all_eq_true.1 (List.all_takeWhile (p := (· = "")) (l := path.parts.reverse))
  simpa using all part (List.mem_reverse.1 inside)

theorem foldlM_parts (path : Path) (location : Location) :
    path.parts.foldlM tree.enter location =
      (path.parts.reverse.dropWhile (· = "")).reverse.foldlM tree.enter location := by
  calc path.parts.foldlM tree.enter location
      = (path.parts.reverse.dropWhile (· = "")).reverse.foldlM tree.enter location >>=
          (path.parts.reverse.takeWhile (· = "")).reverse.foldlM tree.enter := by
        rw [← List.foldlM_append, ← parts_eq_append]
    _ = (path.parts.reverse.dropWhile (· = "")).reverse.foldlM tree.enter location >>= pure := by
        refine bind_congr ?_
        intro reached
        exact enter_blanks _ (blank_of_takeWhile path) reached
    _ = _ := bind_pure _

theorem start_of_blank {path : Path} (filled : path.text ≠ "")
    (blank : path.parts.reverse.dropWhile (· = "") = []) : tree.start path = [] := by
  have all : ∀ part ∈ path.parts, part = "" := by
    have parts := parts_eq_append path
    rw [blank, List.reverse_nil, List.nil_append] at parts
    exact parts ▸ blank_of_takeWhile path
  rw [start, if_pos]
  cases parts : path.parts with
  | nil => simp [Path.text, parts] at filled
  | cons first rest =>
      have empty : first = "" := all first (by simp [parts])
      cases rest with
      | nil => simp [Path.text, parts, empty] at filled
      | cons second others => simp [Path.isAbsolute, parts, empty]

def ending (last : String) (slash : Bool) (parent : Location) : Ending :=
  if last = "." then .within parent
  else if last = ".." then .within parent.dropLast
  else .named parent last slash

def arrive (tree : FileTree) : Ending → Except SystemError (Location × Node)
  | .within location => .ok (location, .directory)
  | .named parent name slash => do
      checkName name
      match tree.node? (parent ++ [name]) with
      | none => .error .notFound
      | some (.file content) =>
          if slash then .error .notADirectory else .ok (parent ++ [name], .file content)
      | some .directory => .ok (parent ++ [name], .directory)

theorem find_eq (path : Path) : tree.find path = tree.follow path >>= tree.arrive := by
  unfold find
  refine bind_congr ?_
  intro ending
  cases ending <;> rfl

structure IsSound (path : Path) : Prop where
  filled : path.text ≠ ""
  zero : '\x00' ∉ path.text.toList
  short : path.text.utf8ByteSize < pathLimit

theorem follow_eq {path : Path} (sound : IsSound path) :
    tree.follow path = match path.parts.reverse.dropWhile (· = "") with
      | [] => .ok (.within [])
      | last :: before => before.reverse.foldlM tree.enter (tree.start path) >>= fun parent =>
          .ok (ending last path.endsInSlash parent) := by
  have zero : ¬ path.text.toList.contains '\x00' := by simpa using sound.zero
  rw [follow, if_neg sound.filled, if_neg zero, if_neg (Nat.not_le.2 sound.short)]
  cases path.parts.reverse.dropWhile (· = "") with
  | nil => rfl
  | cons last before =>
      refine bind_congr ?_
      intro parent
      unfold ending
      split
      · rfl
      · split <;> rfl

theorem isSound_of_follow {path : Path} {ended : Ending}
    (followed : tree.follow path = .ok ended) : IsSound path := by
  unfold follow at followed
  split at followed
  · contradiction
  · rename_i filled
    split at followed
    · contradiction
    · rename_i zero
      split at followed
      · contradiction
      · rename_i short
        exact ⟨filled, by simpa using zero, Nat.lt_of_not_le short⟩

theorem enter_of_arrive {last : String} {slash : Bool} {parent home : Location}
    (filled : last ≠ "")
    (arrived : tree.arrive (ending last slash parent) = .ok (home, .directory)) :
    tree.enter parent last = .ok home := by
  unfold ending at arrived
  split at arrived
  · rename_i here
    cases arrived
    simp [enter, here]
  · rename_i other
    split at arrived
    · rename_i back
      cases arrived
      simp [enter, back]
    · rename_i onward
      obtain ⟨⟨⟩, checked, arrived⟩ := bind_eq_ok_iff.1 arrived
      split at arrived
      · contradiction
      · split at arrived <;> simp at arrived
      · rename_i directory
        cases arrived
        simp [enter, filled, other, onward, checked, bind, Except.bind, directory]

theorem isSound_of_find {path : Path} {found : Location × Node}
    (finds : tree.find path = .ok found) : IsSound path := by
  rw [find_eq] at finds
  obtain ⟨ended, followed, -⟩ := bind_eq_ok_iff.1 finds
  exact isSound_of_follow followed

theorem foldlM_of_find {path : Path} {home : Location}
    (found : tree.find path = .ok (home, .directory)) :
    path.parts.foldlM tree.enter (tree.start path) = .ok home := by
  have sound := isSound_of_find found
  rw [find_eq, follow_eq sound] at found
  rw [foldlM_parts]
  cases parts : path.parts.reverse.dropWhile (· = "") with
  | nil =>
      rw [parts] at found
      cases found
      rw [start_of_blank sound.filled parts]
      rfl
  | cons last before =>
      have filled : last ≠ "" := by
        have first := List.head?_dropWhile_not (· = "") path.parts.reverse
        simpa [parts] using first
      rw [parts] at found
      obtain ⟨ended, followed, arrived⟩ := bind_eq_ok_iff.1 found
      obtain ⟨parent, above, same⟩ := bind_eq_ok_iff.1 followed
      cases same
      rw [List.reverse_cons, List.foldlM_append, above]
      simp [bind, Except.bind, enter_of_arrive filled arrived, pure, Except.pure]

def IsWhole (tree : FileTree) : Prop :=
  ∀ location, location ≠ [] → tree.node? location ≠ none →
    tree.node? location.dropLast = some .directory

theorem isDirectory_of_under (whole : tree.IsWhole) {location rest : Location} (below : rest ≠ [])
    (there : tree.node? (location ++ rest) ≠ none) : tree.node? location = some .directory := by
  induction rest using List.reverseRecOn with
  | nil => exact absurd rfl below
  | append_singleton others last ih =>
      have parent := whole (location ++ (others ++ [last])) (by simp) there
      rw [← List.append_assoc, List.dropLast_concat] at parent
      cases others with
      | nil => simpa using parent
      | cons first onward => exact ih (by simp) (by simp [parent])

theorem under_file (whole : tree.IsWhole) {location rest : Location} {content : Bytes}
    (file : tree.node? location = some (.file content)) (below : rest ≠ []) :
    tree.node? (location ++ rest) = none := by
  refine Classical.byContradiction ?_
  intro there
  have directory := isDirectory_of_under whole below there
  simp [file] at directory

structure Extends (tree later : FileTree) : Prop where
  here : later.here = tree.here
  directories : ∀ location, tree.node? location = some .directory →
    later.node? location = some .directory

section Extending

variable {later : FileTree} (extended : tree.Extends later)
include extended

theorem enter_of_extends {location reached : Location} {name : String}
    (entered : tree.enter location name = .ok reached) :
    later.enter location name = .ok reached := by
  unfold enter at entered ⊢
  split at entered
  · rename_i stays
    rw [if_pos stays]
    exact entered
  · rename_i leaves
    rw [if_neg leaves]
    split at entered
    · rename_i back
      rw [if_pos back]
      exact entered
    · rename_i onward
      rw [if_neg onward]
      obtain ⟨value, checked, entered⟩ := bind_eq_ok_iff.1 entered
      refine bind_eq_ok_iff.2 ⟨value, checked, ?_⟩
      split at entered
      · rename_i directory
        rw [extended.directories _ directory]
        exact entered
      · contradiction
      · contradiction

theorem foldlM_of_extends {parts : List String} {location reached : Location}
    (entered : parts.foldlM tree.enter location = .ok reached) :
    parts.foldlM later.enter location = .ok reached := by
  induction parts generalizing location with
  | nil => exact entered
  | cons part rest ih =>
      rw [List.foldlM_cons] at entered ⊢
      obtain ⟨between, first, onward⟩ := bind_eq_ok_iff.1 entered
      exact bind_eq_ok_iff.2 ⟨between, enter_of_extends extended first, ih onward⟩

theorem arrive_of_extends {ended : Ending} {home : Location}
    (arrived : tree.arrive ended = .ok (home, .directory)) :
    later.arrive ended = .ok (home, .directory) := by
  cases ended with
  | within location => exact arrived
  | named parent name slash =>
      obtain ⟨value, checked, arrived⟩ := bind_eq_ok_iff.1 arrived
      refine bind_eq_ok_iff.2 ⟨value, checked, ?_⟩
      split at arrived
      · contradiction
      · split at arrived <;> simp at arrived
      · rename_i directory
        rw [extended.directories _ directory]
        exact arrived

theorem find_of_extends {path : Path} {home : Location}
    (found : tree.find path = .ok (home, .directory)) :
    later.find path = .ok (home, .directory) := by
  have sound := isSound_of_find found
  have start : later.start path = tree.start path := by rw [start, start, extended.here]
  rw [find_eq, follow_eq sound] at found ⊢
  cases parts : path.parts.reverse.dropWhile (· = "") with
  | nil =>
      rw [parts] at found
      exact found
  | cons last before =>
      rw [parts] at found
      obtain ⟨ended, followed, arrived⟩ := bind_eq_ok_iff.1 found
      obtain ⟨parent, above, same⟩ := bind_eq_ok_iff.1 followed
      refine bind_eq_ok_iff.2 ⟨ended, ?_, arrive_of_extends extended arrived⟩
      rw [start]
      exact bind_eq_ok_iff.2 ⟨parent, foldlM_of_extends extended above, same⟩

end Extending

theorem extends_insert {location : Location} (node : Node) (inside : location ≠ [])
    (free : tree.node? location ≠ some .directory) :
    tree.Extends (tree.insert location node) where
  here := rfl
  directories other directory := by
    by_cases root : other = []
    · simp [node?, root]
    · have differs : other ≠ location := by
        rintro rfl
        exact free directory
      rw [node?_insert tree node root, if_neg differs]
      exact directory

theorem isWhole_insert (whole : tree.IsWhole) {location : Location} (node : Node)
    (inside : location ≠ []) (parent : tree.node? location.dropLast = some .directory)
    (free : tree.node? location ≠ some .directory) : (tree.insert location node).IsWhole := by
  intro other nonroot there
  refine (extends_insert node inside free).directories _ ?_
  rw [node?_insert tree node nonroot] at there
  split at there
  · rename_i same
    rw [same]
    exact parent
  · exact whole other nonroot there

theorem extends_erase {location : Location} (leaf : tree.node? location ≠ some .directory) :
    tree.Extends (tree.erase location) where
  here := rfl
  directories other directory := by
    by_cases root : other = []
    · simp [node?, root]
    · have differs : other ≠ location := by
        rintro rfl
        exact leaf directory
      rw [node?_erase tree root, if_neg differs]
      exact directory

theorem isWhole_erase (whole : tree.IsWhole) {location : Location}
    (leaf : tree.node? location ≠ some .directory) : (tree.erase location).IsWhole := by
  intro other nonroot there
  refine (extends_erase leaf).directories _ ?_
  rw [node?_erase tree nonroot] at there
  split at there
  · exact absurd rfl there
  · exact whole other nonroot there

section Moving

variable {source target : Location} (inside : source ≠ []) (differs : source ≠ target)
  (alone : ∀ rest, rest ≠ [] → tree.node? (source ++ rest) = none)
include inside alone

/-- A place with nothing in it is all that a move gives another name. -/
theorem renamed_of_mem {entry : Location × Node} (member : entry ∈ tree.entries) :
    (if source.isPrefixOf entry.1 then target ++ entry.1.drop source.length else entry.1) =
      if entry.1 = source then target else entry.1 := by
  by_cases same : entry.1 = source
  · simp [same]
  · rw [if_neg same, if_neg]
    intro below
    obtain ⟨rest, joined⟩ := List.isPrefixOf_iff_prefix.1 below
    have onward : rest ≠ [] := by
      rintro rfl
      exact same (by simpa using joined.symm)
    have absent := alone rest onward
    rw [joined, node?, if_neg (by simp [← joined, inside]), List.lookup_eq_none_iff] at absent
    simpa using absent entry member

include differs

theorem node?_move {location : Location} (nonroot : location ≠ []) :
    (tree.move source target).node? location =
      if location = target then tree.node? source
      else if location = source then none else tree.node? location := by
  have entries : (tree.move source target).entries =
      (tree.entries.filter (·.1 ≠ target)).map fun entry =>
        (if entry.1 = source then target else entry.1, entry.2) := by
    refine List.map_congr_left ?_
    intro entry member
    rw [← renamed_of_mem inside alone (List.mem_filter.1 member).1]
  rw [node?, if_neg nonroot, entries, Lookup.lookup_rename _ differs, node?, if_neg inside, node?,
    if_neg nonroot]

theorem extends_move (leaf : tree.node? source ≠ some .directory)
    (free : tree.node? target ≠ some .directory) : tree.Extends (tree.move source target) where
  here := rfl
  directories location directory := by
    by_cases root : location = []
    · simp [node?, root]
    · have first : location ≠ target := by
        rintro rfl
        exact free directory
      have second : location ≠ source := by
        rintro rfl
        exact leaf directory
      rw [node?_move inside differs alone root, if_neg first, if_neg second]
      exact directory

theorem isWhole_move (whole : tree.IsWhole) (leaf : tree.node? source ≠ some .directory)
    (parent : tree.node? target.dropLast = some .directory)
    (free : tree.node? target ≠ some .directory) : (tree.move source target).IsWhole := by
  intro location nonroot there
  refine (extends_move inside differs alone leaf free).directories _ ?_
  rw [node?_move inside differs alone nonroot] at there
  split at there
  · rename_i same
    rw [same]
    exact parent
  · split at there
    · exact absurd rfl there
    · exact whole location nonroot there

end Moving

structure Leads (tree : FileTree) (path : Path) (parent : Location) (name : String) : Prop where
  followed : tree.follow path = .ok (.named parent name false)
  short : checkName name = .ok ()

theorem isSound_below {path : Path} {name : String} (named : Path.IsName name)
    (sound : IsSound path) (short : (path.below name).text.utf8ByteSize < pathLimit) :
    IsSound (path.below name) := by
  refine ⟨?_, ?_, short⟩
  · rw [Path.text_below named.single sound.filled]
    intro empty
    simp [sound.filled] at empty
  · rw [Path.text_below named.single sound.filled]
    simp only [String.toList_append, List.mem_append, not_or]
    refine ⟨⟨sound.zero, ?_⟩, named.zero⟩
    split <;> decide

theorem start_below {path : Path} {name : String} (single : Path.ofText name = ⟨[name]⟩)
    (sound : IsSound path) : tree.start (path.below name) = tree.start path := by
  rw [start, start, Path.isAbsolute_below single sound.filled]

theorem leads_of_extends {path : Path} {parent : Location} {name : String} {later : FileTree}
    (leads : tree.Leads path parent name) (extended : tree.Extends later) :
    later.Leads path parent name := by
  have sound := isSound_of_follow leads.followed
  have start : later.start path = tree.start path := by rw [start, start, extended.here]
  have followed := leads.followed
  refine ⟨?_, leads.short⟩
  rw [follow_eq sound] at followed ⊢
  cases parts : path.parts.reverse.dropWhile (· = "") with
  | nil =>
      rw [parts] at followed
      exact followed
  | cons last before =>
      rw [parts] at followed
      obtain ⟨reached, above, same⟩ := bind_eq_ok_iff.1 followed
      rw [start]
      exact bind_eq_ok_iff.2 ⟨reached, foldlM_of_extends extended above, same⟩

structure IsStuck (tree : FileTree) (path : Path) (error : SystemError) : Prop where
  sound : IsSound path
  level : path.endsInSlash = false
  lost : path.parts.foldlM tree.enter (tree.start path) = .error error

section Stuck

variable {path : Path} {name : String} {error : SystemError} (named : Path.IsName name)
  (stuck : tree.IsStuck path error)
  (short : (path.below name).text.utf8ByteSize < pathLimit)
include named stuck short

theorem follow_below_stuck : tree.follow (path.below name) = .error error := by
  rw [follow_eq (isSound_below named stuck.sound short), Path.parts_below named.single, stuck.level]
  simp only [List.reverse_append, List.reverse_cons, List.reverse_nil, List.nil_append,
    List.singleton_append, List.dropWhile_cons, named.filled, decide_false, Bool.false_eq_true,
    if_false, List.reverse_reverse, start_below named.single stuck.sound, stuck.lost]
  rfl

theorem isStuck_below : tree.IsStuck (path.below name) error where
  sound := isSound_below named stuck.sound short
  level := Path.endsInSlash_below named
  lost := by
    rw [Path.parts_below named.single, stuck.level, if_neg Bool.false_ne_true,
      start_below named.single stuck.sound, List.foldlM_append, stuck.lost]
    rfl

end Stuck

section Below

variable {path : Path} {home : Location} {name : String} (named : Path.IsName name)
  (found : tree.find path = .ok (home, .directory))
include found

theorem foldlM_before (single : Path.ofText name = ⟨[name]⟩) :
    (if path.endsInSlash then path.parts.dropLast else path.parts).foldlM tree.enter
      (tree.start (path.below name)) = .ok home := by
  have all := foldlM_of_find found
  rw [start_below single (isSound_of_find found)]
  split
  · rename_i slash
    rw [Path.parts_of_endsInSlash slash, List.foldlM_append] at all
    obtain ⟨reached, before, last⟩ := bind_eq_ok_iff.1 all
    have blank : [""].foldlM tree.enter reached = .ok reached :=
      enter_blanks [""] (by simp) reached
    rw [before, ← blank, last]
  · exact all

include named

theorem foldlM_below :
    (path.below name).parts.foldlM tree.enter (tree.start (path.below name)) =
      tree.enter home name := by
  rw [Path.parts_below named.single, List.foldlM_append, foldlM_before found named.single]
  exact bind_pure (tree.enter home name)

theorem leads_below (short : (path.below name).text.utf8ByteSize < pathLimit) :
    tree.Leads (path.below name) home name := by
  refine ⟨?_, ?_⟩
  · rw [follow_eq (isSound_below named (isSound_of_find found) short),
      Path.parts_below named.single]
    simp only [List.reverse_append, List.reverse_cons, List.reverse_nil, List.nil_append,
      List.singleton_append, List.dropWhile_cons, named.filled, decide_false, Bool.false_eq_true,
      if_false, List.reverse_reverse, foldlM_before found named.single,
      Path.endsInSlash_below named, ending, named.here, named.above]
    rfl
  · exact checkName_of_isName named

theorem foldlM_below_missing (missing : tree.node? (home ++ [name]) = none) :
    (path.below name).parts.foldlM tree.enter (tree.start (path.below name)) =
      .error .notFound := by
  rw [foldlM_below named found]
  exact enter_missing named missing

theorem find_below_missing {other : String} (otherNamed : Path.IsName other)
    (missing : tree.node? (home ++ [name]) = none)
    (short : ((path.below name).below other).text.utf8ByteSize < pathLimit)
    (shorter : (path.below name).text.utf8ByteSize < pathLimit) :
    tree.find ((path.below name).below other) = .error .notFound := by
  have stuck : tree.IsStuck (path.below name) .notFound :=
    ⟨isSound_below named (isSound_of_find found) shorter, Path.endsInSlash_below named,
      foldlM_below_missing named found missing⟩
  rw [find_eq, follow_below_stuck otherNamed stuck short]
  rfl

end Below

/-- A name that is too long for a file, or whose path is too long. -/
theorem create_below_long {path : Path} {home : Location} {name : String}
    (found : tree.find path = .ok (home, .directory)) (level : path.endsInSlash = false)
    (single : Path.ofText name = ⟨[name]⟩) (filled : name ≠ "") (here : name ≠ ".")
    (above : name ≠ "..") (zero : '\x00' ∉ name.toList)
    (long : nameLimit < name.utf8ByteSize ∨ pathLimit ≤ (path.below name).text.utf8ByteSize) :
    tree.create (path.below name) = .error .nameTooLong := by
  have sound := isSound_of_find found
  have text := Path.text_below single sound.filled
  have nonempty : (path.below name).text ≠ "" := by
    rw [text]
    intro empty
    simp [sound.filled] at empty
  have nonzero : '\x00' ∉ (path.below name).text.toList := by
    rw [text, level]
    simp [sound.zero, zero]
  by_cases short : pathLimit ≤ (path.below name).text.utf8ByteSize
  · simp [create, follow, nonempty, nonzero, short, bind, Except.bind]
  · have follows : tree.follow (path.below name) = .ok (.named home name false) := by
      have last : (path.below name).endsInSlash = false := by
        simp [Path.endsInSlash, Path.parts_below single, filled]
      rw [follow_eq ⟨nonempty, nonzero, Nat.lt_of_not_le short⟩, last, Path.parts_below single,
        level]
      have before := foldlM_before found single
      rw [level, if_neg Bool.false_ne_true] at before
      simp only [List.reverse_append, List.reverse_cons, List.reverse_nil, List.nil_append,
        List.singleton_append, List.dropWhile_cons, filled, decide_false, Bool.false_eq_true,
        if_false, List.reverse_reverse, before, ending, here, above]
      rfl
    have checked : checkName name = .error .nameTooLong := by
      rw [checkName, if_pos (long.resolve_right short)]
    simp [create, follows, checked, bind, Except.bind]

theorem makeDirectory_of_find {path : Path} {found : Location × Node}
    (finds : tree.find path = .ok found) : tree.makeDirectory path = .error .alreadyExists := by
  rw [find_eq] at finds
  obtain ⟨ended, followed, arrived⟩ := bind_eq_ok_iff.1 finds
  simp only [makeDirectory, followed, bind, Except.bind]
  cases ended with
  | within location => rfl
  | named parent name slash =>
      obtain ⟨value, checked, arrived⟩ := bind_eq_ok_iff.1 arrived
      cases there : tree.node? (parent ++ [name]) with
      | none => simp [there] at arrived
      | some node => simp [checked, there]

section Operations

variable {path : Path} {parent : Location} {name : String} (leads : tree.Leads path parent name)
include leads

theorem find_of_leads : tree.find path =
    match tree.node? (parent ++ [name]) with
    | none => .error .notFound
    | some node => .ok (parent ++ [name], node) := by
  rw [find_eq, leads.followed]
  simp only [arrive, leads.short, bind, Except.bind]
  cases tree.node? (parent ++ [name]) with
  | none => rfl
  | some node => cases node <;> rfl

theorem read_of_leads : tree.read path =
    match tree.node? (parent ++ [name]) with
    | none => .error .notFound
    | some .directory => .error .isADirectory
    | some (.file content) => .ok content := by
  rw [read, find_of_leads leads]
  cases tree.node? (parent ++ [name]) with
  | none => rfl
  | some node => cases node <;> rfl

theorem create_of_leads (free : tree.node? (parent ++ [name]) ≠ some .directory) :
    tree.create path = .ok (tree.insert (parent ++ [name]) (.file [])) := by
  simp only [create, leads.followed, leads.short, bind, Except.bind]
  cases found : tree.node? (parent ++ [name]) with
  | none => rfl
  | some node =>
      cases node with
      | file content => rfl
      | directory => exact absurd found free

theorem append_of_leads {content : Bytes}
    (found : tree.node? (parent ++ [name]) = some (.file content)) (data : Bytes) :
    tree.append path data = .ok (tree.insert (parent ++ [name]) (.file (content ++ data))) := by
  simp only [append, find_of_leads leads, found, bind, Except.bind]

theorem remove_of_leads : tree.remove path =
    match tree.node? (parent ++ [name]) with
    | none => .error .notFound
    | some .directory => .error .isADirectory
    | some (.file _) => .ok (tree.erase (parent ++ [name])) := by
  simp only [remove, leads.followed, leads.short, bind, Except.bind]
  cases tree.node? (parent ++ [name]) with
  | none => rfl
  | some node => cases node <;> rfl

theorem makeDirectory_of_leads (free : tree.node? (parent ++ [name]) = none) :
    tree.makeDirectory path = .ok (tree.insert (parent ++ [name]) .directory) := by
  simp only [makeDirectory, leads.followed, leads.short, free, bind, Except.bind]

theorem isThere_of_leads : tree.isThere path = (tree.node? (parent ++ [name])).isSome := by
  rw [isThere, find_of_leads leads]
  cases tree.node? (parent ++ [name]) <;> rfl

theorem rename_of_leads {target : Path} {other : String} {content : Bytes}
    (onward : tree.Leads target parent other) (differs : name ≠ other)
    (found : tree.node? (parent ++ [name]) = some (.file content))
    (free : tree.node? (parent ++ [other]) ≠ some .directory) :
    tree.rename path target = .ok (tree.move (parent ++ [name]) (parent ++ [other])) := by
  have apart : parent ++ [name] ≠ parent ++ [other] := by simpa using differs
  have before : (parent ++ [name]).isPrefixOf (parent ++ [other]) = false := by
    rw [Bool.eq_false_iff]
    intro below
    exact apart ((List.isPrefixOf_iff_prefix.1 below).eq_of_length (by simp))
  have behind : (parent ++ [other]).isPrefixOf (parent ++ [name]) = false := by
    rw [Bool.eq_false_iff]
    intro below
    exact apart ((List.isPrefixOf_iff_prefix.1 below).eq_of_length (by simp)).symm
  have allowed : tree.checkTarget (parent ++ [name]) (parent ++ [other]) (.file content)
      (tree.node? (parent ++ [other])) = .ok () := by
    cases there : tree.node? (parent ++ [other]) with
    | none => rfl
    | some node =>
        cases node with
        | file old => rfl
        | directory => exact absurd there free
  simp only [rename, leads.followed, onward.followed, leads.short, onward.short, found, before,
    behind, allowed, if_neg apart, bind, Except.bind, Bool.false_and, Bool.or_self,
    Bool.false_eq_true, Bool.and_false, if_false]

theorem rename_of_missing {target : Path} {other : String} (onward : tree.Leads target parent other)
    (missing : tree.node? (parent ++ [name]) = none) :
    tree.rename path target = .error .notFound := by
  simp only [rename, leads.followed, onward.followed, leads.short, missing, bind, Except.bind]

end Operations

end FileTree

end DualBank
