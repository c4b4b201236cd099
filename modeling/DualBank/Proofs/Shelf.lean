import DualBank.Proofs.Cutting
import DualBank.Proofs.Keeping
import DualBank.Proofs.Raising

/-! A directory of settings as the calls on it leave it, wherever they are cut short: spaces with
files in them, and what is in the files. -/

namespace DualBank

open Program

abbrev Contents := String → String → Option Bytes

namespace Contents

def put (contents : Contents) (space key : String) (value : Option Bytes) : Contents :=
  fun otherSpace otherKey =>
    if (otherSpace, otherKey) = (space, key) then value else contents otherSpace otherKey

theorem put_self (contents : Contents) (space key : String) :
    contents.put space key (contents space key) = contents := by
  funext otherSpace otherKey
  unfold put
  split
  · rename_i same
    cases same
    rfl
  · rfl

theorem put_of_ne (contents : Contents) {space key otherSpace otherKey : String}
    (value : Option Bytes) (differs : (otherSpace, otherKey) ≠ (space, key)) :
    contents.put space key value otherSpace otherKey = contents otherSpace otherKey :=
  if_neg differs

theorem put_put (contents : Contents) (space key : String) (first second : Option Bytes) :
    (contents.put space key first).put space key second = contents.put space key second := by
  funext otherSpace otherKey
  unfold put
  split <;> rfl

end Contents

namespace SettingsDirectory

open FileTree

def beside (key : String) : String :=
  "." ++ key ++ ".tmp"

structure Names (settings : SettingsDirectory) (space key : String) : Prop where
  ofSpace : Path.IsName space
  ofKey : Path.IsName key
  short : (settings.place space key).text.utf8ByteSize < pathLimit

def HasRoom (settings : SettingsDirectory) (space key : String) : Prop :=
  key.utf8ByteSize + 5 ≤ nameLimit ∧ (settings.temporary space key).text.utf8ByteSize < pathLimit

instance (settings : SettingsDirectory) (space key : String) :
    Decidable (settings.HasRoom space key) :=
  inferInstanceAs (Decidable (_ ∧ _))

def Missing (settings : SettingsDirectory) (home : Location) (tree : FileTree) : Prop :=
  ∃ base before names, names ≠ [] ∧ home = base ++ names ∧
    tree.Lacks settings.root base before names

-- There are no files among the spaces, and no directories among the keys.
structure Shelf (settings : SettingsDirectory) (home : Location) (tree : FileTree) : Prop where
  settled : tree.IsSettled
  root : tree.find settings.root = .ok (home, .directory) ∨ settings.Missing home tree
  folder : ∀ space, Path.IsName space → ∀ content, tree.node? (home ++ [space]) ≠
    some (.file content)
  place : ∀ space key, Path.IsName space → Path.IsName key →
    tree.node? (home ++ [space] ++ [key]) ≠ some .directory

def contents (home : Location) (tree : FileTree) : Contents := fun space key =>
  match tree.node? (home ++ [space] ++ [key]) with
  | some (.file content) => some content
  | _ => none

section Changing

variable {settings : SettingsDirectory} {home : Location} {tree : FileTree} {space key : String}

theorem contents_insert_above {location : Location} (node : Node) (inside : location ≠ [])
    (above : location.length ≤ home.length + 1) :
    contents home (tree.insert location node) = contents home tree := by
  funext space key
  have differs : home ++ [space] ++ [key] ≠ location := by
    rintro rfl
    simp at above
  rw [contents, contents, node?_insert tree node (by simp), if_neg differs]

theorem contents_insert (content : Bytes) :
    contents home (tree.insert (home ++ [space] ++ [key]) (.file content)) =
      (contents home tree).put space key (some content) := by
  funext otherSpace otherKey
  rw [contents, node?_insert tree _ (by simp), Contents.put]
  by_cases same : (otherSpace, otherKey) = (space, key)
  · cases same
    simp
  · have differs : home ++ [otherSpace] ++ [otherKey] ≠ home ++ [space] ++ [key] := by
      simpa using same
    rw [if_neg differs, if_neg same]
    rfl

theorem contents_erase : contents home (tree.erase (home ++ [space] ++ [key])) =
    (contents home tree).put space key none := by
  funext otherSpace otherKey
  rw [contents, node?_erase tree (by simp), Contents.put]
  by_cases same : (otherSpace, otherKey) = (space, key)
  · cases same
    simp
  · have differs : home ++ [otherSpace] ++ [otherKey] ≠ home ++ [space] ++ [key] := by
      simpa using same
    rw [if_neg differs, if_neg same]
    rfl

theorem contents_move {other : String} {content : Bytes} (settled : tree.IsSettled)
    (differs : key ≠ other)
    (file : tree.node? (home ++ [space] ++ [key]) = some (.file content)) :
    contents home (tree.move (home ++ [space] ++ [key]) (home ++ [space] ++ [other])) =
      ((contents home tree).put space key none).put space other (some content) := by
  have apart : home ++ [space] ++ [key] ≠ home ++ [space] ++ [other] := by simpa using differs
  have alone (rest : Location) (below : rest ≠ []) :
      tree.node? (home ++ [space] ++ [key] ++ rest) = none := under_file settled.whole file below
  funext otherSpace otherKey
  rw [contents, node?_move (by simp) apart alone (by simp), Contents.put, Contents.put]
  by_cases target : (otherSpace, otherKey) = (space, other)
  · cases target
    rw [if_pos rfl, if_pos rfl, file]
  · have first : home ++ [otherSpace] ++ [otherKey] ≠ home ++ [space] ++ [other] := by
      simpa using target
    rw [if_neg first, if_neg target]
    by_cases source : (otherSpace, otherKey) = (space, key)
    · cases source
      simp
    · have second : home ++ [otherSpace] ++ [otherKey] ≠ home ++ [space] ++ [key] := by
        simpa using source
      rw [if_neg second, if_neg source]
      rfl

end Changing

section Standing

variable {settings : SettingsDirectory} {home : Location} {tree : FileTree} {space key : String}

theorem top_of_shelf (shelf : settings.Shelf home tree)
    (found : tree.find settings.root = .ok (home, .directory)) :
    tree.node? home = some .directory :=
  directory_of_foldlM shelf.settled (directory_of_start shelf.settled settings.root)
    (foldlM_of_find found)

/-- A change that puts no file among the spaces, and no directory among the keys. -/
theorem Shelf.changed (shelf : settings.Shelf home tree) {later : FileTree}
    (settled : later.IsSettled) (found : later.find settings.root = .ok (home, .directory))
    (folder : ∀ other content, tree.node? (home ++ [other]) ≠ some (.file content) →
      later.node? (home ++ [other]) ≠ some (.file content))
    (place : ∀ other key, tree.node? (home ++ [other] ++ [key]) ≠ some .directory →
      later.node? (home ++ [other] ++ [key]) ≠ some .directory) :
    settings.Shelf home later where
  settled := settled
  root := .inl found
  folder other named content := folder other content (shelf.folder other named content)
  place other key named keyed := place other key (shelf.place other key named keyed)

structure Opened (settings : SettingsDirectory) (home : Location) (held : Contents)
    (space : String) (tree : FileTree) : Prop where
  shelf : settings.Shelf home tree
  held : contents home tree = held
  root : tree.find settings.root = .ok (home, .directory)
  folder : tree.node? (home ++ [space]) = some .directory

theorem opened_insert_folder (shelf : settings.Shelf home tree)
    (found : tree.find settings.root = .ok (home, .directory))
    (free : tree.node? (home ++ [space]) = none) :
    settings.Opened home (contents home tree) space
      (tree.insert (home ++ [space]) .directory) := by
  have missing : tree.node? (home ++ [space]) ≠ some .directory := by simp [free]
  have root := find_of_extends (extends_insert .directory (by simp) missing) found
  constructor
  case shelf =>
    refine shelf.changed (isSettled_insert shelf.settled .directory (top_of_shelf shelf found)
      missing) root ?_ ?_
    · intro other content
      rw [node?_insert tree _ (by simp)]
      split <;> simp
    · intro other key
      rw [node?_insert tree _ (by simp), if_neg (ne_of_apply_ne List.length (by simp))]
      exact fun none => none
  case held => exact contents_insert_above .directory (by simp) (by simp)
  case root => exact root
  case folder => rw [node?_insert tree _ (by simp), if_pos rfl]

theorem shelf_erase (shelf : settings.Shelf home tree)
    (found : tree.find settings.root = .ok (home, .directory))
    (leaf : tree.node? (home ++ [space] ++ [key]) ≠ some .directory) :
    settings.Shelf home (tree.erase (home ++ [space] ++ [key])) := by
  have extended := extends_erase leaf
  refine shelf.changed ⟨isWhole_erase shelf.settled.whole leaf, extended.directories _
    shelf.settled.here⟩ (find_of_extends extended found) ?_ ?_
  · intro other content
    rw [node?_erase tree (by simp)]
    split <;> simp
  · intro other key
    rw [node?_erase tree (by simp)]
    split <;> simp

end Standing

section Calling

variable {settings : SettingsDirectory} {home : Location} {tree : FileTree} {space key : String}
  {guard : FileTree → Prop}

theorem shorter_of_short (above : settings.root.text ≠ "") (ofSpace : Path.IsName space)
    (ofKey : Path.IsName key) (short : (settings.place space key).text.utf8ByteSize < pathLimit) :
    (settings.folder space).text.utf8ByteSize < pathLimit := by
  have filled : (settings.folder space).text ≠ "" := by
    rw [folder, Path.text_below ofSpace.single above]
    intro empty
    simp [above] at empty
  rw [place, Path.text_below ofKey.single filled] at short
  simp only [String.utf8ByteSize_append] at short
  omega

theorem makeFolder_endures (shelf : settings.Shelf home tree) (named : Path.IsName space)
    (short : (settings.folder space).text.utf8ByteSize < pathLimit)
    (found : tree.find settings.root = .ok (home, .directory))
    (keeps : ∀ changed, settings.Shelf home changed → contents home changed = contents home tree →
      guard changed) :
    tree.Endures guard (Host.makeDirectories (settings.folder space)) fun result changed =>
      result = .ok () ∧ settings.Opened home (contents home tree) space changed := by
  have leads : tree.Leads (settings.folder space) home space := leads_below named found short
  have now := keeps tree shelf rfl
  cases there : tree.node? (home ++ [space]) with
  | none =>
      have opened := opened_insert_folder shelf found there
      refine endures_mono (makeDirectories_endures_missing leads there now
        (keeps _ opened.shelf opened.held)) ?_
      rintro result changed ⟨rfl, rfl⟩
      exact ⟨rfl, opened⟩
  | some node =>
      cases node with
      | file content => exact absurd there (shelf.folder space named content)
      | directory =>
          have folder : tree.find (settings.folder space) = .ok (home ++ [space], .directory) := by
            rw [find_of_leads leads, there]
          refine endures_mono (makeDirectories_endures folder now) ?_
          rintro result changed ⟨rfl, rfl⟩
          exact ⟨rfl, shelf, rfl, found, there⟩

section Founding

theorem free_of_missing (missing : settings.Missing home tree) (shelf : settings.Shelf home tree)
    (rest : Location) : tree.node? (home ++ rest) = none := by
  obtain ⟨base, before, names, some, rfl, lacks⟩ := missing
  have free := lacks.bare names (List.prefix_refl _) some
  by_cases same : rest = []
  · rw [same, List.append_nil]
    exact free
  · by_contra there
    have directory := isDirectory_of_under shelf.settled.whole same there
    rw [free] at directory
    contradiction

theorem isStuck_of_missing (missing : settings.Missing home tree) :
    tree.IsStuck settings.root .notFound := by
  obtain ⟨base, before, names, some, -, lacks⟩ := missing
  exact isStuck_of_lacks lacks some

variable {base : Location} {before names : List String}
  (lacks : tree.Lacks settings.root base before names) (some : names ≠ [])
  (shelf : settings.Shelf (base ++ names) tree)
include lacks some shelf

/-- A shelf is one as long as the directory is being made, with nothing more in it. -/
theorem shelf_raise {part : List String} (inside : part <+: names) :
    settings.Shelf (base ++ names) (tree.raise base part) ∧
      contents (base ++ names) (tree.raise base part) = contents (base ++ names) tree := by
  obtain ⟨rest, split⟩ := inside
  have same (further : Location) (filled : further ≠ []) :
      (tree.raise base part).node? (base ++ names ++ further) =
        tree.node? (base ++ names ++ further) := by
    have more := List.length_pos_of_ne_nil filled
    refine node?_raise_of_length ?_
    rw [← split]
    simp only [List.length_append]
    omega
  refine ⟨?_, ?_⟩
  · constructor
    case settled =>
      exact isSettled_raise (lacks.shorter ⟨rest, split⟩) shelf.settled
        (lacks.directory shelf.settled) fun name inside =>
          lacks.named name (split ▸ List.mem_append_left rest inside)
    case root =>
      by_cases whole : rest = []
      · rw [whole, List.append_nil] at split
        rw [split]
        exact .inl (find_raise lacks some)
      · refine .inr ⟨base ++ part, before ++ part, rest, whole, ?_, lacks_raise lacks split.symm⟩
        rw [← split, List.append_assoc]
    case folder =>
      intro space named content
      rw [same [space] (by simp)]
      exact shelf.folder space named content
    case place =>
      intro space key named keyed
      rw [List.append_assoc, same _ (by simp), ← List.append_assoc]
      exact shelf.place space key named keyed
  · funext space key
    rw [contents, contents, List.append_assoc, same _ (by simp)]

theorem makeRoot_endures
    (keeps : ∀ changed, settings.Shelf (base ++ names) changed →
      contents (base ++ names) changed = contents (base ++ names) tree → guard changed) :
    tree.Endures guard (Host.makeDirectories settings.root) fun result changed =>
      result = .ok () ∧ settings.Shelf (base ++ names) changed ∧
        contents (base ++ names) changed = contents (base ++ names) tree := by
  have standing {part : List String} (inside : part <+: names) :=
    shelf_raise lacks some shelf inside
  refine endures_mono (makeDirectories_endures_raise lacks some fun part inside =>
    keeps _ (standing inside).1 (standing inside).2) ?_
  rintro result changed ⟨rfl, rfl⟩
  exact ⟨rfl, standing (List.prefix_refl names)⟩

theorem makeFolder_endures_missing (named : Path.IsName space)
    (short : (settings.folder space).text.utf8ByteSize < pathLimit)
    (keeps : ∀ changed, settings.Shelf (base ++ names) changed →
      contents (base ++ names) changed = contents (base ++ names) tree → guard changed) :
    tree.Endures guard (Host.makeDirectories (settings.folder space)) fun result changed =>
      result = .ok () ∧
        settings.Opened (base ++ names) (contents (base ++ names) tree) space changed := by
  have standing {part : List String} (inside : part <+: names) :=
    shelf_raise lacks some shelf inside
  have free := free_of_missing ⟨base, before, names, some, rfl, lacks⟩ shelf [space]
  obtain ⟨made, same⟩ := standing (List.prefix_refl names)
  have opened := opened_insert_folder made (find_raise lacks some) (by
    rw [node?_raise_of_length (by simp), free] : (tree.raise base names).node?
      (base ++ names ++ [space]) = none)
  rw [same, ← raise_snoc] at opened
  refine endures_mono (makeDirectories_endures_raise (lacks_below lacks named short free) (by simp)
    fun part inside => ?_) ?_
  · rcases List.prefix_concat_iff.1 inside with rfl | before
    · exact keeps _ opened.shelf opened.held
    · exact keeps _ (standing before).1 (standing before).2
  · rintro result changed ⟨rfl, rfl⟩
    exact ⟨rfl, opened⟩

end Founding

theorem isSound_of_shelf (shelf : settings.Shelf home tree) : IsSound settings.root := by
  rcases shelf.root with found | missing
  · exact isSound_of_find found
  · exact (isStuck_of_missing missing).sound

theorem makeFolder_outlasts (shelf : settings.Shelf home tree) (named : Path.IsName space)
    (short : (settings.folder space).text.utf8ByteSize < pathLimit)
    (keeps : ∀ changed, settings.Shelf home changed → contents home changed = contents home tree →
      guard changed) :
    tree.Outlasts guard (Host.makeDirectories (settings.folder space)) fun result changed =>
      result = .ok () ∧ settings.Opened home (contents home tree) space changed := by
  refine outlasts_of_endures (Host.makeAll_whole _) ?_
  rcases shelf.root with found | missing
  · exact makeFolder_endures shelf named short found keeps
  · obtain ⟨base, before, names, some, rfl, lacks⟩ := missing
    exact makeFolder_endures_missing lacks some shelf named short keeps

section Writing

variable {held : Contents} (opened : settings.Opened home held space tree)
include opened

theorem find_folder_of_opened (names : settings.Names space key) :
    tree.find (settings.folder space) = .ok (home ++ [space], .directory) := by
  have filled := (isSound_of_find opened.root).filled
  have short := shorter_of_short filled names.ofSpace names.ofKey names.short
  have leads : tree.Leads (settings.folder space) home space :=
    leads_below names.ofSpace opened.root short
  rw [find_of_leads leads, opened.folder]

theorem opened_insert_file (free : tree.node? (home ++ [space] ++ [key]) ≠ some .directory)
    (content : Bytes) : settings.Opened home (held.put space key (some content)) space
      (tree.insert (home ++ [space] ++ [key]) (.file content)) := by
  have extended := extends_insert (.file content) (by simp) free
  have root := find_of_extends extended opened.root
  constructor
  case shelf =>
    refine opened.shelf.changed (isSettled_insert opened.shelf.settled _ opened.folder free)
      root ?_ ?_
    · intro other content
      rw [node?_insert tree _ (by simp), if_neg (ne_of_apply_ne List.length (by simp))]
      exact fun none => none
    · intro other key
      rw [node?_insert tree _ (by simp)]
      split <;> simp
  case held => rw [contents_insert, opened.held]
  case root => exact root
  case folder => exact extended.directories _ opened.folder

theorem opened_move {other : String} {content : Bytes} (differs : key ≠ other)
    (file : tree.node? (home ++ [space] ++ [key]) = some (.file content))
    (free : tree.node? (home ++ [space] ++ [other]) ≠ some .directory) :
    settings.Opened home ((held.put space key none).put space other (some content)) space
      (tree.move (home ++ [space] ++ [key]) (home ++ [space] ++ [other])) := by
  have apart : home ++ [space] ++ [key] ≠ home ++ [space] ++ [other] := by simpa using differs
  have settled := opened.shelf.settled
  have alone (rest : Location) (below : rest ≠ []) :
      tree.node? (home ++ [space] ++ [key] ++ rest) = none := under_file settled.whole file below
  have leaf : tree.node? (home ++ [space] ++ [key]) ≠ some .directory := by
    rw [file]
    nofun
  have extended := extends_move (by simp) apart alone leaf free
  have whole := isWhole_move (by simp) apart alone settled.whole leaf
    (by simpa using opened.folder) free
  have root := find_of_extends extended opened.root
  constructor
  case shelf =>
    refine opened.shelf.changed ⟨whole, extended.directories _ settled.here⟩ root ?_ ?_
    · intro folder content
      rw [node?_move (by simp) apart alone (by simp),
        if_neg (ne_of_apply_ne List.length (by simp))]
      split <;> simp
    · intro folder name
      rw [node?_move (by simp) apart alone (by simp), file]
      split
      · simp
      · split <;> simp
  case held => rw [contents_move settled differs file, opened.held]
  case root => exact root
  case folder => exact extended.directories _ opened.folder

end Writing

theorem ne_beside (key : String) : beside key ≠ key :=
  Path.beside_ne_self

/-- Wherever a save is cut short, nothing but the file beside the key is not as it was, or
everything is as the save leaves it. -/
theorem save_outlasts (shelf : settings.Shelf home tree) (names : settings.Names space key)
    (room : settings.HasRoom space key) (value : Bytes)
    (keeps : ∀ changed left, settings.Shelf home changed →
      contents home changed = (contents home tree).put space (beside key) left → guard changed)
    (reaches : ∀ changed, settings.Shelf home changed → contents home changed =
      ((contents home tree).put space (beside key) none).put space key (some value) →
      guard changed) :
    tree.Outlasts guard (settings.save space key value) fun result changed =>
      result = .ok () ∧ settings.Shelf home changed ∧ contents home changed =
        ((contents home tree).put space (beside key) none).put space key (some value) := by
  have unchanged (changed : FileTree) (stands : settings.Shelf home changed)
      (same : contents home changed = contents home tree) : guard changed := by
    refine keeps changed (contents home tree space (beside key)) stands ?_
    rw [same, Contents.put_self]
  have short := shorter_of_short (isSound_of_shelf shelf).filled names.ofSpace names.ofKey
    names.short
  simp only [save, Host.request, bind_eq, ask_bind, done_bind, pure_eq_done]
  refine outlasts_bind (makeFolder_outlasts shelf names.ofSpace short unchanged) ?_
  rintro result between ⟨rfl, opened⟩
  have named := Path.isName_beside names.ofKey room.1
  have found := find_folder_of_opened opened names
  have free := opened.shelf.place space (beside key) names.ofSpace named
  have leads : between.Leads (settings.temporary space key) (home ++ [space]) (beside key) :=
    leads_below named found room.2
  have onward : between.Leads (settings.place space key) (home ++ [space]) key :=
    leads_below names.ofKey found names.short
  -- What an earlier cut left in the file beside the key is gone as soon as the file is opened.
  have created := opened_insert_file opened free []
  have still := created.shelf.place space (beside key) names.ofSpace named
  have written (data : Bytes) := opened_insert_file created still data
  simp only [Contents.put_put] at written
  refine outlasts_bind (write_outlasts leads free value (unchanged _ opened.shelf opened.held)
    (keeps _ _ created.shelf created.held)
    fun count => keeps _ _ (written _).shelf (written _).held) ?_
  rintro result changed ⟨rfl, rfl⟩
  have extended := extends_written free value
  have file : ((between.insert (home ++ [space] ++ [beside key]) (.file [])).insert
      (home ++ [space] ++ [beside key]) (.file value)).node? (home ++ [space] ++ [beside key]) =
        some (.file value) := by rw [node?_insert _ _ (by simp), if_pos rfl]
  have empty := (written value).shelf.place space key names.ofSpace names.ofKey
  have moved := opened_move (written value) (ne_beside key) file empty
  rw [Contents.put_put] at moved
  refine outlasts_ask (keeps _ _ (written value).shelf (written value).held) trivial
    (meets_rename (rename_of_leads (leads_of_extends leads extended)
      (leads_of_extends onward extended) (ne_beside key) file empty)) ?_
  have ended := reaches _ moved.shelf moved.held
  exact outlasts_ask ended trivial (meets_syncDirectory _)
    (outlasts_done ended ⟨rfl, moved.shelf, moved.held⟩)

/-- The path to a key leads to its place, or else nothing is kept under it. -/
theorem place_of_shelf (shelf : settings.Shelf home tree) (names : settings.Names space key) :
    settings.Opened home (contents home tree) space tree ∧
        tree.Leads (settings.place space key) (home ++ [space]) key ∨
      tree.follow (settings.place space key) = .error .notFound ∧
        contents home tree space key = none := by
  have sound := isSound_of_shelf shelf
  have short := shorter_of_short sound.filled names.ofSpace names.ofKey names.short
  have lost (stuck : tree.IsStuck (settings.folder space) .notFound)
      (free : tree.node? (home ++ [space] ++ [key]) = none) :
      tree.follow (settings.place space key) = .error .notFound ∧
        contents home tree space key = none := by
    refine ⟨follow_below_stuck names.ofKey stuck names.short, ?_⟩
    rw [contents, free]
  rcases shelf.root with found | missing
  · cases there : tree.node? (home ++ [space]) with
    | none =>
        refine .inr (lost ⟨isSound_below names.ofSpace sound short,
          Path.endsInSlash_below names.ofSpace,
          foldlM_below_missing names.ofSpace found there⟩ ?_)
        by_contra inside
        have directory := isDirectory_of_under shelf.settled.whole (by simp) inside
        rw [there] at directory
        contradiction
    | some node =>
        cases node with
        | file content => exact absurd there (shelf.folder space names.ofSpace content)
        | directory =>
            have opened : settings.Opened home (contents home tree) space tree :=
              ⟨shelf, rfl, found, there⟩
            exact .inl ⟨opened,
              leads_below names.ofKey (find_folder_of_opened opened names) names.short⟩
  · refine .inr (lost (isStuck_below names.ofSpace (isStuck_of_missing missing) short) ?_)
    rw [List.append_assoc]
    exact free_of_missing missing shelf _

theorem load_outlasts (shelf : settings.Shelf home tree) (names : settings.Names space key)
    (now : guard tree) :
    tree.Outlasts guard (settings.load space key) fun result changed =>
      result = .ok (contents home tree space key) ∧ changed = tree := by
  simp only [load, Host.request, bind_eq, ask_bind, done_bind, pure_eq_done]
  refine outlasts_ask now trivial (meets_read _) ?_
  rcases place_of_shelf shelf names with ⟨-, leads⟩ | ⟨lost, none⟩
  · have free := shelf.place space key names.ofSpace names.ofKey
    rw [read_of_leads leads, contents]
    cases there : tree.node? (home ++ [space] ++ [key]) with
    | none => exact outlasts_done now ⟨rfl, rfl⟩
    | some node =>
        cases node with
        | directory => exact absurd there free
        | file content => exact outlasts_done now ⟨rfl, rfl⟩
  · rw [none, FileTree.read, find_eq, lost]
    exact outlasts_done now ⟨rfl, rfl⟩

theorem save_stores (shelf : settings.Shelf home tree) (names : settings.Names space key)
    (room : settings.HasRoom space key) (value : Bytes) :
    tree.Yields (settings.save space key value) fun result changed =>
      result = .ok () ∧ settings.Shelf home changed ∧ contents home changed =
        ((contents home tree).put space (beside key) none).put space key (some value) := by
  have saves : tree.Outlasts (fun _ => True) _ _ :=
    save_outlasts shelf names room value (fun _ _ _ _ => trivial) fun _ _ _ => trivial
  exact saves.2

theorem load_finds (shelf : settings.Shelf home tree) (names : settings.Names space key) :
    tree.Yields (settings.load space key) fun result changed =>
      result = .ok (contents home tree space key) ∧ changed = tree := by
  have loads : tree.Outlasts (fun _ => True) _ _ := load_outlasts shelf names trivial
  exact loads.2

theorem delete_outlasts (shelf : settings.Shelf home tree) (names : settings.Names space key)
    (now : guard tree)
    (reaches : ∀ changed, settings.Shelf home changed →
      contents home changed = (contents home tree).put space key none → guard changed) :
    tree.Outlasts guard (settings.delete space key) fun result changed =>
      result = .ok () ∧ settings.Shelf home changed ∧
        contents home changed = (contents home tree).put space key none := by
  have absent (none : contents home tree space key = none) :
      contents home tree = (contents home tree).put space key Option.none := by
    rw [← none, Contents.put_self]
  simp only [delete, Host.request, bind_eq, ask_bind, done_bind, pure_eq_done]
  rcases place_of_shelf shelf names with ⟨opened, leads⟩ | ⟨lost, none⟩
  · have free := shelf.place space key names.ofSpace names.ofKey
    have removed := remove_of_leads leads
    cases there : tree.node? (home ++ [space] ++ [key]) with
    | none =>
        rw [there] at removed
        refine outlasts_ask now trivial (meets_remove_error removed) ?_
        exact outlasts_done now ⟨rfl, shelf, absent (by rw [contents, there])⟩
    | some node =>
        cases node with
        | directory => exact absurd there free
        | file content =>
            rw [there] at removed
            have erased := shelf_erase shelf opened.root free
            have ended := reaches _ erased contents_erase
            refine outlasts_ask now trivial (meets_remove removed) ?_
            exact outlasts_done ended ⟨rfl, erased, contents_erase⟩
  · have removed : tree.remove (settings.place space key) = .error .notFound := by
      rw [remove, lost]
      rfl
    refine outlasts_ask now trivial (meets_remove_error removed) ?_
    exact outlasts_done now ⟨rfl, shelf, absent none⟩

theorem init_outlasts (shelf : settings.Shelf home tree)
    (keeps : ∀ changed, settings.Shelf home changed → contents home changed = contents home tree →
      guard changed) :
    tree.Outlasts guard settings.init fun result changed =>
      result = .ok () ∧ settings.Shelf home changed ∧
        contents home changed = contents home tree := by
  have makes : tree.Outlasts guard (Host.makeDirectories settings.root) fun result changed =>
      result = .ok () ∧ settings.Shelf home changed ∧
        contents home changed = contents home tree := by
    refine outlasts_of_endures (Host.makeAll_whole _) ?_
    rcases shelf.root with found | missing
    · refine endures_mono (makeDirectories_endures found (keeps tree shelf rfl)) ?_
      rintro result changed ⟨rfl, rfl⟩
      exact ⟨rfl, shelf, rfl⟩
    · obtain ⟨base, before, names, some, rfl, lacks⟩ := missing
      exact makeRoot_endures lacks some shelf keeps
  refine outlasts_bind makes ?_
  rintro result changed ⟨rfl, made, same⟩
  exact outlasts_done (keeps changed made same) ⟨rfl, made, same⟩

/-- Where there is no room for the name beside a key, a save makes the directory of the space and
fails. -/
theorem save_refused (shelf : settings.Shelf home tree) (names : settings.Names space key)
    (cramped : ¬ settings.HasRoom space key) (value : Bytes) :
    tree.Yields (settings.save space key value) fun result changed =>
      result = .error (.system none .nameTooLong) ∧ settings.Shelf home changed ∧
        contents home changed = contents home tree := by
  have short := shorter_of_short (isSound_of_shelf shelf).filled names.ofSpace names.ofKey
    names.short
  have makes : tree.Outlasts (fun _ => True) _ _ :=
    makeFolder_outlasts shelf names.ofSpace short fun _ _ _ => trivial
  simp only [save, Host.write, Host.request, bind_eq, ask_bind, done_bind, pure_eq_done]
  refine yields_bind makes.2 ?_
  rintro result between ⟨rfl, opened⟩
  have found := find_folder_of_opened opened names
  have refused : between.create (settings.temporary space key) = .error .nameTooLong := by
    refine create_below_long found (Path.endsInSlash_below names.ofSpace)
      (Path.single_beside names.ofKey) (Path.beside_ne (by decide)) (Path.beside_ne (by decide))
      (Path.beside_ne (by decide)) (by simpa using names.ofKey.zero) ?_
    rw [HasRoom, ← Path.size_beside, not_and_or, Nat.not_le, Nat.not_lt] at cramped
    exact cramped
  refine yields_ask (meets_create_error refused) ?_
  exact yields_done ⟨rfl, opened.shelf, opened.held⟩

end Calling

end SettingsDirectory

end DualBank
