import DualBank.Proofs.Settled
import Mathlib.Algebra.Order.BigOperators.Group.List
import Mathlib.Algebra.Order.Ring.Nat

/-! Directories that are made one below the other, until the last one of a path is there. -/

namespace DualBank

namespace Path

section Texts

variable {path : Path}

theorem size_text (some : path.parts ≠ []) :
    path.text.utf8ByteSize + 1 = (path.parts.map fun part => part.utf8ByteSize + 1).sum := by
  obtain ⟨parts⟩ := path
  have slash : "/".utf8ByteSize = 1 := by decide +kernel
  induction parts with
  | nil => exact absurd rfl some
  | cons part rest ih =>
      cases rest with
      | nil => simp [text]
      | cons next others =>
          have onward := ih (by simp)
          simp only [text, String.intercalate_cons_cons, String.utf8ByteSize_append, slash,
            List.map_cons, List.sum_cons] at onward ⊢
          omega

theorem mem_text_iff {character : Char} (other : character ≠ '/') :
    character ∈ path.text.toList ↔ ∃ part ∈ path.parts, character ∈ part.toList := by
  obtain ⟨parts⟩ := path
  induction parts with
  | nil => simp [text]
  | cons part rest ih =>
      cases rest with
      | nil => simp [text]
      | cons next others =>
          simp only [text, String.intercalate_cons_cons, String.toList_append,
            List.mem_append] at ih ⊢
          rw [ih]
          simp [other]

theorem isSound_of_sublist {other : Path} (sound : FileTree.IsSound path)
    (fewer : other.parts.Sublist path.parts) {part : String} (inside : part ∈ other.parts)
    (filled : part ≠ "") : FileTree.IsSound other := by
  have some : other.parts ≠ [] := List.ne_nil_of_mem inside
  have more : path.parts ≠ [] := List.ne_nil_of_mem (fewer.subset inside)
  have size := size_text some
  constructor
  case filled =>
    intro empty
    have least : part.utf8ByteSize + 1 ≤ (other.parts.map fun part => part.utf8ByteSize + 1).sum :=
      List.single_le_sum (fun _ _ => Nat.zero_le _) _ (List.mem_map_of_mem inside)
    rw [← size, empty, String.utf8ByteSize_empty] at least
    exact filled (String.utf8ByteSize_eq_zero_iff.1 (by omega))
  case zero =>
    rw [mem_text_iff (by decide)]
    rintro ⟨part, within, zero⟩
    exact sound.zero ((mem_text_iff (by decide)).2 ⟨part, fewer.subset within, zero⟩)
  case short =>
    have sizes : (other.parts.map fun part => part.utf8ByteSize + 1).sum ≤
        (path.parts.map fun part => part.utf8ByteSize + 1).sum :=
      (fewer.map _).sum_le_sum fun _ _ => Nat.zero_le _
    rw [← size, ← size_text more] at sizes
    have short := sound.short
    omega

end Texts

section Names

variable {path : Path} {names : List String}

theorem of_mem_names {name : String} (inside : name ∈ path.names) : name ≠ "" ∧ name ≠ "." := by
  have kept := (List.mem_filter.1 inside).2
  simpa using kept

theorem getLast?_withNames (some : names ≠ []) :
    (path.withNames names).parts.getLast? = names.getLast? := by
  obtain ⟨first, rest, rfl⟩ := List.exists_cons_of_ne_nil some
  rw [withNames]
  split
  · exact List.getLast?_cons_cons
  · rfl

variable (fewer : names.Sublist path.names) (some : names ≠ [])
include fewer some

theorem isAbsolute_withNames : (path.withNames names).isAbsolute = path.isAbsolute := by
  obtain ⟨first, rest, rfl⟩ := List.exists_cons_of_ne_nil some
  have filled := (of_mem_names (fewer.subset (.head _))).1
  rw [withNames]
  split
  · rename_i absolute
    rw [absolute]
    simp [isAbsolute]
  · rename_i relative
    rw [Bool.eq_false_iff.2 relative]
    simp [isAbsolute, filled]

theorem names_withNames : (path.withNames names).names = names := by
  have kept : names.filter (fun part => part ≠ "" && part ≠ ".") = names := by
    refine List.filter_eq_self.2 fun name inside => ?_
    simpa using of_mem_names (fewer.subset inside)
  rw [withNames]
  split <;> simpa [Path.names, some] using kept

theorem sublist_withNames : (path.withNames names).parts.Sublist path.parts := by
  rw [withNames]
  split
  · rename_i absolute
    simp only [isAbsolute, Bool.and_eq_true, decide_eq_true_eq, List.head?_eq_some_iff] at absolute
    obtain ⟨⟨rest, parts⟩, -⟩ := absolute
    rw [Path.names, parts] at fewer
    rw [parts]
    exact (fewer.trans (by simp)).cons_cons ""
  · exact fewer.trans List.filter_sublist

end Names

theorem names_below {path : Path} {name : String} (named : IsName name) :
    (path.below name).names = path.names ++ [name] := by
  have kept : [name].filter (fun part => part ≠ "" && part ≠ ".") = [name] := by
    simp [named.filled, named.here]
  rw [names, parts_below named.single, List.filter_append, kept, names]
  split
  · rename_i slash
    conv_rhs => rw [parts_of_endsInSlash slash]
    simp
  · rfl

/-- Below the nearest name, a path leads through the same ones as what it is below of. -/
theorem upwards_eq {path : Path} {names : List String} {name : String} (some : names ≠ [])
    (split : path.names = names ++ [name]) :
    path.upwards = path :: (path.withNames names).upwards := by
  have fewer : names.Sublist path.names := by
    rw [split]
    exact List.sublist_append_left names [name]
  have alike (others : List String) :
      (path.withNames names).withNames others = path.withNames others := by
    rw [withNames, isAbsolute_withNames fewer some, withNames]
  rw [upwards, upwards, names_withNames fewer some, split, List.length_append,
    List.length_singleton, List.range_succ, List.reverse_append, List.reverse_singleton,
    List.singleton_append, List.map_cons, List.take_left]
  congr 2
  refine List.map_congr_left ?_
  intro count inside
  rw [alike, List.take_append_of_le_length]
  simp only [List.mem_reverse, List.mem_range] at inside
  omega

end Path

namespace FileTree

def raise (tree : FileTree) (base : Location) : List String → FileTree
  | [] => tree
  | name :: rest => (tree.insert (base ++ [name]) .directory).raise (base ++ [name]) rest

structure Lacks (tree : FileTree) (path : Path) (base : Location) (before names : List String) :
    Prop where
  sound : IsSound path
  level : path.parts.getLast? = path.names.getLast?
  split : path.names = before ++ names
  above : before.foldlM tree.enter (tree.start path) = .ok base
  named : ∀ name ∈ names, Path.IsName name
  bare : ∀ part, part <+: names → part ≠ [] → tree.node? (base ++ part) = none

variable {tree : FileTree} {path : Path} {base : Location} {before names rest : List String}
  {name : String}

/-- Parts that name nothing do not matter to where a path leads. -/
theorem foldlM_names (path : Path) (location : Location) :
    path.names.foldlM tree.enter location = path.parts.foldlM tree.enter location := by
  rw [Path.names]
  induction path.parts generalizing location with
  | nil => rfl
  | cons part rest ih =>
      by_cases blank : part = "" ∨ part = "."
      · have stays : tree.enter location part = .ok location := by simp [enter, blank]
        rw [List.filter_cons_of_neg (by simpa [or_iff_not_imp_left] using blank), List.foldlM_cons,
          stays]
        exact ih location
      · rw [List.filter_cons_of_pos (by simpa using blank), List.foldlM_cons, List.foldlM_cons]
        exact bind_congr fun reached => ih reached

theorem follow_of_names (sound : IsSound path) (level : path.parts.getLast? = some name)
    (split : path.names = names ++ [name]) (named : Path.IsName name) :
    tree.follow path = names.foldlM tree.enter (tree.start path) >>= fun parent =>
      .ok (.named parent name false) := by
  obtain ⟨front, parts⟩ := List.getLast?_eq_some_iff.1 level
  have flat : path.endsInSlash = false := by simp [Path.endsInSlash, level, named.filled]
  have same : (Path.mk front).names = names := by
    simpa [Path.names, parts, named.filled, named.here] using split
  rw [follow_eq sound, parts, ← same, foldlM_names]
  simp [named.filled, ending, named.here, named.above, flat]

section Raised

theorem raise_snoc (tree : FileTree) (base : Location) (names : List String) (name : String) :
    tree.raise base (names ++ [name]) =
      (tree.raise base names).insert (base ++ names ++ [name]) .directory := by
  induction names generalizing tree base with
  | nil => simp [raise]
  | cons first rest ih => simp [raise, ih]

theorem node?_raise {location : Location} (apart : ∀ part, part <+: names → part ≠ [] →
    location ≠ base ++ part) : (tree.raise base names).node? location = tree.node? location := by
  by_cases root : location = []
  · simp [root, node?]
  · induction names using List.reverseRecOn with
    | nil => rfl
    | append_singleton names name ih =>
        have differs : location ≠ base ++ names ++ [name] := by
          rw [List.append_assoc]
          exact apart _ (List.prefix_refl _) (by simp)
        rw [raise_snoc, node?_insert _ _ root, if_neg differs]
        exact ih fun part inside => apart part (inside.trans (List.prefix_append _ _))

theorem node?_raise_of_length {location : Location}
    (deeper : base.length + names.length < location.length) :
    (tree.raise base names).node? location = tree.node? location := by
  refine node?_raise ?_
  rintro part inside - rfl
  have shorter := inside.length_le
  rw [List.length_append] at deeper
  omega

section Bare

variable (bare : ∀ part, part <+: names → part ≠ [] → tree.node? (base ++ part) = none)
include bare

theorem extends_raise : tree.Extends (tree.raise base names) where
  here := by
    induction names using List.reverseRecOn with
    | nil => rfl
    | append_singleton names name ih =>
        rw [raise_snoc]
        exact ih fun part inside => bare part (inside.trans (List.prefix_append _ _))
  directories location directory := by
    rw [node?_raise]
    · exact directory
    · rintro part inside some rfl
      rw [bare part inside some] at directory
      contradiction

theorem foldlM_raise (named : ∀ name ∈ names, Path.IsName name) :
    names.foldlM (tree.raise base names).enter base = .ok (base ++ names) := by
  induction names using List.reverseRecOn with
  | nil => simp [pure, Except.pure]
  | append_singleton names name ih =>
      have first := ih (fun part inside => bare part (inside.trans (List.prefix_append _ _)))
        fun name inside => named name (List.mem_append_left _ inside)
      have free : (tree.raise base names).node? (base ++ names ++ [name]) ≠ some .directory := by
        rw [node?_raise_of_length (by simp), List.append_assoc,
          bare _ (List.prefix_refl _) (by simp)]
        nofun
      have extended := extends_insert .directory (by simp) free
      have last : ((tree.raise base names).insert (base ++ names ++ [name]) .directory).enter
          (base ++ names) name = .ok (base ++ names ++ [name]) := by
        refine enter_directory (named name (by simp)) ?_
        rw [node?_insert _ _ (by simp), if_pos rfl]
      rw [raise_snoc, List.foldlM_append, ← List.append_assoc]
      exact bind_eq_ok_iff.2 ⟨_, foldlM_of_extends extended first,
        bind_eq_ok_iff.2 ⟨_, last, rfl⟩⟩

theorem isSettled_raise (settled : tree.IsSettled) (directory : tree.node? base = some .directory)
    (named : ∀ name ∈ names, Path.IsName name) : (tree.raise base names).IsSettled := by
  induction names using List.reverseRecOn with
  | nil => exact settled
  | append_singleton names name ih =>
      have fewer (part : List String) (inside : part <+: names) :=
        bare part (inside.trans (List.prefix_append _ _))
      have first := ih fewer fun name inside => named name (List.mem_append_left _ inside)
      have reached : (tree.raise base names).node? (base ++ names) = some .directory :=
        directory_of_foldlM first ((extends_raise fewer).directories _ directory)
          (foldlM_raise fewer fun name inside => named name (List.mem_append_left _ inside))
      rw [raise_snoc]
      refine isSettled_insert first .directory reached ?_
      rw [node?_raise_of_length (by simp), List.append_assoc, bare _ (List.prefix_refl _) (by simp)]
      nofun

end Bare

end Raised

section Lacking

open Program

variable (lacks : tree.Lacks path base before names)
include lacks

theorem Lacks.directory (settled : tree.IsSettled) : tree.node? base = some .directory :=
  directory_of_foldlM settled (directory_of_start settled path) lacks.above

theorem Lacks.shorter {part : List String} (inside : part <+: names) :
    ∀ others, others <+: part → others ≠ [] → tree.node? (base ++ others) = none :=
  fun others further => lacks.bare others (further.trans inside)

/-- Where some of the directories are there, there are only the others to be made. -/
theorem lacks_raise {part : List String} (split : names = part ++ rest) :
    (tree.raise base part).Lacks path (base ++ part) (before ++ part) rest := by
  subst split
  have bare := lacks.shorter (List.prefix_append part rest)
  have extended := extends_raise bare
  constructor
  case sound => exact lacks.sound
  case level => exact lacks.level
  case split => rw [lacks.split, List.append_assoc]
  case above =>
    have start : (tree.raise base part).start path = tree.start path := by
      rw [start, start, extended.here]
    rw [start, List.foldlM_append, foldlM_of_extends extended lacks.above]
    exact foldlM_raise bare fun name inside => lacks.named name (List.mem_append_left _ inside)
  case named => exact fun name inside => lacks.named name (List.mem_append_right _ inside)
  case bare =>
    intro others inside some
    have deeper : base.length + part.length < (base ++ part ++ others).length := by
      have filled := List.length_pos_of_ne_nil some
      simp only [List.length_append]
      omega
    rw [node?_raise_of_length deeper, List.append_assoc]
    exact lacks.bare _ ((List.prefix_append_right_inj part).2 inside) (by simp [some])

theorem Lacks.lost {part : List String} (inside : part <+: names) (some : part ≠ []) :
    (before ++ part).foldlM tree.enter (tree.start path) = .error .notFound := by
  obtain ⟨first, others, rfl⟩ := List.exists_cons_of_ne_nil some
  have missing : tree.enter base first = .error .notFound := by
    refine enter_missing (lacks.named first (inside.subset (.head _)))
      (lacks.bare [first] (List.IsPrefix.trans ?_ inside) (by simp))
    exact List.prefix_append [first] others
  rw [List.foldlM_append, lacks.above]
  change (first :: others).foldlM tree.enter base = _
  rw [List.foldlM_cons, missing]
  rfl

theorem isStuck_of_lacks (some : names ≠ []) : tree.IsStuck path .notFound := by
  have lost := lacks.lost (List.prefix_refl names) some
  rw [← lacks.split, foldlM_names] at lost
  refine ⟨lacks.sound, ?_, lost⟩
  obtain ⟨name, last⟩ := Option.ne_none_iff_exists'.1 (List.getLast?_eq_none_iff.not.2 some)
  have named := lacks.named name (List.mem_of_getLast? last)
  simp [Path.endsInSlash, lacks.level, lacks.split, last, named.filled]

/-- The path that leads to all but the last of the names. -/
theorem lacks_above (split : names = rest ++ [name]) (some : rest ≠ []) :
    tree.Lacks (path.withNames (before ++ rest)) base before rest := by
  subst split
  have further : rest <+: rest ++ [name] := List.prefix_append rest [name]
  have fewer : (before ++ rest).Sublist path.names := by
    rw [lacks.split]
    exact further.sublist.append_left before
  have there : before ++ rest ≠ [] := by simp [some]
  have names := Path.names_withNames fewer there
  constructor
  case sound =>
    obtain ⟨first, others, rfl⟩ := List.exists_cons_of_ne_nil some
    have inside : first ∈ (path.withNames (before ++ first :: others)).names := by simp [names]
    exact Path.isSound_of_sublist lacks.sound (Path.sublist_withNames fewer there)
      (List.mem_of_mem_filter inside) (Path.of_mem_names inside).1
  case level => rw [Path.getLast?_withNames there, names]
  case split => exact names
  case above =>
    rw [start, Path.isAbsolute_withNames fewer there]
    exact lacks.above
  case named => exact fun name inside => lacks.named name (further.subset inside)
  case bare => exact lacks.shorter further

theorem lacks_below (named : Path.IsName name)
    (short : (path.below name).text.utf8ByteSize < pathLimit)
    (free : tree.node? (base ++ names ++ [name]) = none) :
    tree.Lacks (path.below name) base before (names ++ [name]) where
  sound := isSound_below named lacks.sound short
  level := by
    rw [Path.names_below named, Path.parts_below named.single, List.getLast?_concat,
      List.getLast?_concat]
  split := by rw [Path.names_below named, lacks.split, List.append_assoc]
  above := by
    rw [start_below named.single lacks.sound]
    exact lacks.above
  named := by
    simpa only [List.mem_append, List.mem_singleton, or_imp, forall_and, forall_eq] using
      ⟨lacks.named, named⟩
  bare part inside some := by
    rcases List.prefix_concat_iff.1 inside with rfl | further
    · rw [← List.append_assoc]
      exact free
    · exact lacks.bare part further some

theorem leads_of_lacks (split : names = [name]) : tree.Leads path base name := by
  subst split
  have named := lacks.named name (by simp)
  have level := lacks.level
  rw [lacks.split, List.getLast?_concat] at level
  refine ⟨?_, checkName_of_isName named⟩
  rw [follow_of_names lacks.sound level lacks.split named, lacks.above]
  rfl

theorem find_raise (some : names ≠ []) :
    (tree.raise base names).find path = .ok (base ++ names, .directory) := by
  obtain ⟨part, name, rfl⟩ := List.eq_nil_or_concat names |>.resolve_left some
  rw [List.concat_eq_append] at lacks ⊢
  have onward := lacks_raise lacks rfl
  have leads := leads_of_lacks onward rfl
  have free : (tree.raise base part).node? (base ++ part ++ [name]) ≠ .some .directory := by
    rw [onward.bare [name] (List.prefix_refl _) (by simp)]
    nofun
  have extended := extends_insert .directory (by simp) free
  rw [raise_snoc, find_of_leads (leads_of_extends leads extended), node?_insert _ _ (by simp),
    if_pos rfl, List.append_assoc]

/-- What is made on the way is the directories of all names, one after the other. -/
theorem makeDirectories_endures_raise {guard : FileTree → Prop} (some : names ≠ [])
    (keeps : ∀ part, part <+: names → guard (tree.raise base part)) :
    tree.Endures guard (Host.makeDirectories path) fun result changed =>
      result = .ok () ∧ changed = tree.raise base names := by
  induction names using List.reverseRecOn generalizing path with
  | nil => exact absurd rfl some
  | append_singleton names name ih =>
      have now := keeps [] List.nil_prefix
      have made := keeps (names ++ [name]) (List.prefix_refl _)
      by_cases none : names = []
      · subst none
        exact makeDirectories_endures_missing (leads_of_lacks lacks rfl)
          (lacks.bare [name] (List.prefix_refl _) (by simp)) now made
      · have further : names <+: names ++ [name] := List.prefix_append names [name]
        have split := lacks.split
        rw [← List.append_assoc] at split
        -- The path is asked for first; only when that fails is what is above it made.
        have lost : tree.makeDirectory path = .error .notFound := by
          have level := lacks.level
          rw [split, List.getLast?_concat] at level
          rw [makeDirectory, follow_of_names lacks.sound level split (lacks.named name (by simp)),
            lacks.lost further none]
          rfl
        rw [Host.makeDirectories, Path.upwards_eq (by simp [none]) split]
        simp only [Host.makeAll, Host.request, if_neg lacks.sound.filled, bind_eq, ask_bind,
          done_bind, pure_eq_done]
        refine endures_ask now (meets_makeDirectory_error lost) ?_
        have absent : SystemError.notFound.isNotFound = true := by decide
        simp only [absent, if_true]
        refine endures_bind (ih (lacks_above lacks rfl none) none
          fun part inside => keeps part (inside.trans further)) ?_
        rintro result between ⟨rfl, rfl⟩
        have onward := lacks_raise lacks rfl
        have free := onward.bare [name] (List.prefix_refl _) (by simp)
        rw [raise_snoc] at made ⊢
        refine endures_ask (keeps names further)
          (meets_makeDirectory (makeDirectory_of_leads (leads_of_lacks onward rfl) free)) ?_
        exact endures_done made ⟨rfl, rfl⟩

end Lacking

end FileTree

end DualBank
