import DualBank.Proofs.Hosting

/-! Trees in which everything has its directory: they stay such when directories are made and files
are written, and a file that was written and then renamed is found where it went, wherever its paths
lead. -/

namespace DualBank

namespace Path

theorem length_splitAtSlashes (characters : List Char) :
    (splitAtSlashes characters).length = characters.count '/' + 1 := by
  induction characters using splitAtSlashes.induct with
  | case1 => rfl
  | case2 rest ih => simp [splitAtSlashes, ih]
  | case3 character rest other first others split ih =>
      have differs : character ≠ '/' := other
      rw [splitAtSlashes, split, List.count_cons_of_ne differs]
      · simpa [split] using ih
      · exact other
  | case4 character rest other none ih => simp [none] at ih

theorem splitAtSlashes_of_not_mem {characters : List Char} (free : '/' ∉ characters) :
    splitAtSlashes characters = [characters] := by
  induction characters with
  | nil => rfl
  | cons character rest ih =>
      simp only [List.mem_cons, not_or] at free
      simp [splitAtSlashes, ih free.2, Ne.symm free.1]

theorem single_iff (name : String) : ofText name = ⟨[name]⟩ ↔ '/' ∉ name.toList := by
  constructor
  · intro single
    have parts := congrArg (fun path => path.parts.length) single
    simp only [ofText, List.length_map, length_splitAtSlashes, List.length_singleton] at parts
    exact List.count_eq_zero.1 (by omega)
  · intro free
    simp [ofText, splitAtSlashes_of_not_mem free]

section Beside

variable {name : String}

theorem size_beside : ("." ++ name ++ ".tmp").utf8ByteSize = name.utf8ByteSize + 5 := by
  have sizes : ".".utf8ByteSize = 1 ∧ ".tmp".utf8ByteSize = 4 := by decide +kernel
  rw [String.utf8ByteSize_append, String.utf8ByteSize_append]
  omega

theorem beside_ne {other : String} (small : other.utf8ByteSize < 5) :
    "." ++ name ++ ".tmp" ≠ other := by
  have size : ("." ++ name ++ ".tmp").utf8ByteSize = name.utf8ByteSize + 5 := size_beside
  rintro rfl
  omega

theorem beside_ne_self : "." ++ name ++ ".tmp" ≠ name := by
  intro same
  have sizes := congrArg String.utf8ByteSize same
  rw [size_beside] at sizes
  omega

theorem single_beside (named : IsName name) :
    ofText ("." ++ name ++ ".tmp") = ⟨["." ++ name ++ ".tmp"]⟩ := by
  have free := (single_iff name).1 named.single
  rw [single_iff]
  simpa using free

/-- The name of a file that is written beside the one with this name. -/
theorem isName_beside (named : IsName name)
    (short : name.utf8ByteSize + 5 ≤ FileTree.nameLimit) : IsName ("." ++ name ++ ".tmp") where
  single := single_beside named
  filled := beside_ne (by decide)
  here := beside_ne (by decide)
  above := beside_ne (by decide)
  zero := by simpa using named.zero
  short := by rwa [size_beside]

end Beside

end Path

namespace FileTree

variable {tree changed : FileTree} {path : Path} {parent : Location} {name : String}

structure IsSettled (tree : FileTree) : Prop where
  whole : tree.IsWhole
  here : tree.node? tree.here = some .directory

theorem directory_of_enter (settled : tree.IsSettled) {location reached : Location}
    (directory : tree.node? location = some .directory)
    (entered : tree.enter location name = .ok reached) : tree.node? reached = some .directory := by
  unfold enter at entered
  split at entered
  · cases entered
    exact directory
  · split at entered
    · cases entered
      by_cases root : location = []
      · simp [root, node?]
      · exact settled.whole location root (by simp [directory])
    · obtain ⟨-, -, entered⟩ := bind_eq_ok_iff.1 entered
      split at entered
      · rename_i there
        cases entered
        exact there
      · contradiction
      · contradiction

theorem directory_of_foldlM (settled : tree.IsSettled) {parts : List String}
    {location reached : Location} (directory : tree.node? location = some .directory)
    (entered : parts.foldlM tree.enter location = .ok reached) :
    tree.node? reached = some .directory := by
  induction parts generalizing location with
  | nil =>
      cases entered
      exact directory
  | cons part rest ih =>
      rw [List.foldlM_cons] at entered
      obtain ⟨between, first, onward⟩ := bind_eq_ok_iff.1 entered
      exact ih (directory_of_enter settled directory first) onward

theorem directory_of_start (settled : tree.IsSettled) (path : Path) :
    tree.node? (tree.start path) = some .directory := by
  unfold FileTree.start
  split
  · simp [node?]
  · exact settled.here

theorem directory_of_follow (settled : tree.IsSettled) {slash : Bool}
    (followed : tree.follow path = .ok (.named parent name slash)) :
    tree.node? parent = some .directory := by
  rw [follow_eq (isSound_of_follow followed)] at followed
  split at followed
  · simp at followed
  · obtain ⟨reached, above, ended⟩ := bind_eq_ok_iff.1 followed
    have directory := directory_of_foldlM settled (directory_of_start settled path) above
    simp only [Except.ok.injEq, ending] at ended
    split at ended
    · contradiction
    · split at ended
      · contradiction
      · cases ended
        exact directory

theorem isSettled_insert (settled : tree.IsSettled) (node : Node)
    (directory : tree.node? parent = some .directory)
    (free : tree.node? (parent ++ [name]) ≠ some .directory) :
    (tree.insert (parent ++ [name]) node).IsSettled where
  whole := isWhole_insert settled.whole node (by simp) (by simpa using directory) free
  here := (extends_insert node (by simp) free).directories _ settled.here

/-- A file that is written anew, empty at first. -/
theorem extends_written (free : tree.node? (parent ++ [name]) ≠ some .directory) (data : Bytes) :
    tree.Extends
      ((tree.insert (parent ++ [name]) (.file [])).insert (parent ++ [name]) (.file data)) where
  here := rfl
  directories location directory := by
    have inside : parent ++ [name] ≠ [] := by simp
    have created := extends_insert (.file []) inside free
    refine (extends_insert (.file data) inside ?_).directories _ (created.directories _ directory)
    simp [node?_insert]

theorem isSettled_makeDirectory (settled : tree.IsSettled)
    (made : tree.makeDirectory path = .ok changed) : changed.IsSettled := by
  obtain ⟨ended, followed, made⟩ := bind_eq_ok_iff.1 made
  cases ended with
  | within location => contradiction
  | named parent name slash =>
      obtain ⟨-, -, made⟩ := bind_eq_ok_iff.1 made
      split at made
      · contradiction
      · rename_i free
        cases made
        exact isSettled_insert settled .directory (directory_of_follow settled followed)
          (by simp [free])

theorem create_eq_ok (created : tree.create path = .ok changed) :
    ∃ parent name, tree.Leads path parent name ∧
      tree.node? (parent ++ [name]) ≠ some .directory ∧
      changed = tree.insert (parent ++ [name]) (.file []) := by
  obtain ⟨ended, followed, created⟩ := bind_eq_ok_iff.1 created
  cases ended with
  | within location => contradiction
  | named parent name slash =>
      cases slash with
      | true => contradiction
      | false =>
          obtain ⟨⟨⟩, short, created⟩ := bind_eq_ok_iff.1 created
          refine ⟨parent, name, ⟨followed, short⟩, ?_⟩
          split at created
          · contradiction
          · rename_i free
            cases created
            exact ⟨free, rfl⟩

theorem rename_eq_ok {target : Path} {content : Bytes} (leads : tree.Leads path parent name)
    (file : tree.node? (parent ++ [name]) = some (.file content))
    (renamed : tree.rename path target = .ok changed) :
    ∃ other last, tree.Leads target other last ∧
      tree.node? (other ++ [last]) ≠ some .directory ∧
      changed = if parent ++ [name] = other ++ [last] then tree
        else tree.move (parent ++ [name]) (other ++ [last]) := by
  obtain ⟨first, followed, renamed⟩ := bind_eq_ok_iff.1 renamed
  obtain ⟨second, onward, renamed⟩ := bind_eq_ok_iff.1 renamed
  rw [leads.followed] at followed
  cases followed
  cases second with
  | within location => contradiction
  | named other last slash =>
      obtain ⟨-, -, renamed⟩ := bind_eq_ok_iff.1 renamed
      simp only [file] at renamed
      obtain ⟨⟨⟩, short, renamed⟩ := bind_eq_ok_iff.1 renamed
      cases slash with
      | true => simp at renamed
      | false =>
          simp only [Bool.or_self, Bool.and_false, Bool.false_eq_true, if_false] at renamed
          split at renamed
          · contradiction
          · split at renamed
            · contradiction
            · obtain ⟨⟨⟩, allowed, same⟩ := bind_eq_ok_iff.1 renamed
              refine ⟨other, last, ⟨onward, short⟩, fun directory => ?_, (Except.ok.inj same).symm⟩
              rw [directory] at allowed
              contradiction

theorem read_of_rename {target : Path} {content : Bytes} (settled : tree.IsSettled)
    (leads : tree.Leads path parent name)
    (file : tree.node? (parent ++ [name]) = some (.file content))
    (renamed : tree.rename path target = .ok changed) : changed.read target = .ok content := by
  obtain ⟨other, last, onward, free, rfl⟩ := rename_eq_ok leads file renamed
  by_cases same : parent ++ [name] = other ++ [last]
  · -- Two paths may lead to one file, and then nothing is renamed.
    rw [if_pos same, read_of_leads onward, ← same, file]
  · have alone (rest : Location) (below : rest ≠ []) :
        tree.node? (parent ++ [name] ++ rest) = none := under_file settled.whole file below
    have extended := extends_move (by simp) same alone (by simp [file]) free
    rw [if_neg same, read_of_leads (leads_of_extends onward extended),
      node?_move (by simp) same alone (by simp), if_pos rfl, file]

end FileTree

open Program

namespace FileTree

variable {α : Type} {tree : FileTree} {post : α → FileTree → Prop}

theorem yields_makeDirectory {path : Path} {next : Except SystemError Unit → Host α}
    (settled : tree.IsSettled)
    (onward : ∀ reply (changed : FileTree), changed.IsSettled → changed.Yields (next reply) post) :
    tree.Yields (.ask (.makeDirectory path) next) post := by
  cases made : tree.makeDirectory path with
  | error error => exact yields_ask (meets_makeDirectory_error made) (onward _ _ settled)
  | ok changed =>
      exact yields_ask (meets_makeDirectory made)
        (onward _ _ (isSettled_makeDirectory settled made))

theorem makeAll_yields (settled : tree.IsSettled) (paths : List Path) :
    tree.Yields (Host.makeAll paths) fun _ changed => changed.IsSettled := by
  induction paths generalizing tree with
  | nil => exact yields_done settled
  | cons path above ih =>
      have checked (error : SystemError) {tree : FileTree} (settled : tree.IsSettled) :
          tree.Yields (.ask (.isDirectory path) fun there =>
            if there then .done (.ok ()) else .done (.error error))
            fun (_ : Except SystemError Unit) changed => changed.IsSettled := by
        refine yields_ask (meets_isDirectory path) ?_
        split <;> exact yields_done settled
      simp only [Host.makeAll, Host.request, bind_eq, ask_bind, done_bind, pure_eq_done]
      split
      · exact yields_done settled
      · refine yields_makeDirectory settled fun reply tree settled => ?_
        cases reply with
        | ok value => exact yields_done settled
        | error error =>
            dsimp only
            split
            · refine yields_bind (ih settled) fun reply tree settled => ?_
              cases reply with
              | error error => exact yields_done settled
              | ok value =>
                  refine yields_makeDirectory settled fun reply tree settled => ?_
                  cases reply with
                  | ok value => exact yields_done settled
                  | error error => exact checked error settled
            · exact checked error settled

theorem write_yields (settled : tree.IsSettled) (path : Path) (data : Bytes) :
    tree.Yields (Host.write path data) fun result changed => result = .ok () →
      changed.IsSettled ∧ ∃ parent name, changed.Leads path parent name ∧
        changed.node? (parent ++ [name]) = some (.file data) := by
  cases created : tree.create path with
  | error error =>
      simp only [Host.write, Host.request, bind_eq, ask_bind, done_bind, pure_eq_done]
      exact yields_ask (meets_create_error created) (yields_done (by simp))
  | ok changed =>
      obtain ⟨parent, name, leads, free, -⟩ := create_eq_ok created
      have directory := directory_of_follow settled leads.followed
      have emptied := isSettled_insert settled (.file []) directory free
      have writes : tree.Endures (fun _ => True) (Host.write path data) _ :=
        write_endures leads free data trivial trivial trivial
      refine yields_mono (yields_of_endures writes) ?_
      rintro result changed ⟨-, rfl⟩ -
      refine ⟨isSettled_insert emptied _ ?_ (by simp [node?_insert]), parent, name,
        leads_of_extends leads (extends_written free data), ?_⟩
      · exact (extends_insert (.file []) (by simp) free).directories _ directory
      · rw [node?_insert _ _ (by simp), if_pos rfl]

end FileTree

end DualBank
