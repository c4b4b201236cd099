import DualBank.BankDirectory
import DualBank.Proofs.Hosting

/-! Banks in files: where the files of the banks are, what they hold, and what it takes for them to
go on standing. -/

namespace DualBank

open Program FileTree

inductive BankFile where
  | primary
  | secondary
  | scratch
deriving DecidableEq

namespace BankFile

def name : BankFile → String
  | .primary => "primary.bin"
  | .secondary => "secondary.bin"
  | .scratch => "scratch.bin"

def ofBank : Bank → BankFile
  | .primary => .primary
  | .secondary => .secondary

theorem isName (file : BankFile) : Path.IsName file.name := by
  cases file <;> constructor <;> decide +kernel

theorem size_name (file : BankFile) : file.name.utf8ByteSize ≤ 14 := by
  cases file <;> decide +kernel

theorem name_injective {file other : BankFile} (same : file.name = other.name) : file = other := by
  cases file <;> cases other <;> simp [name] at same ⊢

end BankFile

def headerOf (content : Option Bytes) : Except FlashError Image.Header :=
  match content with
  | none => .error (.ofSystem .notFound)
  | some content =>
      match Image.Header.parse? (content.take Image.Header.size) with
      | some header => .ok header
      | none => .error .invalid

def BootAction.Swaps (action : BootAction) : Prop :=
  action = .testSwap ∨ action = .revert

instance (action : BootAction) : Decidable action.Swaps :=
  inferInstanceAs (Decidable (action = .testSwap ∨ action = .revert))

/-- What the files of the banks hold, as far as they are there, and what the trailer says. -/
structure Holdings where
  primary : Option Bytes
  secondary : Option Bytes
  scratch : Option Bytes
  trailer : SwapTrailer

namespace Holdings

def content (holdings : Holdings) : BankFile → Option Bytes
  | .primary => holdings.primary
  | .secondary => holdings.secondary
  | .scratch => holdings.scratch

def set (holdings : Holdings) (content : Option Bytes) : BankFile → Holdings
  | .primary => { holdings with primary := content }
  | .secondary => { holdings with secondary := content }
  | .scratch => { holdings with scratch := content }

theorem content_set (holdings : Holdings) (content : Option Bytes) (file other : BankFile) :
    (holdings.set content file).content other =
      if other = file then content else holdings.content other := by
  cases file <;> cases other <;> rfl

def action (holdings : Holdings) : BootAction :=
  if holdings.trailer.testPending then
    match headerOf holdings.secondary with
    | .ok _ => .testSwap
    | .error _ => .rejected
  else if holdings.trailer.confirmed then .normal
  else .revert

def after (holdings : Holdings) : BootAction → Holdings
  | .testSwap | .revert =>
      ⟨holdings.secondary, some (holdings.primary.getD []), none, holdings.trailer⟩
  | .normal | .rejected => holdings

def booted (holdings : Holdings) : Holdings :=
  { holdings.after holdings.action with trailer := holdings.action.trailer }

/-- A trial is only decided on after the header of its image was read. -/
theorem staged_of_testSwap {holdings : Holdings} (acts : holdings.action = .testSwap) :
    holdings.trailer.testPending = true ∧ holdings.secondary ≠ none := by
  unfold action at acts
  split at acts
  · rename_i pending
    refine ⟨pending, fun missing => ?_⟩
    simp [missing, headerOf] at acts
  · split at acts <;> contradiction

theorem trailer_of_revert {holdings : Holdings} (acts : holdings.action = .revert) :
    holdings.trailer = .onTrial := by
  unfold action at acts
  split at acts
  · split at acts <;> contradiction
  · split at acts
    · contradiction
    · rename_i calm unconfirmed
      simp only [Bool.not_eq_true] at calm unconfirmed
      calc holdings.trailer
        _ = ⟨holdings.trailer.testPending, holdings.trailer.confirmed⟩ := rfl
        _ = .onTrial := by rw [calm, unconfirmed, SwapTrailer.onTrial]

def exchanging (holdings : Holdings) : List Holdings :=
  let old := some (holdings.primary.getD [])
  [{ holdings with primary := old }, ⟨none, holdings.secondary, old, holdings.trailer⟩,
    ⟨holdings.secondary, none, old, holdings.trailer⟩,
    ⟨holdings.secondary, old, none, holdings.trailer⟩]

def passing (holdings : Holdings) : List Holdings :=
  [holdings, holdings.after holdings.action, holdings.booted] ++
    if holdings.action.Swaps then holdings.exchanging else []

theorem passing_iff {holdings : Holdings} {among : Holdings → Prop} :
    (∀ found ∈ holdings.passing, among found) ↔
      among holdings ∧ among (holdings.after holdings.action) ∧ among holdings.booted ∧
        (holdings.action.Swaps → ∀ found ∈ holdings.exchanging, among found) := by
  by_cases swaps : holdings.action.Swaps <;> simp [passing, swaps]

theorem trailer_set (holdings : Holdings) (content : Option Bytes) (file : BankFile) :
    (holdings.set content file).trailer = holdings.trailer := by
  cases file <;> rfl

end Holdings

namespace BankDirectory

def trailerOf (stored : Option Bytes) : SwapTrailer :=
  match Stored.decode SwapTrailer.ofJson? trailerSpace trailerKey stored with
  | .ok (some trailer) => trailer
  | .ok none | .error _ => .settled

def temporaryName : String := ".swap.tmp"

theorem isName_space : Path.IsName trailerSpace := by
  constructor <;> decide +kernel

theorem isName_key : Path.IsName trailerKey := by
  constructor <;> decide +kernel

theorem isName_temporary : Path.IsName temporaryName := by
  constructor <;> decide +kernel

theorem trailerOf_encode (trailer : SwapTrailer) :
    trailerOf (some trailer.toJson.encode) = trailer := by
  obtain ⟨testPending, confirmed⟩ := trailer
  cases testPending <;> cases confirmed <;> decide +kernel

structure Grounded (banks : BankDirectory) (home : Location) (tree : FileTree) : Prop where
  whole : tree.IsWhole
  top : tree.node? home = some .directory
  root : tree.find banks.root = .ok (home, .directory)
  short : (banks.settings.temporary trailerSpace trailerKey).text.utf8ByteSize < pathLimit

/-- The banks are below this directory, with this in them, and nothing is in their way. -/
structure Stands (banks : BankDirectory) (home : Location) (holdings : Holdings)
    (tree : FileTree) : Prop where
  grounded : banks.Grounded home tree
  content : ∀ file : BankFile,
    tree.node? (home ++ [file.name]) = (holdings.content file).map .file
  folder : ∀ content, tree.node? (home ++ [trailerSpace]) ≠ some (.file content)
  temporary : tree.node? (home ++ [trailerSpace] ++ [temporaryName]) ≠ some .directory
  trailer : ∃ stored : Option Bytes,
    tree.node? (home ++ [trailerSpace] ++ [trailerKey]) = stored.map .file ∧
      trailerOf stored = holdings.trailer

variable {banks : BankDirectory} {home : Location} {holdings : Holdings} {tree : FileTree}

section Places

variable (grounded : banks.Grounded home tree)
include grounded

theorem grounded_of_extends {later : FileTree} (extended : tree.Extends later)
    (whole : later.IsWhole) : banks.Grounded home later where
  whole := whole
  top := extended.directories _ grounded.top
  root := find_of_extends extended grounded.root
  short := grounded.short

/-- The path of the file beside the trailer is the longest of all. -/
theorem short_below {name : String} (named : Path.IsName name)
    (shorter : name.utf8ByteSize ≤ 14) : (banks.root.below name).text.utf8ByteSize < pathLimit := by
  have filled := (isSound_of_find grounded.root).filled
  have folderFilled : (banks.root.below trailerSpace).text ≠ "" := by
    rw [Path.text_below isName_space.single filled]
    intro empty
    simp [filled] at empty
  have short : ((banks.root.below trailerSpace).below temporaryName).text.utf8ByteSize <
      pathLimit := grounded.short
  have sizes : trailerSpace.utf8ByteSize = 4 ∧ temporaryName.utf8ByteSize = 9 := by decide +kernel
  have slash : "/".utf8ByteSize = 1 := by decide +kernel
  rw [Path.text_below isName_temporary.single folderFilled, Path.endsInSlash_below isName_space,
    Path.text_below isName_space.single filled] at short
  rw [Path.text_below named.single filled]
  simp only [String.utf8ByteSize_append, sizes.1, sizes.2, slash, Bool.false_eq_true, if_false]
    at short ⊢
  omega

theorem leads_file (file : BankFile) :
    tree.Leads (banks.root.below file.name) home file.name :=
  leads_below file.isName grounded.root (short_below grounded file.isName file.size_name)

theorem leads_bank (bank : Bank) :
    tree.Leads (banks.bankPath bank) home (BankFile.ofBank bank).name := by
  cases bank
  · exact leads_file grounded .primary
  · exact leads_file grounded .secondary

theorem leads_folder : tree.Leads (banks.settings.folder trailerSpace) home trailerSpace :=
  leads_below isName_space grounded.root (short_below grounded isName_space (by decide +kernel))

theorem short_trailer :
    (banks.settings.place trailerSpace trailerKey).text.utf8ByteSize < pathLimit := by
  have filled := (isSound_of_follow (leads_folder grounded).followed).filled
  have short : ((banks.settings.folder trailerSpace).below temporaryName).text.utf8ByteSize <
      pathLimit := grounded.short
  have sizes : trailerKey.utf8ByteSize = 4 ∧ temporaryName.utf8ByteSize = 9 := by decide +kernel
  rw [SettingsDirectory.place, Path.text_below isName_key.single filled]
  rw [Path.text_below isName_temporary.single filled] at short
  simp only [String.utf8ByteSize_append, sizes.1, sizes.2] at short ⊢
  omega

variable (made : tree.node? (home ++ [trailerSpace]) = some .directory)
include made

theorem find_folder :
    tree.find (banks.settings.folder trailerSpace) =
      .ok (home ++ [trailerSpace], .directory) := by
  rw [find_of_leads (leads_folder grounded), made]

theorem leads_temporary :
    tree.Leads (banks.settings.temporary trailerSpace trailerKey) (home ++ [trailerSpace])
      temporaryName :=
  leads_below isName_temporary (find_folder grounded made) grounded.short

theorem leads_trailer :
    tree.Leads (banks.settings.place trailerSpace trailerKey) (home ++ [trailerSpace])
      trailerKey :=
  leads_below isName_key (find_folder grounded made) (short_trailer grounded)

end Places

section Changes

variable (stands : banks.Stands home holdings tree)
include stands

theorem content_free (file : BankFile) :
    tree.node? (home ++ [file.name]) ≠ some .directory := by
  rw [stands.content file]
  cases holdings.content file <;> simp

theorem trailer_free : tree.node? (home ++ [trailerSpace] ++ [trailerKey]) ≠ some .directory := by
  obtain ⟨stored, there, _⟩ := stands.trailer
  rw [there]
  cases stored <;> simp

theorem stands_of_files {later : FileTree} (grounded : banks.Grounded home later)
    {changed : Holdings}
    (content : ∀ file : BankFile,
      later.node? (home ++ [file.name]) = (changed.content file).map .file)
    (others : ∀ location, location ≠ [] → (∀ file : BankFile, location ≠ home ++ [file.name]) →
      later.node? location = tree.node? location)
    (trailer : changed.trailer = holdings.trailer) : banks.Stands home changed later := by
  have folder : ∀ file : BankFile, home ++ [trailerSpace] ≠ home ++ [file.name] := by
    intro file
    cases file <;> simp [trailerSpace, BankFile.name]
  constructor
  case grounded => exact grounded
  case content => exact content
  case folder =>
    rw [others _ (by simp) folder]
    exact stands.folder
  case temporary =>
    rw [others _ (by simp) (by simp)]
    exact stands.temporary
  case trailer =>
    rw [others _ (by simp) (by simp), trailer]
    exact stands.trailer

theorem stands_write (file : BankFile) (content : Bytes) :
    banks.Stands home (holdings.set (some content) file)
      (tree.insert (home ++ [file.name]) (.file content)) := by
  have inside : home ++ [file.name] ≠ [] := by simp
  have free := content_free stands file
  have whole := isWhole_insert stands.grounded.whole (.file content) inside
    (by simp [stands.grounded.top]) free
  have extended := extends_insert (.file content) inside free
  refine stands_of_files stands (grounded_of_extends stands.grounded extended whole) ?_ ?_
    (Holdings.trailer_set ..)
  · intro other
    rw [node?_insert tree _ (by simp), Holdings.content_set]
    by_cases same : other = file
    · rw [if_pos (by rw [same]), if_pos same]
      rfl
    · rw [if_neg (by simpa using fun equal => same (BankFile.name_injective equal)), if_neg same]
      exact stands.content other
  · intro location nonroot apart
    rw [node?_insert tree _ nonroot, if_neg (apart file)]

theorem stands_move {source target : BankFile} (differs : source ≠ target) {content : Bytes}
    (there : holdings.content source = some content) :
    banks.Stands home ((holdings.set none source).set (some content) target)
      (tree.move (home ++ [source.name]) (home ++ [target.name])) := by
  have inside : home ++ [source.name] ≠ [] := by simp
  have apart : home ++ [source.name] ≠ home ++ [target.name] := by
    simpa using fun equal => differs (BankFile.name_injective equal)
  have file : tree.node? (home ++ [source.name]) = some (.file content) := by
    rw [stands.content source, there]
    rfl
  have alone (rest : Location) (below : rest ≠ []) :
      tree.node? (home ++ [source.name] ++ rest) = none :=
    under_file stands.grounded.whole file below
  have leaf := content_free stands source
  have free := content_free stands target
  have whole := isWhole_move inside apart alone stands.grounded.whole leaf
    (by simp [stands.grounded.top]) free
  have extended := extends_move inside apart alone leaf free
  refine stands_of_files stands (grounded_of_extends stands.grounded extended whole) ?_ ?_ ?_
  · intro other
    rw [node?_move inside apart alone (by simp), Holdings.content_set, Holdings.content_set]
    by_cases onto : other = target
    · rw [if_pos (by rw [onto]), if_pos onto, file]
      rfl
    · rw [if_neg (by simpa using fun equal => onto (BankFile.name_injective equal)), if_neg onto]
      by_cases gone : other = source
      · rw [if_pos (by rw [gone]), if_pos gone]
        rfl
      · rw [if_neg (by simpa using fun equal => gone (BankFile.name_injective equal)),
          if_neg gone]
        exact stands.content other
  · intro location nonroot others
    rw [node?_move inside apart alone nonroot, if_neg (others target), if_neg (others source)]
  · rw [Holdings.trailer_set, Holdings.trailer_set]

theorem stands_of_folder {later : FileTree} (grounded : banks.Grounded home later)
    {trailer : SwapTrailer}
    (files : ∀ file : BankFile,
      later.node? (home ++ [file.name]) = tree.node? (home ++ [file.name]))
    (folder : later.node? (home ++ [trailerSpace]) = some .directory)
    (temporary : later.node? (home ++ [trailerSpace] ++ [temporaryName]) ≠ some .directory)
    (stored : ∃ stored : Option Bytes,
      later.node? (home ++ [trailerSpace] ++ [trailerKey]) = stored.map .file ∧
        trailerOf stored = trailer) :
    banks.Stands home { holdings with trailer := trailer } later := by
  constructor
  case grounded => exact grounded
  case content =>
    intro file
    rw [files file, stands.content file]
    cases file <;> rfl
  case folder => simp [folder]
  case temporary => exact temporary
  case trailer => exact stored

theorem stands_folder (missing : tree.node? (home ++ [trailerSpace]) = none) :
    banks.Stands home holdings (tree.insert (home ++ [trailerSpace]) .directory) := by
  have inside : home ++ [trailerSpace] ≠ [] := by simp
  have free : tree.node? (home ++ [trailerSpace]) ≠ some .directory := by simp [missing]
  have whole := isWhole_insert stands.grounded.whole .directory inside
    (by simp [stands.grounded.top]) free
  have extended := extends_insert .directory inside free
  refine stands_of_folder stands (grounded_of_extends stands.grounded extended whole) ?_ ?_ ?_ ?_
  · intro file
    rw [node?_insert tree _ (by simp),
      if_neg (by cases file <;> simp [trailerSpace, BankFile.name])]
  · rw [node?_insert tree _ inside, if_pos rfl]
  · rw [node?_insert tree _ (by simp), if_neg (by simp)]
    exact stands.temporary
  · rw [node?_insert tree _ (by simp), if_neg (by simp)]
    exact stands.trailer

variable (made : tree.node? (home ++ [trailerSpace]) = some .directory)
include made

theorem stands_temporary (content : Bytes) :
    banks.Stands home holdings
      (tree.insert (home ++ [trailerSpace] ++ [temporaryName]) (.file content)) := by
  have inside : home ++ [trailerSpace] ++ [temporaryName] ≠ [] := by simp
  have free := stands.temporary
  have whole := isWhole_insert stands.grounded.whole (.file content) inside
    (by rw [List.dropLast_concat]; exact made) free
  have extended := extends_insert (.file content) inside free
  refine stands_of_folder stands (grounded_of_extends stands.grounded extended whole) ?_ ?_ ?_ ?_
  · intro file
    rw [node?_insert tree _ (by simp), if_neg (by simp)]
  · exact extended.directories _ made
  · rw [node?_insert tree _ inside, if_pos rfl]
    simp
  · rw [node?_insert tree _ (by simp), if_neg (by simp [temporaryName, trailerKey])]
    exact stands.trailer

/-- A trailer counts once its file has taken the place of the one before. -/
theorem stands_commit {content : Bytes}
    (written : tree.node? (home ++ [trailerSpace] ++ [temporaryName]) = some (.file content)) :
    banks.Stands home { holdings with trailer := trailerOf (some content) }
      (tree.move (home ++ [trailerSpace] ++ [temporaryName])
        (home ++ [trailerSpace] ++ [trailerKey])) := by
  have inside : home ++ [trailerSpace] ++ [temporaryName] ≠ [] := by simp
  have differs : home ++ [trailerSpace] ++ [temporaryName] ≠
      home ++ [trailerSpace] ++ [trailerKey] := by simp [temporaryName, trailerKey]
  have alone (rest : Location) (below : rest ≠ []) :
      tree.node? (home ++ [trailerSpace] ++ [temporaryName] ++ rest) = none :=
    under_file stands.grounded.whole written below
  have leaf := stands.temporary
  have free := trailer_free stands
  have whole := isWhole_move inside differs alone stands.grounded.whole leaf
    (by rw [List.dropLast_concat]; exact made) free
  have extended := extends_move inside differs alone leaf free
  refine stands_of_folder stands (grounded_of_extends stands.grounded extended whole) ?_ ?_ ?_ ?_
  · intro file
    rw [node?_move inside differs alone (by simp), if_neg (by simp), if_neg (by simp)]
  · exact extended.directories _ made
  · rw [node?_move inside differs alone (by simp), if_neg differs, if_pos rfl]
    simp
  · refine ⟨some content, ?_, rfl⟩
    rw [node?_move inside differs alone (by simp), if_pos rfl, written]
    rfl

end Changes

end BankDirectory

end DualBank
