import DualBank.Bytes
import DualBank.Lookup
import DualBank.Path
import DualBank.SystemError

/-! A tree of files and directories, with the errors that a system reports about paths in it. -/

namespace DualBank

abbrev Location := List String

inductive Node where
  | file (content : Bytes)
  | directory
deriving DecidableEq

/-- The root is a directory and has no entry. A path that does not begin at the root begins
`here`. -/
structure FileTree where
  entries : List (Location × Node)
  here : Location
deriving DecidableEq

namespace FileTree

def empty : FileTree := ⟨[], []⟩

def node? (tree : FileTree) (location : Location) : Option Node :=
  if location = [] then some .directory else tree.entries.lookup location

def erase (tree : FileTree) (location : Location) : FileTree :=
  { tree with entries := tree.entries.filter (·.1 ≠ location) }

def insert (tree : FileTree) (location : Location) (node : Node) : FileTree :=
  { tree with entries := (location, node) :: (tree.erase location).entries }

theorem node?_erase (tree : FileTree) {erased location : Location} (inside : location ≠ []) :
    (tree.erase erased).node? location =
      if location = erased then none else tree.node? location := by
  rw [node?, if_neg inside, node?, if_neg inside]
  exact Lookup.lookup_filter_ne tree.entries erased location

theorem node?_insert (tree : FileTree) {inserted location : Location} (node : Node)
    (inside : location ≠ []) :
    (tree.insert inserted node).node? location =
      if location = inserted then some node else tree.node? location := by
  have erased : (tree.erase inserted).node? location =
      if location = inserted then none else tree.node? location := node?_erase tree inside
  rw [node?, if_neg inside] at erased ⊢
  rw [insert, Lookup.lookup_cons, erased]
  by_cases same : location = inserted
  · rw [if_pos same, if_pos same]
  · rw [if_neg same, if_neg same, if_neg same]

def isOccupied (tree : FileTree) (location : Location) : Bool :=
  tree.entries.any fun (other, _) => location.isPrefixOf other && other ≠ location

def prune (tree : FileTree) (location : Location) : FileTree :=
  { tree with entries := tree.entries.filter fun (other, _) => !location.isPrefixOf other }

def move (tree : FileTree) (source target : Location) : FileTree :=
  let renamed (location : Location) : Location :=
    if source.isPrefixOf location then target ++ location.drop source.length else location
  { tree with
    entries := (tree.erase target).entries.map fun (location, node) => (renamed location, node) }

def hasPlace (tree : FileTree) (location : Location) (node : Node) : Bool :=
  let onTheWay := (List.range location.length).map fun count => tree.node? (location.take count)
  onTheWay.all (fun node => node = none || node = some .directory) &&
    match tree.node? location, node with
    | none, _ | some .directory, .directory | some (.file _), .file _ => true
    | some .directory, .file _ | some (.file _), .directory => false

def put (tree : FileTree) (location : Location) (node : Node) : FileTree :=
  if tree.hasPlace location node then
    ((List.range location.length).foldl
      (fun tree count =>
        match tree.node? (location.take count) with
        | none => tree.insert (location.take count) .directory
        | some _ => tree)
      tree).insert location node
  else tree

def nameLimit : Nat := 255

def pathLimit : Nat := 4096

def checkName (name : String) : Except SystemError Unit :=
  if nameLimit < name.utf8ByteSize then .error .nameTooLong else .ok ()

def enter (tree : FileTree) (location : Location) (name : String) : Except SystemError Location :=
  if name = "" || name = "." then .ok location
  else if name = ".." then .ok location.dropLast
  else do
    checkName name
    match tree.node? (location ++ [name]) with
    | some .directory => .ok (location ++ [name])
    | some (.file _) => .error .notADirectory
    | none => .error .notFound

/-- Where a path ends: in a directory, which the path may name from within, or at a name in it,
which may be followed by a slash. -/
inductive Ending where
  | within (location : Location)
  | named (parent : Location) (name : String) (slash : Bool)

def follow (tree : FileTree) (path : Path) : Except SystemError Ending :=
  if path.text = "" then .error .notFound
  else if path.text.toList.contains '\x00' then .error .zeroByteInPath
  else if pathLimit ≤ path.text.utf8ByteSize then .error .nameTooLong
  else do
    let parts := path.parts.reverse.dropWhile (· = "")
    match parts with
    | [] => .ok (.within [])
    | last :: before => do
        let parent ← before.reverse.foldlM tree.enter (if path.isAbsolute then [] else tree.here)
        if last = "." then .ok (.within parent)
        else if last = ".." then .ok (.within parent.dropLast)
        else .ok (.named parent last path.endsInSlash)

def find (tree : FileTree) (path : Path) : Except SystemError (Location × Node) := do
  match ← tree.follow path with
  | .within location => .ok (location, .directory)
  | .named parent name slash => do
      checkName name
      match tree.node? (parent ++ [name]) with
      | none => .error .notFound
      | some (.file content) =>
          if slash then .error .notADirectory else .ok (parent ++ [name], .file content)
      | some .directory => .ok (parent ++ [name], .directory)

def isDirectory (tree : FileTree) (path : Path) : Bool :=
  match tree.find path with
  | .ok (_, .directory) => true
  | _ => false

def isThere (tree : FileTree) (path : Path) : Bool :=
  (tree.find path).isOk

def makeDirectory (tree : FileTree) (path : Path) : Except SystemError FileTree := do
  match ← tree.follow path with
  | .within _ => .error .alreadyExists
  | .named parent name _ => do
      checkName name
      match tree.node? (parent ++ [name]) with
      | some _ => .error .alreadyExists
      | none => .ok (tree.insert (parent ++ [name]) .directory)

def create (tree : FileTree) (path : Path) : Except SystemError FileTree := do
  match ← tree.follow path with
  | .within _ => .error .isADirectory
  | .named parent name slash =>
      if slash then .error .isADirectory
      else do
        checkName name
        match tree.node? (parent ++ [name]) with
        | some .directory => .error .isADirectory
        | _ => .ok (tree.insert (parent ++ [name]) (.file []))

def read (tree : FileTree) (path : Path) : Except SystemError Bytes := do
  match ← tree.find path with
  | (_, .directory) => .error .isADirectory
  | (_, .file content) => .ok content

def append (tree : FileTree) (path : Path) (data : Bytes) : Except SystemError FileTree := do
  match ← tree.find path with
  | (_, .directory) => .error .isADirectory
  | (location, .file content) => .ok (tree.insert location (.file (content ++ data)))

def remove (tree : FileTree) (path : Path) : Except SystemError FileTree := do
  match ← tree.follow path with
  | .within _ => .error .isADirectory
  | .named parent name slash => do
      checkName name
      match tree.node? (parent ++ [name]) with
      | none => .error .notFound
      | some .directory => .error .isADirectory
      | some (.file _) =>
          if slash then .error .notADirectory else .ok (tree.erase (parent ++ [name]))

def checkTarget (tree : FileTree) (source target : Location) :
    Node → Option Node → Except SystemError Unit
  | _, none => .ok ()
  | .file _, some (.file _) => .ok ()
  | .file _, some .directory => .error .isADirectory
  | .directory, some (.file _) => .error .notADirectory
  | .directory, some .directory =>
      if tree.isOccupied target && source ≠ target then .error .notEmpty else .ok ()

def rename (tree : FileTree) (source target : Path) : Except SystemError FileTree := do
  let first ← tree.follow source
  let second ← tree.follow target
  match first, second with
  | .named parent name slash, .named otherParent otherName otherSlash => do
      let old := parent ++ [name]
      let new := otherParent ++ [otherName]
      checkName name
      match tree.node? old with
      | none => .error .notFound
      | some node => do
          checkName otherName
          if node ≠ .directory && (slash || otherSlash) then .error .notADirectory
          else if old.isPrefixOf new && old ≠ new then .error .invalid
          else if new.isPrefixOf old && old ≠ new then .error .notEmpty
          else do
            checkTarget tree old new node (tree.node? new)
            .ok (if old = new then tree else tree.move old new)
  | _, _ => .error .busy

end FileTree

end DualBank
