/-! Paths of files, as they are written: what stands between the slashes, empty parts included. -/

namespace DualBank

-- A path that begins with a slash has an empty first part, one that ends with a slash an empty
-- last part.
structure Path where
  parts : List String
deriving DecidableEq

namespace Path

def splitAtSlashes : List Char → List (List Char)
  | [] => [[]]
  | '/' :: rest => [] :: splitAtSlashes rest
  | character :: rest =>
      match splitAtSlashes rest with
      | first :: others => (character :: first) :: others
      | [] => [[character]]

def ofText (text : String) : Path :=
  ⟨(splitAtSlashes text.toList).map String.ofList⟩

def text (path : Path) : String :=
  String.intercalate "/" path.parts

def isAbsolute (path : Path) : Bool :=
  path.parts.head? = some "" && path.parts.tail ≠ []

def endsInSlash (path : Path) : Bool :=
  path.parts.getLast? = some ""

def join (path other : Path) : Path :=
  if other.isAbsolute then other
  else if path.endsInSlash then ⟨path.parts.dropLast ++ other.parts⟩
  else ⟨path.parts ++ other.parts⟩

def below (path : Path) (text : String) : Path :=
  path.join (ofText text)

def names (path : Path) : List String :=
  path.parts.filter fun part => part ≠ "" && part ≠ "."

def withNames (path : Path) (names : List String) : Path :=
  if path.isAbsolute then
    if names = [] then ⟨["", ""]⟩ else ⟨"" :: names⟩
  else
    if names = [] then ⟨[""]⟩ else ⟨names⟩

def upwards (path : Path) : List Path :=
  path :: (List.range path.names.length).reverse.map fun count =>
    path.withNames (path.names.take count)

end Path

end DualBank
