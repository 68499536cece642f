import Acrostic.Text.Encoded
import Acrostic.Text.Quoted

namespace Acrostic.Storage

abbrev Name := List Char

-- Where an entry is: the names that lead to it from the root
abbrev Place := List Name

-- A path as it is written
structure Path where
  text : List Char
deriving DecidableEq

namespace Path

def separator : Char := '/'

-- What a piece between two separators says
inductive Step where
  | stay
  | up
  | into (name : Name)
deriving DecidableEq

def stepOf (piece : List Char) : Step :=
  if piece = ['.'] then .stay
  else if piece = ['.', '.'] then .up
  else .into piece

-- Separators that follow each other count as one.
def steps (path : Path) : List Step :=
  ((path.text.splitOn separator).filter (!·.isEmpty)).map stepOf

-- The steps without those that lead nowhere
def components (path : Path) : List Step :=
  path.steps.filter (· ≠ .stay)

def isAbsolute (path : Path) : Bool :=
  path.text.head? == some separator

def endsInSeparator (path : Path) : Bool :=
  path.text.getLast? == some separator

-- The components of the folders that the path passes through, from the last one up
def above (path : Path) : List (List Step) :=
  (List.range' 1 (path.components.length - 1)).reverse.map path.components.take

-- The path of what has the name in the folder
def join (folder : Path) (name : Name) : Path :=
  if folder.text.isEmpty || folder.endsInSeparator then ⟨folder.text ++ name⟩
  else ⟨folder.text ++ separator :: name⟩

def quoted (path : Path) : List Char :=
  Text.quoted path.text

-- What follows the last dot of a name. A dot at its start only hides the file.
def extension? (name : Name) : Option (List Char) :=
  let before := name.reverse.dropWhile (· ≠ '.')
  if before.length ≤ 1 then none else some (name.reverse.takeWhile (· ≠ '.')).reverse

end Path

end Acrostic.Storage
