import Acrostic.Run.Failure
import Acrostic.Storage.Store
import Acrostic.Unicode.Casing

namespace Acrostic.Run

open Storage (Name Path Store Tree)

-- A file of a corpus
structure Found where
  path : Path
  size : Nat
deriving DecidableEq

-- Which files of a folder belong to a corpus
structure Selection where
  -- whether folders within folders are looked into
  recursive : Bool
  -- the extensions that are taken, in lowercase
  extensions : List (List Char)

namespace Selection

def accepts (selection : Selection) (name : Name) : Bool :=
  match Path.extension? name with
  | none => false
  | some extension => selection.extensions.contains (Unicode.lowercase extension)

-- Whether a file of the folder is taken. Behind a path that is too long there is nothing to see.
def takes (selection : Selection) (folder : Path) (name : Name) : Bool :=
  selection.accepts name && decide ((Text.encode (folder.join name).text).size ≤ Store.pathLimit)

-- The files of a folder, what is in a folder at the place of its name
def filesOf (selection : Selection) (folder : Path) : Tree → List Found
  | .empty => []
  | .file name content others =>
    if selection.takes folder name then
      ⟨folder.join name, content.size⟩ :: selection.filesOf folder others
    else selection.filesOf folder others
  | .folder name inside others =>
    if selection.recursive then
      selection.filesOf (folder.join name) inside ++ selection.filesOf folder others
    else selection.filesOf folder others

-- A file that is given itself is taken whatever its extension.
def collect (selection : Selection) (store : Store) (input : Path) :
    Except Failure (List Found) :=
  match store.look input with
  | .error _ => .error (.notThere input)
  | .ok (.file content) => .ok [⟨input, content.size⟩]
  | .ok (.folder inside) => .ok (selection.filesOf input inside)

end Selection

end Acrostic.Run
