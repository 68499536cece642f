import Acrostic.Storage.Store

namespace Acrostic.Storage

-- What is at a place: the content of a file, or nothing for a folder
structure Change where
  place : Place
  content : Option ByteArray

namespace Tree

-- All entries, those of a folder behind it
def entries (above : Place) : Tree → List Change
  | empty => []
  | file name content others => ⟨above ++ [name], some content⟩ :: entries above others
  | folder name inside others =>
    ⟨above ++ [name], none⟩ :: entries (above ++ [name]) inside ++ entries above others

end Tree

-- Whether the entry was not there before, or was another
def Change.isNew (before : Tree) (change : Change) : Bool :=
  match before.entryAt? change.place, change.content with
  | some (.file old), some content => old != content
  | some (.folder _), none => false
  | _, _ => true

-- The files and folders that are new, and the files that hold something else than before
def Store.changes (before after : Store) : List Change :=
  (after.tree.entries []).filter (·.isNew before.tree)

end Acrostic.Storage
