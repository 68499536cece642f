import Acrostic.Storage.Fault
import Acrostic.Storage.Tree

namespace Acrostic.Storage

-- The files and folders, and the folder that relative paths start from. Links, permissions and
-- limits on open files are outside the model: what is said of every store is said of disks on
-- which none of them plays a part.
structure Store where
  tree : Tree
  sorted : tree.IsSorted
  home : Place

namespace Store

def empty : Store := ⟨.empty, trivial, []⟩

-- What a path leads to: an entry, or a free name in a folder
inductive Target where
  | present (place : Place) (entry : Entry)
  | vacant (place : Place)

-- The most bytes that a name and a path have
def nameLimit : Nat := 255

def pathLimit : Nat := 4095

def follow (tree : Tree) (place : Place) : List Path.Step → Except Fault Target
  | [] =>
    match tree.entryAt? place with
    | none => .error .notFound
    | some entry => .ok (.present place entry)
  | step :: rest =>
    match tree.entryAt? place with
    | none => .error .notFound
    | some (.file _) => .error .notFolder
    | some (.folder inside) =>
      match step with
      | .stay => follow tree place rest
      | .up => follow tree place.dropLast rest
      | .into name =>
        if nameLimit < (Text.encode name).size then .error .nameTooLong
        else if rest.isEmpty && (inside.find? name).isNone then .ok (.vacant (place ++ [name]))
        else follow tree (place ++ [name]) rest

-- Where the path starts
def start (store : Store) (path : Path) : Place :=
  if path.isAbsolute then [] else store.home

def locate (store : Store) (path : Path) : Except Fault Target :=
  if path.text.isEmpty then .error .notFound
  else if pathLimit < (Text.encode path.text).size then .error .nameTooLong
  else follow store.tree (store.start path) path.steps

-- The entry that the path leads to. A separator at its end asks for a folder.
def look (store : Store) (path : Path) : Except Fault Entry :=
  match store.locate path with
  | .error fault => .error fault
  | .ok (.vacant _) => .error .notFound
  | .ok (.present _ (.folder inside)) => .ok (.folder inside)
  | .ok (.present _ (.file content)) =>
    if path.endsInSeparator then .error .notFolder else .ok (.file content)

def contains (store : Store) (path : Path) : Bool :=
  match store.look path with
  | .ok _ => true
  | .error _ => false

def read (store : Store) (path : Path) : Except Fault ByteArray :=
  match store.look path with
  | .error fault => .error fault
  | .ok (.folder _) => .error .isFolder
  | .ok (.file content) => .ok content

-- Puts a file with the content at the place
def writeAt (store : Store) (place : Place) (content : ByteArray) : Store where
  tree := store.tree.alter (fun _ => .file content) place
  sorted := Tree.isSorted_alter place trivial (fun _ _ => trivial) store.sorted
  home := store.home

-- The place of the file that the path leads to, which is empty from now on
def create (store : Store) (path : Path) : Except Fault (Place × Store) :=
  match store.locate path with
  | .error fault => .error fault
  | .ok (.present _ (.folder _)) => .error .isFolder
  | .ok (.present place (.file _)) | .ok (.vacant place) =>
    if path.endsInSeparator then .error .isFolder
    else .ok (place, store.writeAt place ByteArray.empty)

def extend (more : ByteArray) : Option Entry → Entry
  | some (.file content) => .file (content ++ more)
  | some (.folder inside) => .folder inside
  | none => .file more

-- Writes behind what the file at the place holds
def append : Store → Place → ByteArray → Store
  | ⟨tree, sorted, home⟩, place, more => {
    tree := tree.alter (extend more) place
    sorted := Tree.isSorted_alter place trivial (by rintro (_ | _) h <;> exact h) sorted
    home := home }

def makeFolderAt (store : Store) (place : Place) : Store where
  tree := store.tree.alter (·.getD (.folder .empty)) place
  sorted := Tree.isSorted_alter place trivial (fun _ h => h) store.sorted
  home := store.home

-- Makes a folder in one that is there
def makeFolder (store : Store) (origin : Place) (steps : List Path.Step) : Except Fault Store :=
  match follow store.tree origin steps with
  | .error fault => .error fault
  | .ok (.present _ _) => .error .exists
  | .ok (.vacant place) => .ok (store.makeFolderAt place)

-- Whether the fault is that a folder is already there
def isHarmless (store : Store) (origin : Place) (steps : List Path.Step) : Fault → Bool
  | .exists =>
    match follow store.tree origin steps with
    | .ok (.present _ (.folder _)) => true
    | _ => false
  | _ => false

-- Makes the first of the folders, each of which is in the next. The others are made
-- where they lack, and stay when a later one is refused.
def makeNested (origin : Place) : List (List Path.Step) → Store → Except Fault Unit × Store
  | [], store => (.ok (), store)
  | steps :: above, store =>
    match store.makeFolder origin steps with
    | .ok made => (.ok (), made)
    | .error .notFound =>
      match makeNested origin above store with
      | (.error fault, made) => (.error fault, made)
      | (.ok (), made) =>
        match made.makeFolder origin steps with
        | .ok whole => (.ok (), whole)
        | .error fault =>
          (if made.isHarmless origin steps fault then .ok () else .error fault, made)
    | .error fault =>
      (if store.isHarmless origin steps fault then .ok () else .error fault, store)

-- The folder of the path, unless the path leads to something already
def ensureFolder (store : Store) (path : Path) : Except Fault Unit × Store :=
  if path.text.isEmpty || store.contains path then (.ok (), store)
  else if pathLimit < (Text.encode path.text).size then (.error .nameTooLong, store)
  else makeNested (store.start path)
    (path.steps :: path.above) store

end Store

end Acrostic.Storage
