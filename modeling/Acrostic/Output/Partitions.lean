import Acrostic.Output.Writer
import Acrostic.Text.Decimal

namespace Acrostic.Output

open Storage (Fault Path Store)

-- The name of what holds the passwords of a length
def partitionName (length : Nat) : List Char :=
  ['l', 'e', 'n', 'g', 't', 'h', '-'] ++ Text.natural length

-- The writers of a folder, one for each length that has occurred, in ascending order
structure Partitions where
  folder : Path
  capacity : Nat
  writers : List (Nat × Writer)

namespace Partitions

def ofFolder (folder : Path) (capacity : Nat) : Partitions := ⟨folder, capacity, []⟩

def path (partitions : Partitions) (length : Nat) : Path :=
  partitions.folder.join (partitionName length ++ ['.', 't', 'x', 't'])

def insert (length : Nat) (writer : Writer) : List (Nat × Writer) → List (Nat × Writer)
  | [] => [(length, writer)]
  | (other, first) :: rest =>
    if length < other then (length, writer) :: (other, first) :: rest
    else (other, first) :: insert length writer rest

def hasWriter (partitions : Partitions) (length : Nat) : Bool :=
  partitions.writers.any (·.1 == length)

-- Writes a line with the writer of the length
def writeWith (length : Nat) (line : List Char) : List (Nat × Writer) → Store →
    List (Nat × Writer) × Store
  | [], store => ([], store)
  | (other, writer) :: rest, store =>
    if length = other then
      let (writer, store) := writer.writeLine store line
      ((other, writer) :: rest, store)
    else
      let (rest, store) := writeWith length line rest store
      ((other, writer) :: rest, store)

-- Makes the file of the length if it is not there yet. A file that is refused changes nothing.
def openFor (partitions : Partitions) (store : Store) (length : Nat) :
    Except Fault Unit × Partitions × Store :=
  if partitions.hasWriter length then (.ok (), partitions, store)
  else
    match Writer.create store (partitions.path length) partitions.capacity with
    | .error fault => (.error fault, partitions, store)
    | .ok (writer, after) =>
      (.ok (), { partitions with writers := insert length writer partitions.writers }, after)

-- Writes a line into the file of the length
def writeLine (partitions : Partitions) (store : Store) (line : List Char) (length : Nat) :
    Except Fault Unit × Partitions × Store :=
  match partitions.openFor store length with
  | (.error fault, partitions, store) => (.error fault, partitions, store)
  | (.ok (), ⟨folder, capacity, writers⟩, store) =>
    let (writers, store) := writeWith length line writers store
    (.ok (), ⟨folder, capacity, writers⟩, store)

def flushAll : List (Nat × Writer) → Store → List (Nat × Writer) × Store
  | [], store => ([], store)
  | (length, writer) :: rest, store =>
    let (writer, store) := writer.flush store
    let (rest, store) := flushAll rest store
    ((length, writer) :: rest, store)

def flush : Partitions → Store → Partitions × Store
  | ⟨folder, capacity, writers⟩, store =>
    let (writers, store) := flushAll writers store
    (⟨folder, capacity, writers⟩, store)

-- What has been written so far
structure Share where
  length : Nat
  path : Path
  lines : Nat
  bytes : Nat

def shares (partitions : Partitions) : List Share :=
  partitions.writers.map fun (length, writer) => ⟨length, writer.path, writer.lines, writer.bytes⟩

end Partitions

end Acrostic.Output
