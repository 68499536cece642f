import Acrostic.Storage.Store

namespace Acrostic.Output

open Storage (Fault Path Place Store)

-- Writes a file through a buffer, so that what is written comes into the file in larger pieces.
structure Writer where
  path : Path
  place : Place
  -- how many bytes the buffer holds
  capacity : Nat
  -- what has been written and is not in the file yet
  pending : ByteArray
  lines : Nat
  bytes : Nat

namespace Writer

-- The file is empty from now on, whatever it held.
def create (store : Store) (path : Path) (capacity : Nat) : Except Fault (Writer × Store) :=
  (store.create path).map fun (place, after) =>
    (⟨path, place, capacity, ByteArray.empty, 0, 0⟩, after)

def flush : Writer → Store → Writer × Store
  | ⟨path, place, capacity, pending, lines, bytes⟩, store =>
    (⟨path, place, capacity, ByteArray.empty, lines, bytes⟩, store.append place pending)

def hold : Writer → ByteArray → Writer
  | ⟨path, place, capacity, pending, lines, bytes⟩, text =>
    ⟨path, place, capacity, pending ++ text, lines, bytes⟩

-- The buffer is emptied when a text does not fit into what is free of it. A text that is no
-- shorter than the whole buffer goes past it.
def write (writer : Writer) (store : Store) (text : ByteArray) : Writer × Store :=
  if writer.capacity ≤ text.size then
    let (writer, store) := writer.flush store
    let place := writer.place
    (writer, store.append place text)
  else if writer.pending.size + text.size ≤ writer.capacity then (writer.hold text, store)
  else
    let (writer, store) := writer.flush store
    (writer.hold text, store)

def lineEnd : ByteArray := ByteArray.mk #[0x0A]

def count : Writer → Nat → Writer
  | ⟨path, place, capacity, pending, lines, bytes⟩, written =>
    ⟨path, place, capacity, pending, lines + 1, bytes + written⟩

-- The line and then its end, each on its own
def writeLine (writer : Writer) (store : Store) (line : List Char) : Writer × Store :=
  let text := Text.encode line
  let (writer, store) := writer.write store text
  let (writer, store) := writer.write store lineEnd
  (writer.count (text.size + 1), store)

end Writer

end Acrostic.Output
