import Acrostic.Output.Writer
import Acrostic.Proofs.Attempt
import Acrostic.Proofs.Storage.Growth

namespace Acrostic.Output

open Storage (Fault Path Place Store)

-- What stands in a file that holds the lines
def written (lines : List (List Char)) : ByteArray :=
  Text.encode (lines.flatMap (· ++ ['\n']))

theorem written_append (lines more : List (List Char)) :
    written (lines ++ more) = written lines ++ written more := by
  rw [written, List.flatMap_append, Text.encode_append]
  rfl

theorem written_singleton (line : List Char) :
    written [line] = Text.encode (line ++ ['\n']) := by
  simp [written]

namespace Writer

-- What has been written: the file holds the first of it and the buffer the rest.
def Holds (writer : Writer) (store : Store) (content : ByteArray) : Prop :=
  ∃ stored, store.kindAt? writer.place = some (.file stored) ∧ stored ++ writer.pending = content

-- Another writer is not concerned.
theorem Holds.of_touches {writer other : Writer} {store after : Store} {content : ByteArray}
    (h : other.Holds store content) (honly : store.ChangesOnly writer.place after)
    (hplace : other.place ≠ writer.place) : other.Holds after content := by
  obtain ⟨stored, hstored, hcontent⟩ := h
  exact ⟨stored, (honly.kindAt? _ hplace).trans hstored, hcontent⟩

theorem create_eq_ok {store after : Store} {path : Path} {capacity : Nat} {writer : Writer}
    (h : create store path capacity = .ok (writer, after)) :
    path.endsInSeparator = false ∧ store.placeOf? path = some writer.place ∧ writer.path = path ∧
      writer.lines = 0 ∧ writer.Holds after ByteArray.empty ∧
      store.ChangesOnly writer.place after := by
  unfold create at h
  obtain ⟨⟨place, made⟩, hcreate, hwriter⟩ := Attempt.map_eq_ok_iff.mp h
  obtain ⟨rfl, rfl⟩ := Prod.mk.inj hwriter
  obtain ⟨hseparator, hplace, hroom, rfl⟩ := Store.create_eq_ok hcreate
  refine ⟨hseparator, hplace, rfl, rfl, ⟨ByteArray.empty, ?_, ByteArray.empty_append⟩,
    Store.changesOnly_writeAt hroom _⟩
  rw [Store.kindAt?_writeAt hroom, if_pos rfl]

section

variable {writer : Writer} {store : Store} {content : ByteArray}

-- Flushing empties the buffer into the file.
theorem flush_spec (h : writer.Holds store content) :
    (writer.flush store).1 = { writer with pending := ByteArray.empty } ∧
      (writer.flush store).2.kindAt? writer.place = some (.file content) ∧
      store.ChangesOnly writer.place (writer.flush store).2 := by
  obtain ⟨stored, hstored, rfl⟩ := h
  refine ⟨rfl, ?_, Store.changesOnly_append hstored _⟩
  exact (Store.kindAt?_append hstored _ _).trans (if_pos rfl)

-- However much the buffer can hold, a text comes behind what has been written before.
theorem write_spec (h : writer.Holds store content) (text : ByteArray) :
    ∃ pending, (writer.write store text).1 = { writer with pending := pending } ∧
      (writer.write store text).1.Holds (writer.write store text).2 (content ++ text) ∧
      store.ChangesOnly writer.place (writer.write store text).2 := by
  obtain ⟨hflush, hflushed, honly⟩ := flush_spec h
  unfold write
  split_ifs with hlarge hfits
  · simp only [hflush]
    refine ⟨ByteArray.empty, rfl, ⟨content ++ text, ?_, ByteArray.append_empty⟩,
      honly.trans (Store.changesOnly_append hflushed text)⟩
    rw [Store.kindAt?_append hflushed, if_pos rfl]
  · obtain ⟨stored, hstored, rfl⟩ := h
    exact ⟨writer.pending ++ text, rfl, ⟨stored, hstored, ByteArray.append_assoc.symm⟩, .refl _ _⟩
  · simp only [hflush]
    exact ⟨ByteArray.empty ++ text, rfl,
      ⟨content, hflushed, congrArg (content ++ ·) ByteArray.empty_append⟩, honly⟩

theorem writeLine_spec (h : writer.Holds store content) (line : List Char) :
    ∃ pending, (writer.writeLine store line).1 = { writer with
        pending := pending
        lines := writer.lines + 1
        bytes := writer.bytes + ((Text.encode line).size + 1) } ∧
      (writer.writeLine store line).1.Holds (writer.writeLine store line).2
        (content ++ Text.encode (line ++ ['\n'])) ∧
      store.ChangesOnly writer.place (writer.writeLine store line).2 := by
  obtain ⟨first, hfirst, hholds, honly⟩ := write_spec h (Text.encode line)
  obtain ⟨pending, hsecond, hholds', honly'⟩ := write_spec hholds lineEnd
  have htext : Text.encode (line ++ ['\n']) = Text.encode line ++ lineEnd := by
    rw [Text.encode_append]
    rfl
  rw [ByteArray.append_assoc, ← htext] at hholds'
  have hplace : (writer.write store (Text.encode line)).1.place = writer.place := by rw [hfirst]
  rw [hplace] at honly'
  rw [hfirst] at hsecond
  refine ⟨pending, ?_, hholds', honly.trans honly'⟩
  unfold writeLine
  simp only [hfirst, hsecond]
  rfl

end

end Writer

end Acrostic.Output
