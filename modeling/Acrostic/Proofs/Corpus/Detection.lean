import Acrostic.Corpus.File
import Acrostic.Proofs.Attempt
import Acrostic.Proofs.Corpus.Slices

namespace Acrostic.Corpus

open Storage (Path Store)

namespace Encoding

-- A mark is short enough to be seen in any sample that could hold it.
theorem ofMark?_take {content : List UInt8} {count : Nat} (h : 3 ≤ count) :
    ofMark? (content.take count) = ofMark? content := by
  obtain ⟨count, rfl⟩ := Nat.exists_eq_add_of_le' h
  match content with
  | [] => rfl
  | [first] => rfl
  | [first, second] => rfl
  | first :: second :: third :: rest =>
    simp only [List.take_succ_cons]
    unfold ofMark?
    split <;> split <;> simp_all

theorem body_of_ofMark? {content : List UInt8} (h : ofMark? content = none) :
    Reader.body content = content := by
  unfold ofMark? at h
  unfold Reader.body
  split at h <;> simp_all

end Encoding

-- The character that is written as a mark
def byteOrderMark : Char := Char.ofNat 0xFEFF

namespace Utf8

theorem head?_of_encode {text : List Char} {bytes : List UInt8} (h : encode text = bytes) :
    text.head?.map some = (decoder.pieces .ready bytes).head? := by
  have hrun := run_encode text
  rw [Decoder.run_eq_pieces, h] at hrun
  rw [← List.head?_map, ← hrun]
  rfl

-- A text starts with a mark only if the mark is its first character.
theorem ofMark?_encode {text : List Char} (h : text.head? ≠ some byteOrderMark) :
    Encoding.ofMark? (encode text) = none := by
  have hinvalid (first : UInt8) (rest : List UInt8) (hfirst : 0xF4 < first.toNat) :
      encode text ≠ first :: rest := by
    intro hbytes
    have hhead := head?_of_encode hbytes
    rw [pieces_cons, step, first_none (.inr hfirst)] at hhead
    simp at hhead
  unfold Encoding.ofMark?
  split
  next rest hbytes =>
    have hhead := head?_of_encode hbytes
    have hmark : decoder.pieces .ready (0xEF :: 0xBB :: 0xBF :: rest) = _ :=
      pieces_encodeChar byteOrderMark rest
    rw [hmark] at hhead
    exact absurd (by simpa using hhead) h
  next rest hbytes => exact absurd hbytes (hinvalid _ _ (by decide))
  next rest hbytes => exact absurd hbytes (hinvalid _ _ (by decide))
  next => rfl

-- What is read of a text at its start is without loss.
theorem isClean_feed {text : List Char} {bytes more : List UInt8}
    (h : encode text = bytes ++ more) :
    isClean (decoder.feed (decoder.start, []) bytes).2 = true := by
  have hrun := Decoder.pieces_eq_feed decoder decoder.start [] (encode text)
  rw [List.reverse_nil, List.nil_append, ← Decoder.run_eq_pieces, run_encode] at hrun
  rw [isClean, List.all_eq_true]
  intro piece hpiece
  have hlater := Decoder.mem_feed_of_mem more hpiece
  rw [← Decoder.feed_append, ← h] at hlater
  have hmem : piece ∈ text.map some := by
    rw [← hrun]
    exact List.mem_append_left _ (List.mem_reverse.mpr hlater)
  obtain ⟨c, -, rfl⟩ := List.mem_map.mp hmem
  rfl

-- The start of a text ends within a character if it is no text itself.
theorem isWellFormed_or_isCutOff_take (text : List Char) (count : Nat) :
    isWellFormed ((encode text).take count) = true ∨
      isCutOff ((encode text).take count) = true := by
  have hclean := isClean_feed (List.take_append_drop count (encode text)).symm
  generalize (encode text).take count = sample at hclean ⊢
  unfold isWellFormed isCutOff Decoder.run
  generalize decoder.feed (decoder.start, []) sample = reached at hclean ⊢
  obtain ⟨state, pieces⟩ := reached
  cases state with
  | ready =>
    left
    simpa [isClean, decoder, finish] using hclean
  | within => exact .inr hclean

end Utf8

-- The ways to write a text to a file
inductive Form where
  | plain
  | marked
  | utf16 (order : Utf16.ByteOrder)

namespace Form

def scheme : Form → Scheme
  | plain => .utf8
  | marked => .utf8
  | utf16 order => .utf16 order

def mark : Form → List UInt8
  | plain => []
  | marked => [0xEF, 0xBB, 0xBF]
  | utf16 .littleEndian => [0xFF, 0xFE]
  | utf16 .bigEndian => [0xFE, 0xFF]

def bytes : Form → List Char → List UInt8
  | plain, text => Utf8.encode text
  | marked, text => Utf8.encode text
  | utf16 order, text => Utf16.encode order text

def content (form : Form) (text : List Char) : List UInt8 :=
  form.mark ++ form.bytes text

-- A text that starts with a mark of its own is taken for a marked one.
def IsApart (form : Form) (text : List Char) : Prop :=
  form = plain → text.head? ≠ some byteOrderMark

theorem encodes_bytes (form : Form) (text : List Char) :
    form.scheme.Encodes text (form.bytes text) := by
  cases form <;> rfl

theorem body_content {form : Form} {text : List Char} (h : form.IsApart text) :
    Reader.body (form.content text) = form.bytes text := by
  cases form with
  | plain => exact Encoding.body_of_ofMark? (Utf8.ofMark?_encode (h rfl))
  | marked => rfl
  | utf16 order => cases order <;> rfl

section Detect

-- A guess is relied on for a full sample of a text, which may end within a character.
variable {guess : List UInt8 → Encoding}
  (hguess : ∀ sample, Encoding.sampleSize ≤ sample.length → Utf8.isCutOff sample = true →
    guess sample = .utf8)

include hguess

theorem detect_content {form : Form} {text : List Char} (h : form.IsApart text) :
    Encoding.detect guess (form.content text) = .known form.scheme := by
  simp only [Encoding.detect]
  rw [Encoding.ofMark?_take (by decide)]
  cases form with
  | plain =>
    have hnone : Encoding.ofMark? (plain.content text) = none := Utf8.ofMark?_encode (h rfl)
    rw [hnone]
    dsimp only
    split_ifs with hwell
    · rfl
    · have hcut := (Utf8.isWellFormed_or_isCutOff_take text Encoding.sampleSize).resolve_left hwell
      refine hguess _ ?_ hcut
      -- a short sample is the whole text
      by_contra hshort
      have hlength := List.length_take (i := Encoding.sampleSize) (l := plain.content text)
      rw [List.take_of_length_le (by omega)] at hwell
      exact hwell (Utf8.isWellFormed_iff.mpr ⟨text, rfl⟩)
  | marked => rfl
  | utf16 order => cases order <;> rfl

theorem ofContent_content {form : Form} {text : List Char} (h : form.IsApart text) :
    (Reader.ofContent guess (form.content text)).encoding = .known form.scheme ∧
      (Reader.ofContent guess (form.content text)).lines = linesAt '\n' '\r' text ∧
      (Reader.ofContent guess (form.content text)).readAll.2.lossy = 0 := by
  have hrun := Scheme.run_of_encodes (form.encodes_bytes text)
  rw [Reader.ofContent, detect_content hguess h, Reader.lines_withEncoding,
    Reader.lossy_withEncoding, body_content h, hrun, textOf_map_some, linesAt_map_some,
    List.countP_map]
  refine ⟨rfl, rfl, ?_⟩
  rw [List.countP_eq_zero]
  intro line _
  simp [isClean_map_some]

end Detect

-- What is well-formed is a text, marked or not.
theorem exists_of_isWellFormed {content : List UInt8} (h : Utf8.isWellFormed content = true) :
    ∃ (form : Form) (text : List Char), form.scheme = .utf8 ∧ form.IsApart text ∧
      form.content text = content := by
  obtain ⟨text, rfl⟩ := Utf8.isWellFormed_iff.mp h
  by_cases hmark : text.head? = some byteOrderMark
  · obtain ⟨rest, rfl⟩ := List.head?_eq_some_iff.mp hmark
    exact ⟨marked, rest, rfl, nofun, rfl⟩
  · exact ⟨plain, text, rfl, fun _ => hmark, rfl⟩

end Form

theorem openFileBy_eq_ok {guess : List UInt8 → Encoding} {store : Store} {path : Path}
    {reader : Reader} (h : Reader.openFileBy guess store path = .ok reader) :
    ∃ content, store.read path = .ok content ∧ Reader.ofBytes guess content = reader := by
  unfold Reader.openFileBy at h
  exact Attempt.map_eq_ok_iff.mp h

-- A text has the same lines however it is written, and no part of it is lost. What is well-formed
-- is read without loss too, wherever a sample of it ends.
theorem openFileBy_content {guess : List UInt8 → Encoding}
    (hguess : ∀ sample, Encoding.sampleSize ≤ sample.length → Utf8.isCutOff sample = true →
      guess sample = .utf8)
    {store : Store} {path : Path} {content : ByteArray} (hread : store.read path = .ok content) :
    ∃ reader, Reader.openFileBy guess store path = .ok reader ∧
      (∀ (form : Form) (text : List Char), text.head? ≠ some byteOrderMark →
        content.data.toList = form.content text →
          reader.encoding = .known form.scheme ∧ reader.lines = linesAt '\n' '\r' text ∧
            reader.readAll.2.lossy = 0) ∧
      (Utf8.isWellFormed content.data.toList = true →
        reader.encoding = .utf8 ∧ reader.readAll.2.lossy = 0) := by
  refine ⟨Reader.ofBytes guess content, ?_, ?_, ?_⟩
  · rw [Reader.openFileBy, hread]
    rfl
  · intro form text hmark hcontent
    rw [Reader.ofBytes, hcontent]
    exact Form.ofContent_content hguess (fun _ => hmark)
  · intro hwell
    obtain ⟨form, text, hform, hapart, hcontent⟩ := Form.exists_of_isWellFormed hwell
    have hall := Form.ofContent_content hguess hapart
    rw [hform, hcontent] at hall
    exact ⟨hall.1, hall.2.2⟩

theorem openFileBy_content_littleEndian :
    ∃ reader, Reader.openFileBy (fun _ => .utf8)
        (Store.empty.writeAt [['a']] ⟨#[0xFF, 0xFE, 0xE9, 0, 0x0D, 0, 0x0A, 0, 0x0A, 0x0D]⟩)
        ⟨['a']⟩ = .ok reader ∧
      reader.encoding = .utf16 .littleEndian ∧ reader.lines = [['é'], ['\u0D0A']] ∧
      reader.readAll.2.lossy = 0 := by
  have hread : (Store.empty.writeAt [['a']]
      ⟨#[0xFF, 0xFE, 0xE9, 0, 0x0D, 0, 0x0A, 0, 0x0A, 0x0D]⟩).read ⟨['a']⟩ =
        .ok ⟨#[0xFF, 0xFE, 0xE9, 0, 0x0D, 0, 0x0A, 0, 0x0A, 0x0D]⟩ := rfl
  obtain ⟨reader, hopen, hforms, -⟩ := openFileBy_content (fun _ _ _ => rfl) hread
  exact ⟨reader, hopen, hforms (.utf16 .littleEndian) ['é', '\r', '\n', '\u0D0A']
    (by decide) (by decide)⟩

end Acrostic.Corpus
