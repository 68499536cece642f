import Acrostic.Proofs.Corpus.Reader
import Acrostic.Proofs.Corpus.Utf16.Text
import Acrostic.Proofs.Corpus.Utf8.Text
import Acrostic.Proofs.Corpus.Windows1252

namespace Acrostic.Corpus

open Encoding (known)

namespace Encoding

-- The bytes of the lines, without what ends them
def slices (encoding : Encoding) : List UInt8 → List (List UInt8)
  | [] => []
  | byte :: rest =>
    (encoding.cut (byte :: rest)).line :: encoding.slices (encoding.cut (byte :: rest)).rest
termination_by bytes => bytes.length
decreasing_by exact encoding.cut_rest_lt (List.cons_ne_nil byte rest)

theorem slices_nil (encoding : Encoding) : encoding.slices [] = [] := by
  rw [slices]

theorem slices_of_ne_nil (encoding : Encoding) {bytes : List UInt8} (h : bytes ≠ []) :
    encoding.slices bytes =
      (encoding.cut bytes).line :: encoding.slices (encoding.cut bytes).rest := by
  obtain ⟨byte, rest, rfl⟩ := List.exists_cons_of_ne_nil h
  rw [slices]

end Encoding

namespace Scheme

-- The bytes of a line are decoded as if they stood alone, and so is the rest.
theorem run_cut (scheme : Scheme) (bytes : List UInt8) :
    ∃ ending, scheme.decoder.run bytes =
        scheme.decoder.run ((known scheme).cut bytes).line ++ ending ++
          scheme.decoder.run ((known scheme).cut bytes).rest ∧
      Ends (some '\n') (some '\r') ending (scheme.decoder.run ((known scheme).cut bytes).rest) ∧
      ∀ piece ∈ scheme.decoder.run ((known scheme).cut bytes).line, IsInline piece := by
  cases scheme with
  | utf8 => exact Utf8.meetsEnds.run_cutBytes bytes
  | utf16 order => exact Utf16.run_cutUnits bytes
  | windows1252 => exact Windows1252.meetsEnds.run_cutBytes bytes

theorem run_nil (scheme : Scheme) : scheme.decoder.run [] = [] := by
  cases scheme <;> rfl

theorem run_ne_nil (scheme : Scheme) {bytes : List UInt8} (h : bytes ≠ []) :
    scheme.decoder.run bytes ≠ [] := by
  cases scheme with
  | utf8 => exact Utf8.meetsEnds.run_ne_nil h
  | utf16 order => exact Utf16.run_ne_nil h
  | windows1252 => exact Windows1252.meetsEnds.run_ne_nil h

-- To cut and decode is to decode and cut.
theorem map_run_slices (scheme : Scheme) (bytes : List UInt8) :
    ((known scheme).slices bytes).map scheme.decoder.run =
      linesAt (some '\n') (some '\r') (scheme.decoder.run bytes) := by
  fun_induction Encoding.slices (known scheme) bytes with
  | case1 =>
    rw [run_nil]
    rfl
  | case2 byte rest ih =>
    obtain ⟨ending, hrun, hends, hinline⟩ := scheme.run_cut (byte :: rest)
    have hsome : scheme.decoder.run ((known scheme).cut (byte :: rest)).line ++ ending ≠ [] := by
      intro hempty
      have hnone : scheme.decoder.run ((known scheme).cut (byte :: rest)).rest = [] := by
        rw [(List.append_eq_nil_iff.mp hempty).2] at hends
        exact hends.eq_nil_of_nil
      rw [hempty, hnone] at hrun
      exact scheme.run_ne_nil (List.cons_ne_nil byte rest) hrun
    rw [List.map_cons, ih, hrun, linesAt_append (by decide) hinline hends hsome]

-- Whether the bytes are those of the text
def Encodes (scheme : Scheme) (text : List Char) (bytes : List UInt8) : Prop :=
  match scheme with
  | utf8 => Utf8.encode text = bytes
  | utf16 order => Utf16.encode order text = bytes
  | windows1252 => bytes.map Windows1252.charOf = text

theorem run_of_encodes {scheme : Scheme} {text : List Char} {bytes : List UInt8}
    (h : scheme.Encodes text bytes) : scheme.decoder.run bytes = text.map some := by
  cases scheme with
  | utf8 =>
    rw [← show Utf8.encode text = bytes from h]
    exact Utf8.run_encode text
  | utf16 order =>
    rw [← show Utf16.encode order text = bytes from h]
    exact Utf16.run_encode text
  | windows1252 =>
    rw [← show bytes.map Windows1252.charOf = text from h]
    exact Windows1252.run_eq_map bytes

-- Bytes that no text encodes are malformed.
theorem isClean_run_iff (scheme : Scheme) (bytes : List UInt8) :
    isClean (scheme.decoder.run bytes) = true ↔ ∃ text, scheme.Encodes text bytes := by
  constructor
  · intro hclean
    cases scheme with
    | utf8 => exact Utf8.isWellFormed_iff.mp hclean
    | utf16 order => exact Utf16.isClean_run_iff.mp hclean
    | windows1252 => exact ⟨_, rfl⟩
  · rintro ⟨text, h⟩
    rw [run_of_encodes h]
    exact isClean_map_some text

end Scheme

namespace Reader

-- All that reading a line does
theorem eq_of_next? {reader after : Reader} {line : List Char}
    (h : reader.next? = some (line, after)) :
    let cut := reader.encoding.cut reader.rest
    let pieces := reader.encoding.decode cut.line
    reader.rest ≠ [] ∧ line = textOf pieces ∧
      after = { reader with
        position := reader.position + cut.line.length + cut.terminator.length
        rest := cut.rest
        lossy := if isClean pieces then reader.lossy else reader.lossy + 1 } := by
  unfold next? at h
  split at h
  · contradiction
  · next hrest =>
    simp only [Option.some.injEq, Prod.mk.injEq] at h
    exact ⟨by simpa using hrest, h.1.symm, h.2.symm⟩

-- How many of the lines that are left to read are malformed
def malformed (reader : Reader) : Nat :=
  (reader.encoding.slices reader.rest).countP
    (fun slice => !isClean (reader.encoding.decode slice))

theorem readAll_eq_slices (reader : Reader) :
    reader.lines = (reader.encoding.slices reader.rest).map
        (fun slice => textOf (reader.encoding.decode slice)) ∧
      reader.readAll.2.lossy = reader.lossy + reader.malformed := by
  cases hnext : reader.next? with
  | none =>
    rw [malformed, lines, readAll_of_none hnext, next?_eq_none.mp hnext, Encoding.slices_nil]
    exact ⟨rfl, rfl⟩
  | some pair =>
    obtain ⟨line, after⟩ := pair
    have hlt := rest_lt_of_next? hnext
    obtain ⟨hlines, hcount⟩ := readAll_eq_slices after
    obtain ⟨hsome, rfl, rfl⟩ := eq_of_next? hnext
    rw [malformed] at hcount ⊢
    rw [lines] at hlines ⊢
    rw [readAll_of_some hnext, Encoding.slices_of_ne_nil _ hsome, List.map_cons, List.countP_cons,
      hlines, hcount]
    refine ⟨rfl, ?_⟩
    cases isClean (reader.encoding.decode (reader.encoding.cut reader.rest).line) with
    | true => rfl
    | false => exact Nat.add_right_comm ..
termination_by reader.rest.length

-- What follows a byte order mark
def body : List UInt8 → List UInt8
  | 0xEF :: 0xBB :: 0xBF :: rest => rest
  | 0xFF :: 0xFE :: rest => rest
  | 0xFE :: 0xFF :: rest => rest
  | content => content

theorem rest_withEncoding (encoding : Encoding) (content : List UInt8) :
    (withEncoding encoding content).rest = body content := by
  fun_cases body content with
  | case1 rest => rfl
  | case2 rest => rfl
  | case3 rest => rfl
  | case4 hutf8 hlittle hbig =>
    have hnone : Encoding.ofMark? content = none := by
      unfold Encoding.ofMark?
      split <;> simp_all
    simp [withEncoding, hnone]

theorem lines_withEncoding (scheme : Scheme) (content : List UInt8) :
    (withEncoding (.known scheme) content).lines =
      linesAt '\n' '\r' (textOf (scheme.decoder.run (body content))) := by
  have hlines := (readAll_eq_slices (withEncoding (.known scheme) content)).1
  rw [rest_withEncoding] at hlines
  rw [hlines, linesAt_textOf, ← scheme.map_run_slices, List.map_map]
  rfl

theorem lossy_withEncoding (scheme : Scheme) (content : List UInt8) :
    (withEncoding (.known scheme) content).readAll.2.lossy =
      (linesAt (some '\n') (some '\r') (scheme.decoder.run (body content))).countP
        (!isClean ·) := by
  have hlossy := (readAll_eq_slices (withEncoding (.known scheme) content)).2
  rw [malformed, rest_withEncoding] at hlossy
  rw [hlossy, ← scheme.map_run_slices, List.countP_map]
  exact Nat.zero_add _

-- The lines read are those of the content decoded in one piece, and the malformed ones those in
-- which that decoding finds bytes that encode no character. Each is decoded from bytes of its own,
-- so that its neighbours decide nothing.
theorem readAll_withEncoding (scheme : Scheme) (content : List UInt8) :
    (withEncoding (.known scheme) content).lines =
        linesAt '\n' '\r' (textOf (scheme.decoder.run (body content))) ∧
      (withEncoding (.known scheme) content).readAll.2.next? = none ∧
      (withEncoding (.known scheme) content).readAll.2.lossy =
        (linesAt (some '\n') (some '\r') (scheme.decoder.run (body content))).countP
          (!isClean ·) ∧
      linesAt (some '\n') (some '\r') (scheme.decoder.run (body content)) =
        ((known scheme).slices (body content)).map scheme.decoder.run ∧
      ∀ slice, isClean (scheme.decoder.run slice) = true ↔
        ∃ text, scheme.Encodes text slice :=
  ⟨lines_withEncoding scheme content, next?_eq_none.mpr (rest_readAll _),
    lossy_withEncoding scheme content, (scheme.map_run_slices _).symm, scheme.isClean_run_iff⟩

end Reader

end Acrostic.Corpus
