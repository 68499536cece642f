import Acrostic.Proofs.Corpus.Detection
import Acrostic.Proofs.Output.Writer

namespace Acrostic.Output

open Corpus (Encoding Form Reader byteOrderMark linesAt)
open Corpus.Utf8 (isCutOff)

-- The line has no end within itself.
def IsUnbroken (line : List Char) : Prop :=
  '\n' ∉ line ∧ '\r' ∉ line

section Written

variable {lines : List (List Char)}

-- Such lines come apart again where they were put together.
theorem linesAt_written (h : ∀ line ∈ lines, IsUnbroken line) :
    linesAt '\n' '\r' (lines.flatMap (· ++ ['\n'])) = lines := by
  induction lines with
  | nil => rfl
  | cons line lines ih =>
    obtain ⟨⟨hfeed, hret⟩, hlines⟩ := List.forall_mem_cons.mp h
    have hline : ∀ c ∈ line, c ≠ '\n' ∧ c ≠ '\r' := fun c hc =>
      ⟨fun heq => hfeed (heq ▸ hc), fun heq => hret (heq ▸ hc)⟩
    rw [List.flatMap_cons, Corpus.linesAt_append (by decide) hline (.feed _) (by simp), ih hlines]

-- The lines without the mark that is taken for that of the file
def unmarked : List (List Char) → List (List Char)
  | [] => []
  | first :: lines =>
    (if first.head? = some byteOrderMark then first.tail else first) :: lines

theorem length_unmarked (lines : List (List Char)) :
    (unmarked lines).length = lines.length := by
  cases lines <;> rfl

theorem unmarked_eq_self (h : ∀ line ∈ lines, byteOrderMark ∉ line) : unmarked lines = lines := by
  cases lines with
  | nil => rfl
  | cons first lines =>
    rw [unmarked, if_neg]
    exact fun hhead => h first (by simp) (List.mem_of_mem_head? hhead)

-- What has been written line by line is read back line by line.
theorem ofBytes_written {guess : List UInt8 → Encoding}
    (hguess : ∀ sample, Encoding.sampleSize ≤ sample.length → isCutOff sample = true →
      guess sample = .utf8)
    (h : ∀ line ∈ lines, IsUnbroken line) :
    (Reader.ofBytes guess (written lines)).lines = unmarked lines ∧
      (Reader.ofBytes guess (written lines)).readAll.2.lossy = 0 := by
  rw [Reader.ofBytes, written, Text.toList_encode]
  cases lines with
  | nil =>
    have hapart : Form.plain.IsApart [] := by simp [Form.IsApart]
    exact (Form.ofContent_content hguess hapart).2
  | cons first lines =>
    by_cases hmark : first.head? = some byteOrderMark
    · obtain ⟨rest, rfl⟩ := List.head?_eq_some_iff.mp hmark
      obtain ⟨⟨hfeed, hret⟩, hlines⟩ := List.forall_mem_cons.mp h
      have hrest : IsUnbroken rest :=
        ⟨List.not_mem_of_not_mem_cons hfeed, List.not_mem_of_not_mem_cons hret⟩
      have hapart : Form.marked.IsApart ((rest :: lines).flatMap (· ++ ['\n'])) := by
        simp [Form.IsApart]
      have hread := (Form.ofContent_content hguess hapart).2
      rw [linesAt_written (List.forall_mem_cons.mpr ⟨hrest, hlines⟩)] at hread
      exact hread
    · have hapart : Form.plain.IsApart ((first :: lines).flatMap (· ++ ['\n'])) := by
        intro _
        cases first with
        | nil => exact fun hfeed => absurd (Option.some.inj hfeed) (by decide)
        | cons c first => exact hmark
      have hread := (Form.ofContent_content hguess hapart).2
      rw [linesAt_written h] at hread
      rw [unmarked, if_neg hmark]
      exact hread

end Written

end Acrostic.Output
