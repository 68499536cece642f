import Acrostic.Proofs.Text.Words

namespace Acrostic.Text

section Lines

variable {line : List Char}

-- The last line may go without a line feed.
theorem lines_of_notMem (hsome : line ≠ []) (hfeed : '\n' ∉ line) : lines line = [line] := by
  obtain ⟨c, rest, rfl⟩ := List.exists_cons_of_ne_nil hsome
  rw [lines, List.splitOn_eq_singleton hfeed]
  rfl

theorem lines_append (hfeed : '\n' ∉ line) (rest : List Char) :
    lines (line ++ '\n' :: rest) = dropReturn line :: lines rest := by
  obtain ⟨first, others, hpieces⟩ :=
    List.exists_cons_of_ne_nil (List.splitOn_ne_nil '\n' rest)
  rw [lines, lines, List.splitOn_append_cons_self_of_not_mem hfeed, hpieces,
    List.dropLast_cons_of_ne_nil (by simp), List.map_cons, List.getLast?_cons_cons]
  rfl

-- A text has no line feed, or goes on behind the first of it.
theorem lines_induction {P : List Char → Prop} (last : ∀ line, '\n' ∉ line → P line)
    (feed : ∀ line rest, '\n' ∉ line → P rest → P (line ++ '\n' :: rest)) (text : List Char) :
    P text := by
  have hfree {text : List Char} (h : ∀ c ∈ text, (c == '\n') = false) : '\n' ∉ text :=
    fun hmem => by simpa using h '\n' hmem
  induction text using separator_induction (· == '\n') with
  | unbroken line hline => exact last line (hfree hline)
  | broken line c rest hline hc ih =>
    rw [beq_iff_eq.mp hc]
    exact feed line rest (hfree hline) ih

end Lines

section Return

theorem dropReturn_concat (line : List Char) : dropReturn (line ++ ['\r']) = line := by
  simp [dropReturn]

-- A carriage return is white space, so that no word goes with it.
theorem words_concat_return (line : List Char) : words (line ++ ['\r']) = words line := by
  rw [words_append (by decide)]
  exact List.append_nil _

theorem words_dropReturn (line : List Char) : words (dropReturn line) = words line := by
  unfold dropReturn
  split_ifs with hreturn
  · obtain ⟨before, rfl⟩ := List.getLast?_eq_some_iff.mp hreturn
    rw [List.dropLast_concat, words_concat_return]
  · rfl

end Return

end Acrostic.Text
