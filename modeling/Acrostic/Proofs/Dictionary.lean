import Acrostic.Proofs.Attempt
import Acrostic.Proofs.Dictionary.Match
import Acrostic.Proofs.Text.Words

namespace Acrostic.Dictionary

open Text (IsSolid)

-- The dictionary has been read from a text.
def IsParsed (dictionary : Dictionary) : Prop :=
  ∃ source content, parse source content = .ok dictionary

section Parse

variable {source : List Char} {number : Nat} {lines : List (List Char)} {entries : List Entry}

theorem entryOfFields?_eq_some {fields : List (List Char)} {entry : Entry}
    (h : entryOfFields? fields = some entry) :
    ∃ symbol stem stems, fields = symbol :: arrow :: stem :: stems ∧
      entry = Entry.ofStems symbol (stem :: stems) := by
  unfold entryOfFields? at h
  split at h
  · split_ifs at h with hmark
    subst hmark
    exact ⟨_, _, _, rfl, (Option.some.inj h).symm⟩
  · contradiction

-- Every entry comes from a line, of whose words it is made.
theorem exists_line_of_mem (h : parseLines source number lines = .ok entries) {entry : Entry}
    (hentry : entry ∈ entries) :
    ∃ line ∈ lines, entryOfFields? (Text.words line) = some entry := by
  fun_induction parseLines source number lines generalizing entries with
  | case1 =>
    obtain rfl := Except.ok.inj h
    simp at hentry
  | case2 number line rest _ ih =>
    obtain ⟨found, hfound, hfields⟩ := ih h hentry
    exact ⟨found, List.mem_cons_of_mem _ hfound, hfields⟩
  | case3 => contradiction
  | case4 number line rest first _ hfirst ih =>
    obtain ⟨others, hrest, rfl⟩ := Attempt.map_eq_ok_iff.mp h
    cases List.mem_cons.mp hentry with
    | inl heq => exact ⟨line, by simp, heq ▸ hfirst⟩
    | inr hmem =>
      obtain ⟨found, hfound, hfields⟩ := ih hrest hmem
      exact ⟨found, List.mem_cons_of_mem _ hfound, hfields⟩

-- The fields of a line are words, so that no symbol brings white space into a password.
theorem IsParsed.isSolid_symbol {dictionary : Dictionary} (h : dictionary.IsParsed)
    {entry : Entry} (hentry : entry ∈ dictionary.entries) : IsSolid entry.symbol := by
  obtain ⟨source, content, hparse⟩ := h
  obtain ⟨entries, hlines, rfl⟩ := Attempt.map_eq_ok_iff.mp hparse
  obtain ⟨line, -, hfields⟩ := exists_line_of_mem hlines hentry
  obtain ⟨symbol, stem, stems, hwords, rfl⟩ := entryOfFields?_eq_some hfields
  have hmem : symbol ∈ Text.words line := by simp [hwords]
  exact (Text.mem_words hmem).2

end Parse

section Substitute

-- What stands in a token afterwards comes from the token or from a symbol.
theorem mem_substitute {dictionary : Dictionary} {token : Token} {c : Char}
    (h : c ∈ dictionary.substitute token) :
    c ∈ token ∨ ∃ entry ∈ dictionary.entries, c ∈ entry.symbol := by
  obtain ⟨-, hsame⟩ | ⟨entry, stem, hfirst, hresult⟩ := dictionary.substitute_cases token
  · exact .inl (hsame ▸ h)
  · rw [hresult] at h
    cases List.mem_append.mp h with
    | inl hsymbol => exact .inr ⟨entry, hfirst.entry_mem, hsymbol⟩
    | inr hrest => exact .inl (List.mem_of_mem_drop hrest)

end Substitute

-- The built-in dictionary as a text
def builtinText : List Char :=
  builtin.entries.flatMap fun entry =>
    [' '].intercalate (entry.symbol :: arrow :: entry.stems) ++ ['\n']

theorem isParsed_builtin : builtin.IsParsed :=
  ⟨[], builtinText, by decide +kernel⟩

end Acrostic.Dictionary
