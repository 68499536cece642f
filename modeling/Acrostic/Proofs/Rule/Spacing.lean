import Acrostic.Proofs.Length
import Acrostic.Proofs.Rule.Letters

namespace Acrostic.Rule

open Text (IsSolid)
open Unicode (isWhiteSpace)

section Spread

variable {text : List Char}

-- Each character but the last one has its space behind it.
theorem intersperse_concat (space last : Char) (before : List Char) :
    (before ++ [last]).intersperse space = before.flatMap (fun c => [c, space]) ++ [last] := by
  induction before with
  | nil => rfl
  | cons first before ih =>
    obtain ⟨next, rest, hnext⟩ := List.exists_cons_of_ne_nil (List.concat_ne_nil last before)
    rw [List.cons_append, hnext, List.intersperse_cons_cons, ← hnext, ih]
    rfl

theorem spread_eq_intersperse (h : IsSolid text) : spread text = text.intersperse ' ' := by
  cases List.eq_nil_or_concat' text with
  | inl hnil =>
    subst hnil
    rfl
  | inr hconcat =>
    obtain ⟨before, last, rfl⟩ := hconcat
    have hlast : isWhiteSpace last = false := h last (by simp)
    have hstart : Text.trimStart ((before ++ [last]).flatMap fun c => [c, ' ']) =
        (before ++ [last]).flatMap fun c => [c, ' '] := by
      cases before with
      | nil => exact Text.trimStart_cons hlast [' ']
      | cons first before => exact Text.trimStart_cons (h first (by simp)) _
    have hspace : (before ++ [last]).flatMap (fun c => [c, ' ']) =
        before.flatMap (fun c => [c, ' ']) ++ [last] ++ [' '] := by
      simp
    rw [spread, Text.trim, hstart, hspace, Text.trimEnd_white (by decide),
      Text.trimEnd_concat hlast, intersperse_concat]

theorem ne_space_of_isSolid (h : IsSolid text) {c : Char} (hc : c ∈ text) : c ≠ ' ' := by
  rintro rfl
  exact absurd (h _ hc) (by decide)

theorem filter_eq_self_of_isSolid (h : IsSolid text) : text.filter (· ≠ ' ') = text := by
  rw [List.filter_eq_self]
  intro c hc
  simpa using ne_space_of_isSolid h hc

theorem mem_intersperse {space c : Char} (h : c ∈ text.intersperse space) :
    c ∈ text ∨ c = space := by
  cases List.eq_nil_or_concat' text with
  | inl hnil =>
    subst hnil
    exact .inl h
  | inr hconcat =>
    obtain ⟨before, last, rfl⟩ := hconcat
    rw [intersperse_concat, List.mem_append, List.mem_flatMap] at h
    obtain ⟨d, hd, hc⟩ | hc := h
    · simp only [List.mem_cons, List.not_mem_nil, or_false] at hc
      cases hc with
      | inl heq => exact .inl (List.mem_append_left _ (heq ▸ hd))
      | inr hspace => exact .inr hspace
    · exact .inl (List.mem_append_right _ hc)

theorem filter_flatMap_space (text : List Char) :
    (text.flatMap fun c => [c, ' ']).filter (· ≠ ' ') = text.filter (· ≠ ' ') := by
  induction text with
  | nil => rfl
  | cons c text ih =>
    have hpair : [c, ' '].filter (· ≠ ' ') = [c].filter (· ≠ ' ') := by simp [List.filter_cons]
    rw [List.flatMap_cons, List.filter_append, hpair, ih, ← List.filter_append]
    rfl

-- The spaces can be taken out again.
theorem filter_intersperse (h : IsSolid text) :
    (text.intersperse ' ').filter (· ≠ ' ') = text := by
  cases List.eq_nil_or_concat' text with
  | inl hnil =>
    subst hnil
    rfl
  | inr hconcat =>
    obtain ⟨before, last, rfl⟩ := hconcat
    rw [intersperse_concat, List.filter_append, filter_flatMap_space, ← List.filter_append]
    exact filter_eq_self_of_isSolid h

end Spread

section Spaced

variable {config : Config} {dictionary : Option Dictionary} {rule : Rule}

-- A password is made of visible characters and of symbols, and maybe of spaces between them.
theorem apply_eq_letters (hparsed : ∀ stems ∈ dictionary, stems.IsParsed)
    (hrule : ofConfig config dictionary = .ok rule) (phrase : List Char) :
    rule.apply phrase =
      if config.spaced then (rule.letters phrase).intersperse ' ' else rule.letters phrase := by
  have hconfig : rule.config = config := (ofConfig_eq_ok hrule).1
  rw [apply_eq, hconfig, spread_eq_intersperse (isSolid_letters hparsed hrule phrase)]

theorem mem_apply (hparsed : ∀ stems ∈ dictionary, stems.IsParsed)
    (hrule : ofConfig config dictionary = .ok rule) {phrase : List Char} {c : Char}
    (h : c ∈ rule.apply phrase) : c ∈ rule.letters phrase ∨ c = ' ' := by
  rw [apply_eq_letters hparsed hrule] at h
  split_ifs at h
  · exact mem_intersperse h
  · exact .inl h

-- The characters of a password do not depend on whether they are set apart.
theorem letters_spaced (hrule : ofConfig config dictionary = .ok rule) (spaced : Bool) :
    ∃ other, ofConfig { config with spaced := spaced } dictionary = .ok other ∧
      ∀ phrase, other.letters phrase = rule.letters phrase := by
  obtain ⟨hneeds, hstep, rfl⟩ := ofConfig_eq_ok_iff.mp hrule
  exact ⟨_, ofConfig_eq_ok_iff.mpr ⟨hneeds, hstep, rfl⟩, fun _ => rfl⟩

theorem passwordLength_of_isSolid {password : List Char} (h : IsSolid password) :
    passwordLength password = password.length := by
  rw [passwordLength_eq fun c hc hspace => absurd hspace (by simp [h c hc]),
    filter_eq_self_of_isSolid h]

theorem passwordLength_intersperse {password : List Char} (h : IsSolid password) :
    passwordLength (password.intersperse ' ') = password.length := by
  have hspace : ∀ c ∈ password.intersperse ' ', isWhiteSpace c = true → c = ' ' := by
    intro c hc hwhite
    cases mem_intersperse hc with
    | inl hmem => exact absurd hwhite (by simp [h c hmem])
    | inr heq => exact heq
  rw [passwordLength_eq hspace, filter_intersperse h]

-- Setting the characters of a password apart changes neither the characters nor the length that
-- the password is kept for.
theorem apply_spaced (hparsed : ∀ stems ∈ dictionary, stems.IsParsed)
    (hrule : ofConfig config dictionary = .ok rule) :
    ∃ plain spaced,
      ofConfig { config with spaced := false } dictionary = .ok plain ∧
      ofConfig { config with spaced := true } dictionary = .ok spaced ∧
      ∀ phrase,
        spaced.apply phrase = (plain.apply phrase).intersperse ' ' ∧
        (spaced.apply phrase).filter (· ≠ ' ') = plain.apply phrase ∧
        passwordLength (spaced.apply phrase) = (plain.apply phrase).length ∧
        passwordLength (plain.apply phrase) = (plain.apply phrase).length ∧
        ∀ lengths : LengthRange,
          lengths.route (spaced.apply phrase) = lengths.route (plain.apply phrase) := by
  obtain ⟨plain, hplain, hletters⟩ := letters_spaced hrule false
  obtain ⟨spaced, hspaced, hletters'⟩ := letters_spaced hrule true
  refine ⟨plain, spaced, hplain, hspaced, fun phrase => ?_⟩
  have hsolid : IsSolid (rule.letters phrase) := isSolid_letters hparsed hrule phrase
  have hplainly : plain.apply phrase = rule.letters phrase := by
    rw [apply_eq_letters hparsed hplain, hletters]
    rfl
  have hspaceful : spaced.apply phrase = (rule.letters phrase).intersperse ' ' := by
    rw [apply_eq_letters hparsed hspaced, hletters']
    rfl
  have hlength := passwordLength_of_isSolid hsolid
  have hlength' := passwordLength_intersperse hsolid
  rw [hplainly, hspaceful]
  refine ⟨rfl, filter_intersperse hsolid, hlength', hlength, fun lengths => ?_⟩
  exact lengths.route_congr (hlength'.trans hlength.symm)

theorem apply_spaced_builtin :
    ∃ plain spaced,
      ofConfig ⟨.ascii, .wordPrefixes, 1, [0, -1], false⟩ (some .builtin) = .ok plain ∧
      ofConfig ⟨.ascii, .wordPrefixes, 1, [0, -1], true⟩ (some .builtin) = .ok spaced ∧
      spaced.apply ['t', 'o', ' ', 'b', 'e'] =
        (plain.apply ['t', 'o', ' ', 'b', 'e']).intersperse ' ' := by
  have hparsed : ∀ stems ∈ some Dictionary.builtin, stems.IsParsed := by
    rintro stems ⟨⟩
    exact Dictionary.isParsed_builtin
  have hrule : ofConfig ⟨.ascii, .wordPrefixes, 1, [0, -1], true⟩ (some .builtin) = .ok _ := rfl
  obtain ⟨plain, spaced, hplain, hspaced, hpasswords⟩ := apply_spaced hparsed hrule
  exact ⟨plain, spaced, hplain, hspaced, (hpasswords _).1⟩

end Spaced

end Acrostic.Rule
