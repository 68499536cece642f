import Acrostic.Proofs.Dictionary
import Acrostic.Proofs.Rule
import Acrostic.Proofs.Token.Words

namespace Acrostic

open Text (IsSolid)
open Unicode (isWhiteSpace)

namespace Charset

-- The characters of an alphabet that are not blank
def isVisible : Charset → Char → Bool
  | ascii, c => 0x21 ≤ c.toNat && c.toNat ≤ 0x7E
  | lowercaseLetters, c => c.isLower

theorem isVisible_iff {charset : Charset} {c : Char} :
    charset.isVisible c = true ↔ charset.holds c = true ∧ isWhiteSpace c = false := by
  by_cases hascii : c.toNat < 0x80
  · refine Unicode.forall_ascii (P := fun c => charset.isVisible c = true ↔
      charset.holds c = true ∧ isWhiteSpace c = false) ?_ hascii
    cases charset <;> decide
  · constructor
    · intro hvisible
      refine absurd ?_ hascii
      cases charset with
      | ascii =>
        simp only [isVisible, Bool.and_eq_true, decide_eq_true_eq] at hvisible
        omega
      | lowercaseLetters => exact Unicode.toNat_lt_of_isLower hvisible
    · intro hholds
      exact absurd (toNat_lt_of_holds hholds.1) hascii

end Charset

theorem Stride.keepFrom_sublist {α : Type} (step skip : Nat) (list : List α) :
    (keepFrom step skip list).Sublist list := by
  fun_induction keepFrom step skip list with
  | case1 => exact List.Sublist.refl []
  | case2 x rest ih => exact ih.cons_cons x
  | case3 skip x rest ih => exact ih.cons x

theorem Stride.select_sublist {α : Type} (stride : Stride) (list : List α) :
    (stride.select list).Sublist list := by
  unfold select
  split
  · exact List.Sublist.refl list
  · exact keepFrom_sublist _ _ list

theorem Picker.mem_of_mem_pickFrom {picker : Picker} {token : Token} {seen : List Nat}
    {positions : List Int} {c : Char} (h : c ∈ picker.pickFrom token seen positions) :
    c ∈ token := by
  fun_induction picker.pickFrom token seen positions with
  | case1 => simp at h
  | case2 seen position rest index _ ih => exact ih h
  | case3 seen position rest index _ _ ih => exact ih h
  | case4 seen position rest index _ d hd ih =>
    cases List.mem_cons.mp h with
    | inl heq => exact heq ▸ List.mem_of_getElem? hd
    | inr hmem => exact ih hmem

theorem Picker.mem_of_mem_select {picker : Picker} {token : Token} {c : Char}
    (h : c ∈ picker.select token) : c ∈ token := by
  unfold select at h
  split at h
  · simp at h
  · exact mem_of_mem_pickFrom h

namespace Rule

section Stages

-- Whether the stage has a symbol with the character
def Stage.Brings (c : Char) : Stage → Prop
  | replace (some stems) => ∃ entry ∈ stems.entries, c ∈ entry.symbol
  | _ => False

-- A stage makes no characters of its own.
theorem Stage.mem_apply {stage : Stage} {tokens : List Token} {c : Char}
    (h : c ∈ (stage.apply tokens).flatten) : c ∈ tokens.flatten ∨ stage.Brings c := by
  obtain ⟨changed, hchanged, hc⟩ := List.mem_flatten.mp h
  cases stage with
  | replace stems =>
    cases stems with
    | none => exact .inl h
    | some stems =>
      obtain ⟨token, htoken, rfl⟩ := List.mem_map.mp hchanged
      cases Dictionary.mem_substitute hc with
      | inl hmem => exact .inl (List.mem_flatten.mpr ⟨token, htoken, hmem⟩)
      | inr hsymbol => exact .inr hsymbol
  | selectTokens stride =>
    have htoken : changed ∈ tokens := (stride.select_sublist tokens).subset hchanged
    exact .inl (List.mem_flatten.mpr ⟨changed, htoken, hc⟩)
  | selectCharacters picker =>
    obtain ⟨token, htoken, rfl⟩ := List.mem_map.mp hchanged
    exact .inl (List.mem_flatten.mpr ⟨token, htoken, Picker.mem_of_mem_select hc⟩)

theorem mem_foldl_apply {stages : List Stage} {tokens : List Token} {c : Char}
    (h : c ∈ (stages.foldl (fun tokens stage => stage.apply tokens) tokens).flatten) :
    c ∈ tokens.flatten ∨ ∃ stage ∈ stages, stage.Brings c := by
  induction stages generalizing tokens with
  | nil => exact .inl h
  | cons stage stages ih =>
    cases ih h with
    | inl hbefore =>
      cases Stage.mem_apply hbefore with
      | inl hmem => exact .inl hmem
      | inr hbrings => exact .inr ⟨stage, by simp, hbrings⟩
    | inr hlater =>
      obtain ⟨other, hother, hbrings⟩ := hlater
      exact .inr ⟨other, List.mem_cons_of_mem _ hother, hbrings⟩

end Stages

-- The characters of a password, not yet set apart
def letters (rule : Rule) (phrase : List Char) : List Char :=
  (rule.stages.foldl (fun tokens stage => stage.apply tokens) (rule.tokens phrase)).flatten

theorem apply_eq (rule : Rule) (phrase : List Char) :
    rule.apply phrase =
      if rule.config.spaced then spread (rule.letters phrase) else rule.letters phrase :=
  rfl

section Letters

variable {config : Config} {dictionary : Option Dictionary} {rule : Rule} {phrase : List Char}
  {c : Char}

theorem isVisible_of_mem_tokens (h : c ∈ (rule.tokens phrase).flatten) :
    rule.config.charset.isVisible c = true := by
  have hspaced := isSpaced_normalize rule.config.charset phrase
  obtain ⟨token, htoken, hc⟩ := List.mem_flatten.mp h
  have hsolid := (isSolid_of_mem_tokenize hspaced htoken).2
  rw [tokens, flatten_tokenize hspaced] at h
  exact Charset.isVisible_iff.mpr
    ⟨Charset.holds_of_mem_normalize (List.mem_of_mem_filter h), hsolid c hc⟩

theorem mem_letters (hrule : ofConfig config dictionary = .ok rule)
    (h : c ∈ rule.letters phrase) :
    config.charset.isVisible c = true ∨
      ∃ stems ∈ dictionary, ∃ entry ∈ stems.entries, c ∈ entry.symbol := by
  obtain ⟨-, hstep, rfl⟩ := ofConfig_eq_ok_iff.mp hrule
  cases mem_foldl_apply h with
  | inl htokens => exact .inl (isVisible_of_mem_tokens htokens)
  | inr hstages =>
    obtain ⟨stage, hstage, hbrings⟩ := hstages
    simp only [Config.stages, List.mem_cons, List.not_mem_nil, or_false] at hstage
    obtain rfl | rfl | rfl := hstage
    · unfold Config.stems at hbrings
      split_ifs at hbrings
      · cases dictionary with
        | none => exact absurd hbrings not_false
        | some stems => exact .inr ⟨stems, rfl, hbrings⟩
      · exact absurd hbrings not_false
    · exact absurd hbrings not_false
    · exact absurd hbrings not_false

-- Neither tokens nor symbols bring white space into a password.
theorem isSolid_letters (hparsed : ∀ stems ∈ dictionary, stems.IsParsed)
    (hrule : ofConfig config dictionary = .ok rule) (phrase : List Char) :
    IsSolid (rule.letters phrase) := by
  intro c hc
  cases mem_letters hrule hc with
  | inl hvisible => exact (Charset.isVisible_iff.mp hvisible).2
  | inr hsymbol =>
    obtain ⟨stems, hstems, entry, hentry, hmem⟩ := hsymbol
    exact (hparsed stems hstems).isSolid_symbol hentry c hmem

end Letters

end Rule

end Acrostic
