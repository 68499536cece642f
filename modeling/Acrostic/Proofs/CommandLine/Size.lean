import Acrostic.CommandLine.Size
import Acrostic.Proofs.Text.Decimal
import Acrostic.Proofs.Text.Words
import Acrostic.Proofs.Unicode.Uppercase

namespace Acrostic.CommandLine

open Text (IsNumeral IsSolid IsWhite plusSign wordLimit)
open Unicode (IsCaseless isDistinct uppercase)

-- What may stand behind the number of a size
inductive Scale where
  | bare
  | bytes
  | kilobytes
  | megabytes
  | gigabytes

namespace Scale

def symbol : Scale → List Char
  | bare => []
  | bytes => ['B']
  | kilobytes => ['K', 'B']
  | megabytes => ['M', 'B']
  | gigabytes => ['G', 'B']

def factor : Scale → Nat
  | bare | bytes => 1
  | kilobytes => 1024
  | megabytes => 1024 * 1024
  | gigabytes => 1024 * 1024 * 1024

end Scale

-- The ways to write a size: a number that fits 64 bits, and a unit in any case or none. White space
-- may stand between the two.
inductive WritesSize : Nat → List Char → Prop
  | scaled {count : Nat} {digits gap unit : List Char} (scale : Scale) (signed : Bool)
      (hnumeral : IsNumeral count digits) (hlimit : count < wordLimit) (hgap : IsWhite gap)
      (hunit : unit.map Char.toUpper = scale.symbol) :
      WritesSize (count * scale.factor) (plusSign signed ++ digits ++ gap ++ unit)

section Unit

theorem exists_scale_of_mem {symbol : List Char} {bytes : Nat} (h : (symbol, bytes) ∈ units) :
    ∃ scale : Scale, scale.symbol = symbol ∧ scale.factor = bytes := by
  simp only [units, List.mem_cons, Prod.mk.injEq, List.not_mem_nil, or_false] at h
  obtain ⟨rfl, rfl⟩ | ⟨rfl, rfl⟩ | ⟨rfl, rfl⟩ | ⟨rfl, rfl⟩ := h
  · exact ⟨.gigabytes, rfl, rfl⟩
  · exact ⟨.megabytes, rfl, rfl⟩
  · exact ⟨.kilobytes, rfl, rfl⟩
  · exact ⟨.bytes, rfl, rfl⟩

theorem exists_scale_of_splitUnit (text : List Char) :
    ∃ scale : Scale, text = (splitUnit text).1 ++ scale.symbol ∧
      (splitUnit text).2 = scale.factor := by
  unfold splitUnit
  cases hfind : units.find? (·.1.isSuffixOf text) with
  | none => exact ⟨.bare, (List.append_nil text).symm, rfl⟩
  | some found =>
    obtain ⟨scale, hsymbol, hbytes⟩ := exists_scale_of_mem (List.mem_of_find?_eq_some hfind)
    have hsuffix : found.1.isSuffixOf text = true :=
      List.find?_some (p := fun unit : List Char × Nat => unit.1.isSuffixOf text) hfind
    obtain ⟨front, rfl⟩ := List.isSuffixOf_iff_suffix.mp hsuffix
    refine ⟨scale, ?_, hbytes.symm⟩
    simp only [hsymbol, List.length_append, Nat.add_sub_cancel, List.take_left]

-- A letter of a longer unit cannot stand in front of a shorter one.
theorem find?_units_append {front : List Char} (hsome : front ≠ [])
    (hfront : ∀ c ∈ front, c.isUpper = false) (scale : Scale) :
    units.find? (·.1.isSuffixOf (front ++ scale.symbol)) =
      if scale.symbol = [] then none else some (scale.symbol, scale.factor) := by
  obtain ⟨first, last, rfl⟩ := (List.eq_nil_or_concat' front).resolve_left hsome
  have hne {c : Char} (hc : c.isUpper = true) : c ≠ last := by
    rintro rfl
    rw [hfront c (by simp)] at hc
    contradiction
  cases scale <;>
    simp [units, Scale.symbol, Scale.factor, List.isSuffixOf, List.isPrefixOf,
      hne (c := 'B') rfl, hne (c := 'G') rfl, hne (c := 'K') rfl, hne (c := 'M') rfl]

theorem splitUnit_append {front : List Char} (hsome : front ≠ [])
    (hfront : ∀ c ∈ front, c.isUpper = false) (scale : Scale) :
    splitUnit (front ++ scale.symbol) = (front, scale.factor) := by
  rw [splitUnit, find?_units_append hsome hfront]
  by_cases hbare : scale.symbol = []
  · have hfactor : scale.factor = 1 := by cases scale <;> simp_all [Scale.symbol, Scale.factor]
    rw [if_pos hbare, hbare, List.append_nil, hfactor]
  · rw [if_neg hbare]
    simp only [List.length_append, Nat.add_sub_cancel, List.take_left]

end Unit

section Reading

variable {value count : Nat} {signed : Bool} {text digits : List Char}

theorem eq_plus_or_isDigit (hnumeral : IsNumeral count digits) {c : Char}
    (h : c ∈ plusSign signed ++ digits) : c = '+' ∨ c.isDigit = true := by
  cases List.mem_append.mp h with
  | inl hsign => cases signed <;> simp_all [plusSign]
  | inr hdigit => exact .inr (hnumeral.isDigit c hdigit)

theorem isSolid_number (hnumeral : IsNumeral count digits) :
    IsSolid (plusSign signed ++ digits) := by
  intro c hc
  obtain rfl | hdigit := eq_plus_or_isDigit hnumeral hc
  · rfl
  · exact Unicode.isWhiteSpace_of_isDigit hdigit

-- In front of the unit there is nothing that has a case.
theorem isCaseless_of_mem_number (hnumeral : IsNumeral count digits) {before after : List Char}
    (hbefore : IsWhite before) (hafter : IsWhite after) :
    ∀ c ∈ before ++ (plusSign signed ++ digits) ++ after, IsCaseless c := by
  intro c hc
  rw [List.mem_append, List.mem_append] at hc
  obtain (hwhite | hnumber) | hwhite := hc
  · exact Unicode.isCaseless_of_isWhiteSpace (hbefore c hwhite)
  · obtain rfl | hdigit := eq_plus_or_isDigit hnumeral hnumber
    · exact ⟨rfl, rfl, rfl⟩
    · exact Unicode.isCaseless_of_isDigit hdigit
  · exact Unicode.isCaseless_of_isWhiteSpace (hafter c hwhite)

theorem Scale.isDistinct_of_mem_symbol (scale : Scale) : ∀ c ∈ scale.symbol,
    isDistinct c = true ∧ c.toNat < 0x80 := by
  cases scale <;> simp only [symbol, List.forall_mem_cons, List.not_mem_nil, false_imp_iff,
    implies_true] <;> decide

-- What has a case in a size is its unit.
theorem uppercase_eq_append_symbol_iff {front : List Char} (hfront : ∀ c ∈ front, IsCaseless c)
    (scale : Scale) :
    uppercase text = front ++ scale.symbol ↔
      ∃ unit, text = front ++ unit ∧ unit.map Char.toUpper = scale.symbol := by
  constructor
  · intro h
    have hdistinct : ∀ c ∈ uppercase text, isDistinct c = true := by
      rw [h]
      intro c hc
      cases List.mem_append.mp hc with
      | inl hmem => exact (hfront c hmem).isDistinct_eq_true
      | inr hmem => exact (scale.isDistinct_of_mem_symbol c hmem).1
    rw [Unicode.uppercase_of_isDistinct hdistinct] at h
    obtain ⟨first, unit, rfl, hfirst, hunit⟩ := List.map_eq_append_iff.mp h
    have hsame := Unicode.eq_of_map_toUpper_eq (fun c hc => (hfront c hc).isUpper_eq_false) hfirst
    exact ⟨unit, by rw [hsame], hunit⟩
  · rintro ⟨unit, rfl, hunit⟩
    have hascii : ∀ c ∈ unit, c.toUpper.toNat < 0x80 := fun c hc =>
      (scale.isDistinct_of_mem_symbol _ (hunit ▸ List.mem_map_of_mem hc)).2
    rw [Unicode.uppercase_append, Unicode.uppercase_of_isCaseless hfront,
      Unicode.uppercase_of_ascii hascii, hunit]

theorem WritesSize.readSize_eq (h : WritesSize value (Text.trim text)) :
    readSize text = .ok value := by
  generalize htrim : Text.trim text = trimmed at h
  cases h with
  | @scaled count digits gap unit scale signed hnumeral hlimit hgap hunit =>
    let number := plusSign signed ++ digits
    have hsome : number ≠ [] := by simp [number, hnumeral.ne_nil]
    have hcaseless : ∀ c ∈ number ++ gap, IsCaseless c :=
      isCaseless_of_mem_number hnumeral Text.isWhite_nil hgap
    have hupper : uppercase (Text.trim text) = number ++ gap ++ scale.symbol :=
      (uppercase_eq_append_symbol_iff hcaseless scale).mpr ⟨unit, htrim, hunit⟩
    have hsplit := splitUnit_append (by simp [hsome])
      (fun c hc => (hcaseless c hc).isUpper_eq_false) scale
    have hnumber : Text.trim (number ++ gap) = number :=
      Text.trim_padded Text.isWhite_nil hsome (isSolid_number hnumeral) hgap
    have hread : Text.readWord? number = some count :=
      Text.readNatural?_eq_some_iff.mpr ⟨hlimit, signed, digits, rfl, hnumeral⟩
    simp only [readSize, hupper, hsplit, hnumber, hread]

theorem writesSize_of_readSize (h : readSize text = .ok value) :
    WritesSize value (Text.trim text) := by
  obtain ⟨scale, hsplit, hfactor⟩ := exists_scale_of_splitUnit (uppercase (Text.trim text))
  simp only [readSize] at h
  generalize splitUnit (uppercase (Text.trim text)) = parts at h hsplit hfactor
  obtain ⟨front, bytes⟩ := parts
  obtain rfl : bytes = scale.factor := hfactor
  cases hread : Text.readWord? (Text.trim front) with
  | none => simp [hread] at h
  | some count =>
    obtain rfl : count * scale.factor = value := by simpa [hread] using h
    obtain ⟨hlimit, signed, digits, hnumber, hnumeral⟩ := Text.readNatural?_eq_some_iff.mp hread
    obtain ⟨before, after, hbefore, hafter, hfront⟩ := Text.exists_trim_append front
    rw [hnumber] at hfront
    have hcaseless : ∀ c ∈ front, IsCaseless c :=
      hfront ▸ isCaseless_of_mem_number hnumeral hbefore hafter
    obtain ⟨unit, htrim, hunit⟩ := (uppercase_eq_append_symbol_iff hcaseless scale).mp hsplit
    rw [hfront] at htrim
    cases before with
    | nil =>
      rw [htrim]
      exact .scaled scale signed hnumeral hlimit hafter hunit
    | cons c before =>
      have hsolid := Text.isWhiteSpace_of_trim_eq_cons htrim
      rw [hbefore c (by simp)] at hsolid
      contradiction

-- A text is read as a size exactly if what is left of it without the white space around it writes
-- one. The complaint on any other text quotes it as it has been looked at.
theorem readSize_eq_ok_iff_writesSize (text : List Char) :
    (∀ value, readSize text = .ok value ↔ WritesSize value (Text.trim text)) ∧
      ((∀ value, ¬ WritesSize value (Text.trim text)) →
        readSize text = .error (.badSize (uppercase (Text.trim text)))) := by
  refine ⟨fun value => ⟨writesSize_of_readSize, WritesSize.readSize_eq⟩, fun hother => ?_⟩
  cases hread : readSize text with
  | ok value => exact absurd (writesSize_of_readSize hread) (hother value)
  | error failure =>
    simp only [readSize] at hread
    split at hread
    · contradiction
    · exact hread.symm

-- Plus sign, zeros in front, white space inside and around, and a unit in mixed case
example : readSize " +08 mB ".toList = .ok (8 * 1024 * 1024) := by
  decide +kernel

end Reading

end Acrostic.CommandLine
