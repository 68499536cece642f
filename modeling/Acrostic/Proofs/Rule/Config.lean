import Acrostic.Proofs.Ordinal
import Acrostic.Rule.Config

namespace Acrostic

theorem Charset.parse_name (charset : Charset) : parse charset.name.toList = .ok charset := by
  cases charset <;> decide

theorem Replacement.parse_name (replacement : Replacement) :
    parse replacement.name.toList = .ok replacement := by
  cases replacement <;> decide

theorem Stride.parse_of_writes {count : Nat} {text : List Char}
    (h : Ordinal.WritesSelection count text) (hpos : 0 < count)
    (hlimit : count < Text.integerLimit) : parse text = .ok ⟨count, hpos⟩ := by
  rw [parse, Ordinal.parseSelection_of_writes h hpos hlimit]
  exact dif_pos hpos

namespace Rule.Config

-- A letter in one of its two forms
def IsFormOf (letter written : Char) : Prop :=
  written = letter ∨ written = letter.toUpper

def flagWord : Bool → List Char
  | true => ['t', 'r', 'u', 'e']
  | false => ['f', 'a', 'l', 's', 'e']

-- The ways to write a flag
def WritesFlag (flag : Bool) (text : List Char) : Prop :=
  List.Forall₂ IsFormOf (flagWord flag) text

-- The ways to write settings as the fields of a command. A flag that is down need not be written.
inductive Writes (config : Config) : List (List Char) → Prop where
  | flagged {selection positions flag : List Char}
      (hselection : Ordinal.WritesSelection config.step selection)
      (hpositions : Ordinal.WritesList config.positions positions)
      (hflag : WritesFlag config.spaced flag) :
      Writes config
        [config.charset.name.toList, config.replacement.name.toList, selection, positions, flag]
  | plain {selection positions : List Char}
      (hselection : Ordinal.WritesSelection config.step selection)
      (hpositions : Ordinal.WritesList config.positions positions)
      (hflag : config.spaced = false) :
      Writes config
        [config.charset.name.toList, config.replacement.name.toList, selection, positions]

theorem isFormOf_self (letters : List Char) : List.Forall₂ IsFormOf letters letters :=
  List.forall₂_same.mpr fun _ _ => .inl rfl

-- All settings can be written, although not all are read back.
theorem exists_writes (config : Config) : ∃ fields, config.Writes fields := by
  obtain ⟨selection, hselection⟩ := Ordinal.exists_writesSelection config.step
  obtain ⟨positions, hpositions⟩ := Ordinal.exists_writesList config.positions
  exact ⟨_, .flagged hselection hpositions (isFormOf_self (flagWord config.spaced))⟩

-- What the fields of a command can say
structure IsExpressible (config : Config) : Prop where
  step_pos : 0 < config.step
  step_lt : config.step < Text.integerLimit
  positions_ne_nil : config.positions ≠ []
  inRange : ∀ position ∈ config.positions, Ordinal.InRange position

theorem toLower_of_isFormOf {letter written : Char} (hletter : letter.isLower = true)
    (h : IsFormOf letter written) : written.toLower = letter := by
  have hsmall : letter.toLower = letter ∧ letter.toUpper.toLower = letter :=
    Unicode.forall_ascii (P := fun c => c.isLower = true → c.toLower = c ∧ c.toUpper.toLower = c)
      (by decide) (Unicode.toNat_lt_of_isLower hletter) hletter
  cases h with
  | inl hsame => rw [hsame, hsmall.1]
  | inr hupper => rw [hupper, hsmall.2]

theorem map_toLower_of_forall₂ {letters text : List Char} (h : List.Forall₂ IsFormOf letters text)
    (hletters : ∀ letter ∈ letters, letter.isLower = true) : text.map Char.toLower = letters := by
  induction h with
  | nil => rfl
  | @cons letter written letters text hform _ ih =>
    rw [List.map_cons, toLower_of_isFormOf (hletters letter (by simp)) hform,
      ih fun other hother => hletters other (by simp [hother])]

theorem parseFlag_of_writes {flag : Bool} {text : List Char} (h : WritesFlag flag text) :
    parseFlag text = .ok flag := by
  have hletters : ∀ letter ∈ flagWord flag, letter.isLower = true :=
    List.all_eq_true.mp (by cases flag <;> rfl)
  rw [parseFlag, map_toLower_of_forall₂ h hletters]
  cases flag <;> rfl

theorem ofFields_of_writes {config : Config} (hconfig : config.IsExpressible)
    {fields : List (List Char)} (h : config.Writes fields) : ofFields fields = .ok config := by
  have hselection {selection : List Char} (hwrites : Ordinal.WritesSelection config.step selection) :
      Stride.parse selection = .ok ⟨config.step, hconfig.step_pos⟩ :=
    Stride.parse_of_writes hwrites hconfig.step_pos hconfig.step_lt
  have hpositions {positions : List Char} (hwrites : Ordinal.WritesList config.positions positions) :
      Ordinal.parseList positions = .ok config.positions :=
    Ordinal.parseList_of_writes hwrites hconfig.positions_ne_nil hconfig.inRange
  cases h with
  | flagged hstep hlist hflag =>
    simp only [ofFields, parse, Charset.parse_name, Replacement.parse_name, hselection hstep,
      hpositions hlist, parseFlag_of_writes hflag, bind, Except.bind]
    rfl
  | plain hstep hlist hflag =>
    simp only [ofFields, parse, Charset.parse_name, Replacement.parse_name, hselection hstep,
      hpositions hlist, bind, Except.bind, ← hflag]
    rfl

-- Settings that fields can say are written in some way and read back from every such way, and no
-- two of them are written alike.
theorem ofArguments_of_writes {config : Config} (hconfig : config.IsExpressible) :
    (∃ fields, config.Writes fields) ∧
      ∀ fields : List (List Char), config.Writes fields →
        (∀ before : List (List Char),
          ofArguments (before ++ fields) before.length = .ok config) ∧
        ∀ other : Config, other.IsExpressible → other.Writes fields → other = config := by
  refine ⟨config.exists_writes, fun fields h => ?_⟩
  have hread := ofFields_of_writes hconfig h
  refine ⟨fun before => ?_, fun other hother hwrites => ?_⟩
  · rw [ofArguments, List.drop_left, hread]
  · rw [ofFields_of_writes hother hwrites] at hread
    exact Except.ok.inj hread

section Thirds

-- Every third word, of which the first, the last and the second last letter are taken
def thirds : Config :=
  ⟨.lowercaseLetters, .wordPrefixes, 3, [0, -1, -2], true⟩

theorem isExpressible_thirds : thirds.IsExpressible where
  step_pos := by decide
  step_lt := by decide
  positions_ne_nil := by decide
  inRange := by decide

theorem writesSelection_thirds : Ordinal.WritesSelection 3 "every\t003rd ".toList :=
  .counted ['\t'] [' '] (by decide) (.digits 2 'r' 'd' rfl rfl) (by decide)

theorem writesList_thirds : Ordinal.WritesList [0, -1, -2] " 1st +last+ 02ÖÄlast+\t+".toList := by
  have hfirst : Ordinal.WritesEntry 0 " 1st ".toList :=
    .padded [' '] [' '] (by decide) (.front 0 (.digits 0 's' 't' rfl rfl)) (by decide)
  have hlast : Ordinal.WritesEntry (-1) "last".toList :=
    .padded [] [] (by decide) .last (by decide)
  have hsecond : Ordinal.WritesEntry (-2) " 02ÖÄlast".toList :=
    .padded [' '] [] (by decide)
      (.back 1 (.digits 1 'Ö' 'Ä' (by decide +kernel) (by decide +kernel))) (by decide)
  exact .joined [_, _, _] [['\t'], []] (.cons hfirst (.cons hlast (.cons hsecond .nil)))
    (by decide)

def thirdsFields : List (List Char) :=
  ["lowercase-letters".toList, "word-prefixes".toList, "every\t003rd ".toList,
    " 1st +last+ 02ÖÄlast+\t+".toList, "TrUe".toList]

theorem writes_thirds : thirds.Writes thirdsFields :=
  .flagged writesSelection_thirds writesList_thirds
    (.cons (.inr rfl) (.cons (.inl rfl) (.cons (.inr rfl) (.cons (.inl rfl) .nil))))

theorem ofArguments_of_writes_thirds :
    thirds.IsExpressible ∧ thirds.Writes thirdsFields ∧
      ofArguments (["apply".toList, "in".toList, "out".toList] ++ thirdsFields) 3 = .ok thirds :=
  ⟨isExpressible_thirds, writes_thirds,
    ((ofArguments_of_writes isExpressible_thirds).2 thirdsFields writes_thirds).1
      ["apply".toList, "in".toList, "out".toList]⟩

end Thirds

end Rule.Config

end Acrostic
