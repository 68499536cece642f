import Acrostic.Proofs.Charset.Normalize
import Acrostic.Proofs.Token
import Acrostic.Rule

namespace Acrostic

namespace Stride

-- Selection starts afresh behind a whole number of steps.
theorem keepFrom_append {α : Type} {step skip : Nat} (hpos : 0 < step) {first : List α}
    (hskip : skip ≤ first.length) (hdvd : step ∣ first.length - skip) (second : List α) :
    keepFrom step skip (first ++ second) =
      keepFrom step skip first ++ keepFrom step 0 second := by
  induction first generalizing skip with
  | nil =>
    obtain rfl : skip = 0 := Nat.le_zero.mp hskip
    rfl
  | cons x first ih =>
    cases skip with
    | zero =>
      rw [List.length_cons, Nat.sub_zero] at hdvd
      have hle : step ≤ first.length + 1 := Nat.le_of_dvd (by omega) hdvd
      have hrest : first.length - (step - 1) = first.length + 1 - step := by omega
      have hdvd' : step ∣ first.length - (step - 1) := hrest ▸ Nat.dvd_sub hdvd (Nat.dvd_refl step)
      simp only [List.cons_append, keepFrom, ih (by omega) hdvd']
    | succ skip =>
      simp only [List.length_cons, Nat.add_le_add_iff_right, Nat.add_sub_add_right] at hskip hdvd
      simp only [List.cons_append, keepFrom, ih hskip hdvd]

theorem select_append {α : Type} {stride : Stride} {first : List α}
    (h : stride.step ∣ first.length) (second : List α) :
    stride.select (first ++ second) = stride.select first ++ stride.select second := by
  unfold select
  split
  · rfl
  · exact keepFrom_append stride.step_pos (Nat.zero_le _) h second

end Stride

namespace Rule

section Stages

theorem Stage.length_replace (stems : Option Dictionary) (tokens : List Token) :
    ((Stage.replace stems).apply tokens).length = tokens.length := by
  cases stems with
  | none => rfl
  | some dictionary => exact List.length_map _

-- Whether a stage treats what follows `count` tokens as it treats the beginning of a list
def Stage.StartsAfresh (count : Nat) : Stage → Prop
  | replace _ => True
  | selectTokens stride => stride.step ∣ count
  | selectCharacters _ => True

-- Each stage works on the tokens one by one, apart from the selection, which counts them.
theorem Stage.apply_append (stage : Stage) {tokens : List Token}
    (h : stage.StartsAfresh tokens.length) (others : List Token) :
    stage.apply (tokens ++ others) = stage.apply tokens ++ stage.apply others := by
  cases stage with
  | replace stems =>
    cases stems with
    | none => rfl
    | some dictionary => exact List.map_append
  | selectTokens stride => exact Stride.select_append h others
  | selectCharacters picker => exact List.map_append

-- The dictionary that a rule of these settings uses
def Config.stems (config : Config) (dictionary : Option Dictionary) : Option Dictionary :=
  if config.replacement.needsDictionary then dictionary else none

-- A rule replaces stems, keeps words and takes characters from them, in this order.
def Config.stages (config : Config) (dictionary : Option Dictionary) (hstep : 0 < config.step) :
    List Stage :=
  [.replace (config.stems dictionary), .selectTokens ⟨config.step, hstep⟩,
    .selectCharacters ⟨config.positions, false, false⟩]

-- A rule needs a step, and a dictionary where stems are to be replaced.
theorem ofConfig_eq_ok_iff {config : Config} {dictionary : Option Dictionary} {rule : Rule} :
    ofConfig config dictionary = .ok rule ↔
      (config.replacement.needsDictionary = true → dictionary.isSome = true) ∧
        ∃ hstep : 0 < config.step, rule = ⟨config, config.stages dictionary hstep⟩ := by
  unfold ofConfig Config.stages Config.stems Stride.ofCount
  by_cases hstep : 0 < config.step
  · cases config.replacement with
    | none =>
      simp only [hstep, Replacement.needsDictionary, bind, Except.bind, pure, Except.pure]
      simp [eq_comm (a := rule)]
    | wordPrefixes =>
      cases dictionary with
      | none => simp [Replacement.needsDictionary, bind, Except.bind]
      | some dictionary =>
        simp only [hstep, Replacement.needsDictionary, bind, Except.bind, pure, Except.pure]
        simp [eq_comm (a := rule)]
  · cases config.replacement <;> cases dictionary <;> simp [hstep, bind, Except.bind]

theorem ofConfig_eq_ok {config : Config} {dictionary : Option Dictionary} {rule : Rule}
    (h : ofConfig config dictionary = .ok rule) :
    rule.config = config ∧ ∃ (stems : Option Dictionary) (stride : Stride),
      stride.step = config.step ∧
      rule.stages = [.replace stems, .selectTokens stride,
        .selectCharacters ⟨config.positions, false, false⟩] := by
  obtain ⟨-, hstep, rfl⟩ := ofConfig_eq_ok_iff.mp h
  exact ⟨rfl, config.stems dictionary, ⟨config.step, hstep⟩, rfl, rfl⟩

end Stages

section Phrase

theorem tokens_append_space (rule : Rule) (first second : List Char) :
    rule.tokens (first ++ ' ' :: second) = rule.tokens first ++ rule.tokens second := by
  have hascii : ∀ phrase, ∀ c ∈ rule.config.charset.normalize phrase, c.toNat < 0x80 ∧ c ≠ '\r' :=
    fun phrase c hc =>
      have hholds := Charset.holds_of_mem_normalize hc
      ⟨Charset.toNat_lt_of_holds hholds, Charset.ne_return_of_holds hholds⟩
  have hnormalize : rule.config.charset.normalize (first ++ ' ' :: second) =
      rule.config.charset.normalize first ++ ' ' :: rule.config.charset.normalize second := by
    have hspace : rule.config.charset.castChar ' ' = [' '] := by
      cases rule.config.charset <;> rfl
    simp only [Charset.normalize_eq_flatMap, List.flatMap_append, List.flatMap_cons, hspace,
      List.singleton_append]
  rw [tokens, hnormalize]
  exact tokenize_append_blank (.inl rfl) (hascii first) fun c hc => (hascii second c hc).1

-- Phrases that stand one behind the other give their passwords one behind the other, when the
-- words of the first one make up whole steps.
theorem apply_append_space {config : Config} {dictionary : Option Dictionary} {rule : Rule}
    (hrule : ofConfig config dictionary = .ok rule) (hspaced : config.spaced = false)
    {first second : List Char} (hstep : config.step ∣ (rule.tokens first).length) :
    rule.apply (first ++ ' ' :: second) = rule.apply first ++ rule.apply second := by
  obtain ⟨hconfig, stems, stride, hstride, hstages⟩ := ofConfig_eq_ok hrule
  have hselect : (Stage.selectTokens stride).StartsAfresh
      ((Stage.replace stems).apply (rule.tokens first)).length := by
    rwa [Stage.length_replace, Stage.StartsAfresh, hstride]
  unfold apply
  rw [tokens_append_space, hstages, hconfig, hspaced]
  simp only [List.foldl_cons, List.foldl_nil]
  rw [Stage.apply_append (.replace stems) trivial, Stage.apply_append _ hselect,
    Stage.apply_append (.selectCharacters _) trivial]
  exact List.flatten_append

-- Two words in front, of which the step keeps one
theorem apply_append_space_two_words :
    ∃ rule : Rule,
      ofConfig ⟨.ascii, .wordPrefixes, 2, [0, -1], false⟩
        (some ⟨[⟨['&'], [['b', 'r', 'o']]⟩]⟩) = .ok rule ∧
      2 ∣ (rule.tokens ['s', 'm', 'ø', 'r', ' ', ' ', 'o', 'g', '\t']).length ∧
      rule.apply (['s', 'm', 'ø', 'r', ' ', ' ', 'o', 'g', '\t'] ++ ' ' :: ['B', 'r', 'ø', 'd', '?']) =
        rule.apply ['s', 'm', 'ø', 'r', ' ', ' ', 'o', 'g', '\t'] ++
          rule.apply ['B', 'r', 'ø', 'd', '?'] := by
  have hrule : ofConfig ⟨.ascii, .wordPrefixes, 2, [0, -1], false⟩
      (some ⟨[⟨['&'], [['b', 'r', 'o']]⟩]⟩) = .ok _ := rfl
  refine ⟨_, hrule, ?_⟩
  have hstep : 2 ∣ (tokenize (Charset.ascii.normalize
      ['s', 'm', 'ø', 'r', ' ', ' ', 'o', 'g', '\t'])).length := by
    rw [Charset.normalize_eq_flatMap]
    decide
  exact ⟨hstep, apply_append_space hrule rfl hstep⟩

end Phrase

end Rule

end Acrostic
