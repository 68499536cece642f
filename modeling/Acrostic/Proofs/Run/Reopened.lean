import Acrostic.Proofs.Output.Reading
import Acrostic.Proofs.Rule.Spacing
import Acrostic.Proofs.Run.Apply

namespace Acrostic

open Corpus (Encoding Reader byteOrderMark)
open Corpus.Utf8 (isCutOff)
open Output (IsUnbroken)
open Run (ApplyTask Environment)
open Storage (Store)

namespace Rule

section Letters

variable {config : Config} {dictionary : Option Dictionary} {rule : Rule}

theorem isUnbroken_apply (hparsed : ∀ stems ∈ dictionary, stems.IsParsed)
    (hrule : ofConfig config dictionary = .ok rule) (phrase : List Char) :
    IsUnbroken (rule.apply phrase) := by
  have hsolid := isSolid_letters hparsed hrule phrase
  refine ⟨fun hfeed => ?_, fun hret => ?_⟩
  · have hletter := (mem_apply hparsed hrule hfeed).resolve_right (by decide)
    exact absurd (hsolid _ hletter) (by decide)
  · have hletter := (mem_apply hparsed hrule hret).resolve_right (by decide)
    exact absurd (hsolid _ hletter) (by decide)

-- Only symbols bring a mark into a password.
theorem mark_notMem_apply (hparsed : ∀ stems ∈ dictionary, stems.IsParsed)
    (hrule : ofConfig config dictionary = .ok rule)
    (hmark : ∀ stems ∈ dictionary, ∀ entry ∈ stems.entries, byteOrderMark ∉ entry.symbol)
    (phrase : List Char) : byteOrderMark ∉ rule.apply phrase := by
  intro h
  have hletter := (mem_apply hparsed hrule h).resolve_right (by decide)
  cases mem_letters hrule hletter with
  | inl hvisible =>
    have hholds := (Charset.isVisible_iff.mp hvisible).1
    exact absurd (Charset.toNat_lt_of_holds hholds) (by decide)
  | inr hsymbol =>
    obtain ⟨stems, hstems, entry, hentry, hmem⟩ := hsymbol
    exact hmark stems hstems entry hentry hmem

end Letters

end Rule

namespace Run.ApplyTask

variable {config : Rule.Config} {dictionary : Option Dictionary} {rule : Rule}

-- Passwords are made of visible characters, of symbols and of the spaces between them. So they end
-- no lines, and the file that a run leaves behind is read line for line as it was written.
theorem runIn_reopened (hparsed : ∀ stems ∈ dictionary, stems.IsParsed)
    (hrule : Rule.ofConfig config dictionary = .ok rule) :
    (∀ phrase, ∃ letters,
      rule.apply phrase = (if config.spaced then letters.intersperse ' ' else letters) ∧
      ∀ c ∈ letters, config.charset.isVisible c = true ∨
        ∃ stems ∈ dictionary, ∃ entry ∈ stems.entries, c ∈ entry.symbol) ∧
    (∀ phrase, '\n' ∉ rule.apply phrase ∧ '\r' ∉ rule.apply phrase) ∧
    ∀ (environment : Environment) (task : ApplyTask) (store : Store),
      (∀ sample, Encoding.sampleSize ≤ sample.length → isCutOff sample = true →
        environment.guess sample = .utf8) →
      (task.runIn environment rule store).result = .ok () →
      ∃ input output,
        Reader.openFileBy environment.guess store task.input = .ok input ∧
        Reader.openFileBy environment.guess (task.runIn environment rule store).store
          task.output = .ok output ∧
        output.lines.length = input.lines.length ∧
        output.readAll.2.lossy = 0 ∧
        ((∀ stems ∈ dictionary, ∀ entry ∈ stems.entries, byteOrderMark ∉ entry.symbol) →
          output.lines = input.lines.map rule.apply) := by
  refine ⟨fun phrase => ?_, fun phrase => ?_, fun environment task store hguess hok => ?_⟩
  · exact ⟨rule.letters phrase, Rule.apply_eq_letters hparsed hrule phrase,
      fun c hc => Rule.mem_letters hrule hc⟩
  · exact Rule.isUnbroken_apply hparsed hrule phrase
  · obtain ⟨content, place, hinput, -, -, houtput⟩ := runIn_output hok
    generalize hlines : (Reader.ofBytes environment.guess content).lines = lines at houtput
    have hunbroken : ∀ password ∈ lines.map rule.apply, IsUnbroken password := by
      intro password hpassword
      obtain ⟨line, -, rfl⟩ := List.mem_map.mp hpassword
      exact Rule.isUnbroken_apply hparsed hrule line
    obtain ⟨hread, hlossy⟩ := Output.ofBytes_written hguess hunbroken
    refine ⟨Reader.ofBytes environment.guess content,
      Reader.ofBytes environment.guess (Output.written (lines.map rule.apply)),
      ?_, ?_, ?_, hlossy, ?_⟩
    · rw [Reader.openFileBy, hinput]
      rfl
    · rw [Reader.openFileBy, houtput]
      rfl
    · rw [hread, Output.length_unmarked, List.length_map, hlines]
    · intro hmark
      have hnone : ∀ password ∈ lines.map rule.apply, byteOrderMark ∉ password := by
        intro password hpassword
        obtain ⟨line, -, rfl⟩ := List.mem_map.mp hpassword
        exact Rule.mark_notMem_apply hparsed hrule hmark line
      rw [hread, hlines]
      exact Output.unmarked_eq_self hnone

theorem runIn_reopened_three_lines :
    ∃ rule, Rule.ofConfig ⟨.ascii, .wordPrefixes, 1, [0, -1], true⟩ (some .builtin) = .ok rule ∧
      let environment : Environment := .serial fun _ => .utf8
      let task : ApplyTask := ⟨⟨['a']⟩, ⟨['b']⟩, 8192, true, false⟩
      let store := Store.empty.writeAt [['a']] ⟨#[0x74, 0x6F, 0x20, 0x62, 0x65, 0x0A, 0x0D, 0x79]⟩
      ∃ output,
        Reader.openFileBy environment.guess (task.runIn environment rule store).store
          task.output = .ok output ∧
        output.lines = [rule.apply ['t', 'o', ' ', 'b', 'e'], rule.apply [], rule.apply ['y']] ∧
        output.readAll.2.lossy = 0 := by
  have hparsed : ∀ stems ∈ some Dictionary.builtin, stems.IsParsed := by
    rintro stems ⟨⟩
    exact Dictionary.isParsed_builtin
  have hrule : Rule.ofConfig ⟨.ascii, .wordPrefixes, 1, [0, -1], true⟩ (some .builtin) = .ok _ :=
    rfl
  have hmark : ∀ stems ∈ some Dictionary.builtin, ∀ entry ∈ stems.entries,
      byteOrderMark ∉ entry.symbol := by
    rintro stems ⟨⟩
    decide +kernel
  refine ⟨_, hrule, ?_⟩
  intro environment task store
  obtain ⟨-, -, hruns⟩ := runIn_reopened hparsed hrule
  obtain ⟨input, output, hinput, houtput, -, hlossy, hlines⟩ :=
    hruns environment task store (fun _ _ _ => rfl) (by decide +kernel)
  refine ⟨output, houtput, ?_, hlossy⟩
  obtain ⟨content, hread, rfl⟩ := Corpus.openFileBy_eq_ok hinput
  obtain rfl : ⟨#[0x74, 0x6F, 0x20, 0x62, 0x65, 0x0A, 0x0D, 0x79]⟩ = content :=
    Except.ok.inj (show store.read task.input = .ok content from hread)
  rw [hlines hmark]
  have hinputs : (Reader.ofBytes environment.guess
      ⟨#[0x74, 0x6F, 0x20, 0x62, 0x65, 0x0A, 0x0D, 0x79]⟩).lines =
        [['t', 'o', ' ', 'b', 'e'], [], ['y']] := by decide
  rw [hinputs]
  rfl

end Run.ApplyTask

end Acrostic
