import Acrostic.Proofs.Storage.Growth
import Acrostic.Proofs.Text.Words
import Mathlib.Data.List.TakeWhile

namespace Acrostic.Storage

namespace Path

-- A name that leads into a folder: neither empty nor one of the names that lead elsewhere, and
-- without a separator
structure IsPlain (name : Name) : Prop where
  notMem : separator ∉ name
  ne_nil : name ≠ []
  ne_stay : name ≠ ['.']
  ne_up : name ≠ ['.', '.']

section Join

variable {folder : Path} {name : Name}

theorem steps_append_separator (text : List Char) :
    (⟨text ++ [separator]⟩ : Path).steps = (⟨text⟩ : Path).steps := by
  simp [steps, List.splitOn_append_cons_self]

theorem steps_concat_name (text : List Char) (h : IsPlain name) :
    (⟨text ++ separator :: name⟩ : Path).steps = (⟨text⟩ : Path).steps ++ [.into name] := by
  have hname : name.isEmpty = false := by simpa using h.ne_nil
  simp [steps, Text.splitOn_concat_piece h.notMem, hname, stepOf, h.ne_stay, h.ne_up]

-- The way to what is in a folder goes through the folder, and its last step is the name.
theorem steps_join (folder : Path) (h : IsPlain name) :
    (folder.join name).steps = folder.steps ++ [.into name] := by
  unfold join
  split_ifs with hends
  · cases Bool.or_eq_true_iff.mp hends with
    | inl hempty =>
      obtain ⟨text⟩ := folder
      obtain rfl : text = [] := by simpa using hempty
      have hname : name.isEmpty = false := by simpa using h.ne_nil
      simp [steps, List.splitOn_eq_singleton h.notMem, hname, stepOf, h.ne_stay, h.ne_up]
    | inr hlast =>
      obtain ⟨before, hbefore⟩ := List.getLast?_eq_some_iff.mp
        (show folder.text.getLast? = some separator by simpa [endsInSeparator] using hlast)
      obtain ⟨text⟩ := folder
      obtain rfl : text = before ++ [separator] := hbefore
      rw [steps_append_separator, ← steps_concat_name before h, List.append_assoc,
        List.singleton_append]
  · exact steps_concat_name folder.text h

end Join

section Extension

variable {name : Name} {stem extension : List Char}

-- The extension of a name is what stands behind its last dot, if something stands in front of it.
def HasExtension (name : Name) (extension : List Char) : Prop :=
  ∃ stem, stem ≠ [] ∧ name = stem ++ '.' :: extension ∧ '.' ∉ extension

theorem ne_dot_of_mem_reverse {text : List Char} (h : '.' ∉ text) :
    ∀ c ∈ text.reverse, decide (c ≠ '.') = true := by
  intro c hc
  rw [decide_eq_true_iff]
  rintro rfl
  exact h (List.mem_reverse.mp hc)

theorem extension?_concat (h : '.' ∉ extension) :
    extension? (stem ++ '.' :: extension) = if stem = [] then none else some extension := by
  have hfree := ne_dot_of_mem_reverse h
  have hreverse :
      (stem ++ '.' :: extension).reverse = extension.reverse ++ '.' :: stem.reverse := by
    simp
  rw [extension?, hreverse, List.dropWhile_append_of_pos hfree,
    List.takeWhile_append_of_pos hfree]
  simp

theorem extension?_of_notMem (h : '.' ∉ name) : extension? name = none := by
  rw [extension?, List.dropWhile_eq_nil_iff.mpr (ne_dot_of_mem_reverse h)]
  rfl

-- A name with a dot has a last one.
theorem exists_last_dot (h : '.' ∈ name) :
    ∃ stem extension, name = stem ++ '.' :: extension ∧ '.' ∉ extension := by
  obtain ⟨front, back, hname, hfront⟩ := List.eq_append_cons_of_mem (List.mem_reverse.mpr h)
  refine ⟨back.reverse, front.reverse, ?_, by simpa using hfront⟩
  rw [← List.reverse_reverse name, hname]
  simp

theorem extension?_eq_some_iff :
    extension? name = some extension ↔ HasExtension name extension := by
  constructor
  · intro h
    by_cases hdot : '.' ∈ name
    · obtain ⟨stem, last, rfl, hlast⟩ := exists_last_dot hdot
      rw [extension?_concat hlast] at h
      split_ifs at h with hstem
      obtain rfl := Option.some.inj h
      exact ⟨stem, hstem, rfl, hlast⟩
    · rw [extension?_of_notMem hdot] at h
      contradiction
  · rintro ⟨stem, hstem, rfl, hlast⟩
    rw [extension?_concat hlast, if_neg hstem]

end Extension

end Path

namespace Store

theorem getLast?_follow_into {tree : Tree} {origin : Place} {steps : List Path.Step} {name : Name}
    {target : Target} (h : follow tree origin (steps ++ [.into name]) = .ok target) :
    target.place.getLast? = some name := by
  induction steps generalizing origin with
  | nil =>
    simp only [List.nil_append, follow, List.isEmpty_nil, Bool.true_and] at h
    split at h
    · contradiction
    · contradiction
    · split_ifs at h
      · obtain rfl := Except.ok.inj h
        simp [Target.place]
      · split at h
        · contradiction
        · obtain rfl := Except.ok.inj h
          simp [Target.place]
  | cons step steps ih =>
    rw [List.cons_append, follow] at h
    split at h
    · contradiction
    · contradiction
    · cases step with
      | stay => exact ih h
      | up => exact ih h
      | into other =>
        have hmore : (steps ++ [Path.Step.into name]).isEmpty = false := by simp
        simp only [hmore, Bool.false_and, Bool.false_eq_true, if_false] at h
        split_ifs at h
        exact ih h

-- Files of different names in a folder are at different places.
theorem getLast?_placeOf?_join {store : Store} {folder : Path} {name : Name} {place : Place}
    (hname : Path.IsPlain name) (h : store.placeOf? (folder.join name) = some place) :
    place.getLast? = some name := by
  unfold placeOf? at h
  split at h
  · next target hlocate =>
    have hfollow := locate_eq_ok hlocate
    rw [Path.steps_join folder hname] at hfollow
    rw [← Option.some.inj h]
    exact getLast?_follow_into hfollow
  · contradiction

end Store

end Acrostic.Storage
