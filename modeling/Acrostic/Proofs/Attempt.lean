import Mathlib.Data.List.Forall2

-- What can be said of the parts of an attempt whose result is known
namespace Acrostic.Attempt

variable {ε α β : Type} {attempt : Except ε α} {result : β} {error : ε}

theorem map_eq_ok_iff {f : α → β} :
    attempt.map f = .ok result ↔ ∃ value, attempt = .ok value ∧ f value = result := by
  cases attempt <;> simp [Except.map]

theorem map_eq_error_iff {f : α → β} : attempt.map f = .error error ↔ attempt = .error error := by
  cases attempt <;> simp [Except.map]

theorem bind_eq_ok_iff {next : α → Except ε β} :
    attempt >>= next = .ok result ↔ ∃ value, attempt = .ok value ∧ next value = .ok result := by
  cases attempt <;> simp [bind, Except.bind]

theorem bind_eq_error_iff {next : α → Except ε β} :
    attempt >>= next = .error error ↔
      attempt = .error error ∨ ∃ value, attempt = .ok value ∧ next value = .error error := by
  cases attempt <;> simp [bind, Except.bind]

section MapM

variable {f : α → Except ε β} {values : List α} {results : List β}

-- A list of attempts succeeds if each of them does.
theorem mapM_eq_ok_iff :
    values.mapM f = .ok results ↔
      List.Forall₂ (fun value result => f value = .ok result) values results := by
  induction values generalizing results with
  | nil => cases results <;> simp [pure, Except.pure]
  | cons value values ih =>
    simp only [List.mapM_cons, bind_eq_ok_iff, ih, List.forall₂_cons_left_iff]
    constructor
    · rintro ⟨first, hfirst, rest, hrest, hresults⟩
      exact ⟨first, rest, hfirst, hrest, (Except.ok.inj hresults).symm⟩
    · rintro ⟨first, rest, hfirst, hrest, rfl⟩
      exact ⟨first, hfirst, rest, hrest, rfl⟩

-- It fails with one of their errors.
theorem exists_mem_of_mapM_eq_error (h : values.mapM f = .error error) :
    ∃ value ∈ values, f value = .error error := by
  induction values with
  | nil => contradiction
  | cons value values ih =>
    simp only [List.mapM_cons, bind_eq_error_iff] at h
    obtain hfirst | ⟨first, -, hrest | ⟨rest, -, hdone⟩⟩ := h
    · exact ⟨value, by simp, hfirst⟩
    · obtain ⟨other, hother, hfailed⟩ := ih hrest
      exact ⟨other, List.mem_cons_of_mem _ hother, hfailed⟩
    · contradiction

end MapM

end Acrostic.Attempt
