import Acrostic.Run.Workers
import Mathlib.Data.List.Forall2

namespace Acrostic.Run

-- An item in the middle may be replaced by one that is related as well.
theorem exists_of_forall₂_middle {α γ : Type} {R : α → γ → Prop} {before behind : List α} {a : α}
    {items : List γ} (h : List.Forall₂ R (before ++ a :: behind) items) :
    ∃ first item last, items = first ++ item :: last ∧ R a item ∧
      ∀ a' item', R a' item' →
        List.Forall₂ R (before ++ a' :: behind) (first ++ item' :: last) := by
  induction before generalizing items with
  | nil =>
    obtain ⟨item, last, hitem, hlast, rfl⟩ := List.forall₂_cons_left_iff.mp h
    exact ⟨[], item, last, rfl, hitem, fun _ _ h' => .cons h' hlast⟩
  | cons other before ih =>
    obtain ⟨item, items, hother, hitems, rfl⟩ := List.forall₂_cons_left_iff.mp h
    obtain ⟨first, found, last, rfl, hfound, hreplace⟩ := ih hitems
    exact ⟨item :: first, found, last, rfl, hfound, fun _ _ h' => .cons hother (hreplace _ _ h')⟩

-- Each job has one result.
theorem Works.length_eq {σ β : Type} {jobs : List (Job σ β)} {shared final : σ}
    {results : List β} (h : Works jobs shared results final) : results.length = jobs.length := by
  induction h with
  | finished results shared => exact (List.length_map _).symm
  | step h ih =>
    rw [ih]
    simp only [List.length_append, List.length_cons]

section Gives

variable {σ β : Type}

-- The job has the result whatever the workers share at its steps.
inductive Job.Gives : Job σ β → β → Prop
  | done (result : β) : Gives (.done result) result
  | act {change : σ → σ} {next : σ → Job σ β} {result : β}
      (h : ∀ shared, Gives (next shared) result) : Gives (.act change next) result

theorem Job.Gives.next {change : σ → σ} {next : σ → Job σ β} {result : β}
    (h : Gives (.act change next) result) (shared : σ) : Gives (next shared) result := by
  cases h with
  | act h => exact h shared

-- The results do not depend on the order of the steps.
theorem Works.results_eq {jobs : List (Job σ β)} {shared final : σ} {results expected : List β}
    (h : Works jobs shared results final) (hjobs : List.Forall₂ Job.Gives jobs expected) :
    results = expected := by
  induction h generalizing expected with
  | finished results shared =>
    rw [List.forall₂_map_left_iff] at hjobs
    rw [← List.forall₂_eq_eq_eq]
    refine hjobs.imp fun result given hgives => ?_
    cases hgives
    rfl
  | step h ih =>
    obtain ⟨first, item, last, rfl, hitem, hreplace⟩ := exists_of_forall₂_middle hjobs
    exact ih (hreplace _ _ (hitem.next _))

theorem Pool.results_eq (pool : Pool) {α : Type} {job : α → Job σ β} {result : α → β}
    (h : ∀ item, (job item).Gives (result item)) (items : List α) (shared : σ) :
    (pool.work (items.map job) shared).1 = items.map result := by
  refine (pool.works _ shared).results_eq ?_
  rw [List.forall₂_map_left_iff, List.forall₂_map_right_iff, List.forall₂_same]
  exact fun item _ => h item

end Gives

section Map

variable {σ β γ : Type}

-- The same steps, with another result
def Job.map (f : β → γ) : Job σ β → Job σ γ
  | done result => .done (f result)
  | act change next => .act change fun shared => (next shared).map f

theorem exists_map_done {f : β → γ} {jobs : List (Job σ β)} {results : List γ}
    (h : results.map .done = jobs.map (Job.map f)) :
    ∃ found : List β, jobs = found.map .done ∧ results = found.map f := by
  induction jobs generalizing results with
  | nil => exact ⟨[], rfl, List.map_eq_nil_iff.mp h⟩
  | cons job jobs ih =>
    obtain ⟨result, rest, rfl, hresult, hrest⟩ := List.map_eq_cons_iff.mp h
    obtain ⟨found, rfl, rfl⟩ := ih hrest
    cases job with
    | done value =>
      obtain rfl : result = f value := Job.done.inj hresult
      exact ⟨value :: found, rfl, rfl⟩
    | act change next => cases hresult

-- Whatever jobs do, they can do with the results that they had before these were replaced.
theorem Works.exists_of_map {f : β → γ} {jobs : List (Job σ β)} {shared final : σ}
    {results : List γ} (h : Works (jobs.map (Job.map f)) shared results final) :
    ∃ found : List β, Works jobs shared found final ∧ results = found.map f := by
  generalize hjobs : jobs.map (Job.map f) = mapped at h
  induction h generalizing jobs with
  | finished results shared =>
    obtain ⟨found, rfl, hresults⟩ := exists_map_done hjobs.symm
    exact ⟨found, .finished found shared, hresults⟩
  | @step _ _ change _ shared _ _ h ih =>
    obtain ⟨before, middle, rfl, rfl, hmiddle⟩ := List.map_eq_append_iff.mp hjobs
    obtain ⟨job, behind, rfl, hjob, rfl⟩ := List.map_eq_cons_iff.mp hmiddle
    cases job with
    | done value => cases hjob
    | act other next =>
      cases hjob
      have hnext : (before ++ next (change shared) :: behind).map (Job.map f) =
          before.map (Job.map f) ++ (next (change shared)).map f :: behind.map (Job.map f) := by
        simp
      obtain ⟨found, hfound, hresults⟩ := ih hnext
      exact ⟨found, .step hfound, hresults⟩

end Map

end Acrostic.Run
