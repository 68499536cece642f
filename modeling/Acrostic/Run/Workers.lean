namespace Acrostic.Run

-- What a worker does with one item: steps that change what the workers share, each of which is
-- taken at once, and then a result. `next` goes on with what the step has left.
inductive Job (σ β : Type) where
  | done (result : β)
  | act (change : σ → σ) (next : σ → Job σ β)

variable {σ β : Type}

-- The job alone, from its first step to its result
def Job.run : Job σ β → σ → β × σ
  | done result, shared => (result, shared)
  | act change next, shared => (next (change shared)).run (change shared)

-- Some worker takes the next step of some job, until all jobs are done. The results are in the
-- order of the jobs, whichever was done first.
inductive Works : List (Job σ β) → σ → List β → σ → Prop
  | finished (results : List β) (shared : σ) : Works (results.map .done) shared results shared
  | step {before behind : List (Job σ β)} {change : σ → σ} {next : σ → Job σ β}
      {shared final : σ} {results : List β}
      (h : Works (before ++ next (change shared) :: behind) (change shared) results final) :
      Works (before ++ .act change next :: behind) shared results final

-- A job may be done in one go.
theorem Works.of_run {before behind : List (Job σ β)} {job : Job σ β} {shared final : σ}
    {results : List β}
    (h : Works (before ++ .done (job.run shared).1 :: behind) (job.run shared).2 results final) :
    Works (before ++ job :: behind) shared results final := by
  induction job generalizing shared with
  | done result => exact h
  | act change next ih => exact .step (ih (change shared) h)

-- One job after the other
def inTurn : List (Job σ β) → σ → List β × σ
  | [], shared => ([], shared)
  | job :: jobs, shared =>
    let (result, shared) := job.run shared
    let (results, shared) := inTurn jobs shared
    (result :: results, shared)

theorem works_inTurn (ready : List β) (jobs : List (Job σ β)) (shared : σ) :
    Works (ready.map .done ++ jobs) shared (ready ++ (inTurn jobs shared).1)
      (inTurn jobs shared).2 := by
  induction jobs generalizing ready shared with
  | nil => simpa [inTurn] using Works.finished ready shared
  | cons job jobs ih =>
    have h := ih (ready ++ [(job.run shared).1]) (job.run shared).2
    simp only [List.map_append, List.map_cons, List.map_nil, List.append_assoc, List.cons_append,
      List.nil_append] at h
    exact .of_run h

-- Workers, who take their steps in an order of their own
structure Pool where
  work {σ β : Type} (jobs : List (Job σ β)) (shared : σ) : List β × σ
  works {σ β : Type} (jobs : List (Job σ β)) (shared : σ) :
    Works jobs shared (work jobs shared).1 (work jobs shared).2

-- A single worker
def Pool.single : Pool where
  work := inTurn
  works := works_inTurn []

end Acrostic.Run
