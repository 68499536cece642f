import Acrostic.Ordinal

namespace Acrostic

-- The distance between the words that are kept
structure Stride where
  step : Nat
  step_pos : 0 < step

namespace Stride

def ofCount (count : Nat) : Except Rule.Error Stride :=
  if h : 0 < count then .ok ⟨count, h⟩ else .error (.nonPositiveCount count)

def parse (text : List Char) : Except Rule.Error Stride := do
  ofCount (← Ordinal.parseSelection text)

-- Passes over `skip` elements, keeps one, and goes on in steps
def keepFrom {α : Type} (step : Nat) : Nat → List α → List α
  | _, [] => []
  | 0, x :: rest => x :: keepFrom step (step - 1) rest
  | skip + 1, _ :: rest => keepFrom step skip rest

-- The elements at the positions 0, step, twice the step and so on
def select {α : Type} (stride : Stride) (list : List α) : List α :=
  if stride.step = 1 then list else keepFrom stride.step 0 list

end Stride

end Acrostic
