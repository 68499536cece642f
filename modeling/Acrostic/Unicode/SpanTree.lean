namespace Acrostic.Unicode

-- A run of code points that share a value, both ends included
structure Span (α : Type) where
  first : Nat
  last : Nat
  value : α

-- Disjoint spans in ascending order, as a search tree
inductive SpanTree (α : Type) where
  | leaf
  | node (left : SpanTree α) (span : Span α) (right : SpanTree α)

namespace SpanTree

variable {α : Type}

def toList : SpanTree α → List (Span α)
  | leaf => []
  | node left span right => left.toList ++ span :: right.toList

-- A full tree of the given depth over the front of the list, and the rest of the list
def build : Nat → List (Span α) → SpanTree α × List (Span α)
  | 0, spans => (leaf, spans)
  | depth + 1, spans =>
    match build depth spans with
    | (left, []) => (left, [])
    | (left, span :: rest) =>
      let (right, others) := build depth rest
      (node left span right, others)

-- The spans have to be ascending and disjoint for `find?` to see all of them.
def ofList (spans : List (Span α)) : SpanTree α :=
  (build (spans.length.log2 + 1) spans).1

-- The span that holds the code point
def find? : SpanTree α → Nat → Option (Span α)
  | leaf, _ => none
  | node left span right, point =>
    if point < span.first then left.find? point
    else if span.last < point then right.find? point
    else some span

def contains (tree : SpanTree α) (point : Nat) : Bool :=
  (tree.find? point).isSome

theorem mem_toList_of_find?_eq_some {tree : SpanTree α} {point : Nat} {span : Span α}
    (h : tree.find? point = some span) :
    span ∈ tree.toList ∧ span.first ≤ point ∧ point ≤ span.last := by
  induction tree with
  | leaf => simp [find?] at h
  | node left middle right ihl ihr =>
    simp only [find?] at h
    simp only [toList, List.mem_append, List.mem_cons]
    split at h
    · have := ihl h
      exact ⟨.inl this.1, this.2⟩
    · split at h
      · have := ihr h
        exact ⟨.inr (.inr this.1), this.2⟩
      · cases h
        exact ⟨.inr (.inl rfl), by omega, by omega⟩

-- Building drops and reorders nothing.
theorem toList_build (depth : Nat) (spans : List (Span α)) :
    (build depth spans).1.toList ++ (build depth spans).2 = spans := by
  induction depth generalizing spans with
  | zero => rfl
  | succ depth ih =>
    have hleft := ih spans
    rw [build]
    split
    · next left heq => rw [heq] at hleft; exact hleft
    · next left span rest heq =>
      rw [heq] at hleft
      have hright := ih rest
      simp only [toList, List.append_assoc, List.cons_append, hright]
      exact hleft

theorem mem_of_find?_ofList {spans : List (Span α)} {point : Nat} {span : Span α}
    (h : (ofList spans).find? point = some span) :
    span ∈ spans ∧ span.first ≤ point ∧ point ≤ span.last := by
  have hm := mem_toList_of_find?_eq_some h
  refine ⟨?_, hm.2⟩
  rw [← toList_build (spans.length.log2 + 1) spans]
  exact List.mem_append_left _ hm.1

end SpanTree

end Acrostic.Unicode
