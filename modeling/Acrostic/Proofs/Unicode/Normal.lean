import Acrostic.Unicode.Normal
import Mathlib.Tactic.SplitIfs

namespace Acrostic.Unicode

variable {α : Type} {f : Char → List α}

section Order

-- Ordering moves marks past marks only: what the starters give keeps its order.
theorem flatMap_orderInto (hmark : ∀ c, combiningClass c ≠ 0 → f c = []) (c : Char)
    (text : List Char) : (orderInto c text).flatMap f = (c :: text).flatMap f := by
  induction text with
  | nil => rfl
  | cons d text ih =>
    simp only [orderInto]
    split_ifs with hpasses
    · have hd : f d = [] := hmark d hpasses.1
      have hc : f c = [] := hmark c (by omega)
      rw [List.flatMap_cons, ih]
      simp [hd, hc]
    · rfl

theorem flatMap_canonicalOrder (hmark : ∀ c, combiningClass c ≠ 0 → f c = [])
    (text : List Char) : (canonicalOrder text).flatMap f = text.flatMap f := by
  induction text with
  | nil => rfl
  | cons c text ih =>
    change (orderInto c (canonicalOrder text)).flatMap f = _
    rw [flatMap_orderInto hmark, List.flatMap_cons, ih, List.flatMap_cons]

end Order

section Compose

-- The function gives nothing for a mark, and for a composite what it gives for the two characters
-- that compose to it.
structure SeesThrough (f : Char → List α) : Prop where
  mark : ∀ c, combiningClass c ≠ 0 → f c = []
  composite : ∀ first second c, compose? first second = some c → f c = f first ++ f second

-- The starter, and a mark that it takes up, give what their composite gives. What is passed over on
-- the way gives nothing.
theorem flatMap_composeOnto (h : SeesThrough f) {starter : Char}
    {between done text : List Char} (hbetween : between.flatMap f = []) :
    (composeOnto starter between done text).flatMap f =
      done.reverse.flatMap f ++ f starter ++ text.flatMap f := by
  fun_induction composeOnto starter between done text with
  | case1 starter between done =>
    have hreverse : between.reverse.flatMap f = [] := by
      simpa using hbetween
    simp [hreverse]
  | case2 starter between done c rest composite hcompose ih =>
    have hc : compose? starter c = some composite := by
      split_ifs at hcompose
      exact hcompose
    rw [ih hbetween, h.composite _ _ _ hc, List.flatMap_cons]
    simp
  | case3 starter between done c rest _ hstarter ih =>
    have hreverse : between.reverse.flatMap f = [] := by
      simpa using hbetween
    rw [ih rfl, List.flatMap_cons]
    simp [hreverse]
  | case4 starter between done c rest _ hmark ih =>
    have hc : f c = [] := h.mark c hmark
    rw [ih (by simp [hc, hbetween]), List.flatMap_cons, hc]
    rfl

theorem flatMap_compose (h : SeesThrough f) (text : List Char) :
    (compose text).flatMap f = text.flatMap f := by
  have hsplit : text.flatMap f =
      (text.takeWhile (!isStarter ·)).flatMap f ++ (text.dropWhile (!isStarter ·)).flatMap f := by
    rw [← List.flatMap_append, List.takeWhile_append_dropWhile]
  rw [hsplit, compose, List.flatMap_append]
  congr 1
  cases text.dropWhile (!isStarter ·) with
  | nil => rfl
  | cons starter rest =>
    rw [flatMap_composeOnto h rfl]
    simp

end Compose

end Acrostic.Unicode
