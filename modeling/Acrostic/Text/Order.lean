namespace Acrostic.Text

-- Whether the text comes before the other one in the order of their characters
def precedes : List Char → List Char → Bool
  | _, [] => false
  | [], _ :: _ => true
  | first :: rest, other :: others =>
    if first = other then precedes rest others else decide (first.toNat < other.toNat)

theorem precedes_irrefl (text : List Char) : precedes text text = false := by
  induction text with
  | nil => rfl
  | cons first rest ih => simp [precedes, ih]

-- What comes before all of them is none of them.
theorem notMem_of_precedes {text : List Char} {texts : List (List Char)}
    (h : ∀ other ∈ texts, precedes text other = true) : text ∉ texts := by
  intro hmem
  have hself := h text hmem
  rw [precedes_irrefl] at hself
  contradiction

theorem precedes_trans {text other last : List Char} (h : precedes text other = true)
    (h' : precedes other last = true) : precedes text last = true := by
  induction text generalizing other last with
  | nil =>
    cases last with
    | nil => cases other <;> simp [precedes] at h'
    | cons => rfl
  | cons first rest ih =>
    cases other with
    | nil => simp [precedes] at h
    | cons second others =>
      cases last with
      | nil => simp [precedes] at h'
      | cons third lasts =>
        simp only [precedes] at h h' ⊢
        by_cases hfirst : first = second
        · subst hfirst
          rw [if_pos rfl] at h
          by_cases hthird : first = third
          · rw [if_pos hthird] at h' ⊢
            exact ih h h'
          · rw [if_neg hthird] at h' ⊢
            exact h'
        · rw [if_neg hfirst] at h
          have hlt : first.toNat < second.toNat := of_decide_eq_true h
          by_cases hsecond : second = third
          · subst hsecond
            rw [if_neg hfirst]
            exact decide_eq_true hlt
          · rw [if_neg hsecond] at h'
            have hlt' : second.toNat < third.toNat := of_decide_eq_true h'
            have hne : first ≠ third := by
              rintro rfl
              omega
            rw [if_neg hne]
            exact decide_eq_true (Nat.lt_trans hlt hlt')

-- Of two different texts one comes before the other.
theorem precedes_of_not {text other : List Char} (h : ¬ precedes text other = true)
    (hne : text ≠ other) : precedes other text = true := by
  induction text generalizing other with
  | nil =>
    cases other with
    | nil => contradiction
    | cons => simp [precedes] at h
  | cons first rest ih =>
    cases other with
    | nil => rfl
    | cons second others =>
      simp only [precedes] at h ⊢
      by_cases hfirst : first = second
      · subst hfirst
        rw [if_pos rfl] at h ⊢
        exact ih h (fun heq => hne (by rw [heq]))
      · rw [if_neg hfirst] at h
        rw [if_neg (Ne.symm hfirst)]
        have hle : second.toNat ≤ first.toNat := by simpa using h
        have hdiff : first.toNat ≠ second.toNat := fun heq => hfirst (Char.toNat_inj.mp heq)
        exact decide_eq_true (by omega)

end Acrostic.Text
