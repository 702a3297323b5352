import Wakeful.Text.Octets

/-! Octets are ordered strictly, and what goes on comes after what it goes on from. -/

namespace Wakeful.Octets

/-- No octets come before themselves. -/
theorem before_irrefl (octets : Octets) : before octets octets = false := by
  -- The first octets are always the same, so the comparison goes on to the end.
  induction octets with
  | nil => rfl
  | cons octet rest ih => simp [before, ih]

/-- What comes before something comes before all that comes after that. -/
theorem before_trans {left middle right : Octets} (first : before left middle = true)
    (second : before middle right = true) : before left right = true := by
  -- The three are followed together until one of them differs.
  induction left generalizing middle right with
  | nil =>
    cases right with
    | nil => cases middle <;> simp [before] at second
    | cons => rfl
  | cons octet left ih =>
    cases middle with
    | nil => simp [before] at first
    | cons octet' middle =>
      cases right with
      | nil => simp [before] at second
      | cons octet'' right =>
        simp only [before, Bool.or_eq_true, decide_eq_true_eq, Bool.and_eq_true, beq_iff_eq,
          UInt8.lt_iff_toNat_lt] at first second ⊢
        rcases first with less | ⟨rfl, first⟩
        · rcases second with less' | ⟨rfl, second⟩
          · exact .inl (Nat.lt_trans less less')
          · exact .inl less
        · rcases second with less' | ⟨rfl, second⟩
          · exact .inl less'
          · exact .inr ⟨rfl, ih first second⟩

/-- Of two different octets one comes before the other. -/
theorem before_of_ne {left right : Octets} (different : left ≠ right)
    (other : before right left = false) : before left right = true := by
  -- The two are followed together to where they differ.
  induction left generalizing right with
  | nil =>
    cases right with
    | nil => exact absurd rfl different
    | cons => rfl
  | cons octet left ih =>
    cases right with
    | nil => simp [before] at other
    | cons octet' right =>
      simp only [before, Bool.or_eq_false_iff, decide_eq_false_iff_not,
        UInt8.lt_iff_toNat_lt] at other
      simp only [before, Bool.or_eq_true, decide_eq_true_eq, Bool.and_eq_true, beq_iff_eq,
        UInt8.lt_iff_toNat_lt]
      by_cases same : octet = octet'
      · subst same
        have rest : left ≠ right := fun equal => different (by rw [equal])
        exact .inr ⟨rfl, ih rest (by simpa using other.2)⟩
      · have apart : octet.toNat ≠ octet'.toNat := fun equal => same (UInt8.toNat_inj.mp equal)
        exact .inl (by omega)

/--
What does not come after something, which does not come
after a third, does not come after that either.
-/
theorem not_after_trans {left middle right : Octets} (first : before middle left = false)
    (second : before right middle = false) : before right left = false := by
  -- If it did, the one in the middle would come before one of the others.
  cases after : before right left with
  | false => rfl
  | true =>
    by_cases same : middle = right
    · rw [same, after] at first
      cases first
    · have between := before_of_ne same second
      rw [before_trans between after] at first
      cases first

/-- Of two octets one does not come after the other. -/
theorem not_after_total (left right : Octets) :
    (!before right left || !before left right) = true := by
  -- If each came before the other, they would come before themselves.
  cases after : before right left with
  | false => rfl
  | true =>
    cases also : before left right with
    | false => rfl
    | true => cases (before_irrefl left).symm.trans (before_trans also after)

/-- What goes on comes after what it goes on from. -/
theorem before_append (octets rest : Octets) (nonempty : rest ≠ []) :
    before octets (octets ++ rest) = true := by
  -- Both are the same until the shorter one ends.
  induction octets with
  | nil =>
    obtain ⟨first, others, rfl⟩ := List.exists_cons_of_ne_nil nonempty
    rfl
  | cons octet octets ih => simp [before, ih]

end Wakeful.Octets
