/-! Attempts that come out well or fail, one after the other. -/

namespace Wakeful

variable {ε ε' α β : Type}

/-- After an attempt that has come out well, the next one is made with its result. -/
@[simp] theorem ok_bind (result : α) (next : α → Except ε β) :
    (Except.ok result >>= next) = next result := rfl

/-- After an attempt that has failed, nothing more is attempted. -/
@[simp] theorem error_bind (reason : ε) (next : α → Except ε β) :
    ((.error reason : Except ε α) >>= next) = .error reason := rfl

/-- To give a result is to come out well. -/
@[simp] theorem pure_eq_ok (result : α) : (pure result : Except ε α) = .ok result := rfl

/-- To throw a reason is to fail. -/
@[simp] theorem throw_eq_error (reason : ε) : (throw reason : Except ε α) = .error reason := rfl

/-- What has come out well after another step has come out well before it. -/
theorem ok_of_bind {first : Except ε α} {next : α → Except ε β} {result : β}
    (whole : first >>= next = .ok result) :
    ∃ between, first = .ok between ∧ next between = .ok result := by
  -- A step that fails is the end of the whole.
  cases first with
  | error reason => cases whole
  | ok between => exact ⟨between, rfl, whole⟩

/-- After a check that has not stopped an attempt, the attempt goes on. -/
theorem ok_of_check {stops : Prop} [Decidable stops] {reason : ε} {next : PUnit → Except ε β}
    {result : β}
    (whole : (if stops then (throw reason : Except ε PUnit) >>= next else next ⟨⟩) = .ok result) :
    ¬ stops ∧ next ⟨⟩ = .ok result := by
  -- A check that stops the attempt makes it fail.
  by_cases stopped : stops
  · rw [if_pos stopped] at whole
    cases whole
  · rw [if_neg stopped] at whole
    exact ⟨stopped, whole⟩

/-- A step that cannot fail comes out well after everything that has come out well. -/
theorem exists_bind_ok_iff {first : Except ε α} {finish : α → β} :
    (∃ result, (first >>= fun between => .ok (finish between)) = .ok result) ↔
      ∃ between, first = .ok between := by
  -- Only the first step can fail.
  constructor
  · rintro ⟨result, whole⟩
    obtain ⟨between, made, -⟩ := ok_of_bind whole
    exact ⟨between, made⟩
  · rintro ⟨between, rfl⟩
    exact ⟨finish between, rfl⟩

/-- Reasons seen in another way do not matter to what has come out well. -/
theorem mapError_eq_ok_iff {attempt : Except ε α} {change : ε → ε'} {result : α} :
    attempt.mapError change = .ok result ↔ attempt = .ok result := by
  -- Only a reason is seen in another way.
  cases attempt with
  | error reason => constructor <;> intro impossible <;> cases impossible
  | ok found =>
    have kept : (Except.ok found : Except ε α).mapError change = .ok found := rfl
    rw [kept, Except.ok.injEq, Except.ok.injEq]

/-- A result seen in another way is there exactly if the result is. -/
theorem map_eq_ok_iff {attempt : Except ε α} {change : α → β} {result : β} :
    attempt.map change = .ok result ↔
      ∃ between, attempt = .ok between ∧ change between = result := by
  cases attempt <;> simp [Except.map]

/-- Attempts one after the other come out well exactly if each of them does. -/
theorem mapM_eq_ok_iff {attempt : α → Except ε β} {items : List α} {results : List β} :
    items.mapM attempt = .ok results ↔ items.map attempt = results.map .ok := by
  -- The induction is over the items, and the first that fails is the end.
  induction items generalizing results with
  | nil => cases results <;> simp
  | cons item items ih =>
    rw [List.mapM_cons]
    cases attempted : attempt item with
    | error reason => cases results <;> simp [attempted]
    | ok first =>
      cases results with
      | nil => cases items.mapM attempt <;> simp
      | cons result results =>
        rw [List.map_cons, List.map_cons, List.cons.injEq, ← ih, attempted]
        cases items.mapM attempt <;> simp

end Wakeful
