import Wakeful.Inhibit.Crowd

/-! What the steps of an event do to its flag, and how threads that share it are counted. -/

namespace Wakeful

section Counts

variable {α : Type} {threads : List α} {number : Nat} {thread : α} {property : α → Bool}

/-- A count of those that are alike is positive as soon as one of them is there. -/
theorem countP_ne_zero (found : threads[number]? = some thread) (holds : property thread = true) :
    threads.countP property ≠ 0 :=
  Nat.pos_iff_ne_zero.mp (List.countP_pos_iff.mpr ⟨thread, List.mem_of_getElem? found, holds⟩)

/-- Among several threads a change of one changes a count by that one alone. -/
theorem countP_set_add (found : threads[number]? = some thread) (next : α) (property : α → Bool) :
    (threads.set number next).countP property + (property thread).toNat =
      threads.countP property + (property next).toNat := by
  -- The old entry is counted on one side, and the new one on the other.
  obtain ⟨bound, there⟩ := List.getElem?_eq_some_iff.mp found
  have counted : (property thread).toNat ≤ threads.countP property := by
    cases holds : property thread with
    | false => exact Nat.zero_le _
    | true => exact List.countP_pos_iff.mpr ⟨thread, List.mem_of_getElem? found, holds⟩
  rw [List.countP_set bound, there]
  cases holds : property thread <;> cases property next <;>
    simp only [holds, Bool.toNat_true, Bool.toNat_false, if_true, Bool.false_eq_true,
      if_false] at counted ⊢ <;>
    omega

end Counts

namespace Event

variable {event : Event}

/-- To notify somebody does not touch the flag. -/
@[simp] theorem notify_pending (event : Event) : event.notify.pending = event.pending := by
  -- Whether anybody waits decides only about the counts.
  unfold notify
  split <;> rfl

/-- A signal is pending once it has been sent. -/
@[simp] theorem signal_pending (event : Event) : event.signal.pending = true := by
  simp [signal, raise]

/-- With nobody asleep there is nobody to notify. -/
theorem notify_of_nobody (nobody : event.asleep = 0) : event.notify = event := by
  simp [notify, nobody]

/-- With somebody asleep one is notified. -/
theorem notify_of_sleeper (sleeper : event.asleep ≠ 0) :
    event.notify = ⟨event.pending, event.asleep - 1, event.notified + 1⟩ := by
  simp [notify, sleeper]

/-- A waiter whose deadline has come stops waiting and looks for the last time. -/
theorem expire_eq_lastLook (sleeper : event.asleep ≠ 0) : event.expire = event.notify.lastLook := by
  -- The sleeper is counted as notified before it looks.
  rw [notify_of_sleeper sleeper]
  simp [expire, lastLook, sleeper]

end Event

end Wakeful
