import Mathlib.Data.List.Basic
import Mathlib.Tactic.Common

/-!
# Forwarding until the first failure

A forwarder is open or closed. What it accepts while it is open is sent on, and it
is closed by the first value for which that fails. An accepted value stands in the
log together with a flag that says whether it was forwarded. A failure can come
before the value was sent or behind it.
-/

namespace DemoIotApp.Library

variable {α β : Type*} {send : α → β}

/-- What one input adds to the log and to the output, and whether the forwarder is open
before and after it. -/
inductive ForwardStep (send : α → β) : Option (α × Bool) → Bool → Bool → List β → Prop
  | ignored (isOpen : Bool) : ForwardStep send none isOpen isOpen []
  | forwarded (a : α) (isOpen : Bool) : ForwardStep send (some (a, true)) true isOpen [send a]
  | refused (a : α) (isOpen : Bool) : ForwardStep send (some (a, false)) isOpen false []
  | broken (a : α) : ForwardStep send (some (a, false)) true false [send a]

/-- A run of a forwarder that is open or closed at its start. -/
inductive ForwardRun (send : α → β) : Bool → List (α × Bool) → List β → Prop
  | nil (isOpen : Bool) : ForwardRun send isOpen [] []
  | cons {accepted : Option (α × Bool)} {before after : Bool} {log : List (α × Bool)}
      {out rest : List β} (hstep : ForwardStep send accepted before after out)
      (hrest : ForwardRun send after log rest) :
      ForwardRun send before (accepted.toList ++ log) (out ++ rest)

/-- The output belongs to a prefix of the log. Everything before the first failure is in
it, and nothing behind that. -/
def ForwardsPrefix (send : α → β) (log : List (α × Bool)) (out : List β) : Prop :=
  ∃ k, (log.takeWhile (·.2)).length ≤ k ∧ k ≤ (log.takeWhile (·.2)).length + 1 ∧
    out = (log.take k).map fun a ↦ send a.1

theorem ForwardStep.run {accepted : Option (α × Bool)} {before after : Bool} {out : List β}
    (h : ForwardStep send accepted before after out) :
    ForwardRun send before accepted.toList out := by
  have hrun := ForwardRun.cons h (.nil after)
  rwa [List.append_nil, List.append_nil] at hrun

theorem ForwardRun.eq_nil_of_closed {log : List (α × Bool)} {out : List β}
    (h : ForwardRun send false log out) : out = [] := by
  generalize hclosed : false = before at h
  induction h with
  | nil => rfl
  | cons hstep hrest ih =>
      cases hstep with
      | ignored => exact ih hclosed
      | forwarded => exact nomatch hclosed
      | refused => exact ih rfl
      | broken => exact nomatch hclosed

/-- No run of a forwarder reorders, repeats or skips a value. -/
theorem ForwardRun.forwardsPrefix {isOpen : Bool} {log : List (α × Bool)} {out : List β}
    (h : ForwardRun send isOpen log out) : ForwardsPrefix send log out := by
  induction h with
  | nil => exact ⟨0, Nat.le_refl 0, Nat.zero_le 1, rfl⟩
  | cons hstep hrest ih =>
      cases hstep with
      | ignored => exact ih
      | forwarded a =>
          obtain ⟨k, hle, hge, rfl⟩ := ih
          exact ⟨k + 1, Nat.succ_le_succ hle, Nat.succ_le_succ hge, rfl⟩
      | refused a =>
          obtain rfl := hrest.eq_nil_of_closed
          exact ⟨0, Nat.le_refl 0, Nat.zero_le 1, rfl⟩
      | broken a =>
          obtain rfl := hrest.eq_nil_of_closed
          exact ⟨1, Nat.zero_le 1, Nat.le_refl 1, rfl⟩

end DemoIotApp.Library
