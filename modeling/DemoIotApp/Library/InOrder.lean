import Mathlib.Data.List.Basic
import Mathlib.Tactic.Common

/-!
# Patterns of events

A pattern is a list of properties. A trace contains it when it has an element
for each of them, in this order and with anything in between.
-/

namespace DemoIotApp.Library

variable {α : Type*} {p r : α → Prop} {ps qs : List (α → Prop)} {l l' : List α}

def InOrder : List (α → Prop) → List α → Prop
  | [], _ => True
  | p :: ps, l => ∃ before a after, l = before ++ a :: after ∧ p a ∧ InOrder ps after

@[simp] theorem inOrder_nil (l : List α) : InOrder [] l := trivial

theorem inOrder_singleton : InOrder [p] l ↔ ∃ a ∈ l, p a := by
  constructor
  · rintro ⟨before, a, after, rfl, ha, -⟩
    exact ⟨a, by simp, ha⟩
  · rintro ⟨a, ha, hp⟩
    obtain ⟨before, after, rfl⟩ := List.append_of_mem ha
    exact ⟨before, a, after, rfl, hp, trivial⟩

theorem InOrder.append_left (h : InOrder ps l) (l' : List α) : InOrder ps (l' ++ l) := by
  cases ps with
  | nil => trivial
  | cons p ps =>
      obtain ⟨before, a, after, rfl, ha, hrest⟩ := h
      exact ⟨l' ++ before, a, after, by simp, ha, hrest⟩

theorem InOrder.append (h : InOrder ps l) (h' : InOrder qs l') :
    InOrder (ps ++ qs) (l ++ l') := by
  induction ps generalizing l with
  | nil => exact h'.append_left l
  | cons p ps ih =>
      obtain ⟨before, a, after, rfl, ha, hrest⟩ := h
      exact ⟨before, a, after ++ l', by simp, ha, ih hrest⟩

theorem InOrder.exists_mem (h : InOrder ps l) (hp : p ∈ ps) : ∃ a ∈ l, p a := by
  induction ps generalizing l with
  | nil => simp at hp
  | cons q ps ih =>
      obtain ⟨before, a, after, rfl, ha, hrest⟩ := h
      rcases List.mem_cons.mp hp with rfl | hp
      · exact ⟨a, by simp, ha⟩
      · obtain ⟨b, hb, hpb⟩ := ih hrest hp
        exact ⟨b, by simp [hb], hpb⟩

theorem InOrder.split (h : InOrder (ps ++ r :: qs) l) :
    ∃ before a after, l = before ++ a :: after ∧ r a ∧ InOrder ps before ∧
      InOrder qs after := by
  induction ps generalizing l with
  | nil =>
      obtain ⟨before, a, after, hl, ha, hrest⟩ := h
      exact ⟨before, a, after, hl, ha, trivial, hrest⟩
  | cons p ps ih =>
      obtain ⟨before, a, after, rfl, ha, hrest⟩ := h
      obtain ⟨before', b, after', rfl, hb, hps, hqs⟩ := ih hrest
      exact ⟨before ++ a :: before', b, after', by simp, hb, ⟨before, a, before', rfl, ha, hps⟩,
        hqs⟩

theorem split_unique {before after before' after' : List α} {a b : α}
    (hbefore : ∀ c ∈ before, ¬r c) (hafter : ∀ c ∈ after, ¬r c) (hb : r b)
    (h : before ++ a :: after = before' ++ b :: after') :
    before' = before ∧ b = a ∧ after' = after := by
  induction before generalizing before' with
  | nil =>
      cases before' with
      | nil =>
          obtain ⟨rfl, rfl⟩ := List.cons.inj h
          exact ⟨rfl, rfl, rfl⟩
      | cons c before' =>
          obtain ⟨-, rfl⟩ := List.cons.inj h
          exact absurd hb (hafter b (by simp))
  | cons c before ih =>
      cases before' with
      | nil =>
          obtain ⟨rfl, -⟩ := List.cons.inj h
          exact absurd hb (hbefore _ (by simp))
      | cons d before' =>
          obtain ⟨rfl, htail⟩ := List.cons.inj h
          obtain ⟨rfl, hba, hafter'⟩ := ih (fun e he ↦ hbefore e (by simp [he])) htail
          exact ⟨rfl, hba, hafter'⟩

/-- What must come before the only such element, and what after it. -/
theorem InOrder.split_at {before after : List α} {a : α}
    (h : InOrder (ps ++ r :: qs) (before ++ a :: after)) (hbefore : ∀ c ∈ before, ¬r c)
    (hafter : ∀ c ∈ after, ¬r c) : InOrder ps before ∧ InOrder qs after := by
  obtain ⟨before', b, after', heq, hb, hps, hqs⟩ := h.split
  obtain ⟨rfl, -, rfl⟩ := split_unique hbefore hafter hb heq
  exact ⟨hps, hqs⟩

end DemoIotApp.Library
