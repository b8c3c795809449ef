import DemoIotApp.Library.Prog

/-!
# Machines as specifications

A machine takes one input after the other and answers each of them with some outputs. It says
what a component is for, without the loops and the buffers of the program. A program that
runs over a list of inputs refines the machine when each of its steps is one of the machine's,
seen through an abstraction of the state. If a step stops halfway, a part of the outputs is
there.
-/

namespace DemoIotApp.Library

open Prog

variable {τ κ ω : Type*}

/-- What one input may do. -/
structure Machine (τ κ ω : Type*) where
  Step : τ → κ → τ → List ω → Prop

namespace Machine

variable {M : Machine τ κ ω}

/-- One input after the other, with all outputs in their order. -/
inductive Run (M : Machine τ κ ω) : τ → List κ → τ → List ω → Prop
  | nil (a : τ) : Run M a [] a []
  | cons {a b c : τ} {k : κ} {ks : List κ} {out rest : List ω} (hstep : M.Step a k b out)
      (hrest : Run M b ks c rest) : Run M a (k :: ks) c (out ++ rest)

/-! ## Refinement -/

section Refines

variable {ε σ ι : Type*} {β : Type*} {f : β → ι → Prog ε σ β} {input : β → σ → ι → κ}
  {log : σ → List ω} {R : β → σ → τ → Prop}

/-- The inputs that the machine gets in a run of the program. -/
def inputsAlong (f : β → ι → Prog ε σ β) (input : β → σ → ι → κ) : List ι → β → σ → List κ
  | [], _, _ => []
  | i :: is, b, s =>
      input b s i :: match f b i s with
        | .ok b' t => inputsAlong f input is b' t
        | .stop _ _ => []

/-- What is true of the input in every state that a run can reach is true of all its inputs. -/
theorem mem_inputsAlong {I : β → σ → Prop} {K : κ → Prop} {is : List ι}
    (hstep : ∀ b s i, I b s → Post (f b i) s I fun _ _ ↦ True)
    (hinput : ∀ b s, ∀ i ∈ is, I b s → K (input b s i)) {b : β} {s : σ} (hI : I b s) :
    ∀ k ∈ inputsAlong f input is b s, K k := by
  induction is generalizing b s with
  | nil => exact fun k hk ↦ nomatch hk
  | cons i is ih =>
      intro k hk
      rcases List.mem_cons.mp hk with rfl | hk
      · exact hinput b s i List.mem_cons_self hI
      · cases hf : f b i s with
        | ok b' t =>
            rw [hf] at hk
            exact ih (fun b s j hj ↦ hinput b s j (List.mem_cons_of_mem i hj))
              ((hstep b s i hI).ok hf) k hk
        | stop e t =>
            rw [hf] at hk
            exact nomatch hk

/-- Every step of the program is a step of the machine, and the log has the outputs. -/
def Refines (M : Machine τ κ ω) (f : β → ι → Prog ε σ β) (input : β → σ → ι → κ)
    (log : σ → List ω) (R : β → σ → τ → Prop) : Prop :=
  ∀ b s i a, R b s a → Post (f b i) s
    (fun b' t ↦ ∃ a' out, M.Step a (input b s i) a' out ∧ log t = log s ++ out ∧ R b' t a')
    fun _ t ↦ ∃ a' out sent, M.Step a (input b s i) a' out ∧ log t = log s ++ sent ∧ sent <+: out

/-- A run of the program is a run of the machine. If it stops, it has logged a part of the
outputs. -/
theorem Refines.run (h : M.Refines f input log R) (is : List ι) {b : β} {s : σ} {a : τ}
    (ha : R b s a) :
    Post (is.foldlM f b) s
      (fun b' t ↦ ∃ a' outs, M.Run a (inputsAlong f input is b s) a' outs ∧
        log t = log s ++ outs ∧ R b' t a')
      fun _ t ↦ ∃ a' outs sent, M.Run a (inputsAlong f input is b s) a' outs ∧
        log t = log s ++ sent ∧ sent <+: outs := by
  induction is generalizing b s a with
  | nil => exact ⟨a, [], .nil a, (List.append_nil _).symm, ha⟩
  | cons i is ih =>
      rw [List.foldlM_cons, post_bind, inputsAlong]
      apply post_intro
      · intro b₁ s₁ hstep
        obtain ⟨a₁, out, hout, hlog, ha₁⟩ := (h b s i a ha).ok hstep
        rw [hstep]
        refine (ih ha₁).mono ?_ ?_
        · rintro b' t ⟨a', outs, houts, hlog', ha'⟩
          exact ⟨a', out ++ outs, .cons hout houts, by rw [hlog', hlog, List.append_assoc], ha'⟩
        · rintro e t ⟨a', outs, sent, houts, hlog', hsent⟩
          exact ⟨a', out ++ outs, out ++ sent, .cons hout houts,
            by rw [hlog', hlog, List.append_assoc], (List.prefix_append_right_inj out).mpr hsent⟩
      · intro e t hstep
        obtain ⟨a', out, sent, hout, hlog, hsent⟩ := (h b s i a ha).stop hstep
        rw [hstep]
        exact ⟨a', out ++ [], sent, .cons hout (.nil a'), hlog, by rwa [List.append_nil]⟩

end Refines

end Machine

end DemoIotApp.Library
