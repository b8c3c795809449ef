import DemoIotApp.Library.Prog
import Mathlib.Data.List.Basic

/-!
# Steps up to the first that fails

Some steps are to be taken one after the other. Each returns a code, and the first code
other than that of a success ends the sequence. What was taken is returned with its codes.
-/

namespace DemoIotApp.Library

open Prog

variable {ε W ι κ σ : Type} [DecidableEq κ]

/-- Take the steps in order, and none behind one that fails. -/
def takeSteps (run : ι → σ → Prog ε W (κ × σ)) (success : κ) :
    List ι → σ → Prog ε W (List (ι × κ) × σ)
  | [], x => return ([], x)
  | step :: steps, x => do
      let (code, x) ← run step x
      if code ≠ success then
        return ([(step, code)], x)
      else
        let (taken, x) ← takeSteps run success steps x
        return ((step, code) :: taken, x)

/-- These are the first of the steps, only the last of them may have failed, and it has if steps
are left. -/
structure Taken (success : κ) (steps : List ι) (taken : List (ι × κ)) : Prop where
  prefix_steps : taken.map Prod.fst <+: steps
  succeeded : ∀ c ∈ taken.dropLast, c.2 = success
  complete : (∀ c ∈ taken, c.2 = success) → taken.map Prod.fst = steps

variable {run : ι → σ → Prog ε W (κ × σ)} {success : κ}

theorem yields_takeSteps (steps : List ι) (x : σ) :
    Yields (fun r ↦ Taken success steps r.1) (takeSteps run success steps x) := by
  induction steps generalizing x with
  | nil => exact keeps_pure ⟨List.prefix_rfl, by simp, by simp⟩
  | cons step steps ih =>
      apply (yields_true _).bind
      rintro ⟨code, x'⟩ -
      refine keeps_ite (fun hfailed ↦ keeps_pure ⟨?_, by simp, ?_⟩) fun hcode ↦ ?_
      · exact List.prefix_append [step] steps
      · exact fun hall ↦ absurd (hall _ (List.mem_singleton_self _)) hfailed
      apply (ih x').bind
      rintro ⟨taken, x''⟩ htaken
      refine keeps_pure ⟨?_, ?_, ?_⟩
      · exact (List.prefix_cons_inj step).mpr htaken.prefix_steps
      · intro c hc
        cases taken with
        | nil => simp at hc
        | cons c' taken =>
            rw [List.dropLast_cons_of_ne_nil (by simp)] at hc
            rcases List.mem_cons.mp hc with rfl | hc
            · exact not_not.mp hcode
            · exact htaken.succeeded c hc
      · intro hall
        have hrest := htaken.complete fun c hc ↦ hall c (List.mem_cons_of_mem _ hc)
        rw [List.map_cons, hrest]

/-- Taking more steps goes on where all steps before have succeeded. -/
theorem takeSteps_append (steps steps' : List ι) (x : σ) :
    takeSteps run success (steps ++ steps') x = do
      let (taken, x) ← takeSteps run success steps x
      if ∀ c ∈ taken, c.2 = success then
        let (taken', x) ← takeSteps run success steps' x
        return (taken ++ taken', x)
      else
        return (taken, x) := by
  induction steps generalizing x with
  | nil => simp [takeSteps]
  | cons step steps ih =>
      simp only [List.cons_append, takeSteps, bind_assoc]
      refine bind_congr fun r ↦ ?_
      by_cases hcode : r.1 = success
      · simp only [hcode, ne_eq, not_true_eq_false, if_false, ih, bind_assoc, pure_bind,
          List.mem_cons, forall_eq_or_imp, true_and]
        refine bind_congr fun r' ↦ ?_
        split_ifs <;> simp
      · simp [hcode]

end DemoIotApp.Library
