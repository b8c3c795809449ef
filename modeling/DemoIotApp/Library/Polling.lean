import DemoIotApp.Library.Prog

/-!
# Loops that poll under a limit

A polling loop has something left to do and takes a reading before each of its
turns. It ends when nothing is left, when a reading says that it is late, or
when a turn fails. How it ends is decided at the heads of the loop, so they are
what the rules speak about.
-/

namespace DemoIotApp.Library

open Prog

/-- Why a polling loop has ended. -/
inductive Ending where
  | done
  | late
  | failed
  deriving DecidableEq

structure Polling (ε W κ σ : Type) where
  done : σ → Bool
  read : Prog ε W κ
  inTime : κ → Bool
  /-- One turn, which may fail. -/
  transfer : σ → Prog ε W (Option σ)
  /-- The run is observed no further. -/
  giveUp : ε

namespace Polling

variable {ε W κ σ : Type} (p : Polling ε W κ σ)

def run : (fuel : ℕ) → σ → Prog ε W Ending
  | 0, _ => Prog.stop p.giveUp
  | fuel + 1, x =>
      if p.done x then
        return .done
      else do
        let reading ← p.read
        if p.inTime reading = false then
          return .late
        else
          match ← p.transfer x with
          | some x' => run fuel x'
          | none => return .failed

/-- From the head of the loop some turns lead to its head again, with a reading each. -/
inductive Turns : σ → W → List κ → σ → W → Prop
  | refl (x : σ) (w : W) : Turns x w [] x w
  | turn {x x₁ x' : σ} {w w₁ w₂ w' : W} {reading : κ} {readings : List κ}
      (hmore : p.done x = false) (hread : p.read w = .ok reading w₁)
      (hin : p.inTime reading = true) (htransfer : p.transfer x w₁ = .ok (some x₁) w₂)
      (hrest : Turns x₁ w₂ readings x' w') : Turns x w (reading :: readings) x' w'

variable {p} {x x' : σ} {w w' : W} {readings : List κ}

theorem run_succ_of_done (fuel : ℕ) (h : p.done x = true) :
    p.run (fuel + 1) x w = .ok .done w := by
  rw [run, if_pos h]
  rfl

theorem run_succ_of_more {reading : κ} {w₁ : W} (fuel : ℕ) (h : p.done x = false)
    (hread : p.read w = .ok reading w₁) :
    p.run (fuel + 1) x w = if p.inTime reading = false then .ok .late w₁ else
      match p.transfer x w₁ with
      | .ok (some x₁) w₂ => p.run fuel x₁ w₂
      | .ok none w₂ => .ok .failed w₂
      | .stop e w₂ => .stop e w₂ := by
  rw [run, if_neg (by simp [h]), bind_eq_of_ok hread]
  split
  · rfl
  · rw [bind_apply]
    cases p.transfer x w₁ with
    | ok r w₂ =>
        cases r with
        | some x₁ => rfl
        | none => rfl
    | stop e w₂ => rfl

/-- The loop ends late exactly when some turns lead to a head with something left and a reading
out of time. -/
theorem run_eq_late_iff :
    (∃ fuel, p.run fuel x w = .ok .late w') ↔ ∃ readings x₁ w₁ reading,
      p.Turns x w readings x₁ w₁ ∧ p.done x₁ = false ∧ p.read w₁ = .ok reading w' ∧
        p.inTime reading = false := by
  constructor
  · rintro ⟨fuel, h⟩
    induction fuel generalizing x w with
    | zero => simp [run, Prog.stop] at h
    | succ fuel ih =>
        cases hdone : p.done x with
        | true => simp [run_succ_of_done fuel hdone] at h
        | false =>
            cases hread : p.read w with
            | stop e w₁ => simp [run, hdone, bind_eq_of_stop hread] at h
            | ok reading w₁ =>
                rw [run_succ_of_more fuel hdone hread] at h
                split at h
                · rename_i hlate
                  obtain ⟨-, rfl⟩ := Outcome.ok.inj h
                  exact ⟨[], x, w, reading, .refl x w, hdone, hread, hlate⟩
                · rename_i hin
                  have hin : p.inTime reading = true := by simpa using hin
                  split at h
                  · rename_i x₁ w₂ htransfer
                    obtain ⟨readings, x₂, w₃, last, hturns, hend⟩ := ih h
                    exact ⟨reading :: readings, x₂, w₃, last,
                      .turn hdone hread hin htransfer hturns, hend⟩
                  · simp at h
                  · simp at h
  · rintro ⟨readings, x₁, w₁, reading, hturns, hmore, hread, hlate⟩
    induction hturns with
    | refl x w => exact ⟨1, by rw [run_succ_of_more 0 hmore hread, if_pos hlate]⟩
    | turn hmore' hread' hin htransfer hrest ih =>
        obtain ⟨fuel, hfuel⟩ := ih hmore hread
        refine ⟨fuel + 1, ?_⟩
        rw [run_succ_of_more fuel hmore' hread', if_neg (by simp [hin]), htransfer]
        exact hfuel

/-- The loop goes on behind a reading only if it was in time. -/
theorem Turns.inTime (h : p.Turns x w readings x' w') : ∀ r ∈ readings, p.inTime r = true := by
  induction h with
  | refl => simp
  | turn _ _ hin _ _ ih => exact List.forall_mem_cons.mpr ⟨hin, ih⟩

end Polling

end DemoIotApp.Library
