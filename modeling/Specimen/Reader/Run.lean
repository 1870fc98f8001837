/-!
Machines whose every step leaves less to do.
-/

namespace Specimen.Reader

inductive Progress (σ ρ : Type) where
  | more (state : σ)
  | done (result : ρ)

variable {σ ρ ε : Type}

def run (step : σ → Except ε (Progress σ ρ)) (size : σ → Nat)
    (shrinks : ∀ {s t}, step s = .ok (.more t) → size t < size s) (s : σ) : Except ε ρ :=
  match _ : step s with
  | .ok (.more t) => run step size shrinks t
  | .ok (.done result) => .ok result
  | .error reason => .error reason
termination_by size s
decreasing_by exact shrinks ‹_›

theorem run_eq (step : σ → Except ε (Progress σ ρ)) (size : σ → Nat)
    (shrinks : ∀ {s t}, step s = .ok (.more t) → size t < size s) (s : σ) :
    run step size shrinks s =
      match step s with
      | .ok (.more t) => run step size shrinks t
      | .ok (.done result) => .ok result
      | .error reason => .error reason := by
  rw [run]
  split <;> simp_all

theorem run_of_more {step : σ → Except ε (Progress σ ρ)} {size : σ → Nat}
    (shrinks : ∀ {s t}, step s = .ok (.more t) → size t < size s) {s t : σ}
    (h : step s = .ok (.more t)) : run step size shrinks s = run step size shrinks t := by
  rw [run_eq, h]

theorem run_of_done {step : σ → Except ε (Progress σ ρ)} {size : σ → Nat}
    (shrinks : ∀ {s t}, step s = .ok (.more t) → size t < size s) {s : σ} {r : ρ}
    (h : step s = .ok (.done r)) : run step size shrinks s = .ok r := by
  rw [run_eq, h]

theorem run_induction {step : σ → Except ε (Progress σ ρ)} {size : σ → Nat}
    (shrinks : ∀ {s t}, step s = .ok (.more t) → size t < size s) {P : σ → Prop} {Q : ρ → Prop}
    (keeps : ∀ {s t}, P s → step s = .ok (.more t) → P t)
    (ends : ∀ {s r}, P s → step s = .ok (.done r) → Q r) {s : σ} {r : ρ} (hs : P s)
    (h : run step size shrinks s = .ok r) : Q r := by
  fun_induction run step size shrinks s with
  | case1 s t hst ih => exact ih (keeps hs hst) h
  | case2 s result hst => cases h; exact ends hs hst
  | case3 => simp at h

end Specimen.Reader
