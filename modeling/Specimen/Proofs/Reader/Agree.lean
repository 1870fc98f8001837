import Specimen.Reader.Run
/-!
Two runs side by side. Two results agree if both are the same failure, or both are successes that are related;
two machines whose steps agree have runs that agree.
-/

namespace Specimen.Reader

inductive Agree {ε α β : Type} (R : α → β → Prop) : Except ε α → Except ε β → Prop where
  | ok {a : α} {b : β} : R a b → Agree R (.ok a) (.ok b)
  | error (reason : ε) : Agree R (.error reason) (.error reason)

theorem ok_iff_of_error {ε α β : Type} {R : α → β → Prop} {x : Except ε α} {y : Except ε β}
    {reason cause : ε} (hx : x = .error reason) (hy : y = .error cause) :
    ((∃ b, y = .ok b) ↔ ∃ a, x = .ok a) ∧ ∀ a b, x = .ok a → y = .ok b → R a b := by
  subst hx hy
  constructor
  · constructor
    · rintro ⟨b, hb⟩
      cases hb
    · rintro ⟨a, ha⟩
      cases ha
  · intro a b ha
    cases ha

namespace Agree

variable {ε α β γ : Type} {R S : α → β → Prop} {x : Except ε α} {y : Except ε β}

theorem elim (h : Agree R x y) : (∃ a b, x = .ok a ∧ y = .ok b ∧ R a b) ∨
    ∃ reason, x = .error reason ∧ y = .error reason := by
  cases h with
  | ok hab => exact .inl ⟨_, _, rfl, rfl, hab⟩
  | error reason => exact .inr ⟨reason, rfl, rfl⟩

theorem mono (h : Agree R x y) (himp : ∀ a b, x = .ok a → y = .ok b → R a b → S a b) :
    Agree S x y := by
  cases h with
  | ok hab => exact .ok (himp _ _ rfl rfl hab)
  | error reason => exact .error reason

theorem refl {R : α → α → Prop} (h : ∀ a, R a a) (x : Except ε α) : Agree R x x := by
  cases x with
  | ok a => exact .ok (h a)
  | error reason => exact .error reason

theorem map {σ τ : Type} {T : σ → τ → Prop} (h : Agree R x y) (f : α → σ) (g : β → τ)
    (hfg : ∀ a b, R a b → T (f a) (g b)) : Agree T (x.map f) (y.map g) := by
  cases h with
  | ok hab => exact .ok (hfg _ _ hab)
  | error reason => exact .error reason

theorem map_right {R : α → γ → Prop} {f : β → γ} (h : Agree (fun a b => R a (f b)) x y) :
    Agree R x (y.map f) := by
  cases h with
  | ok hab => exact .ok hab
  | error reason => exact .error reason

theorem eq_map {f : α → β} (h : Agree (fun a b => b = f a) x y) : y = x.map f := by
  cases h with
  | ok hab => rw [hab]; rfl
  | error reason => rfl

theorem ok_iff (h : Agree R x y) : ((∃ b, y = .ok b) ↔ ∃ a, x = .ok a) ∧
    ∀ a b, x = .ok a → y = .ok b → R a b := by
  obtain ⟨a, b, rfl, rfl, hab⟩ | ⟨reason, rfl, rfl⟩ := h.elim
  · refine ⟨⟨fun _ => ⟨a, rfl⟩, fun _ => ⟨b, rfl⟩⟩, ?_⟩
    rintro _ _ ⟨⟩ ⟨⟩
    exact hab
  · exact ok_iff_of_error rfl rfl

end Agree

inductive Progress.Related {σ τ ρ π : Type} (R : σ → τ → Prop) (Q : ρ → π → Prop) :
    Progress σ ρ → Progress τ π → Prop where
  | more {s : σ} {t : τ} : R s t → Related R Q (.more s) (.more t)
  | done {r : ρ} {q : π} : Q r q → Related R Q (.done r) (.done q)

section Runs

variable {σ τ ρ π ε : Type} {step : σ → Except ε (Progress σ ρ)} {size : σ → Nat}
  {shrinks : ∀ {s t}, step s = .ok (.more t) → size t < size s}
  {other : τ → Except ε (Progress τ π)} {measure : τ → Nat}
  {declines : ∀ {s t}, other s = .ok (.more t) → measure t < measure s}
  {R : σ → τ → Prop} {Q : ρ → π → Prop} {s : σ} {t : τ}

theorem run_agree_of_step (hst : Agree (Progress.Related R Q) (step s) (other t))
    (hmore : ∀ {u v}, step s = .ok (.more u) → R u v →
      Agree Q (run step size shrinks u) (run other measure declines v)) :
    Agree Q (run step size shrinks s) (run other measure declines t) := by
  rw [run_eq step, run_eq other]
  obtain ⟨_, _, hs, ht, hrelated⟩ | ⟨reason, hs, ht⟩ := hst.elim
  · rw [hs, ht]
    cases hrelated with
    | more hnext => exact hmore hs hnext
    | done hresult => exact .ok hresult
  · rw [hs, ht]
    exact .error reason

theorem run_agree (h : ∀ {s t}, R s t → Agree (Progress.Related R Q) (step s) (other t))
    (hst : R s t) : Agree Q (run step size shrinks s) (run other measure declines t) := by
  induction hsize : size s using Nat.strongRecOn generalizing s t with
  | ind n ih => exact run_agree_of_step (h hst) fun hu hnext => ih _ (hsize ▸ shrinks hu) hnext rfl

end Runs

end Specimen.Reader
