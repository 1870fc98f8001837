import Specimen.Reader.Cursor
import Specimen.Reader.Error
import Specimen.Reader.Run
/-!
Results of reading with every assumption looked at. A fault is an assumption that does not hold where it is
made; to reject a text is an answer like any other.
-/

namespace Specimen

open Reader

inductive Fault where
  | otherCharacter (x : Char)
  | emptyInterval
  | intervalTooLarge
  | notMergeable
  | notApart
  | entryFound
  | indexTooLarge
  | overflow
  | underflow
  | unexpectedCharacter (x : Char)
  | endless
  deriving DecidableEq, Repr

inductive Failure where
  | fault (fault : Fault)
  | rejected (reason : SyntaxError)
  deriving DecidableEq, Repr

abbrev Checked (α : Type) : Type := Except Failure α

namespace Checked

variable {α β σ τ ρ : Type}

@[simp]
theorem ok_bind (a : α) (f : α → Checked β) : (Except.ok a : Checked α) >>= f = f a := rfl

@[simp]
theorem error_bind (failure : Failure) (f : α → Checked β) :
    (Except.error failure : Checked α) >>= f = .error failure := rfl

@[simp]
theorem pure_eq (a : α) : (pure a : Checked α) = .ok a := rfl

theorem bind_eq_ok_iff {x : Checked α} {f : α → Checked β} {b : β} :
    x >>= f = .ok b ↔ ∃ a, x = .ok a ∧ f a = .ok b := by
  cases x with
  | error failure => simp
  | ok a => simp

def fault (fault : Fault) : Checked α := .error (.fault fault)

def reject (reason : SyntaxError) : Checked α := .error (.rejected reason)

def ofRead (x : Except SyntaxError α) : Checked α := x.mapError .rejected

@[simp]
theorem ofRead_ok (a : α) : ofRead (.ok a) = .ok a := rfl

theorem ofRead_ne_fault (x : Except SyntaxError α) (f : Fault) : ofRead x ≠ fault f := by
  cases x with
  | ok a => exact fun h => by cases h
  | error reason => exact fun h => by cases h

def ensure (p : Prop) [Decidable p] (f : Fault) : Checked Unit := if p then .ok () else fault f

theorem ensure_eq_ok_iff {p : Prop} [Decidable p] {f : Fault} : ensure p f = .ok () ↔ p := by
  simp only [ensure]
  split
  · next h => exact iff_of_true rfl h
  · next h => exact iff_of_false (fun heq => by cases heq) h

theorem ensure_of {p : Prop} [Decidable p] {f : Fault} (h : p) : ensure p f = .ok () :=
  ensure_eq_ok_iff.2 h

theorem ensure_bind_eq_ok_iff {p : Prop} [Decidable p] {f : Fault} {k : Unit → Checked α} {a : α} :
    ensure p f >>= k = .ok a ↔ p ∧ k () = .ok a := by
  rw [bind_eq_ok_iff]
  constructor
  · rintro ⟨⟨⟩, hp, hk⟩
    exact ⟨ensure_eq_ok_iff.1 hp, hk⟩
  · rintro ⟨hp, hk⟩
    exact ⟨(), ensure_of hp, hk⟩

def wordSize (bits : Nat) : Nat := Nat.pow 2 bits

def fits (bits n : Nat) : Checked Nat := do
  ensure (n < wordSize bits) .overflow
  return n

theorem fits_of_lt {bits n : Nat} (h : n < wordSize bits) : fits bits n = .ok n := by
  rw [fits, ensure_of h]
  rfl

def minus (m n : Nat) : Checked Nat := do
  ensure (n ≤ m) .underflow
  return m - n

theorem minus_of_le {m n : Nat} (h : n ≤ m) : minus m n = .ok (m - n) := by
  rw [minus, ensure_of h]
  rfl

def consume (x : Char) (c : Cursor) : Checked Cursor :=
  match c.next? with
  | some (y, d) => if y = x then .ok d else fault (.otherCharacter x)
  | none => fault (.otherCharacter x)

theorem consume_eq_ok_iff {x : Char} {c d : Cursor} :
    consume x c = .ok d ↔ c.next? = some (x, d) := by
  simp only [consume]
  split
  · next y e hnext =>
      split
      · next hy => simp [hnext, hy]
      · next hy => simp [fault, hnext, hy]
  · next hnext => simp [fault, hnext]

theorem consume_of_next? {x : Char} {c d : Cursor} (h : c.next? = some (x, d)) :
    consume x c = .ok d :=
  consume_eq_ok_iff.2 h

def mapState (f : σ → τ) : Progress σ ρ → Progress τ ρ
  | .more s => .more (f s)
  | .done r => .done r

def runWithin (step : σ → Checked (Progress σ ρ)) : (steps : Nat) → σ → Checked ρ
  | 0, _ => fault .endless
  | steps + 1, s => do
      match ← step s with
      | .more t => runWithin step steps t
      | .done r => return r

theorem runWithin_eq {checked : τ → Checked (Progress τ ρ)} (form : σ → τ)
    {step : σ → Except SyntaxError (Progress σ ρ)} {size : σ → Nat}
    (shrinks : ∀ {s t}, step s = .ok (.more t) → size t < size s) {P : σ → Prop}
    (same : ∀ {s}, P s → checked (form s) = ofRead ((step s).map (mapState form)))
    (keeps : ∀ {s t}, P s → step s = .ok (.more t) → P t) {steps : Nat} {s : σ} (hs : P s)
    (hsize : size s < steps) : runWithin checked steps (form s) = ofRead (run step size shrinks s) := by
  induction steps generalizing s with
  | zero => exact absurd hsize (Nat.not_lt_zero _)
  | succ steps ih =>
      rw [runWithin, same hs, run_eq]
      cases hstep : step s with
      | error reason => rfl
      | ok progress =>
          cases progress with
          | more t => exact ih (keeps hs hstep) (Nat.lt_of_lt_of_le (shrinks hstep) (Nat.le_of_lt_succ hsize))
          | done r => rfl

end Checked

end Specimen
