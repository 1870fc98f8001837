namespace Specimen.Text

def hexDigit? (c : Char) : Option Nat :=
  if '0' ≤ c ∧ c ≤ '9' then some (c.toNat - '0'.toNat)
  else if 'a' ≤ c ∧ c ≤ 'f' then some (c.toNat - 'a'.toNat + 10)
  else if 'A' ≤ c ∧ c ≤ 'F' then some (c.toNat - 'A'.toNat + 10)
  else none

/-- The value of a digit below `base`, for a base of at most 16. -/
def digit? (base : Nat) (c : Char) : Option Nat :=
  (hexDigit? c).filter (· < base)

theorem digit?_lt {base d : Nat} {c : Char} (h : digit? base c = some d) : d < base := by
  simpa using (Option.filter_eq_some_iff.1 h).2

def isDigit (base : Nat) (c : Char) : Bool := (digit? base c).isSome

/-- The number that `digits` write after the number `value`; what is no digit counts as zero. -/
def numeralFrom (base value : Nat) (digits : List Char) : Nat :=
  digits.foldl (fun value c => value * base + (digit? base c).getD 0) value

theorem numeralFrom_lt (base : Nat) (h : 0 < base) (digits : List Char) (value n : Nat)
    (hv : value < base.pow n) : numeralFrom base value digits < base.pow (n + digits.length) := by
  induction digits generalizing value n with
  | nil => exact hv
  | cons c cs ih =>
      have hd : (digit? base c).getD 0 < base := by
        cases hc : digit? base c with
        | none => simpa using h
        | some d => simpa using digit?_lt hc
      have step : value * base + (digit? base c).getD 0 < base.pow (n + 1) := by
        calc value * base + (digit? base c).getD 0
            < value * base + base := by omega
          _ = (value + 1) * base := by rw [Nat.add_mul, Nat.one_mul]
          _ ≤ base.pow n * base := Nat.mul_le_mul_right _ hv
      have := ih _ _ step
      rwa [Nat.add_assoc, Nat.add_comm 1] at this

def numeral (base : Nat) (digits : List Char) : Nat := numeralFrom base 0 digits

end Specimen.Text
