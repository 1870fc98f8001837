import Std.Data.HashSet

namespace Specimen

variable {α : Type} [BEq α] [Hashable α]

def distinctFrom (seen : Std.HashSet α) (done : List α) : List α → List α
  | [] => done.reverse
  | a :: rest =>
      if seen.contains a then distinctFrom seen done rest
      else distinctFrom (seen.insert a) (a :: done) rest

def distinct (entries : List α) : List α := distinctFrom ∅ [] entries

variable [LawfulBEq α] [LawfulHashable α]

theorem distinctFrom_eq {seen : Std.HashSet α} {done entries : List α}
    (h : ∀ a, a ∈ seen ↔ a ∈ done) :
    distinctFrom seen done entries =
      done.reverse ++ (entries.filter fun a => !done.contains a).eraseDups := by
  induction entries generalizing seen done with
  | nil => simp [distinctFrom]
  | cons b rest ih =>
      simp only [distinctFrom]
      split
      · next hb =>
          have : b ∈ done := (h b).1 (Std.HashSet.mem_iff_contains.2 hb)
          rw [ih h]
          simp [this]
      · next hb =>
          have hd : b ∉ done := fun hm => hb (Std.HashSet.mem_iff_contains.1 ((h b).2 hm))
          have hs : ∀ x, x ∈ seen.insert b ↔ x ∈ b :: done := by
            intro x
            rw [Std.HashSet.mem_insert, List.mem_cons, h, beq_iff_eq]
            grind
          rw [ih hs]
          simp [hd, List.eraseDups_cons, List.filter_filter]

theorem distinct_eq_eraseDups (entries : List α) : distinct entries = entries.eraseDups := by
  rw [distinct, distinctFrom_eq (by simp), List.filter_eq_self.2 (by simp)]
  rfl

theorem mem_distinct {entries : List α} (a : α) : a ∈ distinct entries ↔ a ∈ entries := by
  rw [distinct_eq_eraseDups, List.mem_eraseDups]

def distinctChars (cs : List Char) : List Char := @distinct Char _ instHashableChar cs

theorem distinctChars_eq_eraseDups (cs : List Char) : distinctChars cs = cs.eraseDups :=
  @distinct_eq_eraseDups Char _ instHashableChar _ _ cs

end Specimen
