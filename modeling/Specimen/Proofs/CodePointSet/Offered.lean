import Specimen.CodePointSet.Sample
import Specimen.Proofs.CodePointSet.WellFormed

namespace Specimen

def charsIn (first last : Nat) : List Char :=
  (List.range' first (min last 0xD7FF + 1 - first) ++
    List.range' (max first 0xE000) (last + 1 - max first 0xE000)).map Char.ofNat

theorem take_range' (limit start count : Nat) :
    (List.range' start count).take limit = List.range' start (min limit count) := by
  by_cases h : count ≤ limit
  · rw [List.take_range'_of_length_le h, Nat.min_eq_right h]
  · rw [List.take_range'_of_length_ge (by omega), Nat.min_eq_left (by omega)]

theorem charsBetween_eq_take (limit first last : Nat) :
    charsBetween limit first last = (charsIn first last).take limit := by
  simp only [charsBetween, charsIn]
  rw [← List.map_take, List.take_append, take_range', take_range', List.length_range',
    List.length_range']
  congr 3
  omega

theorem toNat_ofNat {n : Nat} (h : n.isValidChar) : (Char.ofNat n).toNat = n := by
  rw [Char.ofNat, dif_pos h]
  rfl

theorem valid_of_mem_charsIn {first last n : Nat} (hlast : last ≤ maxCodePoint)
    (h : n ∈ List.range' first (min last 0xD7FF + 1 - first) ++
      List.range' (max first 0xE000) (last + 1 - max first 0xE000)) :
    n.isValidChar ∧ first ≤ n ∧ n ≤ last := by
  rw [maxCodePoint] at hlast
  simp only [List.mem_append, List.mem_range'_1] at h
  simp only [Nat.isValidChar]
  omega

theorem mem_charsIn {first last : Nat} {c : Char} (hlast : last ≤ maxCodePoint) :
    c ∈ charsIn first last ↔ first ≤ c.toNat ∧ c.toNat ≤ last := by
  simp only [charsIn, List.mem_map]
  constructor
  · rintro ⟨n, hn, rfl⟩
    obtain ⟨hvalid, hbounds⟩ := valid_of_mem_charsIn hlast hn
    rw [toNat_ofNat hvalid]
    exact hbounds
  · rintro ⟨hfirst, hle⟩
    refine ⟨c.toNat, ?_, Char.ofNat_toNat c⟩
    have hvalid : c.toNat.isValidChar := c.valid
    simp only [Nat.isValidChar] at hvalid
    simp only [List.mem_append, List.mem_range'_1]
    omega

theorem charsIn_increasing {first last : Nat} (hlast : last ≤ maxCodePoint) :
    (charsIn first last).Pairwise fun a b => a.toNat < b.toNat := by
  have hnumbers : (List.range' first (min last 0xD7FF + 1 - first) ++
      List.range' (max first 0xE000) (last + 1 - max first 0xE000)).Pairwise (· < ·) := by
    refine List.pairwise_append.2 ⟨List.pairwise_lt_range', List.pairwise_lt_range', ?_⟩
    intro a ha b hb
    have := List.mem_range'_1.1 ha
    have := List.mem_range'_1.1 hb
    omega
  refine List.pairwise_map.2 (hnumbers.imp_of_mem fun ha hb hlt => ?_)
  rw [toNat_ofNat (valid_of_mem_charsIn hlast ha).1, toNat_ofNat (valid_of_mem_charsIn hlast hb).1]
  exact hlt

theorem charRange_ascii : charRange '\x00' '\x7f' = charsIn 0 0x7f := by
  decide +kernel

theorem mem_charRange_ascii {c : Char} : c ∈ charRange '\x00' '\x7f' ↔ c.toNat < 0x80 := by
  have hlast : 0x7f ≤ maxCodePoint := by decide
  rw [charRange_ascii, mem_charsIn hlast]
  omega

theorem lt_of_mem_preferredAscii {c : Char} (h : c ∈ preferredAscii) : c.toNat < 0x80 := by
  have hall : preferredAscii.all (fun c => decide (c.toNat < 0x80)) = true := by decide
  exact of_decide_eq_true (List.all_eq_true.1 hall c h)

theorem mem_asciiOrder {c : Char} : c ∈ asciiOrder ↔ c.toNat < 0x80 := by
  simp only [asciiOrder, List.mem_append, List.mem_filter, mem_charRange_ascii]
  constructor
  · rintro (h | ⟨h, _⟩)
    · exact lt_of_mem_preferredAscii h
    · exact h
  · intro h
    by_cases hp : c ∈ preferredAscii
    · exact .inl hp
    · exact .inr ⟨h, by simpa using hp⟩

theorem nodup_of_increasing {cs : List Char} (h : cs.Pairwise fun a b => a.toNat < b.toNat) :
    cs.Nodup := by
  refine h.imp fun hlt heq => ?_
  rw [heq] at hlt
  exact Nat.lt_irrefl _ hlt

theorem preferredAscii_nodup : preferredAscii.Nodup := by
  have hnumbers : (preferredAscii.map Char.toNat).Nodup := by decide +kernel
  exact List.Pairwise.of_map Char.toNat (fun a b hne heq => hne (congrArg Char.toNat heq)) hnumbers

theorem asciiOrder_nodup : asciiOrder.Nodup := by
  have hlast : 0x7f ≤ maxCodePoint := by decide
  have hall : (charRange '\x00' '\x7f').Nodup := by
    rw [charRange_ascii]
    exact nodup_of_increasing (charsIn_increasing hlast)
  refine List.nodup_append.2 ⟨preferredAscii_nodup, hall.filter _, fun a ha b hb heq => ?_⟩
  rw [heq] at ha
  simp [ha] at hb

namespace CodePointSet

def wideChars (ivs : List Interval) : List Char :=
  ivs.flatMap fun iv => charsIn (max iv.first 0x80) iv.last

def offered (s : CodePointSet) : List Char :=
  (asciiOrder.filter fun c => s.contains c.toNat) ++ wideChars s.intervals.toList

theorem beyondAscii_eq_take (limit : Nat) (ivs : List Interval) :
    beyondAscii limit ivs = (wideChars ivs).take limit := by
  induction ivs generalizing limit with
  | nil => exact List.take_nil.symm
  | cons iv rest ih =>
      rw [beyondAscii]
      split
      · next h => rw [h, List.take_zero]
      · simp only [charsBetween_eq_take, ih]
        rw [wideChars, wideChars, List.flatMap_cons, List.take_append]
        congr 2
        rw [List.length_take]
        omega

theorem sample_eq_take (s : CodePointSet) (limit : Nat) : s.sample limit = s.offered.take limit := by
  simp only [sample, offered]
  rw [beyondAscii_eq_take, List.take_append]
  congr 2
  rw [List.length_take]
  omega

theorem mem_wideChars {ivs : List Interval} (hb : Bounded ivs) {c : Char} :
    c ∈ wideChars ivs ↔ 0x80 ≤ c.toNat ∧ ∃ iv ∈ ivs, c.toNat ∈ iv := by
  simp only [wideChars, List.mem_flatMap]
  constructor
  · rintro ⟨iv, hiv, hc⟩
    have hbounds := (mem_charsIn (hb iv hiv).2).1 hc
    exact ⟨by omega, iv, hiv, Interval.mem_def.2 (by omega)⟩
  · rintro ⟨hwide, iv, hiv, hc⟩
    rw [Interval.mem_def] at hc
    exact ⟨iv, hiv, (mem_charsIn (hb iv hiv).2).2 (by omega)⟩

theorem wideChars_increasing {ivs : List Interval} (hb : Bounded ivs) (ha : Apart ivs) :
    (wideChars ivs).Pairwise fun a b => a.toNat < b.toNat := by
  refine List.pairwise_flatMap.2 ⟨fun iv hiv => charsIn_increasing (hb iv hiv).2, ?_⟩
  refine ha.imp_of_mem fun hiv hjv hgap x hx y hy => ?_
  have := (mem_charsIn (hb _ hiv).2).1 hx
  have := (mem_charsIn (hb _ hjv).2).1 hy
  omega

theorem split_by_last {ivs : List Interval} (hb : Bounded ivs) (ha : Apart ivs) (x : Nat) :
    ∃ front back, ivs = front ++ back ∧ (∀ iv ∈ front, iv.last < x) ∧ ∀ iv ∈ back, x ≤ iv.last := by
  induction ivs with
  | nil => exact ⟨[], [], by simp⟩
  | cons iv rest ih =>
      obtain ⟨hgap, hrest⟩ := List.pairwise_cons.1 ha
      have hbrest : Bounded rest := fun a hmem => hb a (List.mem_cons_of_mem iv hmem)
      obtain ⟨front, back, rfl, hfront, hback⟩ := ih hbrest hrest
      by_cases hlt : iv.last < x
      · refine ⟨iv :: front, back, rfl, ?_, hback⟩
        intro a hmem
        rcases List.mem_cons.1 hmem with rfl | hmem
        · exact hlt
        · exact hfront a hmem
      · refine ⟨[], iv :: (front ++ back), rfl, by simp, ?_⟩
        intro a hmem
        rcases List.mem_cons.1 hmem with rfl | hmem
        · omega
        · have := hgap a hmem
          have := (hbrest a hmem).1
          omega

theorem contains_iff {s : CodePointSet} (h : s.WellFormed) (x : Nat) :
    s.contains x = true ↔ x ∈ s := by
  obtain ⟨hb, ha⟩ := wellFormed_iff.1 h
  obtain ⟨front, back, hsplit, hfront, hback⟩ := split_by_last hb ha x
  have hpoint : Search.partitionPoint s.intervals (fun iv => iv.last < x) = front.length :=
    Search.partitionPoint_eq hsplit (fun iv hiv => decide_eq_true (hfront iv hiv))
      (fun iv hiv => decide_eq_false (Nat.not_lt.2 (hback iv hiv)))
  have hget : s.intervals[front.length]? = back.head? := by
    rw [← Array.getElem?_toList, hsplit, List.getElem?_append_right (Nat.le_refl _), Nat.sub_self,
      List.head?_eq_getElem?]
  have hmem : x ∈ s ↔ ∃ iv ∈ back, x ∈ iv := by
    simp only [mem_def, ← Array.mem_toList_iff, hsplit, List.mem_append]
    constructor
    · rintro ⟨iv, hiv | hiv, hx⟩
      · rw [Interval.mem_def] at hx
        have := hfront iv hiv
        omega
      · exact ⟨iv, hiv, hx⟩
    · rintro ⟨iv, hiv, hx⟩
      exact ⟨iv, .inr hiv, hx⟩
  rw [contains, hpoint, hget, hmem]
  cases back with
  | nil => simp
  | cons iv rest =>
      simp only [List.head?_cons, decide_eq_true_eq]
      constructor
      · intro hfirst
        exact ⟨iv, List.mem_cons_self, Interval.mem_def.2 ⟨hfirst, hback iv List.mem_cons_self⟩⟩
      · rintro ⟨other, hother, hx⟩
        rw [Interval.mem_def] at hx
        rcases List.mem_cons.1 hother with rfl | hother
        · exact hx.1
        · -- Everything behind `iv` starts beyond it, so `x` cannot lie there.
          rw [hsplit] at ha
          have hgap := (List.pairwise_cons.1 (List.pairwise_append.1 ha).2.1).1 other hother
          have := hback iv List.mem_cons_self
          omega

variable {s : CodePointSet} (h : s.WellFormed)

include h

theorem mem_offered {c : Char} : c ∈ s.offered ↔ c.toNat ∈ s := by
  simp only [offered, List.mem_append, List.mem_filter, mem_asciiOrder, contains_iff h,
    mem_wideChars (wellFormed_iff.1 h).1, Array.mem_toList_iff]
  constructor
  · rintro (⟨_, hc⟩ | ⟨_, hc⟩)
    · exact hc
    · exact hc
  · intro hc
    rcases Nat.lt_or_ge c.toNat 0x80 with hlow | hhigh
    · exact .inl ⟨hlow, hc⟩
    · exact .inr ⟨hhigh, hc⟩

theorem offered_nodup : s.offered.Nodup := by
  obtain ⟨hb, ha⟩ := wellFormed_iff.1 h
  refine List.nodup_append.2 ⟨asciiOrder_nodup.filter _,
    nodup_of_increasing (wideChars_increasing hb ha), fun a hascii b hwide heq => ?_⟩
  have hlow := mem_asciiOrder.1 (List.mem_filter.1 hascii).1
  have hhigh := ((mem_wideChars hb).1 hwide).1
  rw [heq] at hlow
  omega

end CodePointSet

end Specimen
