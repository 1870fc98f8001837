import Specimen.Proofs.CodePointSet.Members
import Specimen.Proofs.Sample.Exactness

namespace Specimen

def sampleOrder : List Char := asciiOrder ++ charsIn 0x80 maxCodePoint

theorem mem_sampleOrder (c : Char) : c ∈ sampleOrder := by
  rw [sampleOrder, List.mem_append, mem_asciiOrder, mem_charsIn (Nat.le_refl _)]
  have hmax := CodePointSet.toNat_le_maxCodePoint c
  omega

theorem sampleOrder_nodup : sampleOrder.Nodup := by
  have hwide : (charsIn 0x80 maxCodePoint).Nodup :=
    nodup_of_increasing (charsIn_increasing (Nat.le_refl _))
  refine List.nodup_append.2 ⟨asciiOrder_nodup, hwide, fun a hascii b hb heq => ?_⟩
  have hlow := mem_asciiOrder.1 hascii
  have hhigh := ((mem_charsIn (Nat.le_refl _)).1 hb).1
  rw [heq] at hlow
  omega

theorem eq_of_increasing {as bs : List Char} (ha : as.Pairwise fun a b => a.toNat < b.toNat)
    (hb : bs.Pairwise fun a b => a.toNat < b.toNat) (h : ∀ c, c ∈ as ↔ c ∈ bs) : as = bs := by
  refine List.Perm.eq_of_pairwise (fun a b _ _ hab hba => absurd hab (Nat.lt_asymm hba)) ha hb ?_
  exact (List.perm_ext_iff_of_nodup (nodup_of_increasing ha) (nodup_of_increasing hb)).2 h

section Alternates

variable {α : Type} [BEq α] [LawfulBEq α] {entries : List α}

theorem take_eraseDups_take_append (h : entries.Nodup) (limit : Nat) (f : α → Option α) :
    ((entries.take limit ++ (entries.take limit).filterMap f).eraseDups).take limit =
      ((entries ++ entries.filterMap f).eraseDups).take limit := by
  rcases Nat.le_total entries.length limit with hshort | hlong
  · rw [List.take_of_length_le hshort]
  · have hfront : (entries.take limit).Nodup := h.sublist (List.take_sublist _ _)
    have hlength : (entries.take limit).length = limit := List.length_take_of_le hlong
    rw [List.eraseDups_append, List.eraseDups_append, eraseDups_of_nodup hfront,
      eraseDups_of_nodup h, List.take_append_of_le_length hlong,
      List.take_append_of_le_length (Nat.le_of_eq hlength.symm), List.take_take, Nat.min_self]

end Alternates

namespace CodePointSet

instance (s : CodePointSet) (x : Nat) : Decidable (x ∈ s) :=
  inferInstanceAs (Decidable (∃ iv ∈ s.intervals, x ∈ iv))

def memberChars (s : CodePointSet) : List Char := sampleOrder.filter fun c => c.toNat ∈ s

variable {s : CodePointSet}

theorem mem_memberChars {c : Char} : c ∈ s.memberChars ↔ c.toNat ∈ s := by
  rw [memberChars, List.mem_filter, decide_eq_true_eq]
  exact and_iff_right (mem_sampleOrder c)

theorem memberChars_nodup (s : CodePointSet) : s.memberChars.Nodup := sampleOrder_nodup.filter _

theorem wideChars_eq_filter (h : s.WellFormed) : wideChars s.intervals.toList =
    (charsIn 0x80 maxCodePoint).filter fun c => c.toNat ∈ s := by
  obtain ⟨hb, ha⟩ := wellFormed_iff.1 h
  refine eq_of_increasing (wideChars_increasing hb ha)
    ((charsIn_increasing (Nat.le_refl _)).filter _) fun c => ?_
  have hmax := toNat_le_maxCodePoint c
  simp only [mem_wideChars hb, List.mem_filter, mem_charsIn (Nat.le_refl _), decide_eq_true_eq,
    mem_def, Array.mem_toList_iff, and_iff_left hmax]

theorem offered_eq_memberChars (h : s.WellFormed) : s.offered = s.memberChars := by
  have hascii : (fun c : Char => s.contains c.toNat) = fun c => decide (c.toNat ∈ s) :=
    funext fun c => Bool.eq_iff_iff.2 (by rw [contains_iff h, decide_eq_true_eq])
  rw [offered, wideChars_eq_filter h, hascii, memberChars, sampleOrder, List.filter_append]

theorem charSamples_sample (h : s.WellFormed) (limits : Limits) (icase : Bool) :
    charSamples limits (s.sample limits.groupResults) icase =
      ((withAlternates s.memberChars icase).take limits.groupResults).map .ofChar := by
  have hcut : (withAlternates (s.memberChars.take limits.groupResults) icase).take limits.groupResults =
      (withAlternates s.memberChars icase).take limits.groupResults := by
    cases icase with
    | false =>
        have hplain (cs : List Char) : withAlternates cs false = cs := rfl
        rw [hplain, hplain, List.take_take, Nat.min_self]
    | true =>
        have hdistinct (cs : List Char) : withAlternates cs true =
            (cs ++ cs.filterMap Unicode.Case.alternate?).eraseDups :=
          distinctChars_eq_eraseDups _
        rw [hdistinct, hdistinct, take_eraseDups_take_append s.memberChars_nodup]
  have hsamples (cs : List Char) : charSamples limits cs icase =
      ((withAlternates cs icase).take limits.groupResults).map .ofChar := rfl
  rw [hsamples, sample_eq_take, offered_eq_memberChars h, hcut]

theorem sample_eq_take_memberChars (h : s.WellFormed) :
    (∀ limit, s.sample limit = s.memberChars.take limit ∧
        (s.sample limit).length = min limit s.memberChars.length ∧ (s.sample limit).Nodup ∧
        ∀ c ∈ s.sample limit, c.toNat ∈ s) ∧
      ∀ limits : Limits,
        (Node.bracket s false).samples limits =
            (s.memberChars.take limits.groupResults).map .ofChar ∧
          (Node.bracket s true).samples limits =
            (((s.memberChars ++ s.memberChars.filterMap Unicode.Case.alternate?).eraseDups).take
              limits.groupResults).map .ofChar := by
  refine ⟨fun limit => ?_, fun limits => ⟨?_, ?_⟩⟩
  · have hsample : s.sample limit = s.memberChars.take limit := by
      rw [sample_eq_take, offered_eq_memberChars h]
    rw [hsample]
    refine ⟨rfl, List.length_take, s.memberChars_nodup.sublist (List.take_sublist _ _), ?_⟩
    exact fun c hc => mem_memberChars.1 (List.mem_of_mem_take hc)
  · exact charSamples_sample h limits false
  · have hmarked := charSamples_sample h limits true
    rw [withAlternates, if_pos rfl, distinctChars_eq_eraseDups] at hmarked
    exact hmarked

theorem sample_across_surrogates :
    (ofIntervals [⟨0x7d, 0x81⟩, ⟨0xd7ff, 0xe001⟩]).WellFormed ∧
      (ofIntervals [⟨0x7d, 0x81⟩, ⟨0xd7ff, 0xe001⟩]).memberChars.take 7 =
        ['\x7d', '~', '\x7f', '\u0080', '\u0081', '\ud7ff', '\ue000'] ∧
      (Node.bracket (ofIntervals [⟨0x7d, 0x81⟩, ⟨0xd7ff, 0xe001⟩]) false).samples ⟨2, 0, 1⟩ =
        [.ofChar '\x7d', .ofChar '~'] := by
  have hwell : (ofIntervals [⟨0x7d, 0x81⟩, ⟨0xd7ff, 0xe001⟩]).WellFormed :=
    wellFormed_ofIntervals (by decide) (by decide)
  obtain ⟨hsample, hsamples⟩ := sample_eq_take_memberChars hwell
  have hseven : (ofIntervals [⟨0x7d, 0x81⟩, ⟨0xd7ff, 0xe001⟩]).sample 7 =
      ['\x7d', '~', '\x7f', '\u0080', '\u0081', '\ud7ff', '\ue000'] := by decide +kernel
  have htake := (hsample 7).1.symm.trans hseven
  have htwo := congrArg (List.take 2) htake
  rw [List.take_take] at htwo
  refine ⟨hwell, htake, (hsamples ⟨2, 0, 1⟩).1.trans ?_⟩
  exact congrArg (List.map Sample.ofChar) htwo

end CodePointSet

end Specimen
