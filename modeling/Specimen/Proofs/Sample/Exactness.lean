import Specimen.Proofs.Sample.Soundness

namespace Specimen

variable {α : Type} [BEq α]

theorem eraseDups_of_nodup [LawfulBEq α] {as : List α} (h : as.Nodup) : as.eraseDups = as := by
  induction as with
  | nil => rfl
  | cons a rest ih =>
      obtain ⟨ha, hrest⟩ := List.nodup_cons.1 h
      have hfilter : rest.filter (fun b => !b == a) = rest := by
        refine List.filter_eq_self.2 fun b hb => ?_
        have hne : b ≠ a := fun heq => ha (heq ▸ hb)
        simpa using hne
      rw [List.eraseDups_cons, hfilter, ih hrest]

theorem length_eraseDups_le (as : List α) : as.eraseDups.length ≤ as.length := by
  match as with
  | [] => exact Nat.le_refl _
  | a :: rest =>
      have hfilter := List.length_filter_le (fun b => !b == a) rest
      have := length_eraseDups_le (rest.filter fun b => !b == a)
      rw [List.eraseDups_cons, List.length_cons, List.length_cons]
      omega
termination_by as.length

theorem length_le_withAlternates {cs : List Char} (h : cs.Nodup) (icase : Bool) :
    cs.length ≤ (withAlternates cs icase).length := by
  rw [withAlternates]
  split
  · rw [distinctChars_eq_eraseDups, List.eraseDups_append, eraseDups_of_nodup h, List.length_append]
    exact Nat.le_add_right _ _
  · exact Nat.le_refl _

def powersFit (limit : Nat) (inner : List Sample) (least spread : Nat) : Bool :=
  ((List.range (least + spread)).all fun count => (fullPower inner (count + 1)).length ≤ limit) &&
    (fullPowers inner least spread).length ≤ limit

mutual

/-- Whether no list that a limit applies to is longer than the limit, had all of it been made. -/
def Node.fits (limits : Limits) : Node → Bool
  | .empty => true
  | .anchor _ => true
  | .toggleRest _ => true
  | .char c icase => (withAlternates [c] icase).length ≤ limits.groupResults
  | .bracket set icase => (withAlternates set.offered icase).length ≤ limits.groupResults
  | .cat items => catFits limits [.empty] items
  | .alt branches => allFit limits branches &&
      (altAll limits.repeatVariance branches).eraseDups.length ≤ limits.groupResults
  | .capture _ _ body => body.fits limits &&
      (body.allSamples limits.repeatVariance).length ≤ limits.groupResults
  | .nonCapturing body => body.fits limits &&
      (body.allSamples limits.repeatVariance).length ≤ limits.groupResults
  | .toggleScoped _ body => body.fits limits &&
      (body.allSamples limits.repeatVariance).length ≤ limits.groupResults
  | .backRef _ _ => true
  | .loop q body => (q.max = some 0 || body.fits limits) &&
      powersFit limits.totalResults (body.allSamples limits.repeatVariance) q.min
        (q.spread limits.repeatVariance)

def catFits (limits : Limits) (before : List Sample) : List Node → Bool
  | [] => true
  | item :: rest =>
      let next := fullProduct before (item.allSamples limits.repeatVariance)
      item.fits limits && next.length ≤ limits.totalResults && catFits limits next rest

def allFit (limits : Limits) : List Node → Bool
  | [] => true
  | branch :: rest => branch.fits limits && allFit limits rest

end

def Pattern.fits (p : Pattern) (limits : Limits) : Bool :=
  p.root.fits limits &&
    ((p.root.allSamples limits.repeatVariance).map Sample.text).eraseDups.length ≤ limits.totalResults

variable {limit : Nat} {limits : Limits} {inner : List Sample}

theorem product_of_fits {left right : List Sample} (h : (fullProduct left right).length ≤ limit) :
    product limit left right = fullProduct left right := by
  rw [product_eq_take, List.take_of_length_le h]

theorem catAll_nil (variance : Nat) (items : List Node) : catAll variance [] items = [] := by
  induction items with
  | nil => rfl
  | cons item rest ih => exact ih

theorem catSamples_of_fits {items : List Node} {before : List Sample}
    (hitems : ∀ item ∈ items, item.fits limits = true →
      item.samples limits = item.allSamples limits.repeatVariance)
    (h : catFits limits before items = true) :
    catSamples limits before items = catAll limits.repeatVariance before items := by
  induction items generalizing before with
  | nil => rfl
  | cons item rest ih =>
      simp only [catFits, Bool.and_eq_true, decide_eq_true_eq] at h
      obtain ⟨⟨hitem, hlength⟩, hrest⟩ := h
      rw [catSamples, catAll, hitems item List.mem_cons_self hitem]
      split
      · next hempty =>
          rw [List.isEmpty_iff.1 hempty]
          exact (catAll_nil _ _).symm
      · rw [product_of_fits hlength]
        exact ih (fun other hother => hitems other (List.mem_cons_of_mem item hother)) hrest

theorem fullPower_eq_nil {start : Nat} (h : fullPower inner start = []) (more : Nat) :
    fullPower inner (start + more) = [] := by
  induction more with
  | zero => exact h
  | succ more ih => rw [← Nat.add_assoc, fullPower, ih, fullProduct, List.flatMap_nil]

theorem power_of_fits (start count : Nat)
    (h : ∀ i < start + count, (fullPower inner (i + 1)).length ≤ limit) :
    power limit inner count (fullPower inner start) = fullPower inner (start + count) := by
  induction count generalizing start with
  | zero => rfl
  | succ count ih =>
      rw [power]
      split
      · next hempty => exact (fullPower_eq_nil (List.isEmpty_iff.1 hempty) _).symm
      · have hlength : (fullProduct (fullPower inner start) inner).length ≤ limit :=
          h start (by omega)
        have hnext := ih (start + 1) fun i hi => h i (by omega)
        rw [product_of_fits hlength, ← fullPower, hnext]
        congr 1
        omega

theorem fullPowers_zero (least : Nat) : fullPowers inner least 0 = fullPower inner least := by
  simp [fullPowers]

theorem fullPowers_succ (least spread : Nat) : fullPowers inner least (spread + 1) =
    fullPower inner least ++ fullPowers inner (least + 1) spread := by
  rw [fullPowers, fullPowers, List.range'_succ, List.flatMap_cons]

theorem fullPowers_eq_nil {start : Nat} (h : fullPower inner start = []) (spread : Nat) :
    fullPowers inner (start + 1) spread = [] := by
  refine List.flatMap_eq_nil_iff.2 fun count hcount => ?_
  have := List.mem_range'_1.1 hcount
  have hnil := fullPower_eq_nil h (count - start)
  rwa [Nat.add_sub_cancel' (by omega)] at hnil

theorem powers_of_fits (start more : Nat) {done : List Sample}
    (h : ∀ i < start + more, (fullPower inner (i + 1)).length ≤ limit)
    (hall : done.length + (fullPowers inner start more).length ≤ limit) :
    powers limit inner more (fullPower inner start) done =
      done.reverse ++ fullPowers inner start more := by
  induction more generalizing start done with
  | zero => simp [powers, fullPowers_zero]
  | succ more ih =>
      rw [fullPowers_succ, List.length_append] at hall
      simp only [powers, fullPowers_succ]
      split
      · next hstop =>
          -- Whichever way the repeat stops early, nothing comes after.
          have hnil : fullPowers inner (start + 1) more = [] := by
            simp only [Bool.or_eq_true, decide_eq_true_eq, List.reverseAux_eq, List.length_append,
              List.length_reverse, List.isEmpty_iff] at hstop
            rcases hstop with hfull | hempty
            · exact List.eq_nil_of_length_eq_zero (by omega)
            · exact fullPowers_eq_nil hempty more
          simp [hnil]
      · have hlength : (fullProduct (fullPower inner start) inner).length ≤ limit :=
          h start (by omega)
        rw [product_of_fits hlength, ← fullPower, ih (start + 1) (fun i hi => h i (by omega))]
        · simp
        · simp only [List.reverseAux_eq, List.length_append, List.length_reverse]
          omega

theorem repeatSamples_of_fits {q : Quantifier}
    (h : powersFit limits.totalResults inner q.min (q.spread limits.repeatVariance) = true) :
    repeatSamples limits inner q =
      (fullPowers inner q.min (q.spread limits.repeatVariance)).eraseDups := by
  simp only [powersFit, Bool.and_eq_true, List.all_eq_true, List.mem_range, decide_eq_true_eq] at h
  obtain ⟨hpower, hall⟩ := h
  have hstart : power limits.totalResults inner q.min [.empty] = fullPower inner q.min := by
    have := power_of_fits 0 q.min fun i hi => hpower i (by omega)
    rwa [Nat.zero_add] at this
  have hpowers := powers_of_fits q.min (q.spread limits.repeatVariance) hpower
    (show ([] : List Sample).length + _ ≤ _ by rwa [List.length_nil, Nat.zero_add])
  have heq : repeatSamples limits inner q = (distinct (powers limits.totalResults inner
      (q.spread limits.repeatVariance) (power limits.totalResults inner q.min [.empty]) [])).take
        limits.totalResults := rfl
  rw [heq, hstart, hpowers, List.reverse_nil, List.nil_append, distinct_eq_eraseDups]
  exact List.take_of_length_le (Nat.le_trans (length_eraseDups_le _) hall)

theorem altSamples_of_fits {branches : List Node} {done : List Sample}
    (hbranches : ∀ branch ∈ branches, branch.fits limits = true →
      branch.samples limits = branch.allSamples limits.repeatVariance)
    (h : allFit limits branches = true) :
    altSamples limits done branches = done.reverse ++ altAll limits.repeatVariance branches := by
  induction branches generalizing done with
  | nil => simp [altSamples, altAll]
  | cons branch rest ih =>
      simp only [allFit, Bool.and_eq_true] at h
      rw [altSamples, altAll, hbranches branch List.mem_cons_self h.1,
        ih (fun other hother => hbranches other (List.mem_cons_of_mem branch hother)) h.2]
      simp

theorem charSamples_of_fits {cs : List Char} {icase : Bool}
    (h : (withAlternates cs icase).length ≤ limits.groupResults) :
    charSamples limits cs icase = (withAlternates cs icase).map .ofChar := by
  have heq : charSamples limits cs icase =
      ((withAlternates cs icase).take limits.groupResults).map .ofChar := rfl
  rw [heq, List.take_of_length_le h]

-- A body that is repeated at most zero times is not even looked into.
theorem repeatSamples_of_max_zero {q : Quantifier} (hmin : q.min = 0) (hmax : q.max = some 0)
    (limits : Limits) (inner : List Sample) :
    repeatSamples limits [] q = repeatSamples limits inner q := by
  simp only [repeatSamples, hmin, hmax, Nat.sub_self, Nat.min_zero, power, powers]

theorem Node.samples_loop {q : Quantifier} (hq : ∀ max, q.max = some max → q.min ≤ max)
    (limits : Limits) (body : Node) :
    (loop q body).samples limits = repeatSamples limits (body.samples limits) q := by
  rw [samples]
  split
  · next hmax => exact repeatSamples_of_max_zero (Nat.le_zero.1 (hq 0 hmax)) hmax limits _
  · rfl

open Node in
theorem samples_of_fits {node : Node} (h : node.Each Sound) (hfits : node.fits limits = true) :
    node.samples limits = node.allSamples limits.repeatVariance := by
  induction node with
  | empty => rfl
  | char c icase => exact charSamples_of_fits (of_decide_eq_true hfits)
  | bracket set icase =>
      have hlength : (withAlternates set.offered icase).length ≤ limits.groupResults :=
        of_decide_eq_true hfits
      have hoffered := length_le_withAlternates (CodePointSet.offered_nodup h) icase
      have hsample : set.sample limits.groupResults = set.offered := by
        rw [CodePointSet.sample_eq_take]
        exact List.take_of_length_le (Nat.le_trans hoffered hlength)
      rw [samples, allSamples, hsample]
      exact charSamples_of_fits hlength
  | cat items ih =>
      have hitems := eachOf_iff.1 h.2
      exact catSamples_of_fits (fun item hitem => ih item hitem (hitems item hitem)) hfits
  | alt branches ih =>
      have hbranches := eachOf_iff.1 h.2
      rw [fits, Bool.and_eq_true] at hfits
      rw [samples, allSamples, altSamples_of_fits
        (fun branch hbranch => ih branch hbranch (hbranches branch hbranch)) hfits.1,
        distinct_eq_eraseDups]
      exact List.take_of_length_le (of_decide_eq_true hfits.2)
  | capture group name body ih =>
      rw [fits, Bool.and_eq_true] at hfits
      rw [samples, allSamples, ih h.2 hfits.1,
        List.take_of_length_le (of_decide_eq_true hfits.2)]
  | nonCapturing body ih =>
      rw [fits, Bool.and_eq_true] at hfits
      rw [samples, allSamples, ih h.2 hfits.1]
      exact List.take_of_length_le (of_decide_eq_true hfits.2)
  | toggleRest toggle => rfl
  | toggleScoped toggle body ih =>
      rw [fits, Bool.and_eq_true] at hfits
      rw [samples, allSamples, ih h.2 hfits.1]
      exact List.take_of_length_le (of_decide_eq_true hfits.2)
  | anchor kind => rfl
  | backRef group name => rfl
  | loop q body ih =>
      simp only [fits, Bool.and_eq_true, Bool.or_eq_true, decide_eq_true_eq] at hfits
      obtain ⟨hbody, hpowers⟩ := hfits
      rw [samples, allSamples]
      split
      · next hmax =>
          have hmin : q.min = 0 := Nat.le_zero.1 (h.1.1.2 0 hmax).1
          rw [repeatSamples_of_max_zero hmin hmax limits]
          exact repeatSamples_of_fits hpowers
      · next hmax =>
          rw [ih h.2 (hbody.resolve_left hmax)]
          exact repeatSamples_of_fits hpowers

theorem Pattern.mem_examples_iff_derives {text : String} {flags : Flags} {p : Pattern}
    (h : Pattern.read text flags = .ok p) {limits : Limits} (hfits : p.fits limits = true)
    (s : String) :
    s ∈ p.examples limits ↔ ∃ after, Derives limits.repeatVariance p.root .empty s after := by
  have hsound := Reader.each_sound_of_read h
  have hdenotes := denotes_allSamples hsound limits.repeatVariance
  rw [Pattern.fits, Bool.and_eq_true, decide_eq_true_eq] at hfits
  have hsamples := samples_of_fits hsound hfits.1
  constructor
  · intro hs
    obtain ⟨_, sample, hsample, rfl⟩ := Pattern.mem_examples hs
    rw [hsamples] at hsample
    exact ⟨_, (hdenotes.derived _ _ _).2 ⟨sample, hsample, rfl, rfl⟩⟩
  · rintro ⟨after, hd⟩
    obtain ⟨sample, hsample, rfl, _⟩ := (hdenotes.derived _ _ _).1 hd
    have hfails : ¬ p.root.alwaysFails = true := fun hfails =>
      not_derives_of_alwaysFails hfails _ _ _ hd
    rw [Pattern.examples, if_neg hfails, hsamples, distinct_eq_eraseDups,
      List.take_of_length_le hfits.2, List.mem_eraseDups, ← Sample.text_eq]
    exact List.mem_map.2 ⟨sample, hsample, rfl⟩

theorem Pattern.mem_examples_iff_derives_optional :
    ∃ p, Pattern.read "(a|b)?\\1" .none = .ok p ∧ p.fits .standard = true ∧
      ∀ s, s ∈ p.examples .standard ↔ ∃ after, Derives 2 p.root .empty s after := by
  have heval : (Pattern.read "(a|b)?\\1" .none).toOption.map (fun p => p.fits .standard) =
      some true := by
    decide +kernel
  obtain ⟨p, hp, hfits⟩ := Reader.exists_of_read heval
  exact ⟨p, hp, hfits, Pattern.mem_examples_iff_derives hp hfits⟩

end Specimen
