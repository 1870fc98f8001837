import Specimen.Proofs.Sample.Exhaustive

namespace Specimen

variable {α β : Type}

theorem length_flatMap_const {f : α → List β} {n : Nat} (h : ∀ a, (f a).length = n) (as : List α) :
    (as.flatMap f).length = as.length * n := by
  induction as with
  | nil => simp
  | cons a rest ih =>
      rw [List.flatMap_cons, List.length_append, ih, h, List.length_cons, Nat.succ_mul, Nat.add_comm]

theorem take_flatMap_const {f : α → List β} {n : Nat} (h : ∀ a, (f a).length = n) (limit : Nat)
    (as : List α) :
    ((as.take (limit / n + 1)).flatMap f).take limit = (as.flatMap f).take limit := by
  by_cases hn : n = 0
  · have hnil : ∀ a, f a = [] := fun a => List.eq_nil_of_length_eq_zero (by rw [h, hn])
    rw [List.flatMap_eq_nil_iff.2 fun a _ => hnil a, List.flatMap_eq_nil_iff.2 fun a _ => hnil a]
  by_cases hlong : as.length ≤ limit / n + 1
  · rw [List.take_of_length_le hlong]
  · have henough : limit ≤ ((as.take (limit / n + 1)).flatMap f).length := by
      rw [length_flatMap_const h, List.length_take, Nat.min_eq_left (by omega), Nat.succ_mul]
      have := Nat.div_add_mod' limit n
      have := Nat.mod_lt limit (Nat.pos_of_ne_zero hn)
      omega
    calc ((as.take (limit / n + 1)).flatMap f).take limit
        = ((as.take (limit / n + 1)).flatMap f ++ (as.drop (limit / n + 1)).flatMap f).take limit :=
          (List.take_append_of_le_length henough).symm
      _ = (as.flatMap f).take limit := by rw [← List.flatMap_append, List.take_append_drop]

theorem take_flatMap_take {limit count : Nat} (h : count ≤ limit) (f : α → List β) (as : List α) :
    (as.flatMap fun a => (f a).take limit).take count = (as.flatMap f).take count := by
  induction as generalizing count with
  | nil => rfl
  | cons a rest ih =>
      rw [List.flatMap_cons, List.flatMap_cons, List.take_append, List.take_append, List.take_take,
        Nat.min_eq_left h, List.length_take, ih (by omega)]
      congr 2
      omega

theorem product_eq_take (limit : Nat) (left right : List Sample) :
    product limit left right = (fullProduct left right).take limit := by
  unfold product
  split
  · next next =>
      rw [fullProduct, List.map_take]
      congr 1
      induction left with
      | nil => rfl
      | cons s rest ih => rw [List.map_cons, List.flatMap_cons, ih]; rfl
  · simp only
    rw [take_flatMap_const (n := (right.take limit).length) (fun s => List.length_map _)]
    simp only [List.map_take]
    rw [take_flatMap_take (Nat.le_refl limit), fullProduct]

variable {limit : Nat} {s : Sample}

theorem fullProduct_mono {left left' right right' : List Sample} (hleft : left ⊆ left')
    (hright : right ⊆ right') : fullProduct left right ⊆ fullProduct left' right' := by
  intro s hs
  obtain ⟨a, ha, b, hb, rfl⟩ := mem_fullProduct.1 hs
  exact mem_fullProduct.2 ⟨a, hleft ha, b, hright hb, rfl⟩

theorem product_subset (limit : Nat) {left left' right right' : List Sample} (hleft : left ⊆ left')
    (hright : right ⊆ right') : product limit left right ⊆ fullProduct left' right' := by
  intro s hs
  rw [product_eq_take] at hs
  exact fullProduct_mono hleft hright (List.mem_of_mem_take hs)

theorem power_subset (limit start : Nat) {inner full current : List Sample} (hinner : inner ⊆ full)
    (hcurrent : current ⊆ fullPower full start) (count : Nat) :
    power limit inner count current ⊆ fullPower full (start + count) := by
  induction count generalizing start current with
  | zero => exact hcurrent
  | succ count ih =>
      rw [power]
      split
      · exact List.nil_subset _
      · have hnext : product limit current inner ⊆ fullPower full (start + 1) :=
          product_subset limit hcurrent hinner
        have := ih (start + 1) hnext
        rw [Nat.add_assoc, Nat.add_comm 1] at this
        exact this

theorem mem_powers {inner full current done : List Sample} (hinner : inner ⊆ full) {start : Nat}
    (hcurrent : current ⊆ fullPower full start) {more : Nat}
    (h : s ∈ powers limit inner more current done) :
    s ∈ done ∨ ∃ count, (start ≤ count ∧ count ≤ start + more) ∧ s ∈ fullPower full count := by
  induction more generalizing current done start with
  | zero =>
      simp only [powers, List.mem_reverse, List.reverseAux_eq, List.mem_append] at h
      rcases h with h | h
      · exact .inr ⟨start, by omega, hcurrent h⟩
      · exact .inl h
  | succ more ih =>
      simp only [powers] at h
      split at h
      · simp only [List.mem_reverse, List.reverseAux_eq, List.mem_append] at h
        rcases h with h | h
        · exact .inr ⟨start, by omega, hcurrent h⟩
        · exact .inl h
      · have hnext : product limit current inner ⊆ fullPower full (start + 1) :=
          product_subset limit hcurrent hinner
        rcases ih hnext h with h | ⟨count, hcount, h⟩
        · simp only [List.mem_reverse, List.reverseAux_eq, List.mem_append] at h
          rcases h with h | h
          · exact .inr ⟨start, by omega, hcurrent h⟩
          · exact .inl h
        · exact .inr ⟨count, by omega, h⟩

variable {limits : Limits}

theorem repeatSamples_subset {inner full : List Sample} (hinner : inner ⊆ full) (q : Quantifier) :
    repeatSamples limits inner q ⊆
      (fullPowers full q.min (q.spread limits.repeatVariance)).eraseDups := by
  intro s hs
  have hmem := (mem_distinct s).1 (List.mem_of_mem_take hs)
  have hstart : power limits.totalResults inner q.min [.empty] ⊆ fullPower full q.min := by
    have := power_subset limits.totalResults 0 hinner (List.Subset.refl [Sample.empty]) q.min
    rwa [Nat.zero_add] at this
  rw [List.mem_eraseDups, mem_fullPowers]
  rcases mem_powers hinner hstart hmem with h | h
  · cases h
  · exact h

theorem withAlternates_mono {cs ds : List Char} (h : cs ⊆ ds) (icase : Bool) :
    withAlternates cs icase ⊆ withAlternates ds icase := by
  intro d hd
  rcases mem_withAlternates.1 hd with hd | ⟨hicase, c, hc, hd⟩
  · exact mem_withAlternates.2 (.inl (h hd))
  · exact mem_withAlternates.2 (.inr ⟨hicase, c, h hc, hd⟩)

theorem charSamples_subset {cs ds : List Char} (h : cs ⊆ ds) (icase : Bool) :
    charSamples limits cs icase ⊆ (withAlternates ds icase).map .ofChar := by
  have heq : charSamples limits cs icase =
      ((withAlternates cs icase).take limits.groupResults).map .ofChar := rfl
  rw [heq]
  exact List.map_subset _ fun c hc => withAlternates_mono h icase (List.mem_of_mem_take hc)

theorem catSamples_subset {items : List Node} {before full : List Sample}
    (hbefore : before ⊆ full)
    (hitems : ∀ item ∈ items, item.samples limits ⊆ item.allSamples limits.repeatVariance) :
    catSamples limits before items ⊆ catAll limits.repeatVariance full items := by
  induction items generalizing before full with
  | nil => exact hbefore
  | cons item rest ih =>
      rw [catSamples]
      split
      · exact List.nil_subset _
      · exact ih (product_subset _ hbefore (hitems item List.mem_cons_self))
          fun other hother => hitems other (List.mem_cons_of_mem item hother)

theorem mem_altSamples {branches : List Node} {done : List Sample}
    (h : s ∈ altSamples limits done branches) :
    s ∈ done ∨ ∃ branch ∈ branches, s ∈ branch.samples limits := by
  induction branches generalizing done with
  | nil => exact .inl (List.mem_reverse.1 h)
  | cons branch rest ih =>
      rcases ih h with h | ⟨other, hother, h⟩
      · rw [List.reverseAux_eq, List.mem_append, List.mem_reverse] at h
        rcases h with h | h
        · exact .inr ⟨branch, List.mem_cons_self, h⟩
        · exact .inl h
      · exact .inr ⟨other, List.mem_cons_of_mem branch hother, h⟩

theorem samples_subset (limits : Limits) (node : Node) :
    node.samples limits ⊆ node.allSamples limits.repeatVariance := by
  induction node with
  | empty => exact List.Subset.refl _
  | char c icase => exact charSamples_subset (List.Subset.refl _) icase
  | bracket set icase =>
      refine charSamples_subset ?_ icase
      rw [CodePointSet.sample_eq_take]
      exact List.take_subset _ _
  | cat items ih => exact catSamples_subset (List.Subset.refl _) ih
  | alt branches ih =>
      intro s hs
      rw [Node.allSamples, List.mem_eraseDups, mem_altAll]
      rcases mem_altSamples ((mem_distinct s).1 (List.mem_of_mem_take hs)) with h | ⟨branch, hmem, h⟩
      · cases h
      · exact ⟨branch, hmem, ih branch hmem h⟩
  | capture group name body ih =>
      exact List.map_subset _ fun s hs => ih (List.mem_of_mem_take hs)
  | nonCapturing body ih => exact fun s hs => ih (List.mem_of_mem_take hs)
  | toggleRest toggle => exact List.Subset.refl _
  | toggleScoped toggle body ih => exact fun s hs => ih (List.mem_of_mem_take hs)
  | anchor kind => exact List.Subset.refl _
  | backRef group name => exact List.Subset.refl _
  | loop q body ih =>
      refine repeatSamples_subset ?_ q
      split
      · exact List.nil_subset _
      · exact ih

theorem Pattern.mem_examples {p : Pattern} {limits : Limits} {text : String}
    (hs : text ∈ p.examples limits) :
    p.root.alwaysFails = false ∧ ∃ s ∈ p.root.samples limits, s.textIn .empty = text := by
  rw [Pattern.examples] at hs
  split at hs
  · cases hs
  · next hfails =>
      have hmem := (mem_distinct text).1 (List.mem_of_mem_take hs)
      obtain ⟨s, hsample, rfl⟩ := List.mem_map.1 hmem
      exact ⟨by simpa using hfails, s, hsample, (Sample.text_eq s).symm⟩

theorem Pattern.derives_of_mem_examples {text : String} {flags : Flags} {p : Pattern}
    (h : Pattern.read text flags = .ok p) {limits : Limits} {s : String}
    (hs : s ∈ p.examples limits) :
    ∃ after, Derives limits.repeatVariance p.root .empty s after := by
  obtain ⟨_, sample, hsample, rfl⟩ := Pattern.mem_examples hs
  have hdenotes := denotes_allSamples (Reader.each_sound_of_read h) limits.repeatVariance
  exact ⟨sample.after .empty, (hdenotes.derived _ _ _).2
    ⟨sample, samples_subset limits p.root hsample, rfl, rfl⟩⟩

theorem Pattern.derives_doubled_letter :
    ∃ p, Pattern.read "([ab])\\1" .none = .ok p ∧ "bb" ∈ p.examples .standard ∧
      ∃ after, Derives 2 p.root .empty "bb" after := by
  have heval : (Pattern.read "([ab])\\1" .none).toOption.map (fun p =>
      (p.root.alwaysFails, (p.root.samples .standard).map Sample.text)) =
        some (false, ["aa", "bb"]) := by
    decide +kernel
  obtain ⟨p, hp, heval⟩ := Reader.exists_of_read heval
  obtain ⟨hfails, htexts⟩ := Prod.mk.inj heval
  have hmem : "bb" ∈ p.examples .standard := by
    rw [Pattern.examples, hfails, htexts, distinct_eq_eraseDups]
    decide +kernel
  exact ⟨p, hp, hmem, Pattern.derives_of_mem_examples hp hmem⟩

end Specimen
