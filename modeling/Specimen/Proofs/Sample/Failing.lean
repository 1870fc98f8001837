import Specimen.Proofs.Sample.Repeating

namespace Specimen

variable {limits : Limits}

theorem CodePointSet.sample_of_isEmpty {set : CodePointSet} (h : set.isEmpty = true) (limit : Nat) :
    set.sample limit = [] := by
  have hnone : set.intervals = #[] := Array.isEmpty_iff.1 h
  have hascii : (asciiOrder.filter fun c => set.contains c.toNat) = [] := by
    refine List.filter_eq_nil_iff.2 fun c _ => ?_
    simp [contains, hnone]
  simp [sample, hascii, hnone, beyondAscii]

theorem charSamples_nil (limits : Limits) (icase : Bool) : charSamples limits [] icase = [] := by
  cases icase with
  | false => simp [charSamples]
  | true => simp [charSamples, distinctChars_eq_eraseDups]

theorem product_empty (limit : Nat) (left : List Sample) : product limit left [] = [] := by
  rw [product_eq_take, fullProduct]
  simp

theorem productAll_of_mem {limit : Nat} {lists : List (List Sample)} (h : [] ∈ lists)
    (before : List Sample) : productAll limit before lists = [] := by
  induction lists generalizing before with
  | nil => cases h
  | cons right rest ih =>
      rw [productAll, List.foldl_cons]
      rcases List.mem_cons.1 h with hright | hrest
      · rw [← hright, product_empty]
        exact productAll_nil limit rest
      · exact ih hrest _

theorem catSamples_of_mem {items : List Node} {item : Node} (hmem : item ∈ items)
    (h : item.samples limits = []) (before : List Sample) : catSamples limits before items = [] := by
  rw [catSamples_eq_productAll]
  exact productAll_of_mem (List.mem_map.2 ⟨item, hmem, h⟩) before

theorem altSamples_of_forall {branches : List Node} (h : ∀ branch ∈ branches, branch.samples limits = [])
    (done : List Sample) : altSamples limits done branches = done.reverse := by
  induction branches generalizing done with
  | nil => rfl
  | cons branch rest ih =>
      obtain ⟨hbranch, hrest⟩ := List.forall_mem_cons.1 h
      rw [altSamples, hbranch]
      exact ih hrest done

theorem repeatSamples_nil {q : Quantifier} (h : 0 < q.min) : repeatSamples limits [] q = [] := by
  obtain ⟨least, hleast⟩ := Nat.exists_eq_add_of_lt h
  have hfirst : countSamples limits.totalResults [] q.min = [] := by
    rw [hleast, countSamples_succ, product_empty]
  rw [repeatSamples_eq, samplesOfCounts_eq_nil hfirst]
  · simp
  · intro later hlater
    exact (List.mem_range'_1.1 ((triedCounts_prefix_self _ _ _ _).subset hlater)).1

theorem samples_of_alwaysFails {node : Node} (h : node.alwaysFails = true) (limits : Limits) :
    node.samples limits = [] := by
  induction node with
  | empty => cases h
  | char c icase => cases h
  | bracket set icase =>
      rw [Node.samples, CodePointSet.sample_of_isEmpty h]
      exact charSamples_nil limits icase
  | cat items ih =>
      rw [Node.alwaysFails, Node.anyFails_eq, List.any_eq_true] at h
      obtain ⟨item, hmem, hfails⟩ := h
      exact catSamples_of_mem hmem (ih item hmem hfails) _
  | alt branches ih =>
      rw [Node.alwaysFails, Node.allFail_eq, Bool.and_eq_true, List.all_eq_true] at h
      have hnone := altSamples_of_forall (fun branch hmem => ih branch hmem (h.2 branch hmem)) []
      rw [Node.samples, hnone, distinct_eq_eraseDups]
      simp
  | capture group name body ih => rw [Node.samples, ih h, List.take_nil, List.map_nil]
  | nonCapturing body ih => rw [Node.samples, ih h, List.take_nil]
  | toggleRest toggle => cases h
  | toggleScoped toggle body ih => rw [Node.samples, ih h, List.take_nil]
  | anchor kind => cases h
  | backRef group name => cases h
  | loop q body ih =>
      rw [Node.alwaysFails, Bool.and_eq_true, decide_eq_true_eq] at h
      rw [Node.samples, ih h.2, ite_self]
      exact repeatSamples_nil h.1

theorem Pattern.examples_without_shortcut (limits : Limits) :
    (∀ node : Node, node.alwaysFails = true → node.samples limits = []) ∧
      ∀ p : Pattern, p.examples limits =
        (distinct ((p.root.samples limits).map Sample.text)).take limits.totalResults := by
  refine ⟨fun node h => samples_of_alwaysFails h limits, fun p => ?_⟩
  rw [Pattern.examples]
  split
  · next hfails =>
      rw [samples_of_alwaysFails hfails, List.map_nil, distinct_eq_eraseDups, List.eraseDups_nil,
        List.take_nil]
  · rfl

theorem Pattern.samples_of_impossible_repeat :
    let branches : List Node :=
      [.cat [.char 'a' true, .bracket ∅ true], .capture 1 none (.bracket ∅ false)]
    let node : Node := .loop ⟨1, none, .greedy⟩ (.nonCapturing (.alt branches))
    node.alwaysFails = true ∧ node.samples ⟨5, 2, 3⟩ = [] := by
  intro branches node
  have hfails : node.alwaysFails = true := by decide
  exact ⟨hfails, (Pattern.examples_without_shortcut ⟨5, 2, 3⟩).1 node hfails⟩

end Specimen
