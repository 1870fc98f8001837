import Specimen.Proofs.Sample.Exactness
/-!
When a pattern has no examples. Whether a node derives anything can be told from the node alone, whatever
the values of the groups and however many repetitions are allowed; and limits of at least one never lose
the last sample of a node.
-/

namespace Specimen

inductive Productive : Node → Prop where
  | empty : Productive .empty
  | char (c : Char) (icase : Bool) : Productive (.char c icase)
  | bracket {set : CodePointSet} {c : Char} (icase : Bool) : c.toNat ∈ set →
      Productive (.bracket set icase)
  | cat {items : List Node} : (∀ item ∈ items, Productive item) → Productive (.cat items)
  | alt {branches : List Node} {branch : Node} : branch ∈ branches → Productive branch →
      Productive (.alt branches)
  | capture {body : Node} (group : Nat) (name : Option String) : Productive body →
      Productive (.capture group name body)
  | nonCapturing {body : Node} : Productive body → Productive (.nonCapturing body)
  | toggleRest (toggle : Toggle) : Productive (.toggleRest toggle)
  | toggleScoped {body : Node} (toggle : Toggle) : Productive body →
      Productive (.toggleScoped toggle body)
  | anchor (kind : Anchor) : Productive (.anchor kind)
  | backRef (group : Nat) (name : Option String) : Productive (.backRef group name)
  | skipped {q : Quantifier} (body : Node) : q.min = 0 → Productive (.loop q body)
  | repeated {body : Node} (q : Quantifier) : Productive body → Productive (.loop q body)

section Derivation

variable {variance : Nat} {env after : Env} {text : String}

theorem derives_of_mem {items : List Node} {item : Node} (hmem : item ∈ items)
    (h : DerivesAll variance items env text after) :
    ∃ before part behind, Derives variance item before part behind := by
  refine Classical.byContradiction fun hnone => ?_
  exact not_derivesAll hmem (fun before part behind hd => hnone ⟨before, part, behind, hd⟩) h

theorem productive_of_derives {node : Node} (h : Derives variance node env text after) :
    Productive node := by
  induction node generalizing env text after with
  | empty => exact .empty
  | char c icase => exact .char c icase
  | bracket set icase =>
      cases h with
      | member _ hmem => exact .bracket icase hmem
      | memberAlternate _ hmem => exact .bracket true hmem
  | cat items ih =>
      refine .cat fun item hitem => ?_
      obtain ⟨_, _, _, hd⟩ := derives_of_mem hitem (Derives.cat_iff.1 h)
      exact ih item hitem hd
  | alt branches ih =>
      obtain ⟨branch, hbranch, hd⟩ := Derives.alt_iff.1 h
      exact .alt hbranch (ih branch hbranch hd)
  | capture group name body ih =>
      obtain ⟨_, hd, _⟩ := Derives.capture_iff.1 h
      exact .capture group name (ih hd)
  | nonCapturing body ih => exact .nonCapturing (ih (Derives.nonCapturing_iff.1 h))
  | toggleRest toggle => exact .toggleRest toggle
  | toggleScoped toggle body ih => exact .toggleScoped toggle (ih (Derives.toggleScoped_iff.1 h))
  | anchor kind => exact .anchor kind
  | backRef group name => exact .backRef group name
  | loop q body ih =>
      obtain ⟨count, ⟨hmin, _, _⟩, hd⟩ := Derives.loop_iff.1 h
      by_cases hzero : q.min = 0
      · exact .skipped body hzero
      · have hmem : body ∈ List.replicate count body := List.mem_replicate.2 ⟨by omega, rfl⟩
        obtain ⟨_, _, _, hbody⟩ := derives_of_mem hmem hd
        exact .repeated q (ih hbody)

theorem exists_derivesAll {items : List Node}
    (h : ∀ item ∈ items, ∀ env, ∃ text after, Derives variance item env text after) (env : Env) :
    ∃ text after, DerivesAll variance items env text after := by
  induction items generalizing env with
  | nil => exact ⟨"", env, .nil⟩
  | cons item rest ih =>
      obtain ⟨text, between, hitem⟩ := h item List.mem_cons_self env
      obtain ⟨later, after, hrest⟩ :=
        ih (fun other hother => h other (List.mem_cons_of_mem item hother)) between
      exact ⟨text ++ later, after, .cons hitem hrest⟩

theorem exists_derives_least {q : Quantifier} (hq : q.Bounded) {body : Node}
    (h : ∃ text after, DerivesAll variance (List.replicate q.min body) env text after) :
    ∃ text after, Derives variance (.loop q body) env text after := by
  obtain ⟨text, after, hd⟩ := h
  have hmax : ∀ max, q.max = some max → q.min ≤ max := fun max hmax => (hq.2 max hmax).1
  exact ⟨text, after, .loop (Nat.le_refl _) (Nat.le_add_right _ _) hmax hd⟩

open Node in
theorem exists_derives {node : Node} (hsound : node.Each Sound) (h : Productive node) (variance : Nat)
    (env : Env) : ∃ text after, Derives variance node env text after := by
  induction h generalizing env with
  | empty => exact ⟨"", env, .empty⟩
  | char c icase => exact ⟨c.toString, env, .char c icase⟩
  | bracket icase hmem => exact ⟨_, env, .member icase hmem⟩
  | cat _ ih =>
      have hitems := eachOf_iff.1 hsound.2
      obtain ⟨text, after, hd⟩ := exists_derivesAll (fun item hitem env =>
        ih item hitem (hitems item hitem) env) env
      exact ⟨text, after, .cat hd⟩
  | alt hbranch _ ih =>
      obtain ⟨text, after, hd⟩ := ih (eachOf_iff.1 hsound.2 _ hbranch) env
      exact ⟨text, after, .alt hbranch hd⟩
  | capture group name _ ih =>
      obtain ⟨text, after, hd⟩ := ih hsound.2 env
      exact ⟨text, after.bind group text, .capture group name hd⟩
  | nonCapturing _ ih =>
      obtain ⟨text, after, hd⟩ := ih hsound.2 env
      exact ⟨text, after, .nonCapturing hd⟩
  | toggleRest toggle => exact ⟨"", env, .toggleRest toggle⟩
  | toggleScoped toggle _ ih =>
      obtain ⟨text, after, hd⟩ := ih hsound.2 env
      exact ⟨text, after, .toggleScoped toggle hd⟩
  | anchor kind => exact ⟨"", env, .anchor kind⟩
  | backRef group name => exact ⟨env.value group, env, .backRef group name⟩
  | skipped body hzero =>
      refine exists_derives_least hsound.1.1 ⟨"", env, ?_⟩
      rw [hzero]
      exact .nil
  | repeated q _ ih =>
      refine exists_derives_least hsound.1.1 (exists_derivesAll ?_ env)
      intro item hitem env
      rw [List.eq_of_mem_replicate hitem]
      exact ih hsound.2 env

end Derivation

section Limits

theorem take_ne_nil {α : Type} {limit : Nat} {as : List α} (hlimit : 1 ≤ limit) (h : as ≠ []) :
    as.take limit ≠ [] := by
  rw [Ne, List.take_eq_nil_iff]
  rintro (hzero | hnil)
  · omega
  · exact h hnil

theorem distinct_ne_nil {α : Type} [BEq α] [Hashable α] [LawfulBEq α] [LawfulHashable α]
    {entries : List α} (h : entries ≠ []) : distinct entries ≠ [] := by
  obtain ⟨a, ha⟩ := List.exists_mem_of_ne_nil entries h
  exact List.ne_nil_of_mem ((mem_distinct a).2 ha)

variable {limit : Nat}

theorem product_ne_nil {left right : List Sample} (hlimit : 1 ≤ limit) (hleft : left ≠ [])
    (hright : right ≠ []) : product limit left right ≠ [] := by
  obtain ⟨a, ha⟩ := List.exists_mem_of_ne_nil left hleft
  obtain ⟨b, hb⟩ := List.exists_mem_of_ne_nil right hright
  rw [product_eq_take]
  exact take_ne_nil hlimit (List.ne_nil_of_mem (mem_fullProduct.2 ⟨a, ha, b, hb, rfl⟩))

theorem power_ne_nil {inner current : List Sample} (hlimit : 1 ≤ limit) (hcurrent : current ≠ [])
    {count : Nat} (hinner : count = 0 ∨ inner ≠ []) : power limit inner count current ≠ [] := by
  induction count generalizing current with
  | zero => exact hcurrent
  | succ count ih =>
      have hinner : inner ≠ [] := hinner.resolve_left (Nat.succ_ne_zero count)
      rw [power, if_neg (by rwa [List.isEmpty_iff])]
      exact ih (product_ne_nil hlimit hcurrent hinner) (.inr hinner)

-- What has been collected stays, so one sample at the start is enough for whatever comes of the rest.
theorem powers_ne_nil {inner current done : List Sample} (h : current ≠ [] ∨ done ≠ [])
    (more : Nat) : powers limit inner more current done ≠ [] := by
  have hcollected {current done : List Sample} (h : current ≠ [] ∨ done ≠ []) :
      current.reverseAux done ≠ [] := by
    rw [List.reverseAux_eq, Ne, List.append_eq_nil_iff, List.reverse_eq_nil_iff]
    rintro ⟨hcurrent, hdone⟩
    exact h.elim (· hcurrent) (· hdone)
  induction more generalizing current done with
  | zero =>
      rw [powers, Ne, List.reverse_eq_nil_iff]
      exact hcollected h
  | succ more ih =>
      simp only [powers]
      split
      · rw [Ne, List.reverse_eq_nil_iff]
        exact hcollected h
      · exact ih (.inr (hcollected h))

variable {limits : Limits}

theorem repeatSamples_ne_nil (hlimit : 1 ≤ limits.totalResults) {q : Quantifier}
    {inner : List Sample} (hinner : q.min = 0 ∨ inner ≠ []) :
    repeatSamples limits inner q ≠ [] := by
  have hleast : power limits.totalResults inner q.min [.empty] ≠ [] :=
    power_ne_nil hlimit (List.cons_ne_nil _ _) hinner
  exact take_ne_nil hlimit (distinct_ne_nil (powers_ne_nil (.inl hleast) _))

theorem charSamples_ne_nil (hlimit : 1 ≤ limits.groupResults) {cs : List Char} (h : cs ≠ [])
    (icase : Bool) : charSamples limits cs icase ≠ [] := by
  obtain ⟨c, hc⟩ := List.exists_mem_of_ne_nil cs h
  have hall : withAlternates cs icase ≠ [] :=
    List.ne_nil_of_mem (mem_withAlternates.2 (.inl hc))
  rw [charSamples, Ne, List.map_eq_nil_iff]
  exact take_ne_nil hlimit hall

theorem catSamples_ne_nil (hlimit : 1 ≤ limits.totalResults) {items : List Node}
    {before : List Sample} (hbefore : before ≠ [])
    (hitems : ∀ item ∈ items, item.samples limits ≠ []) :
    catSamples limits before items ≠ [] := by
  induction items generalizing before with
  | nil => exact hbefore
  | cons item rest ih =>
      rw [catSamples, if_neg (by rwa [List.isEmpty_iff])]
      exact ih (product_ne_nil hlimit hbefore (hitems item List.mem_cons_self))
        fun other hother => hitems other (List.mem_cons_of_mem item hother)

theorem altSamples_ne_nil {branches : List Node} {done : List Sample}
    (h : done ≠ [] ∨ ∃ branch ∈ branches, branch.samples limits ≠ []) :
    altSamples limits done branches ≠ [] := by
  induction branches generalizing done with
  | nil =>
      rw [altSamples, Ne, List.reverse_eq_nil_iff]
      exact h.resolve_right (by simp)
  | cons branch rest ih =>
      rw [altSamples]
      refine ih ?_
      rw [List.reverseAux_eq, Ne, List.append_eq_nil_iff, List.reverse_eq_nil_iff]
      rcases h with hdone | ⟨other, hmem, hother⟩
      · exact .inl fun hnil => hdone hnil.2
      · rcases List.mem_cons.1 hmem with rfl | hmem
        · exact .inl fun hnil => hother hnil.1
        · exact .inr ⟨other, hmem, hother⟩

open Node in
theorem samples_ne_nil {node : Node} (hsound : node.Each Sound) (h : Productive node)
    (hgroup : 1 ≤ limits.groupResults) (htotal : 1 ≤ limits.totalResults) :
    node.samples limits ≠ [] := by
  induction h with
  | empty => exact List.cons_ne_nil _ _
  | char c icase => exact charSamples_ne_nil hgroup (List.cons_ne_nil _ _) icase
  | bracket icase hmem =>
      refine charSamples_ne_nil hgroup ?_ icase
      rw [CodePointSet.sample_eq_take]
      exact take_ne_nil hgroup (List.ne_nil_of_mem ((CodePointSet.mem_offered hsound).2 hmem))
  | cat _ ih =>
      have hitems := eachOf_iff.1 hsound.2
      exact catSamples_ne_nil htotal (List.cons_ne_nil _ _)
        fun item hitem => ih item hitem (hitems item hitem)
  | alt hbranch _ ih =>
      have hsamples := ih (eachOf_iff.1 hsound.2 _ hbranch)
      exact take_ne_nil hgroup
        (distinct_ne_nil (altSamples_ne_nil (.inr ⟨_, hbranch, hsamples⟩)))
  | capture group name _ ih =>
      rw [Node.samples, Ne, List.map_eq_nil_iff]
      exact take_ne_nil hgroup (ih hsound.2)
  | nonCapturing _ ih => exact take_ne_nil hgroup (ih hsound.2)
  | toggleRest toggle => exact List.cons_ne_nil _ _
  | toggleScoped toggle _ ih => exact take_ne_nil hgroup (ih hsound.2)
  | anchor kind => exact List.cons_ne_nil _ _
  | backRef group name => exact List.cons_ne_nil _ _
  | skipped body hzero => exact repeatSamples_ne_nil htotal (.inl hzero)
  | repeated q _ ih =>
      rw [Node.samples_loop fun max hmax => (hsound.1.1.2 max hmax).1]
      exact repeatSamples_ne_nil htotal (.inr (ih hsound.2))

end Limits

theorem Pattern.examples_eq_nil_iff {text : String} {flags : Flags} {p : Pattern}
    (h : Pattern.read text flags = .ok p) {limits : Limits} (hgroup : 1 ≤ limits.groupResults)
    (htotal : 1 ≤ limits.totalResults) (variance : Nat) :
    p.examples limits = [] ↔ ∀ s after, ¬ Derives variance p.root .empty s after := by
  have hsound := Reader.each_sound_of_read h
  constructor
  · intro hnil s after hd
    have hfails : ¬ p.root.alwaysFails = true := fun hfails =>
      not_derives_of_alwaysFails hfails _ _ _ hd
    have hsamples : p.root.samples limits ≠ [] :=
      samples_ne_nil hsound (productive_of_derives hd) hgroup htotal
    rw [Pattern.examples, if_neg hfails] at hnil
    exact take_ne_nil htotal (distinct_ne_nil (by rwa [Ne, List.map_eq_nil_iff])) hnil
  · intro hnone
    refine List.eq_nil_iff_forall_not_mem.2 fun s hs => ?_
    obtain ⟨after, hd⟩ := Pattern.derives_of_mem_examples h hs
    obtain ⟨other, behind, hother⟩ :=
      exists_derives hsound (productive_of_derives hd) variance .empty
    exact hnone other behind hother

theorem Pattern.examples_eq_nil_iff_empty_set :
    ∃ p, Pattern.read "a[^\\d\\D]*b" .none = .ok p ∧
      (p.examples ⟨1, 0, 1⟩ = [] ↔ ∀ s after, ¬ Derives 3 p.root .empty s after) := by
  have heval : (Pattern.read "a[^\\d\\D]*b" .none).toOption.map (fun _ => true) = some true := by
    decide +kernel
  obtain ⟨p, hp, _⟩ := Reader.exists_of_read heval
  exact ⟨p, hp, Pattern.examples_eq_nil_iff hp (Nat.le_refl 1) (Nat.le_refl 1) 3⟩

end Specimen
