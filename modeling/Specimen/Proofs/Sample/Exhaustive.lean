import Specimen.Sample.Generate
import Specimen.Proofs.CodePointSet.Offered
import Specimen.Proofs.Reader.WellBuilt
import Specimen.Proofs.Sample.Derivation
/-!
The samples of a pattern with no limit but that on repetition. They are its derivations, whatever values
the groups have before it.
-/

namespace Specimen

def fullProduct (left right : List Sample) : List Sample :=
  left.flatMap fun s => right.map s.append

def fullPower (inner : List Sample) : (count : Nat) → List Sample
  | 0 => [.empty]
  | count + 1 => fullProduct (fullPower inner count) inner

def Quantifier.spread (q : Quantifier) (variance : Nat) : Nat :=
  match q.max with
  | some max => Min.min variance (max - q.min)
  | none => variance

def fullPowers (inner : List Sample) (least spread : Nat) : List Sample :=
  (List.range' least (spread + 1)).flatMap (fullPower inner)

def withAlternates (cs : List Char) (icase : Bool) : List Char :=
  if icase then distinctChars (cs ++ cs.filterMap Unicode.Case.alternate?) else cs

mutual

def Node.allSamples (variance : Nat) : Node → List Sample
  | .empty => [.empty]
  | .anchor _ => [.empty]
  | .toggleRest _ => [.empty]
  | .char c icase => (withAlternates [c] icase).map .ofChar
  | .bracket set icase => (withAlternates set.offered icase).map .ofChar
  | .cat items => catAll variance [.empty] items
  | .alt branches => (altAll variance branches).eraseDups
  | .capture group _ body => (body.allSamples variance).map (·.capture group)
  | .nonCapturing body => body.allSamples variance
  | .toggleScoped _ body => body.allSamples variance
  | .backRef group _ => [.backRef group]
  | .loop q body =>
      (fullPowers (body.allSamples variance) q.min (q.spread variance)).eraseDups

def catAll (variance : Nat) (before : List Sample) : List Node → List Sample
  | [] => before
  | item :: rest => catAll variance (fullProduct before (item.allSamples variance)) rest

def altAll (variance : Nat) : List Node → List Sample
  | [] => []
  | branch :: rest => branch.allSamples variance ++ altAll variance rest

end

theorem mem_fullProduct {left right : List Sample} {s : Sample} :
    s ∈ fullProduct left right ↔ ∃ a ∈ left, ∃ b ∈ right, a.append b = s := by
  simp only [fullProduct, List.mem_flatMap, List.mem_map]

theorem mem_fullPowers {inner : List Sample} {least spread : Nat} {s : Sample} :
    s ∈ fullPowers inner least spread ↔
      ∃ count, (least ≤ count ∧ count ≤ least + spread) ∧ s ∈ fullPower inner count := by
  simp only [fullPowers, List.mem_flatMap, List.mem_range'_1]
  constructor
  · rintro ⟨count, hcount, hs⟩
    exact ⟨count, by omega, hs⟩
  · rintro ⟨count, hcount, hs⟩
    exact ⟨count, by omega, hs⟩

theorem mem_altAll {variance : Nat} {branches : List Node} {s : Sample} :
    s ∈ altAll variance branches ↔ ∃ branch ∈ branches, s ∈ branch.allSamples variance := by
  induction branches with
  | nil => simp [altAll]
  | cons branch rest ih => simp [altAll, ih]

theorem mem_withAlternates {cs : List Char} {icase : Bool} {d : Char} :
    d ∈ withAlternates cs icase ↔
      d ∈ cs ∨ icase = true ∧ ∃ c ∈ cs, Unicode.Case.alternate? c = some d := by
  rw [withAlternates]
  split
  · next hicase =>
      rw [distinctChars_eq_eraseDups, List.mem_eraseDups, List.mem_append, List.mem_filterMap]
      simp only [hicase, true_and]
  · next hicase => simp only [hicase, false_and, or_false, Bool.false_eq_true]

theorem le_spread_iff {q : Quantifier} (hq : q.Bounded) {variance count : Nat} :
    count ≤ q.min + q.spread variance ↔
      count ≤ q.min + variance ∧ ∀ max, q.max = some max → count ≤ max := by
  rw [Quantifier.spread]
  cases hmax : q.max with
  | none => simp
  | some max =>
      have := (hq.2 max hmax).1
      simp only [Option.some.injEq, forall_eq']
      omega

structure Denotes (samples : List Sample) (D : Env → String → Env → Prop) : Prop where
  ordered : ∀ s ∈ samples, s.Ordered
  derived : ∀ env text after, D env text after ↔
    ∃ s ∈ samples, s.textIn env = text ∧ s.after env = after

namespace Denotes

variable {left right inner samples : List Sample} {variance : Nat}

theorem of_iff {D E : Env → String → Env → Prop} (h : Denotes samples D)
    (hiff : ∀ env text after, E env text after ↔ D env text after) : Denotes samples E :=
  ⟨h.ordered, fun env text after => (hiff env text after).trans (h.derived env text after)⟩

theorem empty : Denotes [.empty] fun env text after => text = "" ∧ after = env := by
  refine ⟨by simpa using Sample.empty_ordered, fun env text after => ?_⟩
  simp only [List.mem_singleton, exists_eq_left]
  constructor
  · rintro ⟨rfl, rfl⟩
    exact ⟨rfl, rfl⟩
  · rintro ⟨htext, hafter⟩
    exact ⟨htext.symm, hafter.symm⟩

theorem chars {cs : List Char} : Denotes (cs.map .ofChar)
    fun env text after => ∃ c ∈ cs, c.toString = text ∧ env = after := by
  refine ⟨fun s hs => ?_, fun env text after => ?_⟩
  · obtain ⟨c, _, rfl⟩ := List.mem_map.1 hs
    exact Sample.ofChar_ordered c
  · have htext (c : Char) : (Sample.ofChar c).textIn env = c.toString := String.append_empty
    have hafter (c : Char) : (Sample.ofChar c).after env = env := rfl
    constructor
    · rintro ⟨c, hc, rfl, rfl⟩
      exact ⟨.ofChar c, List.mem_map.2 ⟨c, hc, rfl⟩, htext c, hafter c⟩
    · rintro ⟨s, hs, rfl, rfl⟩
      obtain ⟨c, hc, rfl⟩ := List.mem_map.1 hs
      exact ⟨c, hc, (htext c).symm, (hafter c).symm⟩

theorem backRef (group : Nat) : Denotes [.backRef group]
    fun env text after => text = env.value group ∧ after = env := by
  refine ⟨by simpa using Sample.backRef_ordered group, fun env text after => ?_⟩
  have htext : (Sample.backRef group).textIn env = env.value group := String.append_empty
  have hafter : (Sample.backRef group).after env = env := rfl
  simp only [List.mem_singleton, exists_eq_left, htext, hafter]
  constructor
  · rintro ⟨rfl, rfl⟩
    exact ⟨rfl, rfl⟩
  · rintro ⟨htext, hafter⟩
    exact ⟨htext.symm, hafter.symm⟩

theorem capture {D : Env → String → Env → Prop} (h : Denotes inner D) (group : Nat) :
    Denotes (inner.map (·.capture group))
      fun env text after => ∃ between, D env text between ∧ between.bind group text = after := by
  refine ⟨fun s hs => ?_, fun env text after => ?_⟩
  · obtain ⟨t, ht, rfl⟩ := List.mem_map.1 hs
    exact Sample.capture_ordered (h.ordered t ht) group
  · constructor
    · rintro ⟨between, hd, rfl⟩
      obtain ⟨s, hs, rfl, rfl⟩ := (h.derived _ _ _).1 hd
      exact ⟨s.capture group, List.mem_map.2 ⟨s, hs, rfl⟩, rfl, Sample.after_capture env s group⟩
    · rintro ⟨s, hs, rfl, rfl⟩
      obtain ⟨t, ht, rfl⟩ := List.mem_map.1 hs
      exact ⟨t.after env, (h.derived _ _ _).2 ⟨t, ht, rfl, rfl⟩,
        (Sample.after_capture env t group).symm⟩

theorem product {D E : Env → String → Env → Prop} (hleft : Denotes left D)
    (hright : Denotes right E) : Denotes (fullProduct left right) fun env text after =>
      ∃ between first later, D env first between ∧ E between later after ∧ first ++ later = text := by
  refine ⟨fun s hs => ?_, fun env text after => ?_⟩
  · obtain ⟨a, ha, b, hb, rfl⟩ := mem_fullProduct.1 hs
    exact Sample.append_ordered (hleft.ordered a ha)
  · -- What is pending on the right resolves to what the left has captured.
    constructor
    · rintro ⟨between, first, later, hd, he, rfl⟩
      obtain ⟨a, ha, rfl, rfl⟩ := (hleft.derived _ _ _).1 hd
      obtain ⟨b, hb, rfl, rfl⟩ := (hright.derived _ _ _).1 he
      exact ⟨a.append b, mem_fullProduct.2 ⟨a, ha, b, hb, rfl⟩, Sample.textIn_append env a b,
        Sample.after_append env (hright.ordered b hb)⟩
    · rintro ⟨s, hs, rfl, rfl⟩
      obtain ⟨a, ha, b, hb, rfl⟩ := mem_fullProduct.1 hs
      exact ⟨a.after env, a.textIn env, b.textIn (a.after env),
        (hleft.derived _ _ _).2 ⟨a, ha, rfl, rfl⟩,
        (hright.derived _ _ _).2 ⟨b, hb, rfl, (Sample.after_append env (hright.ordered b hb)).symm⟩,
        (Sample.textIn_append env a b).symm⟩

theorem power {body : Node} (h : Denotes inner (Derives variance body)) (count : Nat) :
    Denotes (fullPower inner count) (DerivesAll variance (List.replicate count body)) := by
  induction count with
  | zero => exact empty.of_iff fun env text after => DerivesAll.nil_iff
  | succ count ih =>
      refine (ih.product h).of_iff fun env text after => ?_
      rw [List.replicate_succ']
      exact DerivesAll.snoc_iff

theorem cat {items front : List Node} {before : List Sample}
    (hbefore : Denotes before (DerivesAll variance front))
    (hitems : ∀ item ∈ items, Denotes (item.allSamples variance) (Derives variance item)) :
    Denotes (catAll variance before items) (DerivesAll variance (front ++ items)) := by
  induction items generalizing before front with
  | nil =>
      rw [List.append_nil]
      exact hbefore
  | cons item rest ih =>
      have hnext : Denotes (fullProduct before (item.allSamples variance))
          (DerivesAll variance (front ++ [item])) :=
        (hbefore.product (hitems item List.mem_cons_self)).of_iff fun _ _ _ => DerivesAll.snoc_iff
      have := ih hnext fun other hother => hitems other (List.mem_cons_of_mem item hother)
      rw [List.append_assoc] at this
      exact this

theorem alt {branches : List Node}
    (h : ∀ branch ∈ branches, Denotes (branch.allSamples variance) (Derives variance branch)) :
    Denotes (altAll variance branches).eraseDups (Derives variance (.alt branches)) := by
  refine ⟨fun s hs => ?_, fun env text after => ?_⟩
  · obtain ⟨branch, hbranch, hs⟩ := mem_altAll.1 (List.mem_eraseDups.1 hs)
    exact (h branch hbranch).ordered s hs
  · simp only [Derives.alt_iff, List.mem_eraseDups, mem_altAll]
    constructor
    · rintro ⟨branch, hbranch, hd⟩
      obtain ⟨s, hs, hread⟩ := ((h branch hbranch).derived _ _ _).1 hd
      exact ⟨s, ⟨branch, hbranch, hs⟩, hread⟩
    · rintro ⟨s, ⟨branch, hbranch, hs⟩, hread⟩
      exact ⟨branch, hbranch, ((h branch hbranch).derived _ _ _).2 ⟨s, hs, hread⟩⟩

theorem loop {q : Quantifier} {body : Node} (hq : q.Bounded)
    (h : Denotes inner (Derives variance body)) :
    Denotes (fullPowers inner q.min (q.spread variance)).eraseDups
      (Derives variance (.loop q body)) := by
  refine ⟨fun s hs => ?_, fun env text after => ?_⟩
  · obtain ⟨count, _, hs⟩ := mem_fullPowers.1 (List.mem_eraseDups.1 hs)
    exact (h.power count).ordered s hs
  · simp only [Derives.loop_iff, List.mem_eraseDups, mem_fullPowers]
    constructor
    · rintro ⟨count, ⟨hmin, hcount⟩, hd⟩
      obtain ⟨s, hs, hread⟩ := ((h.power count).derived _ _ _).1 hd
      exact ⟨s, ⟨count, ⟨hmin, (le_spread_iff hq).2 hcount⟩, hs⟩, hread⟩
    · rintro ⟨s, ⟨count, ⟨hmin, hcount⟩, hs⟩, hread⟩
      exact ⟨count, ⟨hmin, (le_spread_iff hq).1 hcount⟩,
        ((h.power count).derived _ _ _).2 ⟨s, hs, hread⟩⟩

end Denotes

theorem derives_char_iff {variance : Nat} {c : Char} {icase : Bool} {env after : Env}
    {text : String} : Derives variance (.char c icase) env text after ↔
      ∃ d ∈ withAlternates [c] icase, d.toString = text ∧ env = after := by
  simp only [mem_withAlternates, List.mem_singleton, exists_eq_left]
  constructor
  · intro h
    cases h with
    | char => exact ⟨c, .inl rfl, rfl, rfl⟩
    | charAlternate hd => exact ⟨_, .inr ⟨rfl, hd⟩, rfl, rfl⟩
  · rintro ⟨d, rfl | ⟨rfl, hd⟩, rfl, rfl⟩
    · exact .char _ _
    · exact .charAlternate hd

theorem derives_bracket_iff {variance : Nat} {set : CodePointSet} (hset : set.WellFormed)
    {icase : Bool} {env after : Env} {text : String} :
    Derives variance (.bracket set icase) env text after ↔
      ∃ d ∈ withAlternates set.offered icase, d.toString = text ∧ env = after := by
  simp only [mem_withAlternates, CodePointSet.mem_offered hset]
  constructor
  · intro h
    cases h with
    | member _ hc => exact ⟨_, .inl hc, rfl, rfl⟩
    | memberAlternate hd hc =>
        exact ⟨_, .inr ⟨rfl, _, hc, Unicode.Case.alternate?_symm hd⟩, rfl, rfl⟩
  · rintro ⟨d, hd | ⟨rfl, c, hc, hd⟩, rfl, rfl⟩
    · exact .member _ hd
    · exact .memberAlternate (Unicode.Case.alternate?_symm hd) hc

open Node in
theorem denotes_allSamples {node : Node} (h : node.Each Sound) (variance : Nat) :
    Denotes (node.allSamples variance) (Derives variance node) := by
  induction node with
  | empty =>
      refine Denotes.empty.of_iff fun env text after => ⟨fun hd => ?_, ?_⟩
      · cases hd with
        | empty => exact ⟨rfl, rfl⟩
      · rintro ⟨rfl, rfl⟩
        exact .empty
  | char c icase => exact Denotes.chars.of_iff fun _ _ _ => derives_char_iff
  | bracket set icase => exact Denotes.chars.of_iff fun _ _ _ => derives_bracket_iff h
  | cat items ih =>
      have hitems := eachOf_iff.1 h.2
      have hnil : Denotes [.empty] (DerivesAll variance []) :=
        Denotes.empty.of_iff fun _ _ _ => DerivesAll.nil_iff
      exact (hnil.cat fun item hitem => ih item hitem (hitems item hitem)).of_iff
        fun _ _ _ => Derives.cat_iff
  | alt branches ih =>
      have hbranches := eachOf_iff.1 h.2
      exact .alt fun branch hbranch => ih branch hbranch (hbranches branch hbranch)
  | capture group name body ih =>
      exact ((ih h.2).capture group).of_iff fun _ _ _ => Derives.capture_iff
  | nonCapturing body ih => exact (ih h.2).of_iff fun _ _ _ => Derives.nonCapturing_iff
  | toggleRest toggle =>
      refine Denotes.empty.of_iff fun env text after => ⟨fun hd => ?_, ?_⟩
      · cases hd with
        | toggleRest _ => exact ⟨rfl, rfl⟩
      · rintro ⟨rfl, rfl⟩
        exact .toggleRest toggle
  | toggleScoped toggle body ih => exact (ih h.2).of_iff fun _ _ _ => Derives.toggleScoped_iff
  | anchor kind =>
      refine Denotes.empty.of_iff fun env text after => ⟨fun hd => ?_, ?_⟩
      · cases hd with
        | anchor _ => exact ⟨rfl, rfl⟩
      · rintro ⟨rfl, rfl⟩
        exact .anchor kind
  | backRef group name =>
      refine (Denotes.backRef group).of_iff fun env text after => ⟨fun hd => ?_, ?_⟩
      · cases hd with
        | backRef _ _ => exact ⟨rfl, rfl⟩
      · rintro ⟨rfl, rfl⟩
        exact .backRef group name
  | loop q body ih => exact .loop h.1.1 (ih h.2)

end Specimen
