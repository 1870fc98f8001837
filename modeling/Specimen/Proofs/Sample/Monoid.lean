import Specimen.Proofs.Sample.Choices
import Specimen.Proofs.Sample.Meaning

namespace Specimen

namespace Sample

variable {s a b c : Sample}

theorem resolveAll_glue (s : Sample) (front back : List Fragment) :
    s.resolveAll (Fragment.glue front back) =
      Fragment.glue (s.resolveAll front) (s.resolveAll back) := by
  fun_induction Fragment.glue front back with
  | case1 back => rfl
  | case2 t u back =>
      have hjoined : Fragment.glue [.text t] [.text u] = [.text (t ++ u)] := rfl
      simp only [resolveAll, resolve, Fragment.glue_nil]
      rw [← Fragment.glue_assoc, hjoined]
  | case3 back first rest _ ih =>
      simp only [resolveAll]
      rw [ih, Fragment.glue_assoc]

/-- What `b` leaves pending reads as it does after `a`, and so does what `b` captured. -/
theorem resolve_append (h : b.Ordered) (a : Sample) (fragment : Fragment) :
    (a.append b).resolve fragment = a.resolveAll (b.resolve fragment) := by
  cases fragment with
  | text t => rfl
  | backRef group =>
      simp only [resolve]
      rw [lookup_append h]
      cases b.captured? group with
      | none => exact (Fragment.glue_nil _).symm
      | some value => rfl

theorem resolveAll_append (h : b.Ordered) (a : Sample) (fragments : List Fragment) :
    (a.append b).resolveAll fragments = a.resolveAll (b.resolveAll fragments) := by
  induction fragments with
  | nil => rfl
  | cons first rest ih => rw [resolveAll, resolve_append h, ih, resolveAll, resolveAll_glue]

theorem fragments_append_append (hb : b.Ordered) (a c : Sample) :
    ((a.append b).append c).fragments = (a.append (b.append c)).fragments := by
  calc ((a.append b).append c).fragments
      = Fragment.glue (Fragment.glue a.fragments (a.resolveAll b.fragments))
          ((a.append b).resolveAll c.fragments) := rfl
    _ = Fragment.glue a.fragments (Fragment.glue (a.resolveAll b.fragments)
          (a.resolveAll (b.resolveAll c.fragments))) := by
        rw [Fragment.glue_assoc, resolveAll_append hb]
    _ = Fragment.glue a.fragments
          (a.resolveAll (Fragment.glue b.fragments (b.resolveAll c.fragments))) := by
        rw [resolveAll_glue]

theorem captured?_append_append (hb : b.Ordered) (hc : c.Ordered) (a : Sample) (group : Nat) :
    ((a.append b).append c).captured? group = (a.append (b.append c)).captured? group := by
  rw [lookup_append hc, lookup_append hb, lookup_append (append_ordered hb), lookup_append hc]
  cases c.captured? group with
  | none => rfl
  | some value => exact congrArg some (resolveAll_append hb a value)

theorem append_assoc (ha : a.Ordered) (hb : b.Ordered) (hc : c.Ordered) :
    (a.append b).append c = a.append (b.append c) :=
  eq_of_captured?_eq (append_ordered (append_ordered ha)) (append_ordered ha)
    (fragments_append_append hb a c) (captured?_append_append hb hc a)

theorem empty_resolveAll {fragments : List Fragment} (h : Fragment.Normal fragments) :
    empty.resolveAll fragments = fragments := by
  induction fragments with
  | nil => rfl
  | cons first rest ih =>
      have hfirst : empty.resolve first = [first] := by cases first <;> rfl
      rw [resolveAll, hfirst, ih h.tail, Fragment.glue_singleton_of_normal h]

theorem empty_append (h : a.Normal) : empty.append a = a := by
  refine eq_of_captured?_eq (append_ordered empty_ordered) h.ordered (empty_resolveAll h.fragments)
    fun group => ?_
  rw [lookup_append h.ordered]
  cases hvalue : a.captured? group with
  | none => rfl
  | some value => exact congrArg some (empty_resolveAll (h.captured hvalue))

theorem append_empty (a : Sample) : a.append empty = a := by
  simp only [append, empty, resolveAll, Fragment.glue_nil, List.foldl_nil]

theorem captured?_append (hs : s.Normal) (ha : a.Normal) (group : Nat) : (s.append a).captured? group =
    ((a.captured? group).map (·.foldl s.resolveInto [])).or (s.captured? group) := by
  rw [lookup_append ha.ordered]
  cases hvalue : a.captured? group with
  | none => rfl
  | some value =>
      have htext := (ha.captured hvalue).text_empty_not_mem
      rw [Option.map_some, Option.map_some, foldl_resolveInto hs htext]
      rfl

theorem Normal.joinBehind (ha : a.Normal) {samples : List Sample} (h : ∀ s ∈ samples, s.Normal) :
    (a.joinBehind samples).Normal := by
  induction samples generalizing a with
  | nil => exact ha
  | cons first rest ih =>
      obtain ⟨hfirst, hrest⟩ := List.forall_mem_cons.1 h
      exact ih (ha.append hfirst) hrest

theorem joinBehind_eq (ha : a.Normal) {samples : List Sample} (h : ∀ s ∈ samples, s.Normal) :
    a.joinBehind samples = a.append (joinBehind .empty samples) := by
  induction samples generalizing a with
  | nil => exact (append_empty a).symm
  | cons first rest ih =>
      obtain ⟨hfirst, hrest⟩ := List.forall_mem_cons.1 h
      have hlater := Normal.empty.joinBehind hrest
      calc (a.append first).joinBehind rest
          = (a.append first).append (joinBehind .empty rest) := ih (ha.append hfirst) hrest
        _ = a.append (first.append (joinBehind .empty rest)) :=
            append_assoc ha.ordered hfirst.ordered hlater.ordered
        _ = a.append (first.joinBehind rest) := by rw [ih hfirst hrest]
        _ = a.append (joinBehind .empty (first :: rest)) := by
            rw [joinBehind, joinBehind, List.foldl_cons, empty_append hfirst]

end Sample

inductive Grouping where
  | nothing
  | part (s : Sample)
  | both (front back : Grouping)

namespace Grouping

def parts : Grouping → List Sample
  | nothing => []
  | part s => [s]
  | both front back => front.parts ++ back.parts

def result : Grouping → Sample
  | nothing => .empty
  | part s => s
  | both front back => front.result.append back.result

theorem result_eq {grouping : Grouping} (h : ∀ s ∈ grouping.parts, s.Normal) :
    grouping.result = Sample.joinBehind .empty grouping.parts := by
  induction grouping with
  | nothing => rfl
  | part s => exact (Sample.empty_append (h s (List.mem_singleton_self s))).symm
  | both front back ihfront ihback =>
      obtain ⟨hfront, hback⟩ := List.forall_mem_append.1 h
      have hjoined := Sample.joinBehind_eq (.joinBehind .empty hfront) hback
      rw [result, ihfront hfront, ihback hback, parts, ← hjoined]
      exact List.foldl_append.symm

end Grouping

theorem samples_form_monoid :
    (∀ (limits : Limits) (node : Node), ∀ s ∈ node.samples limits, s.Normal) ∧
      (∀ (s : Sample) (out : List Fragment) (fragment : Fragment), Fragment.Normal out →
        Fragment.Normal (s.resolveInto out fragment)) ∧
      (∀ (s : Sample) (group : Nat), s.Normal → (s.capture group).Normal) ∧
      (∀ s next : Sample, s.Normal → next.Normal → (s.append next).Normal ∧
        (s.append next).fragments = next.fragments.foldl s.resolveInto s.fragments ∧
        ∀ group, (s.append next).captured? group =
          ((next.captured? group).map (·.foldl s.resolveInto [])).or (s.captured? group)) ∧
      (∀ a b c : Sample, a.Normal → b.Normal → c.Normal →
        (a.append b).append c = a.append (b.append c)) ∧
      (Sample.empty.Normal ∧
        ∀ a : Sample, a.Normal → Sample.empty.append a = a ∧ a.append .empty = a) ∧
      (∀ first second : Grouping, (∀ s ∈ first.parts, s.Normal) → first.parts = second.parts →
        first.result = second.result) ∧
      ∀ samples : List Sample, (∀ s ∈ samples, s.Normal) →
        (distinct samples).Pairwise Sample.Differ ∧ ∀ s, s ∈ distinct samples ↔ s ∈ samples := by
  refine ⟨fun limits node s => normal_of_mem_samples, ?_, ?_, ?_, ?_, ⟨.empty, ?_⟩, ?_, ?_⟩
  · exact fun s out fragment hout => Sample.normal_resolveInto hout s fragment
  · exact fun s group hs => hs.capture group
  · intro s next hs hnext
    have htext := hnext.fragments.text_empty_not_mem
    exact ⟨hs.append hnext, (Sample.foldl_resolveInto hs htext s.fragments).symm,
      Sample.captured?_append hs hnext⟩
  · exact fun a b c ha hb hc => Sample.append_assoc ha.ordered hb.ordered hc.ordered
  · exact fun a ha => ⟨Sample.empty_append ha, Sample.append_empty a⟩
  · intro first second hfirst hparts
    rw [Grouping.result_eq hfirst, hparts]
    exact (Grouping.result_eq (hparts ▸ hfirst)).symm
  · exact fun samples hsamples => ⟨distinct_differ hsamples, mem_distinct⟩

theorem samples_form_monoid_pending :
    ∃ a b c : Sample, a.Normal ∧ b.Normal ∧ c.Normal ∧ b.captures = [(2, [.text "y", .backRef 1])] ∧
      c.fragments = [.backRef 2] ∧ (a.append b).append c = a.append (b.append c) ∧
      ((a.append b).append c).fragments = [.text "xyxyx"] := by
  obtain ⟨_, _, _, _, hassoc, _⟩ := samples_form_monoid
  have ha : ((Sample.ofChar 'x').capture 1).Normal := (Sample.Normal.ofChar 'x').capture 1
  have hb : (((Sample.ofChar 'y').append (.backRef 1)).capture 2).Normal :=
    ((Sample.Normal.ofChar 'y').append (.backRef 1)).capture 2
  have hc : (Sample.backRef 2).Normal := .backRef 2
  exact ⟨_, _, _, ha, hb, hc, by decide, rfl, hassoc _ _ _ ha hb hc, by decide⟩

end Specimen
