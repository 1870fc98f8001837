import Specimen.Proofs.Sample.Soundness

namespace Specimen

namespace Fragment

def startsWithText : List Fragment → Bool
  | text _ :: _ => true
  | _ => false

def Normal : List Fragment → Prop
  | [] => True
  | backRef _ :: rest => Normal rest
  | text t :: rest => t ≠ "" ∧ startsWithText rest = false ∧ Normal rest

theorem glue_cons_cons (first second : Fragment) (rest back : List Fragment) :
    glue (first :: second :: rest) back = first :: glue (second :: rest) back := by
  cases first <;> rfl

theorem glue_nil (front : List Fragment) : glue front [] = front := by
  induction front with
  | nil => rfl
  | cons first rest ih =>
      cases rest with
      | nil => cases first <;> rfl
      | cons second rest => rw [glue_cons_cons, ih]

theorem glue_text_text (s t : String) (back : List Fragment) :
    glue [text s] (text t :: back) = text (s ++ t) :: back := rfl

theorem glue_cons_assoc (first : Fragment) (mid back : List Fragment) :
    glue (glue [first] mid) back = glue [first] (glue mid back) := by
  cases first with
  | backRef group => rfl
  | text s =>
      match mid with
      | [] => rfl
      | backRef group :: mid => rfl
      | [text t] =>
          match back with
          | [] => rfl
          | backRef group :: back => rfl
          | text u :: back =>
              simp only [glue_text_text, String.append_assoc]
      | text t :: second :: mid =>
          rw [glue_text_text, glue_cons_cons, glue_cons_cons, glue_text_text]

theorem exists_glue_cons (first : Fragment) (rest back : List Fragment) :
    ∃ second later, glue (first :: rest) back = second :: later := by
  match first, rest, back with
  | first, second :: rest, back => exact ⟨_, _, glue_cons_cons first second rest back⟩
  | backRef group, [], back => exact ⟨_, _, rfl⟩
  | text s, [], [] => exact ⟨_, _, rfl⟩
  | text s, [], backRef group :: back => exact ⟨_, _, rfl⟩
  | text s, [], text t :: back => exact ⟨_, _, rfl⟩

theorem glue_assoc (front mid back : List Fragment) :
    glue (glue front mid) back = glue front (glue mid back) := by
  induction front with
  | nil => rfl
  | cons first rest ih =>
      cases rest with
      | nil => exact glue_cons_assoc first mid back
      | cons second rest =>
          -- The parts meet behind `first`.
          rw [glue_cons_cons, glue_cons_cons, ← ih]
          obtain ⟨third, later, hnext⟩ := exists_glue_cons second rest mid
          rw [hnext, glue_cons_cons]

theorem normal_glue {front back : List Fragment} (hfront : Normal front) (hback : Normal back) :
    Normal (glue front back) := by
  induction front with
  | nil => exact hback
  | cons first rest ih =>
      cases first with
      | backRef group => exact ih hfront
      | text s =>
          obtain ⟨hs, hstart, hrest⟩ := hfront
          match rest with
          | backRef group :: rest => exact ⟨hs, rfl, ih hrest⟩
          | [] =>
              match back with
              | [] => exact ⟨hs, rfl, trivial⟩
              | backRef group :: back => exact ⟨hs, rfl, hback⟩
              | text t :: back =>
                  obtain ⟨_, hnext⟩ := hback
                  exact ⟨by simp [hs], hnext⟩

theorem Normal.text_empty_not_mem {fragments : List Fragment} (h : Normal fragments) :
    text "" ∉ fragments := by
  induction fragments with
  | nil => exact List.not_mem_nil
  | cons first rest ih =>
      cases first with
      | backRef group => simpa using ih h
      | text t =>
          obtain ⟨ht, _, hrest⟩ := h
          simpa [ht.symm] using ih hrest

theorem normal_singleton {fragment : Fragment} (h : fragment ≠ text "") : Normal [fragment] := by
  cases fragment with
  | backRef group => exact trivial
  | text t => exact ⟨fun ht => h (congrArg text ht), rfl, trivial⟩

theorem glue_singleton_of_normal {first : Fragment} {rest : List Fragment}
    (h : Normal (first :: rest)) : glue [first] rest = first :: rest := by
  match first, rest with
  | backRef group, rest => rfl
  | text s, [] => rfl
  | text s, backRef group :: rest => rfl
  | text s, text t :: rest => exact absurd h.2.1 (by simp [startsWithText])

theorem Normal.tail {first : Fragment} {rest : List Fragment} (h : Normal (first :: rest)) :
    Normal rest := by
  cases first with
  | backRef group => exact h
  | text t => exact h.2.2

def push (out : List Fragment) (fragment : Fragment) : List Fragment :=
  if fragment = text "" then out else glue out [fragment]

theorem Normal.push {out : List Fragment} (h : Normal out) (fragment : Fragment) :
    Normal (push out fragment) := by
  rw [Fragment.push]
  split
  · exact h
  · next hfragment => exact normal_glue h (normal_singleton hfragment)

theorem foldl_push_of_normal {fragments : List Fragment} (h : Normal fragments) (out : List Fragment) :
    fragments.foldl push out = glue out fragments := by
  induction fragments generalizing out with
  | nil => rw [glue_nil]; rfl
  | cons first rest ih =>
      have hfirst : first ≠ text "" := fun hempty => h.text_empty_not_mem (by simp [hempty])
      rw [List.foldl_cons, push, if_neg hfirst, ih h.tail, glue_assoc, glue_singleton_of_normal h]

end Fragment

namespace Sample

open Fragment

structure Normal (s : Sample) : Prop where
  fragments : Fragment.Normal s.fragments
  captures : ∀ c ∈ s.captures, Fragment.Normal c.2
  ordered : s.Ordered

variable {s next : Sample}

theorem captured?_mem {group : Nat} {value : List Fragment} (h : s.captured? group = some value) :
    (group, value) ∈ s.captures := by
  obtain ⟨front, back, hsplit, _⟩ := List.lookup_eq_some_iff.1 h
  rw [hsplit]
  exact List.mem_append_right front List.mem_cons_self

namespace Normal

theorem captured (h : s.Normal) {group : Nat} {value : List Fragment}
    (hvalue : s.captured? group = some value) : Fragment.Normal value :=
  h.captures _ (captured?_mem hvalue)

theorem resolve (h : s.Normal) {fragment : Fragment} (hfragment : fragment ≠ .text "") :
    Fragment.Normal (s.resolve fragment) := by
  cases fragment with
  | text t => exact normal_singleton hfragment
  | backRef group =>
      rw [Sample.resolve]
      cases hvalue : s.captured? group with
      | none => exact trivial
      | some value => exact h.captured hvalue

theorem resolveAll (h : s.Normal) {fragments : List Fragment} (hfragments : Fragment.text "" ∉ fragments) :
    Fragment.Normal (s.resolveAll fragments) := by
  induction fragments with
  | nil => exact trivial
  | cons first rest ih =>
      rw [List.mem_cons, not_or] at hfragments
      exact normal_glue (h.resolve (Ne.symm hfragments.1)) (ih hfragments.2)

theorem insertCapture {captures : List (Nat × List Fragment)} {value : List Fragment}
    (h : ∀ c ∈ captures, Fragment.Normal c.2) (hvalue : Fragment.Normal value) (group : Nat) :
    ∀ c ∈ Sample.insertCapture group value captures, Fragment.Normal c.2 := by
  intro c hc
  rcases mem_insertCapture hc with rfl | hc
  · exact hvalue
  · exact h c hc

theorem append (h : s.Normal) (hnext : next.Normal) : (s.append next).Normal := by
  refine ⟨normal_glue h.fragments (h.resolveAll hnext.fragments.text_empty_not_mem), ?_,
    append_ordered h.ordered⟩
  refine List.foldlRecOn
    (motive := fun captures : List (Nat × List Fragment) => ∀ c ∈ captures, Fragment.Normal c.2)
    _ _ h.captures fun captures hcaptures c hc => ?_
  exact insertCapture hcaptures (h.resolveAll (hnext.captures c hc).text_empty_not_mem) c.1

theorem capture (h : s.Normal) (group : Nat) : (s.capture group).Normal :=
  ⟨h.fragments, insertCapture h.captures h.fragments group, capture_ordered h.ordered group⟩

theorem empty : Sample.empty.Normal := ⟨trivial, nofun, empty_ordered⟩

theorem ofChar (c : Char) : (Sample.ofChar c).Normal := by
  refine ⟨normal_singleton fun h => ?_, nofun, ofChar_ordered c⟩
  have hlength := congrArg String.length (Fragment.text.inj h)
  simp at hlength

theorem backRef (group : Nat) : (Sample.backRef group).Normal :=
  ⟨trivial, nofun, backRef_ordered group⟩

end Normal

def resolveInto (s : Sample) (out : List Fragment) (fragment : Fragment) : List Fragment :=
  (s.resolve fragment).foldl push out

theorem normal_resolveInto {out : List Fragment} (h : Fragment.Normal out) (s : Sample)
    (fragment : Fragment) : Fragment.Normal (s.resolveInto out fragment) :=
  List.foldlRecOn _ _ h fun _ hout fragment _ => hout.push fragment

theorem resolveInto_eq (h : s.Normal) {fragment : Fragment} (hfragment : fragment ≠ .text "")
    (out : List Fragment) : s.resolveInto out fragment = glue out (s.resolve fragment) :=
  foldl_push_of_normal (h.resolve hfragment) out

theorem foldl_resolveInto (h : s.Normal) {fragments : List Fragment}
    (hfragments : Fragment.text "" ∉ fragments) (out : List Fragment) :
    fragments.foldl s.resolveInto out = glue out (s.resolveAll fragments) := by
  induction fragments generalizing out with
  | nil => exact (glue_nil out).symm
  | cons first rest ih =>
      rw [List.mem_cons, not_or] at hfragments
      rw [List.foldl_cons, resolveInto_eq h (Ne.symm hfragments.1), ih hfragments.2, glue_assoc]
      rfl

end Sample

section Samples

variable {samples left right inner : List Sample} {s : Sample}

theorem normal_of_mem_fullProduct (hleft : ∀ s ∈ left, s.Normal) (hright : ∀ s ∈ right, s.Normal)
    (hs : s ∈ fullProduct left right) : s.Normal := by
  obtain ⟨a, ha, b, hb, rfl⟩ := mem_fullProduct.1 hs
  exact (hleft a ha).append (hright b hb)

theorem normal_of_mem_fullPower (hinner : ∀ s ∈ inner, s.Normal) {count : Nat}
    (hs : s ∈ fullPower inner count) : s.Normal := by
  induction count generalizing s with
  | zero => exact List.mem_singleton.1 hs ▸ .empty
  | succ count ih => exact normal_of_mem_fullProduct (fun _ => ih) hinner hs

theorem normal_of_mem_chars {cs : List Char} (hs : s ∈ cs.map Sample.ofChar) : s.Normal := by
  obtain ⟨c, _, rfl⟩ := List.mem_map.1 hs
  exact .ofChar c

theorem normal_of_mem_catAll {variance : Nat} {items : List Node} {before : List Sample}
    (hbefore : ∀ s ∈ before, s.Normal)
    (hitems : ∀ item ∈ items, ∀ s ∈ item.allSamples variance, s.Normal)
    (hs : s ∈ catAll variance before items) : s.Normal := by
  induction items generalizing before with
  | nil => exact hbefore s hs
  | cons item rest ih =>
      have hnext : ∀ s ∈ fullProduct before (item.allSamples variance), s.Normal := fun _ =>
        normal_of_mem_fullProduct hbefore (hitems item List.mem_cons_self)
      exact ih hnext (fun other hother => hitems other (List.mem_cons_of_mem item hother)) hs

theorem normal_of_mem_allSamples {variance : Nat} {node : Node} (hs : s ∈ node.allSamples variance) :
    s.Normal := by
  induction node generalizing s with
  | empty => exact List.mem_singleton.1 hs ▸ .empty
  | char c icase => exact normal_of_mem_chars hs
  | bracket set icase => exact normal_of_mem_chars hs
  | cat items ih =>
      have hempty : ∀ s ∈ [Sample.empty], s.Normal := fun s hs => List.mem_singleton.1 hs ▸ .empty
      exact normal_of_mem_catAll hempty (fun item hitem _ => ih item hitem) hs
  | alt branches ih =>
      obtain ⟨branch, hbranch, hs⟩ := mem_altAll.1 (List.mem_eraseDups.1 hs)
      exact ih branch hbranch hs
  | capture group name body ih =>
      obtain ⟨inner, hinner, rfl⟩ := List.mem_map.1 hs
      exact (ih hinner).capture group
  | nonCapturing body ih => exact ih hs
  | toggleRest toggle => exact List.mem_singleton.1 hs ▸ .empty
  | toggleScoped toggle body ih => exact ih hs
  | anchor kind => exact List.mem_singleton.1 hs ▸ .empty
  | backRef group name => exact List.mem_singleton.1 hs ▸ .backRef group
  | loop q body ih =>
      obtain ⟨count, _, hs⟩ := mem_fullPowers.1 (List.mem_eraseDups.1 hs)
      exact normal_of_mem_fullPower (fun _ => ih) hs

theorem normal_of_mem_samples {limits : Limits} {node : Node} (hs : s ∈ node.samples limits) : s.Normal :=
  normal_of_mem_allSamples (samples_subset limits node hs)

end Samples

end Specimen
