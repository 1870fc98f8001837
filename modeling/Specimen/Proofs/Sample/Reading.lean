import Specimen.Sample.Basic

namespace Specimen

/-- The last value of each group that took part. -/
abbrev Env := Nat → Option String

namespace Env

def empty : Env := fun _ => none

def value (env : Env) (group : Nat) : String := (env group).getD ""

def bind (env : Env) (group : Nat) (value : String) : Env :=
  fun g => if g = group then some value else env g

end Env

namespace Fragment

def textIn (env : Env) : Fragment → String
  | text t => t
  | backRef group => env.value group

def textAll (env : Env) : List Fragment → String
  | [] => ""
  | fragment :: rest => fragment.textIn env ++ textAll env rest

variable (env : Env)

theorem textAll_glue (front back : List Fragment) :
    textAll env (glue front back) = textAll env front ++ textAll env back := by
  fun_induction glue front back with
  | case1 back => exact (String.empty_append).symm
  | case2 s t back => simp only [textAll, textIn, String.append_empty, String.append_assoc]
  | case3 back first rest _ ih =>
      simp only [textAll]
      rw [ih, String.append_assoc]

theorem foldl_text (fragments : List Fragment) (out : String) :
    fragments.foldl (fun out fragment =>
      match fragment with
      | .text t => out ++ t
      | .backRef _ => out) out = out ++ textAll .empty fragments := by
  induction fragments generalizing out with
  | nil => exact (String.append_empty).symm
  | cons fragment rest ih =>
      rw [List.foldl_cons, ih, textAll]
      cases fragment with
      | text t => rw [textIn, String.append_assoc]
      | backRef group =>
          have hnone : (backRef group).textIn .empty = "" := rfl
          rw [hnone, String.empty_append]

end Fragment

namespace Sample

open Fragment

def textIn (env : Env) (s : Sample) : String := textAll env s.fragments

def after (env : Env) (s : Sample) : Env := fun group =>
  match s.captured? group with
  | some value => some (textAll env value)
  | none => env group

/-- The captures stand in order, so that each group has one value. -/
def Ordered (s : Sample) : Prop := s.captures.Pairwise fun a b => b.1 < a.1

theorem text_eq (s : Sample) : s.text = s.textIn .empty :=
  (foldl_text s.fragments "").trans String.empty_append

variable (env : Env)

theorem textAll_resolve (s : Sample) (fragment : Fragment) :
    textAll env (s.resolve fragment) = fragment.textIn (s.after env) := by
  cases fragment with
  | text t => exact String.append_empty
  | backRef group =>
      simp only [resolve, Fragment.textIn, Env.value, after]
      cases s.captured? group with
      | none => exact String.append_empty
      | some value => rfl

theorem textAll_resolveAll (s : Sample) (fragments : List Fragment) :
    textAll env (s.resolveAll fragments) = textAll (s.after env) fragments := by
  induction fragments with
  | nil => rfl
  | cons fragment rest ih => rw [resolveAll, textAll_glue, textAll_resolve, ih, textAll]

theorem textIn_append (s next : Sample) :
    (s.append next).textIn env = s.textIn env ++ next.textIn (s.after env) := by
  simp only [textIn, append]
  rw [textAll_glue, textAll_resolveAll]

theorem lookup_insertCapture (group g : Nat) (value : List Fragment)
    (captures : List (Nat × List Fragment)) :
    (insertCapture group value captures).lookup g =
      if g = group then some value else captures.lookup g := by
  fun_induction insertCapture group value captures with
  | case1 => simp only [List.lookup_cons, List.lookup_nil]; grind
  | case2 => simp only [List.lookup_cons]; grind
  | case3 => simp only [List.lookup_cons]; grind
  | case4 => simp only [List.lookup_cons]; grind

theorem mem_insertCapture {group : Nat} {value : List Fragment}
    {captures : List (Nat × List Fragment)} {c : Nat × List Fragment}
    (h : c ∈ insertCapture group value captures) : c = (group, value) ∨ c ∈ captures := by
  fun_induction insertCapture group value captures with
  | case1 => simpa using h
  | case2 => simpa using h
  | case3 =>
      rcases List.mem_cons.1 h with rfl | h
      · exact .inl rfl
      · exact .inr (List.mem_cons_of_mem _ h)
  | case4 g v rest _ _ ih =>
      rcases List.mem_cons.1 h with rfl | h
      · exact .inr (List.mem_cons_self)
      · exact (ih h).imp_right (List.mem_cons_of_mem _)

theorem insertCapture_ordered {group : Nat} {value : List Fragment}
    {captures : List (Nat × List Fragment)} (h : captures.Pairwise fun a b => b.1 < a.1) :
    (insertCapture group value captures).Pairwise fun a b => b.1 < a.1 := by
  fun_induction insertCapture group value captures with
  | case1 => exact List.pairwise_singleton _ _
  | case2 g v rest hlt =>
      refine List.pairwise_cons.2 ⟨fun c hc => ?_, h⟩
      rcases List.mem_cons.1 hc with rfl | hc
      · exact hlt
      · exact Nat.lt_trans ((List.pairwise_cons.1 h).1 c hc) hlt
  | case3 => exact List.pairwise_cons.2 (List.pairwise_cons.1 h)
  | case4 g v rest hlt hne ih =>
      obtain ⟨hg, hrest⟩ := List.pairwise_cons.1 h
      refine List.pairwise_cons.2 ⟨fun c hc => ?_, ih hrest⟩
      rcases mem_insertCapture hc with rfl | hc
      · simp only
        omega
      · exact hg c hc

theorem empty_ordered : empty.Ordered := .nil

theorem ofChar_ordered (c : Char) : (ofChar c).Ordered := .nil

theorem backRef_ordered (group : Nat) : (backRef group).Ordered := .nil

theorem capture_ordered {s : Sample} (h : s.Ordered) (group : Nat) : (s.capture group).Ordered :=
  insertCapture_ordered h

theorem append_ordered {s next : Sample} (h : s.Ordered) : (s.append next).Ordered := by
  simp only [Ordered, append]
  exact List.foldlRecOn _ _ h fun _ hcaptures _ _ => insertCapture_ordered hcaptures

theorem lookup_eq_none {captures : List (Nat × List Fragment)} {group : Nat}
    (h : ∀ c ∈ captures, c.1 < group) : captures.lookup group = none := by
  induction captures with
  | nil => rfl
  | cons c rest ih =>
      have hc := h c List.mem_cons_self
      have hne : (group == c.1) = false := beq_false_of_ne (by omega)
      rw [List.lookup_cons, hne]
      exact ih fun c hc => h c (List.mem_cons_of_mem _ hc)

theorem lookup_append {s next : Sample} (h : next.Ordered) (group : Nat) :
    (s.append next).captured? group =
      ((next.captured? group).map s.resolveAll).or (s.captured? group) := by
  simp only [captured?, append]
  simp only [Ordered] at h
  generalize next.captures = later at h
  generalize s.captures = captures
  induction later generalizing captures with
  | nil => rfl
  | cons c rest ih =>
      obtain ⟨g, value⟩ := c
      obtain ⟨hg, hrest⟩ := List.pairwise_cons.1 h
      rw [List.foldl_cons, ih hrest, lookup_insertCapture, List.lookup_cons]
      by_cases hgroup : group = g
      · subst hgroup
        simp [lookup_eq_none hg]
      · rw [beq_false_of_ne hgroup, if_neg hgroup]

theorem after_append {s next : Sample} (h : next.Ordered) :
    (s.append next).after env = next.after (s.after env) := by
  funext group
  simp only [after]
  rw [lookup_append h]
  cases hnext : next.captured? group with
  | none => rfl
  | some value =>
      simp only [Option.map_some, Option.some_or]
      rw [textAll_resolveAll]

theorem after_capture (s : Sample) (group : Nat) :
    (s.capture group).after env = (s.after env).bind group (s.textIn env) := by
  funext g
  simp only [after, captured?, capture, lookup_insertCapture, Env.bind]
  by_cases hg : g = group
  · simp only [hg, if_true]
    rfl
  · simp only [hg, if_false]

end Sample

end Specimen
