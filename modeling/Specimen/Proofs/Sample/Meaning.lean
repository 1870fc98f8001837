import Specimen.Proofs.Sample.Normal
/-!
A normal sample is known by how it reads: two that come to the same text and leave the same values behind,
whatever values the groups have before them, are equal.
-/

namespace Specimen

namespace Fragment

def symbols : List Fragment → List (Char ⊕ Nat)
  | [] => []
  | text t :: rest => t.toList.map .inl ++ symbols rest
  | backRef group :: rest => .inr group :: symbols rest

def symbolIn (env : Env) : Char ⊕ Nat → List Char
  | .inl c => [c]
  | .inr group => (env.value group).toList

theorem toList_textAll (env : Env) (fragments : List Fragment) :
    (textAll env fragments).toList = (symbols fragments).flatMap (symbolIn env) := by
  induction fragments with
  | nil => rfl
  | cons first rest ih =>
      rw [textAll, String.toList_append, ih]
      cases first with
      | text t =>
          rw [symbols, List.flatMap_append, List.flatMap_map]
          simp only [symbolIn, List.flatMap_singleton']
          rfl
      | backRef group => rfl

theorem exists_env_of_ne {x y : Char ⊕ Nat} (h : x ≠ y) :
    ∃ env c d, c ≠ d ∧ symbolIn env x = [c] ∧ symbolIn env y = [d] := by
  have hother (c : Char) : ∃ d, c ≠ d := by
    by_cases hc : c = 'a'
    · exact ⟨'b', by rw [hc]; decide⟩
    · exact ⟨'a', hc⟩
  match x, y with
  | .inl c, .inl d => exact ⟨.empty, c, d, fun heq => h (congrArg _ heq), rfl, rfl⟩
  | .inl c, .inr group =>
      obtain ⟨d, hd⟩ := hother c
      exact ⟨fun _ => some (.singleton d), c, d, hd, rfl, String.toList_singleton d⟩
  | .inr group, .inl d =>
      obtain ⟨c, hc⟩ := hother d
      exact ⟨fun _ => some (.singleton c), c, d, hc.symm, String.toList_singleton c, rfl⟩
  | .inr first, .inr second =>
      have hne : second ≠ first := fun heq => h (congrArg _ heq.symm)
      refine ⟨fun group => if group = first then some "a" else some "b", 'a', 'b', by decide, ?_, ?_⟩
      · simp [symbolIn, Env.value]
      · simp [symbolIn, Env.value, hne]

theorem eq_nil_of_flatMap_symbolIn {x : List (Char ⊕ Nat)}
    (h : ∀ env, x.flatMap (symbolIn env) = []) : x = [] := by
  cases x with
  | nil => rfl
  | cons first rest =>
      have hfirst := (List.append_eq_nil_iff.1 (h fun _ => some "a")).1
      cases first with
      | inl c => cases hfirst
      | inr group => exact absurd hfirst (by simp [symbolIn, Env.value])

theorem eq_of_flatMap_symbolIn {x y : List (Char ⊕ Nat)}
    (h : ∀ env, x.flatMap (symbolIn env) = y.flatMap (symbolIn env)) : x = y := by
  induction x generalizing y with
  | nil => exact (eq_nil_of_flatMap_symbolIn fun env => (h env).symm).symm
  | cons first rest ih =>
      cases y with
      | nil => exact eq_nil_of_flatMap_symbolIn h
      | cons second later =>
          simp only [List.flatMap_cons] at h
          by_cases hfirst : first = second
          · subst hfirst
            rw [ih fun env => List.append_cancel_left (h env)]
          · obtain ⟨env, c, d, hne, hc, hd⟩ := exists_env_of_ne hfirst
            have hheads := h env
            rw [hc, hd] at hheads
            exact absurd (List.cons.inj hheads).1 hne

theorem takeWhile_symbols {rest : List Fragment} (h : startsWithText rest = false) (text : List Char) :
    (text.map Sum.inl ++ symbols rest).takeWhile Sum.isLeft = text.map .inl := by
  have hnil : (symbols rest).takeWhile Sum.isLeft = [] := by
    match rest with
    | [] => rfl
    | backRef group :: rest => rfl
    | Fragment.text t :: rest => cases h
  rw [List.takeWhile_append_of_pos (by simp), hnil, List.append_nil]

theorem symbols_text_ne {t : String} (ht : t ≠ "") (rest : List Fragment) :
    symbols (text t :: rest) ≠ [] ∧ ∀ group later, symbols (text t :: rest) ≠ .inr group :: later := by
  rw [symbols]
  cases hchars : t.toList with
  | nil => exact absurd (String.toList_inj.1 hchars) ht
  | cons c later => simp

theorem eq_of_symbols_eq {x y : List Fragment} (hx : Normal x) (hy : Normal y)
    (h : symbols x = symbols y) : x = y := by
  induction x generalizing y with
  | nil =>
      match y with
      | [] => rfl
      | backRef group :: later => cases h
      | text t :: later => exact absurd h.symm (symbols_text_ne hy.1 later).1
  | cons first rest ih =>
      match first, y with
      | backRef group, [] => cases h
      | backRef group, backRef other :: later =>
          have hlater : Normal later := hy
          obtain ⟨hgroup, hrest⟩ := List.cons.inj h
          rw [Sum.inr.inj hgroup, ih hx hlater hrest]
      | backRef group, text t :: later => exact absurd h.symm ((symbols_text_ne hy.1 later).2 _ _)
      | text s, [] => exact absurd h (symbols_text_ne hx.1 rest).1
      | text s, backRef group :: later => exact absurd h ((symbols_text_ne hx.1 rest).2 _ _)
      | text s, text t :: later =>
          -- Both texts end where the first group is waited for.
          have htaken := congrArg (List.takeWhile Sum.isLeft) h
          simp only [symbols] at h htaken
          rw [takeWhile_symbols hx.2.1, takeWhile_symbols hy.2.1] at htaken
          rw [htaken] at h
          have hchars := List.map_inj_right (fun _ _ => Sum.inl.inj) |>.1 htaken
          rw [String.toList_inj.1 hchars, ih hx.2.2 hy.2.2 (List.append_cancel_left h)]

theorem eq_of_textAll_eq {x y : List Fragment} (hx : Normal x) (hy : Normal y)
    (h : ∀ env, textAll env x = textAll env y) : x = y := by
  refine eq_of_symbols_eq hx hy (eq_of_flatMap_symbolIn fun env => ?_)
  rw [← toList_textAll, ← toList_textAll, h]

end Fragment

namespace Sample

section Lookup

variable {x y : List (Nat × List Fragment)} {group other : Nat} {value old : List Fragment}

theorem le_of_lookup_eq (hy : ∀ c ∈ y, c.1 < other)
    (h : ((group, value) :: x).lookup group = ((other, old) :: y).lookup group) : group ≤ other := by
  refine Nat.le_of_not_lt fun hlt => ?_
  have hlow : ∀ c ∈ (other, old) :: y, c.1 < group :=
    List.forall_mem_cons.2 ⟨hlt, fun c hc => Nat.lt_trans (hy c hc) hlt⟩
  rw [List.lookup_cons_self, lookup_eq_none hlow] at h
  cases h

theorem lookup_eq_of_cons (hx : ∀ c ∈ x, c.1 < group) (hy : ∀ c ∈ y, c.1 < group)
    (h : ∀ later, ((group, value) :: x).lookup later = ((group, old) :: y).lookup later) (later : Nat) :
    x.lookup later = y.lookup later := by
  by_cases heq : later = group
  · rw [heq, lookup_eq_none hx, lookup_eq_none hy]
  · have hskip := h later
    rwa [List.lookup_cons, List.lookup_cons, beq_false_of_ne heq] at hskip

theorem eq_of_lookup_eq (hx : x.Pairwise fun a b => b.1 < a.1) (hy : y.Pairwise fun a b => b.1 < a.1)
    (h : ∀ group, x.lookup group = y.lookup group) : x = y := by
  induction x generalizing y with
  | nil =>
      cases y with
      | nil => rfl
      | cons b later =>
          have hb := h b.1
          rw [List.lookup_cons_self] at hb
          cases hb
  | cons a rest ih =>
      cases y with
      | nil =>
          have ha := h a.1
          rw [List.lookup_cons_self] at ha
          cases ha
      | cons b later =>
          obtain ⟨group, value⟩ := a
          obtain ⟨other, old⟩ := b
          obtain ⟨hlow, hrest⟩ := List.pairwise_cons.1 hx
          obtain ⟨hlow', hlater⟩ := List.pairwise_cons.1 hy
          obtain rfl : group = other :=
            Nat.le_antisymm (le_of_lookup_eq hlow' (h group)) (le_of_lookup_eq hlow (h other).symm)
          have hvalue := h group
          rw [List.lookup_cons_self, List.lookup_cons_self] at hvalue
          rw [Option.some.inj hvalue, ih hrest hlater (lookup_eq_of_cons hlow hlow' h)]

end Lookup

variable {s t : Sample}

theorem eq_of_captured?_eq (hs : s.Ordered) (ht : t.Ordered) (hfragments : s.fragments = t.fragments)
    (h : ∀ group, s.captured? group = t.captured? group) : s = t := by
  cases s
  cases t
  obtain rfl := eq_of_lookup_eq hs ht h
  obtain rfl := hfragments
  rfl

def Differ (s t : Sample) : Prop := ∃ env, s.textIn env ≠ t.textIn env ∨ s.after env ≠ t.after env

theorem captured?_eq_of_after_eq (hs : s.Normal) (ht : t.Normal)
    (h : ∀ env, s.after env = t.after env) (group : Nat) : s.captured? group = t.captured? group := by
  have hvalue (env : Env) := congrFun (h env) group
  simp only [after] at hvalue
  cases hleft : s.captured? group with
  | none =>
      cases hright : t.captured? group with
      | none => rfl
      | some value =>
          rw [hleft, hright] at hvalue
          cases hvalue .empty
  | some value =>
      cases hright : t.captured? group with
      | none =>
          rw [hleft, hright] at hvalue
          cases hvalue .empty
      | some other =>
          rw [hleft, hright] at hvalue
          have hall (env : Env) := Option.some.inj (hvalue env)
          rw [Fragment.eq_of_textAll_eq (hs.captured hleft) (ht.captured hright) hall]

theorem eq_of_reads_eq (hs : s.Normal) (ht : t.Normal) (htext : ∀ env, s.textIn env = t.textIn env)
    (hafter : ∀ env, s.after env = t.after env) : s = t :=
  eq_of_captured?_eq hs.ordered ht.ordered (Fragment.eq_of_textAll_eq hs.fragments ht.fragments htext)
    (captured?_eq_of_after_eq hs ht hafter)

theorem ne_iff_differ (hs : s.Normal) (ht : t.Normal) : s ≠ t ↔ s.Differ t := by
  constructor
  · intro hne
    refine Classical.byContradiction fun hsame => hne (eq_of_reads_eq hs ht ?_ ?_)
    · exact fun env => Classical.byContradiction fun h => hsame ⟨env, .inl h⟩
    · exact fun env => Classical.byContradiction fun h => hsame ⟨env, .inr h⟩
  · rintro ⟨env, hdiffer⟩ rfl
    rcases hdiffer with h | h
    · exact h rfl
    · exact h rfl

end Sample

theorem nodup_eraseDups {α : Type} [BEq α] [LawfulBEq α] (as : List α) : as.eraseDups.Nodup := by
  match as with
  | [] => exact .nil
  | a :: rest =>
      have hlength := List.length_filter_le (fun b => !b == a) rest
      rw [List.eraseDups_cons, List.nodup_cons, List.mem_eraseDups]
      exact ⟨by simp, nodup_eraseDups (rest.filter fun b => !b == a)⟩
termination_by as.length

theorem distinct_differ {samples : List Sample} (h : ∀ s ∈ samples, s.Normal) :
    (distinct samples).Pairwise Sample.Differ := by
  have hnodup : (distinct samples).Nodup := by
    rw [distinct_eq_eraseDups]
    exact nodup_eraseDups samples
  refine hnodup.imp_of_mem fun hs ht hne => ?_
  exact (Sample.ne_iff_differ (h _ ((mem_distinct _).1 hs)) (h _ ((mem_distinct _).1 ht))).1 hne

end Specimen
