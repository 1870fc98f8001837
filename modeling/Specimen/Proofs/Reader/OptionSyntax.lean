import Specimen.Proofs.Reader.InStepRun

namespace Specimen

open Reader

def CodePointSet.EqualButLineFeed (set other : CodePointSet) : Prop :=
  set = other ∨ (set = .full ∧ other = .dot false) ∨ (set = .dot false ∧ other = .full)

theorem CodePointSet.dot_equalButLineFeed (multiline other : Bool) :
    (dot multiline).EqualButLineFeed (dot other) := by
  cases multiline <;> cases other
  · exact .inl rfl
  · exact .inr (.inr ⟨rfl, rfl⟩)
  · exact .inr (.inl ⟨rfl, rfl⟩)
  · exact .inl rfl

theorem Toggle.apply_extended_eq (toggle : Toggle) {f g : Flags} (h : g.extended = f.extended) :
    (toggle.apply g).extended = (toggle.apply f).extended := by
  simp only [apply, h]

theorem Toggle.apply_icase_eq (toggle : Toggle) {f g : Flags} (h : f.icase = g.icase) :
    (toggle.apply f).icase = (toggle.apply g).icase := by
  simp only [apply, h]

namespace Reader.Likeness

def syntaxOnly : Likeness where
  flags f g := g.extended = f.extended
  marks _ _ := True
  sets _ _ := True
  extended_eq h := h
  apply toggle h := toggle.apply_extended_eq h
  icase _ := trivial
  unmarked := trivial
  same _ := trivial
  dot _ := trivial
  bracket _ _ _ := trivial

def sameCase : Likeness where
  flags f g := g.extended = f.extended ∧ f.icase = g.icase
  marks := Eq
  sets := CodePointSet.EqualButLineFeed
  extended_eq h := h.1
  apply toggle h := ⟨toggle.apply_extended_eq h.1, toggle.apply_icase_eq h.2⟩
  icase h := h.2
  unmarked := rfl
  same _ := .inl rfl
  dot _ := CodePointSet.dot_equalButLineFeed _ _
  bracket := by
    intro f g c a b h ha hb
    rw [h.2, hb] at ha
    cases ha
    exact .inl rfl

end Reader.Likeness

theorem Reader.start_inStep {k : Likeness} {f g : Flags} (h : k.flags f g) (text : String) :
    (State.start f text).InStep k [] 0 (State.start g text) :=
  ⟨rfl, h, GroupTable.shift_zero.symm, .outermost (.first .nil), rfl, nofun⟩

namespace Pattern

variable {f g : Flags}

theorem read_agree {k : Likeness} (text : String) (h : k.flags f g) :
    Agree (fun p q => q.groups = p.groups ∧ k.Alike p.root q.root) (Pattern.read text f)
      (Pattern.read text g) := by
  have htotal : countGroups g text.toList = countGroups f text.toList := by
    rw [countGroups, countGroups, k.extended_eq h]
  rw [read_eq, read_eq, htotal]
  refine (patternRun_agree (start_inStep h text)).map _ _ fun r q hrq => ⟨?_, ?_⟩
  · exact hrq.groups_eq.trans GroupTable.shift_zero
  · obtain ⟨b, c, hbranches, hr, hq⟩ := hrq.nodes
    simp only [hr, hq]
    exact hbranches.alike_node

theorem read_alike (text : String) (h : f.extended = g.extended) :
    Agree (fun p q => q.groups = p.groups ∧
        Node.Alike (fun _ _ => True) (fun _ _ => True) p.root q.root ∧
        (f.icase = g.icase → Node.Alike Eq CodePointSet.EqualButLineFeed p.root q.root))
      (Pattern.read text f) (Pattern.read text g) := by
  refine (read_agree (k := .syntaxOnly) text h.symm).mono fun p q hp hq halike =>
    ⟨halike.1, halike.2, fun hicase => ?_⟩
  have hcase := read_agree (k := .sameCase) text ⟨h.symm, hicase⟩
  rw [hp, hq] at hcase
  cases hcase with
  | ok hpq => exact hpq.2

theorem read_alike_lines :
    ∃ p q, Pattern.read "(?m:.)|[^a]+(.)" ⟨true, false, true⟩ = .ok p ∧
      Pattern.read "(?m:.)|[^a]+(.)" ⟨true, true, true⟩ = .ok q ∧ q.groups = p.groups ∧
      Node.Alike Eq CodePointSet.EqualButLineFeed p.root q.root := by
  have hone : (Pattern.read "(?m:.)|[^a]+(.)" ⟨true, false, true⟩).toOption.map
      Pattern.groupCount = some 1 := by
    decide +kernel
  obtain ⟨p, hp, _⟩ := exists_of_read hone
  have hagree := read_alike "(?m:.)|[^a]+(.)" (f := ⟨true, false, true⟩)
    (g := ⟨true, true, true⟩) rfl
  obtain ⟨_, q, hpok, hq, hgroups, -, halike⟩ | ⟨reason, herror, -⟩ := hagree.elim
  · rw [hp] at hpok
    cases hpok
    exact ⟨p, q, hp, hq, hgroups, halike rfl⟩
  · rw [hp] at herror
    cases herror

end Pattern

end Specimen
