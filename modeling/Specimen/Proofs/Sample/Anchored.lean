import Specimen.Proofs.Sample.Derivation
/-!
Anchors read as assertions on the whole string. A derivation is followed with the anchors that it meets, each
with the number of characters before it, so that what an anchor asserts can be asked of it.
-/

namespace Specimen

structure MetAnchor where
  kind : Anchor
  offset : Nat
  deriving DecidableEq, Repr

def MetAnchor.Holds (length : Nat) (anchor : MetAnchor) : Prop :=
  anchor.offset = if anchor.kind.isStart then 0 else length

mutual

/-- `Meets variance node offset env text after met` is a derivation that starts behind `offset`
characters, together with the anchors that it meets. -/
inductive Meets (variance : Nat) : Node → Nat → Env → String → Env → List MetAnchor → Prop where
  | empty {offset : Nat} {env : Env} : Meets variance .empty offset env "" env []
  | anchor {offset : Nat} {env : Env} (kind : Anchor) :
      Meets variance (.anchor kind) offset env "" env [⟨kind, offset⟩]
  | toggleRest {offset : Nat} {env : Env} (toggle : Toggle) :
      Meets variance (.toggleRest toggle) offset env "" env []
  | char {offset : Nat} {env : Env} (c : Char) (icase : Bool) :
      Meets variance (.char c icase) offset env c.toString env []
  | charAlternate {offset : Nat} {env : Env} {c d : Char} : Unicode.Case.alternate? c = some d →
      Meets variance (.char c true) offset env d.toString env []
  | member {offset : Nat} {env : Env} {set : CodePointSet} {c : Char} (icase : Bool) :
      c.toNat ∈ set → Meets variance (.bracket set icase) offset env c.toString env []
  | memberAlternate {offset : Nat} {env : Env} {set : CodePointSet} {c d : Char} :
      Unicode.Case.alternate? d = some c → c.toNat ∈ set →
      Meets variance (.bracket set true) offset env d.toString env []
  | cat {offset : Nat} {env after : Env} {items : List Node} {text : String} {met : List MetAnchor} :
      MeetsAll variance items offset env text after met →
      Meets variance (.cat items) offset env text after met
  | alt {offset : Nat} {env after : Env} {branches : List Node} {branch : Node} {text : String}
      {met : List MetAnchor} : branch ∈ branches → Meets variance branch offset env text after met →
      Meets variance (.alt branches) offset env text after met
  | capture {offset : Nat} {env after : Env} {body : Node} {text : String} {met : List MetAnchor}
      (group : Nat) (name : Option String) : Meets variance body offset env text after met →
      Meets variance (.capture group name body) offset env text (after.bind group text) met
  | nonCapturing {offset : Nat} {env after : Env} {body : Node} {text : String} {met : List MetAnchor} :
      Meets variance body offset env text after met →
      Meets variance (.nonCapturing body) offset env text after met
  | toggleScoped {offset : Nat} {env after : Env} {body : Node} {text : String}
      {met : List MetAnchor} (toggle : Toggle) : Meets variance body offset env text after met →
      Meets variance (.toggleScoped toggle body) offset env text after met
  | backRef {offset : Nat} {env : Env} (group : Nat) (name : Option String) :
      Meets variance (.backRef group name) offset env (env.value group) env []
  | loop {offset : Nat} {env after : Env} {q : Quantifier} {body : Node} {text : String}
      {met : List MetAnchor} {count : Nat} : q.min ≤ count → count ≤ q.min + variance →
      (∀ max, q.max = some max → count ≤ max) →
      MeetsAll variance (List.replicate count body) offset env text after met →
      Meets variance (.loop q body) offset env text after met

inductive MeetsAll (variance : Nat) :
    List Node → Nat → Env → String → Env → List MetAnchor → Prop where
  | nil {offset : Nat} {env : Env} : MeetsAll variance [] offset env "" env []
  | cons {offset : Nat} {env between after : Env} {item : Node} {rest : List Node}
      {text later : String} {met others : List MetAnchor} :
      Meets variance item offset env text between met →
      MeetsAll variance rest (offset + text.length) between later after others →
      MeetsAll variance (item :: rest) offset env (text ++ later) after (met ++ others)

end

variable {variance offset : Nat} {node : Node} {items : List Node} {env after : Env} {text : String}
  {met : List MetAnchor}

theorem exists_meets (h : Derives variance node env text after) (offset : Nat) :
    ∃ met, Meets variance node offset env text after met := by
  induction h using Derives.rec (motive_2 := fun items env text after _ =>
    ∀ offset, ∃ met, MeetsAll variance items offset env text after met) generalizing offset with
  | empty => exact ⟨_, .empty⟩
  | anchor kind => exact ⟨_, .anchor kind⟩
  | toggleRest toggle => exact ⟨_, .toggleRest toggle⟩
  | char c icase => exact ⟨_, .char c icase⟩
  | charAlternate hc => exact ⟨_, .charAlternate hc⟩
  | member icase hmem => exact ⟨_, .member icase hmem⟩
  | memberAlternate hc hmem => exact ⟨_, .memberAlternate hc hmem⟩
  | cat _ ih =>
      obtain ⟨met, hmet⟩ := ih offset
      exact ⟨met, .cat hmet⟩
  | alt hmem _ ih =>
      obtain ⟨met, hmet⟩ := ih offset
      exact ⟨met, .alt hmem hmet⟩
  | capture group name _ ih =>
      obtain ⟨met, hmet⟩ := ih offset
      exact ⟨met, .capture group name hmet⟩
  | nonCapturing _ ih =>
      obtain ⟨met, hmet⟩ := ih offset
      exact ⟨met, .nonCapturing hmet⟩
  | toggleScoped toggle _ ih =>
      obtain ⟨met, hmet⟩ := ih offset
      exact ⟨met, .toggleScoped toggle hmet⟩
  | backRef group name => exact ⟨_, .backRef group name⟩
  | loop hmin hvariance hmax _ ih =>
      obtain ⟨met, hmet⟩ := ih offset
      exact ⟨met, .loop hmin hvariance hmax hmet⟩
  | nil => exact ⟨_, .nil⟩
  | @cons _ _ _ _ _ text _ _ _ hitem hrest offset =>
      obtain ⟨met, hmet⟩ := hitem offset
      obtain ⟨others, hothers⟩ := hrest (offset + text.length)
      exact ⟨met ++ others, .cons hmet hothers⟩

theorem Meets.derives (h : Meets variance node offset env text after met) :
    Derives variance node env text after := by
  induction h using Meets.rec (motive_2 := fun items _ env text after _ _ =>
    DerivesAll variance items env text after) with
  | empty => exact .empty
  | anchor kind => exact .anchor kind
  | toggleRest toggle => exact .toggleRest toggle
  | char c icase => exact .char c icase
  | charAlternate hc => exact .charAlternate hc
  | member icase hmem => exact .member icase hmem
  | memberAlternate hc hmem => exact .memberAlternate hc hmem
  | cat _ ih => exact .cat ih
  | alt hmem _ ih => exact .alt hmem ih
  | capture group name _ ih => exact .capture group name ih
  | nonCapturing _ ih => exact .nonCapturing ih
  | toggleScoped toggle _ ih => exact .toggleScoped toggle ih
  | backRef group name => exact .backRef group name
  | loop hmin hvariance hmax _ ih => exact .loop hmin hvariance hmax ih
  | nil => exact .nil
  | cons _ _ hitem hrest => exact .cons hitem hrest

namespace Node

def NoAnchors (node : Node) : Prop := node.Each fun node => node.isAnchor = false

def isSilent (node : Node) : Bool := node.isAnchor || node.isToggleRest

/-- Items, the last one first, with start anchors only where nothing was derived before, and nothing but
anchors behind an end anchor. -/
inductive Edged : List Node → Prop where
  | nil : Edged []
  | startAnchor {kind : Anchor} {items : List Node} : kind.isStart = true →
      (∀ item ∈ items, item.isSilent = true) → Edged items → Edged (anchor kind :: items)
  | endAnchor {kind : Anchor} {items : List Node} : kind.isStart = false → Edged items →
      Edged (anchor kind :: items)
  | item {item : Node} {items : List Node} : item.NoAnchors →
      (∀ kind, anchor kind ∈ items → kind.isStart = true) → Edged items → Edged (item :: items)

def EdgedBranch (branch : Node) : Prop := ∃ items, Edged items ∧ branch = ofItems items

end Node

open Node

theorem Meets.eq_nil_of_noAnchors (h : Meets variance node offset env text after met)
    (hfree : node.NoAnchors) : met = [] := by
  induction h using Meets.rec (motive_2 := fun items _ _ _ _ met _ =>
    (∀ item ∈ items, item.NoAnchors) → met = []) with
  | anchor kind => cases hfree
  | cat _ ih => exact ih (eachOf_iff.1 hfree.2)
  | alt hmem _ ih => exact ih (eachOf_iff.1 hfree.2 _ hmem)
  | capture _ _ _ ih => exact ih hfree.2
  | nonCapturing _ ih => exact ih hfree.2
  | toggleScoped _ _ ih => exact ih hfree.2
  | loop _ _ _ _ ih =>
      refine ih fun item hitem => ?_
      rw [List.eq_of_mem_replicate hitem]
      exact hfree.2
  | cons _ _ hitem hrest hall =>
      rw [hitem (hall _ List.mem_cons_self), hrest fun item h => hall item (List.mem_cons_of_mem _ h)]
      rfl
  | _ => rfl

theorem Meets.eq_empty_of_isSilent (h : Meets variance node offset env text after met)
    (hsilent : node.isSilent = true) : text = "" := by
  cases h with
  | anchor kind => rfl
  | toggleRest toggle => rfl
  | _ => cases hsilent

namespace MeetsAll

theorem snoc {front : List Node} {item : Node}
    (h : MeetsAll variance (front ++ [item]) offset env text after met) :
    ∃ between first later before behind, MeetsAll variance front offset env first between before ∧
      Meets variance item (offset + first.length) between later after behind ∧
      text = first ++ later ∧ met = before ++ behind := by
  induction front generalizing offset env text met with
  | nil =>
      cases h with
      | cons hitem hrest =>
          cases hrest
          exact ⟨env, "", _, [], _, .nil, hitem, by simp, by simp⟩
  | cons first rest ih =>
      cases h with
      | @cons _ _ _ _ _ _ part _ here _ hfirst hrest =>
          obtain ⟨between, middle, later, before, behind, hfront, hitem, rfl, rfl⟩ := ih hrest
          refine ⟨between, part ++ middle, later, here ++ before, behind, .cons hfirst hfront, ?_,
            String.append_assoc.symm, (List.append_assoc _ _ _).symm⟩
          rw [String.length_append, ← Nat.add_assoc]
          exact hitem

theorem eq_empty_of_silent (h : MeetsAll variance items offset env text after met)
    (hsilent : ∀ item ∈ items, item.isSilent = true) : text = "" := by
  induction items generalizing offset env text met with
  | nil =>
      cases h
      rfl
  | cons item rest ih =>
      cases h with
      | cons hitem hrest =>
          rw [hitem.eq_empty_of_isSilent (hsilent item List.mem_cons_self),
            ih hrest fun other hother => hsilent other (List.mem_cons_of_mem item hother)]
          rfl

theorem mem_of_met (h : MeetsAll variance items offset env text after met)
    (hitems : ∀ item ∈ items, item.isAnchor = true ∨ item.NoAnchors) {anchor : MetAnchor}
    (hmet : anchor ∈ met) : Node.anchor anchor.kind ∈ items := by
  induction items generalizing offset env text met with
  | nil =>
      cases h
      cases hmet
  | cons item rest ih =>
      cases h with
      | cons hitem hrest =>
          rcases List.mem_append.1 hmet with hmet | hmet
          · rcases hitems item List.mem_cons_self with hanchor | hfree
            · cases item with
              | anchor kind =>
                  cases hitem
                  rw [List.mem_singleton.1 hmet]
                  exact List.mem_cons_self
              | _ => cases hanchor
            · rw [hitem.eq_nil_of_noAnchors hfree] at hmet
              cases hmet
          · exact List.mem_cons_of_mem _ (ih hrest
              (fun other hother => hitems other (List.mem_cons_of_mem item hother)) hmet)

end MeetsAll

theorem Node.Edged.isAnchor_or_noAnchors (h : Edged items) :
    ∀ item ∈ items, item.isAnchor = true ∨ item.NoAnchors := by
  induction h with
  | nil => nofun
  | startAnchor _ _ _ ih => exact List.forall_mem_cons.2 ⟨.inl rfl, ih⟩
  | endAnchor _ _ ih => exact List.forall_mem_cons.2 ⟨.inl rfl, ih⟩
  | item hfree _ _ ih => exact List.forall_mem_cons.2 ⟨.inr hfree, ih⟩

theorem MeetsAll.holds (h : MeetsAll variance items.reverse 0 env text after met)
    (hedged : Edged items) : ∀ anchor ∈ met, anchor.Holds text.length := by
  induction hedged generalizing text after met with
  | nil =>
      cases h
      nofun
  | startAnchor hstart hsilent _ ih =>
      rw [List.reverse_cons] at h
      obtain ⟨_, first, _, before, _, hfront, hitem, rfl, rfl⟩ := h.snoc
      have hfirst : first = "" :=
        hfront.eq_empty_of_silent fun item hitem => hsilent item (List.mem_reverse.1 hitem)
      cases hitem
      rw [String.append_empty]
      refine List.forall_mem_append.2 ⟨ih hfront, List.forall_mem_singleton.2 ?_⟩
      simp only [MetAnchor.Holds, hstart, hfirst, if_true]
      rfl
  | endAnchor hend _ ih =>
      rw [List.reverse_cons] at h
      obtain ⟨_, first, _, before, _, hfront, hitem, rfl, rfl⟩ := h.snoc
      cases hitem
      rw [String.append_empty]
      refine List.forall_mem_append.2 ⟨ih hfront, List.forall_mem_singleton.2 ?_⟩
      simp only [MetAnchor.Holds, hend, Bool.false_eq_true, if_false, Nat.zero_add]
  | item hfree hopen hrest ih =>
      rw [List.reverse_cons] at h
      obtain ⟨_, first, _, before, _, hfront, hitem, rfl, rfl⟩ := h.snoc
      rw [hitem.eq_nil_of_noAnchors hfree, List.append_nil]
      intro anchor hmet
      have hholds := ih hfront anchor hmet
      have hstart : anchor.kind.isStart = true := hopen anchor.kind <| List.mem_reverse.1 <|
        hfront.mem_of_met (fun item hitem => hrest.isAnchor_or_noAnchors item
          (List.mem_reverse.1 hitem)) hmet
      simp only [MetAnchor.Holds, hstart, if_true] at hholds ⊢
      exact hholds

theorem meetsAll_of_ofItems (h : Meets variance (ofItems items) offset env text after met) :
    MeetsAll variance items.reverse offset env text after met := by
  match items with
  | [] =>
      cases h
      exact .nil
  | [item] =>
      have hone : MeetsAll variance [item] offset env (text ++ "") after (met ++ []) := .cons h .nil
      rwa [String.append_empty, List.append_nil] at hone
  | _ :: _ :: _ =>
      cases h with
      | cat h => exact h

theorem Meets.holds_of_edgedBranch {branch : Node} (hbranch : EdgedBranch branch)
    (h : Meets variance branch 0 env text after met) : ∀ anchor ∈ met, anchor.Holds text.length := by
  obtain ⟨items, hitems, rfl⟩ := hbranch
  exact (meetsAll_of_ofItems h).holds hitems

theorem Meets.holds_of_branches {branches : List Node}
    (hbranches : ∀ branch ∈ branches, EdgedBranch branch)
    (h : Meets variance (ofBranches branches) 0 env text after met) :
    ∀ anchor ∈ met, anchor.Holds text.length := by
  match branches with
  | [] =>
      cases h
      nofun
  | [branch] => exact h.holds_of_edgedBranch (hbranches branch List.mem_cons_self)
  | _ :: _ :: _ =>
      cases h with
      | alt hmem h => exact h.holds_of_edgedBranch (hbranches _ (List.mem_reverse.1 hmem))

end Specimen
