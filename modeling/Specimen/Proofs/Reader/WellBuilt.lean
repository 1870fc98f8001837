import Specimen.Proofs.Pattern.Tree
import Specimen.Proofs.Reader.BracketMove
import Specimen.Proofs.Reader.Escaped
import Specimen.Proofs.Reader.Move

namespace Specimen

def Quantifier.Bounded (q : Quantifier) : Prop :=
  q.min ≤ Reader.maxRepeat ∧ ∀ max, q.max = some max → q.min ≤ max ∧ max ≤ Reader.maxRepeat

namespace Node

def Sound : Node → Prop
  | bracket set _ => set.WellFormed
  | cat items => 2 ≤ items.length ∧ ∀ item ∈ items, item.isCat = false
  | alt branches => 2 ≤ branches.length
  | loop q body => q.Bounded ∧ body.isRepeatable = true
  | _ => True

theorem ofItems_sound {items : List Node}
    (h : ∀ item ∈ items, item.Each Sound ∧ item.isCat = false) : (ofItems items).Each Sound := by
  match items with
  | [] => exact trivial
  | [item] => exact (h item (by simp)).1
  | a :: b :: rest =>
      refine ⟨⟨by simp, fun item hitem => ?_⟩, eachOf_iff.2 fun item hitem => ?_⟩
      · exact (h item (List.mem_reverse.1 hitem)).2
      · exact (h item (List.mem_reverse.1 hitem)).1

theorem ofBranches_sound {branches : List Node} (h : ∀ branch ∈ branches, branch.Each Sound) :
    (ofBranches branches).Each Sound := by
  match branches with
  | [] => exact trivial
  | [branch] => exact h branch (by simp)
  | a :: b :: rest =>
      refine ⟨?_, eachOf_iff.2 fun branch hbranch => ?_⟩
      · simp [Sound]
      · exact h branch (List.mem_reverse.1 hbranch)

end Node

namespace Reader

open CodePointSet

def ClassItem.WellFormed (item : ClassItem) : Prop :=
  match item with
  | .char _ => True
  | .range first last => first.toNat ≤ last.toNat
  | .set members => members.WellFormed

theorem addTo_wellFormed {item : ClassItem} {operand : CodePointSet} (hitem : item.WellFormed)
    (h : operand.WellFormed) : (item.addTo operand).WellFormed := by
  cases item with
  | char c => exact insert_wellFormed h (toNat_le_maxCodePoint c)
  | range first last => exact insertInterval_wellFormed h hitem (toNat_le_maxCodePoint last)
  | set set => exact union_wellFormed h hitem

theorem readPosixClass_wellFormed {c d : Cursor} {set : CodePointSet}
    (h : readPosixClass c = .ok (some (set, d))) : set.WellFormed := by
  simp only [readPosixClass] at h
  split at h
  · simp at h
  · split at h
    · simp at h
    · split at h
      · simp at h
      · next posix _ =>
          cases h
          have hmembers : posix.members.WellFormed := ofPredicate_wellFormed _
          split
          · exact complement_wellFormed hmembers
          · exact hmembers

theorem readClassAtom_wellFormed {c d : Cursor} {item : ClassItem}
    (h : readClassAtom c = .ok (item, d)) : item.WellFormed := by
  simp only [readClassAtom] at h
  split at h
  · simp at h
  · split at h
    · simp only [readClassEscape] at h
      split at h
      · simp at h
      · split at h
        · next hset => cases h; exact ofClassLetter?_wellFormed hset
        · split at h
          · split at h
            · next hset => cases h; exact readProperty_wellFormed hset
            · simp at h
          · split at h
            · cases h; trivial
            · split at h
              · cases h; trivial
              · simp at h
    · cases h; trivial

theorem rangeItem_wellFormed {first last item : ClassItem} (h : rangeItem first last = .ok item) :
    item.WellFormed := by
  simp only [rangeItem] at h
  split at h
  · split at h
    · next hle => cases h; exact hle
    · simp at h
  · simp at h

theorem readClassItem_wellFormed {c d : Cursor} {item : ClassItem}
    (h : readClassItem c = .ok (item, d)) : item.WellFormed := by
  simp only [readClassItem] at h
  split at h
  · simp at h
  · next hatom =>
      split at h
      · cases h; exact readClassAtom_wellFormed hatom
      · split at h
        · simp at h
        · split at h
          · simp at h
          · split at h
            · next hrange => cases h; exact rangeItem_wellFormed hrange
            · simp at h

structure OpenBracket.WellFormed (bracket : OpenBracket) : Prop where
  left : ∀ set, bracket.left = some set → set.WellFormed
  operand : bracket.operand.WellFormed

namespace OpenBracket.WellFormed

theorem start (negated : Bool) : (OpenBracket.start negated).WellFormed :=
  ⟨by simp [OpenBracket.start], empty_wellFormed⟩

variable {bracket : OpenBracket}

theorem add (h : bracket.WellFormed) {item : ClassItem} (hitem : item.WellFormed) :
    (bracket.add item).WellFormed :=
  ⟨h.left, addTo_wellFormed hitem h.operand⟩

theorem joined (h : bracket.WellFormed) {set : CodePointSet} (hset : bracket.joined = some set) :
    set.WellFormed := by
  simp only [OpenBracket.joined] at hset
  split at hset
  · exact h.left set hset
  · cases hset; exact h.operand
  · next hleft _ => cases hset; exact inter_wellFormed (h.left _ hleft) h.operand

theorem nextOperand (h : bracket.WellFormed) : bracket.nextOperand.WellFormed :=
  ⟨fun _ hset => h.joined hset, empty_wellFormed⟩

theorem close (h : bracket.WellFormed) (icase : Bool) : (bracket.close icase).WellFormed := by
  have hset : (bracket.joined.getD ∅).WellFormed := by
    cases hj : bracket.joined with
    | none => exact empty_wellFormed
    | some set => exact h.joined hj
  simp only [OpenBracket.close]
  split
  · split
    · exact complement_wellFormed (caseClosure_wellFormed hset)
    · exact complement_wellFormed hset
  · exact hset

end OpenBracket.WellFormed

structure BracketState.WellFormed (s : BracketState) : Prop where
  innermost : s.innermost.WellFormed
  outer : ∀ bracket ∈ s.outer, bracket.WellFormed

namespace BracketState.WellFormed

variable {icase : Bool} {s t : BracketState} {set : CodePointSet} {d : Cursor}

theorem move (h : s.WellFormed) (hmove : BracketMove icase s (.more t)) : t.WellFormed := by
  cases hmove with
  | leave _ _ ho =>
      have houter := h.outer
      rw [ho] at houter
      exact ⟨(houter _ (by simp)).add (h.innermost.close icase), fun b hb => houter b (by simp [hb])⟩
  | nextOperand _ => exact ⟨h.innermost.nextOperand, h.outer⟩
  | posix hp => exact ⟨h.innermost.add (readPosixClass_wellFormed hp), h.outer⟩
  | nest _ =>
      refine ⟨.start _, fun b hb => ?_⟩
      rcases List.mem_cons.1 hb with rfl | hb
      · exact h.innermost
      · exact h.outer b hb
  | item _ _ hi => exact ⟨h.innermost.add (readClassItem_wellFormed hi), h.outer⟩

theorem result (h : s.WellFormed) (hrun : run (bracketStep icase) BracketState.size
    size_lt_of_bracketStep s = .ok (set, d)) : set.WellFormed := by
  refine bracketSteps_induction (Q := fun set _ => set.WellFormed) h move ?_ hrun
  intro s set d hs hdone
  cases hdone with
  | finish _ _ _ => exact hs.innermost.close icase

end BracketState.WellFormed

theorem readBracket_wellFormed {icase : Bool} {c d : Cursor} {set : CodePointSet}
    (h : readBracket icase c = .ok (set, d)) : set.WellFormed := by
  have hstart : (openBracket [] c).WellFormed := ⟨.start _, by simp [openBracket]⟩
  exact hstart.result h

theorem bounds_bounded {w : WrittenInterval} {min : Nat} {max : Option Nat}
    (h : w.bounds = .ok (min, max)) :
    min ≤ maxRepeat ∧ ∀ m, max = some m → min ≤ m ∧ m ≤ maxRepeat := by
  simp only [WrittenInterval.bounds] at h
  split at h
  · simp at h
  · next hlarge =>
      split at h
      · simp at h
      · next hreversed =>
          cases h
          simp only [Bool.or_eq_true, decide_eq_true_eq, not_or, Nat.not_lt] at hlarge
          refine ⟨hlarge.1, fun m hm => ?_⟩
          rw [hm] at hlarge hreversed
          simp only [Option.any_some, decide_eq_true_eq, Nat.not_lt] at hlarge hreversed
          exact ⟨hreversed, hlarge.2⟩

theorem readQuantifier_bounded {c d : Cursor} {q : Quantifier}
    (h : readQuantifier c = .ok (some (q, d))) : q.Bounded := by
  simp only [readQuantifier] at h
  split at h
  · cases h; exact ⟨Nat.zero_le _, by simp⟩
  · cases h; exact ⟨by simp [maxRepeat], by simp⟩
  · cases h; exact ⟨Nat.zero_le _, by simp [maxRepeat]⟩
  · split at h
    · split at h
      · next hb => cases h; exact bounds_bounded hb
      · simp at h
    · simp at h
  · simp at h

theorem Escaped.sound {scope : Scope} {node : Node} (h : Escaped scope node) :
    node.Each Node.Sound ∧ node.isCat = false ∧ node.isToggleRest = false := by
  cases h with
  | empty => exact ⟨trivial, rfl, rfl⟩
  | anchor kind => exact ⟨trivial, rfl, rfl⟩
  | lineBreak =>
      refine ⟨⟨by simp [Node.Sound], ⟨⟨by simp, ?_⟩, trivial, trivial, trivial⟩, ?_, trivial⟩, rfl, rfl⟩
      · simp [Node.isCat]
      · exact lineBreaks_wellFormed
  | char x icase => exact ⟨trivial, rfl, rfl⟩
  | bracket hset => exact ⟨hset, rfl, rfl⟩
  | numbered _ => exact ⟨trivial, rfl, rfl⟩
  | named _ _ => exact ⟨trivial, rfl, rfl⟩

structure Branches.Sound (branches : Branches) : Prop where
  finished : ∀ branch ∈ branches.finished, branch.Each Node.Sound
  items : ∀ item ∈ branches.items, item.Each Node.Sound ∧ item.isCat = false

namespace Branches.Sound

theorem none : Branches.none.Sound := ⟨by simp [Branches.none], by simp [Branches.none]⟩

variable {branches : Branches}

theorem add (h : branches.Sound) {item : Node} (hitem : item.Each Node.Sound)
    (hcat : item.isCat = false) : (branches.add item).Sound := by
  refine ⟨h.finished, fun node hnode => ?_⟩
  rcases List.mem_cons.1 hnode with rfl | hnode
  · exact ⟨hitem, hcat⟩
  · exact h.items node hnode

theorem all (h : branches.Sound) :
    ∀ branch ∈ Node.ofItems branches.items :: branches.finished, branch.Each Node.Sound := by
  intro branch hbranch
  rcases List.mem_cons.1 hbranch with rfl | hbranch
  · exact Node.ofItems_sound h.items
  · exact h.finished branch hbranch

theorem nextBranch (h : branches.Sound) : branches.nextBranch.Sound :=
  ⟨h.all, by simp [Branches.nextBranch]⟩

theorem node (h : branches.Sound) : branches.node.Each Node.Sound :=
  Node.ofBranches_sound h.all

end Branches.Sound

structure State.Sound (s : State) : Prop where
  branches : s.branches.Sound
  enclosing : ∀ group ∈ s.enclosing, group.outer.Sound
  last : s.last = .admitted → ∃ item rest, s.branches.items = item :: rest ∧
    item.isRepeatable = true

namespace State.Sound

variable {s : State} {d : Cursor}

theorem add (h : s.Sound) (item : Node) {last : Repeatable} (hitem : item.Each Node.Sound)
    (hcat : item.isCat = false) (hlast : last = .admitted → item.isRepeatable = true) :
    (s.add item last d).Sound :=
  ⟨h.branches.add hitem hcat, h.enclosing, fun hl => ⟨item, _, rfl, hlast hl⟩⟩

theorem enter (h : s.Sound) (opener : Opener) (inside : Flags) : (s.enter opener inside d).Sound := by
  refine ⟨.none, fun group hgroup => ?_, nofun⟩
  rcases List.mem_cons.1 hgroup with rfl | hgroup
  · exact h.branches
  · exact h.enclosing group hgroup

theorem declare (h : s.Sound) (name : Option String) : (s.declare name d).Sound :=
  let entered := h.enter (.capture (s.groups.count + 1) name) s.flags (d := d)
  ⟨entered.branches, entered.enclosing, entered.last⟩

theorem leave (h : s.Sound) {group : OpenGroup} {enclosing : List OpenGroup}
    (he : s.enclosing = group :: enclosing) : (s.leave group enclosing d).Sound := by
  have houter := h.enclosing
  rw [he] at houter
  have hnode : (group.opener.node s.branches.node).Each Node.Sound ∧
      (group.opener.node s.branches.node).isCat = false ∧
      (group.opener.node s.branches.node).isRepeatable = true := by
    cases group.opener with
    | capture g name => exact ⟨⟨trivial, h.branches.node⟩, rfl, rfl⟩
    | nonCapturing => exact ⟨⟨trivial, h.branches.node⟩, rfl, rfl⟩
    | toggled toggle => exact ⟨⟨trivial, h.branches.node⟩, rfl, rfl⟩
  exact ⟨(houter group (by simp)).add hnode.1 hnode.2.1, fun g hg => houter g (List.mem_cons_of_mem _ hg),
    fun _ => ⟨_, _, rfl, hnode.2.2⟩⟩

theorem nextBranch (h : s.Sound) : (s.nextBranch d).Sound :=
  ⟨h.branches.nextBranch, h.enclosing, nofun⟩

theorem repeatLast (h : s.Sound) {q : Quantifier} (hq : q.Bounded) (hl : s.last = .admitted) :
    (s.repeatLast q d).Sound := by
  obtain ⟨item, rest, hitems, hrepeat⟩ := h.last hl
  have hbranches : s.branches.repeatLast q = { s.branches with items := .loop q item :: rest } := by
    simp only [Branches.repeatLast, hitems]
  have hall := h.branches.items
  rw [hitems] at hall
  refine ⟨?_, h.enclosing, fun _ => ⟨.loop q item, rest, by simp [State.repeatLast, hbranches], rfl⟩⟩
  simp only [State.repeatLast, hbranches]
  refine ⟨h.branches.finished, fun node hnode => ?_⟩
  rcases List.mem_cons.1 hnode with rfl | hnode
  · exact ⟨⟨⟨hq, hrepeat⟩, (hall item (by simp)).1⟩, rfl⟩
  · exact hall node (by simp [hnode])

theorem opening (h : s.Sound) {t : State} {c : Cursor} (hmove : Opening s c t) : t.Sound := by
  cases hmove with
  | capture _ _ => exact h.declare none
  | named _ _ _ _ _ => exact h.declare _
  | nonCapturing _ _ => exact h.enter _ _
  | toggleScoped _ _ => exact h.enter _ _
  | @toggleRest _ e toggle _ _ =>
      have added : (s.add (.toggleRest toggle) .refused e).Sound := h.add _ trivial rfl nofun
      exact ⟨added.branches, added.enclosing, nofun⟩

theorem move (h : s.Sound) {t : State} {total : Nat} (hmove : Move total s t) : t.Sound := by
  cases hmove with
  | repeatLast hq hl => exact h.repeatLast (readQuantifier_bounded hq) hl
  | leave _ he => exact h.leave he
  | nextBranch _ => exact h.nextBranch
  | lineAnchor _ _ _ => exact h.add (.anchor _) trivial rfl nofun
  | escapedAnchor _ _ _ => exact h.add (.anchor _) trivial rfl nofun
  | escape _ he hanchor =>
      obtain ⟨hsound, hcat, htoggle⟩ := (Escaped.of_readEscape he).sound
      refine h.add _ hsound hcat fun _ => ?_
      simp [Node.isRepeatable, hcat, hanchor, htoggle]
  | dot _ => exact h.add (.bracket _ _) (dot_wellFormed _) rfl (fun _ => rfl)
  | group _ ho => exact h.opening ho
  | bracket _ hb => exact h.add (.bracket _ _) (readBracket_wellFormed hb) rfl (fun _ => rfl)
  | char _ _ _ => exact h.add (.char _ _) trivial rfl (fun _ => rfl)

end State.Sound

theorem each_sound_of_read {text : String} {flags : Flags} {p : Pattern}
    (h : Pattern.read text flags = .ok p) : p.root.Each Node.Sound := by
  have start : (State.start flags text).Sound := by
    refine ⟨.none, ?_, nofun⟩
    simp [State.start]
  obtain ⟨s, hs, _, _, rfl⟩ := read_induction (P := State.Sound) start
    (fun hs _ => ⟨hs.branches, hs.enclosing, hs.last⟩) (fun hs _ _ _ hmove => hs.move hmove) h
  exact hs.branches.node

end Reader

end Specimen
