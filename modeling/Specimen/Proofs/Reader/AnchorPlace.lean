import Specimen.Proofs.Reader.PatternRun
import Specimen.Proofs.Reader.WellBuilt
import Specimen.Proofs.Sample.Anchored

namespace Specimen

open Node

theorem Node.noAnchors_ofItems {items : List Node} (h : ∀ item ∈ items, item.NoAnchors) :
    (ofItems items).NoAnchors := by
  match items with
  | [] => exact rfl
  | [item] => exact h item List.mem_cons_self
  | _ :: _ :: _ => exact ⟨rfl, eachOf_iff.2 fun item hitem => h item (List.mem_reverse.1 hitem)⟩

theorem Node.noAnchors_ofBranches {branches : List Node}
    (h : ∀ branch ∈ branches, branch.NoAnchors) : (ofBranches branches).NoAnchors := by
  match branches with
  | [] => exact rfl
  | [branch] => exact h branch List.mem_cons_self
  | _ :: _ :: _ =>
      exact ⟨rfl, eachOf_iff.2 fun branch hbranch => h branch (List.mem_reverse.1 hbranch)⟩

theorem Node.Edged.tail {item : Node} {items : List Node} (h : Edged (item :: items))
    (hanchor : item.isAnchor = false) : item.NoAnchors ∧
      (∀ kind, anchor kind ∈ items → kind.isStart = true) ∧ Edged items := by
  cases h with
  | startAnchor _ _ _ => cases hanchor
  | endAnchor _ _ => cases hanchor
  | item hfree hopen hrest => exact ⟨hfree, hopen, hrest⟩

namespace Reader

theorem Escaped.noAnchors {scope : Scope} {node : Node} (h : Escaped scope node)
    (hanchor : node.isAnchor = false) : node.NoAnchors := by
  cases h with
  | anchor kind => cases hanchor
  | lineBreak => exact ⟨rfl, ⟨rfl, rfl, rfl, trivial⟩, rfl, trivial⟩
  | _ => exact rfl

section EndAnchors

variable {c d e : Cursor} {total : Nat} {s t : State} {extended : Bool}

theorem next?_of_skipEndAnchor? (h : skipEndAnchor? c = some d) : c.next? = some ('$', d) ∨
    ∃ e x, c.next? = some ('\\', e) ∧ e.next? = some (x, d) ∧ (x = 'z' ∨ x = 'Z') := by
  simp only [skipEndAnchor?] at h
  split at h
  · next hc => cases h; exact .inl hc
  · next e hc =>
      split at h
      · next hd => cases h; exact .inr ⟨e, _, hc, hd, .inl rfl⟩
      · next hd => cases h; exact .inr ⟨e, _, hc, hd, .inr rfl⟩
      · simp at h
  · simp at h

theorem endAnchor_of_readEscape {scope : Scope} {icase : Bool} {x : Char} {node : Node}
    (hc : c.next? = some (x, d)) (hx : x = 'z' ∨ x = 'Z')
    (h : readEscape scope icase c = .ok (node, e)) :
    ∃ kind : Anchor, kind.isStart = false ∧ node = .anchor kind ∧ e = d := by
  rcases hx with rfl | rfl
  · simp only [readEscape, hc, CodePointSet.ofClassLetter?, letterNode?] at h
    cases h
    exact ⟨.endOfString, rfl, rfl, rfl⟩
  · simp only [readEscape, hc, CodePointSet.ofClassLetter?, letterNode?] at h
    cases h
    exact ⟨.endOfStringOrNewline, rfl, rfl, rfl⟩

theorem Move.eq_endAnchor (h : Move total s t) (hend : skipEndAnchor? s.cursor = some e) :
    ∃ kind : Anchor, kind.isStart = false ∧ addAnchor s kind e = .ok t := by
  have hfirst : ∀ x d, s.cursor.next? = some (x, d) → x = '$' ∧ d = e ∨
      x = '\\' ∧ ∃ y, d.next? = some (y, e) ∧ (y = 'z' ∨ y = 'Z') := by
    intro x d hx
    rcases next?_of_skipEndAnchor? hend with hc | ⟨f, y, hc, hf, hy⟩
    · rw [hc] at hx
      cases hx
      exact .inl ⟨rfl, rfl⟩
    · rw [hc] at hx
      cases hx
      exact .inr ⟨rfl, y, hf, hy⟩
  have hother : ∀ x d, s.cursor.next? = some (x, d) → x = '$' ∨ x = '\\' := fun x d hx =>
    (hfirst x d hx).imp And.left And.left
  cases h with
  | repeatLast hq _ =>
      have hnone : readQuantifier s.cursor = .ok none := by
        refine readQuantifier_eq_none fun x hx => ?_
        obtain ⟨d, hd⟩ := Cursor.next?_of_peek? hx
        rcases hother x d hd with rfl | rfl <;> decide
      rw [hnone] at hq
      cases hq
  | leave hc _ => exact absurd (hother _ _ hc) (by decide)
  | nextBranch hc => exact absurd (hother _ _ hc) (by decide)
  | lineAnchor hc hkind ha =>
      rcases hkind with ⟨rfl, rfl⟩ | ⟨rfl, rfl⟩
      · exact absurd (hother _ _ hc) (by decide)
      · obtain ⟨-, rfl⟩ | ⟨hescape, -⟩ := hfirst _ _ hc
        · exact ⟨_, rfl, ha⟩
        · exact absurd hescape (by decide)
  | escapedAnchor hc he ha =>
      obtain ⟨hdollar, -⟩ | ⟨-, y, hf, hy⟩ := hfirst _ _ hc
      · exact absurd hdollar (by decide)
      · obtain ⟨kind, hkind, heq, rfl⟩ := endAnchor_of_readEscape hf hy he
        cases heq
        exact ⟨_, hkind, ha⟩
  | escape hc he hanchor =>
      obtain ⟨hdollar, -⟩ | ⟨-, y, hf, hy⟩ := hfirst _ _ hc
      · exact absurd hdollar (by decide)
      · obtain ⟨kind, _, rfl, -⟩ := endAnchor_of_readEscape hf hy he
        cases hanchor
  | dot hc => exact absurd (hother _ _ hc) (by decide)
  | group hc _ => exact absurd (hother _ _ hc) (by decide)
  | bracket hc _ => exact absurd (hother _ _ hc) (by decide)
  | char hc hx _ =>
      refine absurd ?_ hx
      rcases hother _ _ hc with rfl | rfl <;> decide

theorem addAnchor_place {kind : Anchor} (h : addAnchor s kind d = .ok t) :
    s.enclosing = [] ∧
      if kind.isStart then ∀ item ∈ s.branches.items, item.isSilent = true
      else atPatternEnd s.flags.extended d = .ok true := by
  simp only [addAnchor] at h
  split at h
  · next hstart =>
      split at h
      · next hplace =>
          simp only [State.atPatternStart, Bool.and_eq_true, List.isEmpty_iff, List.all_eq_true]
            at hplace
          rw [if_pos hstart]
          exact ⟨hplace.1.1, hplace.2⟩
      · simp at h
  · next hstart =>
      split at h
      · simp at h
      · next hopen =>
          simp only [Bool.not_eq_true', Bool.not_eq_false, List.isEmpty_iff] at hopen
          split at h
          · simp at h
          · next hplace =>
              rw [if_neg hstart]
              exact ⟨hopen, hplace⟩
          · simp at h

theorem skipEndAnchor?_of_atPatternEnd (hbehind : BehindTrivia extended c)
    (h : atPatternEnd extended c = .ok true) : c.rest = [] ∨ ∃ e, skipEndAnchor? c = some e := by
  rw [atPatternEnd_eq, hbehind.skipTrivia_eq] at h
  cases he : skipEndAnchor? c with
  | some e => exact .inr ⟨e, rfl⟩
  | none =>
      simp only [he, Except.ok.injEq, List.isEmpty_iff] at h
      exact .inl h

end EndAnchors

namespace Branches

structure NoAnchors (branches : Branches) : Prop where
  finished : ∀ branch ∈ branches.finished, branch.NoAnchors
  items : ∀ item ∈ branches.items, item.NoAnchors

structure Edged (branches : Branches) : Prop where
  finished : ∀ branch ∈ branches.finished, EdgedBranch branch
  items : Node.Edged branches.items

def Open (branches : Branches) : Prop := ∀ kind, .anchor kind ∈ branches.items → kind.isStart = true

theorem open_of_nil {branches : Branches} (h : branches.items = []) : branches.Open :=
  fun _ hkind => absurd (h ▸ hkind) List.not_mem_nil

theorem NoAnchors.node {branches : Branches} (h : branches.NoAnchors) : branches.node.NoAnchors :=
  noAnchors_ofBranches (List.forall_mem_cons.2 ⟨noAnchors_ofItems h.items, h.finished⟩)

theorem Edged.all {branches : Branches} (h : branches.Edged) :
    ∀ branch ∈ ofItems branches.items :: branches.finished, EdgedBranch branch :=
  List.forall_mem_cons.2 ⟨⟨branches.items, h.items, rfl⟩, h.finished⟩

theorem Open.add {branches : Branches} (h : branches.Open) {item : Node}
    (hitem : ∀ kind, item = .anchor kind → kind.isStart = true) : (branches.add item).Open := by
  intro kind hkind
  rcases List.mem_cons.1 hkind with heq | hkind
  · exact hitem kind heq.symm
  · exact h kind hkind

end Branches

def EdgedAround (branches : Branches) : List OpenGroup → Prop
  | [] => branches.Edged
  | group :: enclosing => branches.NoAnchors ∧ group.outer.Open ∧ EdgedAround group.outer enclosing

namespace EdgedAround

variable {branches : Branches} {enclosing : List OpenGroup}

theorem add (h : EdgedAround branches enclosing) (hopen : branches.Open) {item : Node}
    (hitem : item.NoAnchors) : EdgedAround (branches.add item) enclosing := by
  cases enclosing with
  | nil => exact ⟨h.finished, .item hitem hopen h.items⟩
  | cons group enclosing =>
      exact ⟨⟨h.1.finished, List.forall_mem_cons.2 ⟨hitem, h.1.items⟩⟩, h.2⟩

theorem nextBranch (h : EdgedAround branches enclosing) :
    EdgedAround branches.nextBranch enclosing := by
  cases enclosing with
  | nil => exact ⟨h.all, .nil⟩
  | cons group enclosing =>
      exact ⟨⟨List.forall_mem_cons.2 ⟨noAnchors_ofItems h.1.items, h.1.finished⟩, nofun⟩, h.2⟩

theorem repeatLast (h : EdgedAround branches enclosing) {item : Node} {rest : List Node}
    (hitems : branches.items = item :: rest) (hanchor : item.isAnchor = false) (q : Quantifier) :
    EdgedAround (branches.repeatLast q) enclosing := by
  have hrepeat : branches.repeatLast q = { branches with items := .loop q item :: rest } := by
    simp only [Branches.repeatLast, hitems]
  rw [hrepeat]
  cases enclosing with
  | nil =>
      have hedged := h.items
      rw [hitems] at hedged
      obtain ⟨hfree, hopen, hrest⟩ := hedged.tail hanchor
      exact ⟨h.finished, .item ⟨rfl, hfree⟩ hopen hrest⟩
  | cons group enclosing =>
      have hfree := h.1.items
      rw [hitems, List.forall_mem_cons] at hfree
      exact ⟨⟨h.1.finished, List.forall_mem_cons.2 ⟨⟨rfl, hfree.1⟩, hfree.2⟩⟩, h.2⟩

end EdgedAround

structure State.Edged (s : State) : Prop where
  sound : s.Sound
  around : EdgedAround s.branches s.enclosing
  ended : s.branches.Open ∨ atPatternEnd s.flags.extended s.cursor = .ok true

namespace State.Edged

variable {s t : State} {d : Cursor} {total : Nat}

theorem addItem (h : s.Edged) (hopen : s.branches.Open) {item : Node} {last : Repeatable}
    (hsound : (s.add item last d).Sound) (hitem : item.NoAnchors) : (s.add item last d).Edged := by
  refine ⟨hsound, h.around.add hopen hitem, .inl (hopen.add ?_)⟩
  rintro kind rfl
  cases hitem

theorem anchor (h : s.Edged) {kind : Anchor} (ha : addAnchor s kind d = .ok t)
    (hsound : t.Sound) (hopen : kind.isStart = true → s.branches.Open) : t.Edged := by
  obtain ⟨he, hplace⟩ := addAnchor_place ha
  obtain rfl := addAnchor_ok ha
  have haround := h.around
  rw [he] at haround
  split at hplace
  · next hstart =>
      refine ⟨hsound, ?_, .inl ((hopen hstart).add fun _ heq => ?_)⟩
      · rw [State.add, he]
        exact ⟨haround.finished, .startAnchor hstart hplace haround.items⟩
      · cases heq
        exact hstart
  · next hend =>
      refine ⟨hsound, ?_, .inr hplace⟩
      rw [State.add, he]
      exact ⟨haround.finished, .endAnchor (by simpa using hend) haround.items⟩

theorem enter (h : s.Edged) (hopen : s.branches.Open) {opener : Opener} {inside : Flags}
    (hsound : (s.enter opener inside d).Sound) : (s.enter opener inside d).Edged :=
  ⟨hsound, ⟨⟨nofun, nofun⟩, hopen, h.around⟩, .inl (Branches.open_of_nil rfl)⟩

theorem declare (h : s.Edged) (hopen : s.branches.Open) (name : Option String) :
    (s.declare name d).Edged :=
  let entered := h.enter hopen (d := d)
    (h.sound.enter (.capture (s.groups.count + 1) name) s.flags)
  ⟨h.sound.declare name, entered.around, entered.ended⟩

theorem opening (h : s.Edged) (hopen : s.branches.Open) {c : Cursor} (hmove : Opening s c t) :
    t.Edged := by
  have hsound := h.sound.opening hmove
  cases hmove with
  | capture _ _ => exact h.declare hopen _
  | named _ _ _ _ _ => exact h.declare hopen _
  | nonCapturing _ _ => exact h.enter hopen hsound
  | toggleScoped _ _ => exact h.enter hopen hsound
  | @toggleRest _ e toggle _ _ =>
      have added : (s.add (.toggleRest toggle) .refused e).Edged :=
        h.addItem hopen (h.sound.add _ trivial rfl nofun) rfl
      exact ⟨hsound, added.around, .inl (hopen.add nofun)⟩

theorem leave (h : s.Edged) {group : OpenGroup} {enclosing : List OpenGroup}
    (he : s.enclosing = group :: enclosing) : (s.leave group enclosing d).Edged := by
  have haround := h.around
  rw [he] at haround
  obtain ⟨hfree, hopen, hgroup⟩ := haround
  have hnode : (group.opener.node s.branches.node).NoAnchors := by
    cases group.opener with
    | capture g name => exact ⟨rfl, hfree.node⟩
    | nonCapturing => exact ⟨rfl, hfree.node⟩
    | toggled toggle => exact ⟨rfl, hfree.node⟩
  refine ⟨h.sound.leave he, hgroup.add hopen hnode, .inl (hopen.add ?_)⟩
  rintro kind heq
  rw [heq] at hnode
  cases hnode

theorem moveOpen (h : s.Edged) (hopen : s.branches.Open) (hmove : Move total s t) : t.Edged := by
  have hsound := h.sound.move hmove
  cases hmove with
  | repeatLast _ hl =>
      obtain ⟨item, rest, hitems, hrepeat⟩ := h.sound.last hl
      obtain ⟨-, hanchor, -⟩ := isRepeatable_iff.1 hrepeat
      refine ⟨hsound, h.around.repeatLast hitems hanchor _, .inl fun kind hkind => ?_⟩
      simp only [State.repeatLast, Branches.repeatLast, hitems] at hkind
      refine hopen kind ?_
      rw [hitems]
      exact List.mem_cons_of_mem item (by simpa using hkind)
  | leave _ he => exact h.leave he
  | nextBranch _ => exact ⟨hsound, h.around.nextBranch, .inl (Branches.open_of_nil rfl)⟩
  | lineAnchor _ _ ha => exact h.anchor ha hsound fun _ => hopen
  | escapedAnchor _ _ ha => exact h.anchor ha hsound fun _ => hopen
  | escape _ he hanchor =>
      exact h.addItem hopen hsound ((Escaped.of_readEscape he).noAnchors hanchor)
  | dot _ => exact h.addItem hopen hsound rfl
  | group _ ho => exact h.opening hopen ho
  | bracket _ _ => exact h.addItem hopen hsound rfl
  | char _ _ _ => exact h.addItem hopen hsound rfl

theorem move (h : s.Edged) (hbehind : BehindTrivia s.flags.extended s.cursor)
    (hpass : s.cursor.Passes t.cursor) (hmove : Move total s t) : t.Edged := by
  rcases h.ended with hopen | hended
  · exact h.moveOpen hopen hmove
  · rcases skipEndAnchor?_of_atPatternEnd hbehind hended with hrest | ⟨e, he⟩
    · have := hpass.length_lt
      simp [hrest] at this
    · obtain ⟨kind, hkind, ha⟩ := hmove.eq_endAnchor he
      exact h.anchor ha (h.sound.move hmove) fun hstart => absurd hstart (by simp [hkind])

theorem trivia (h : s.Edged) {c : Cursor} (hc : skipTrivia s.flags.extended s.cursor = .ok c) :
    State.Edged { s with cursor := c } := by
  refine ⟨⟨h.sound.branches, h.sound.enclosing, h.sound.last⟩, h.around, h.ended.imp id fun hended => ?_⟩
  rw [atPatternEnd_eq, hc] at hended
  rw [atPatternEnd_eq, (behindTrivia_of_skipTrivia hc).skipTrivia_eq]
  exact hended

end State.Edged

end Reader

open Reader

variable {text : String} {flags : Flags} {p : Pattern}

theorem Pattern.anchors_hold_of_read (h : Pattern.read text flags = .ok p) (variance : Nat)
    (s : String) :
    ((∃ after, Derives variance p.root .empty s after) ↔
      ∃ after met, Meets variance p.root 0 .empty s after met ∧
        ∀ anchor ∈ met, anchor.Holds s.length) ∧
      ∀ env after met, Meets variance p.root 0 env s after met →
        ∀ anchor ∈ met, anchor.Holds s.length := by
  have hstart : (State.start flags text).Edged :=
    ⟨⟨.none, nofun, nofun⟩, ⟨nofun, .nil⟩, .inl (Branches.open_of_nil rfl)⟩
  obtain ⟨t, ht, _, he, rfl⟩ := read_induction (P := State.Edged) hstart
    (fun hs hc => hs.trivia hc) (fun hs _ hbehind hpass hmove => hs.move hbehind hpass hmove) h
  have haround := ht.around
  rw [he] at haround
  have hholds : ∀ env after met, Meets variance t.branches.node 0 env s after met →
      ∀ anchor ∈ met, anchor.Holds s.length :=
    fun env after met hmeets => hmeets.holds_of_branches haround.all
  refine ⟨⟨?_, ?_⟩, hholds⟩
  · rintro ⟨after, hd⟩
    obtain ⟨met, hmeets⟩ := exists_meets hd 0
    exact ⟨after, met, hmeets, hholds _ _ _ hmeets⟩
  · rintro ⟨after, met, hmeets, _⟩
    exact ⟨after, hmeets.derives⟩

theorem Pattern.anchors_hold_of_read_branches :
    ∃ p, Pattern.read "^(?m)\\Aa*|(b)\\1\\Z$" .none = .ok p ∧
      ((∃ after, Derives 2 p.root .empty "bb" after) ↔
        ∃ after met, Meets 2 p.root 0 .empty "bb" after met ∧ ∀ anchor ∈ met, anchor.Holds 2) ∧
      ∀ env after met, Meets 2 p.root 0 env "bb" after met → ∀ anchor ∈ met, anchor.Holds 2 := by
  have heval : (Pattern.read "^(?m)\\Aa*|(b)\\1\\Z$" .none).toOption.map Pattern.groupCount =
      some 1 := by
    decide +kernel
  obtain ⟨p, hp, _⟩ := exists_of_read heval
  exact ⟨p, hp, Pattern.anchors_hold_of_read hp 2 "bb"⟩

end Specimen
