import Specimen.Proofs.Pattern.Options
import Specimen.Proofs.Reader.WellBuilt

namespace Specimen

namespace Reader

open Node

structure KeepsOptions (flags : Flags) (node : Node) : Prop where
  obeys : node.EachUnder Obeys flags
  behind : node.flagsBehind flags = flags

theorem KeepsOptions.of_escaped {scope : Scope} {flags : Flags} {node : Node}
    (h : Escaped scope node) (hchar : ∀ x icase, node = .char x icase → icase = flags.icase) :
    KeepsOptions flags node := by
  cases h with
  | empty => exact ⟨trivial, rfl⟩
  | anchor kind => exact ⟨trivial, rfl⟩
  | lineBreak =>
      refine ⟨⟨trivial, ⟨trivial, ?_, ?_, trivial⟩, nofun, trivial⟩, rfl⟩
      · exact fun hreturn => absurd rfl hreturn
      · exact fun _ hfeed => absurd rfl hfeed
  | char x icase => exact ⟨fun _ _ => hchar x icase rfl, rfl⟩
  | bracket _ => exact ⟨nofun, rfl⟩
  | numbered _ => exact ⟨trivial, rfl⟩
  | named _ _ => exact ⟨trivial, rfl⟩

section Escapes

variable {scope : Scope} {icase mark : Bool} {c d e : Cursor} {node : Node} {x : Char}

theorem icase_of_readLiteralEscape (h : readLiteralEscape icase c = .ok (.char x mark, d)) :
    mark = icase := by
  simp only [readLiteralEscape] at h
  split at h
  · cases h; rfl
  · simp at h

theorem ne_char_of_namedReference {chars : List Char} (h : namedReference scope chars = .ok node) :
    node ≠ .char x mark := by
  simp only [namedReference] at h
  split at h
  · split at h
    · simp at h
    · obtain ⟨_, rfl⟩ := Escaped.of_checked h
      simp
  · split at h
    · simp at h
    · obtain ⟨_, rfl⟩ := Escaped.of_checked h
      simp

theorem ne_char_of_readNamed {closing : Char} (h : readNamed scope closing c = .ok (node, d)) :
    node ≠ .char x mark := by
  simp only [readNamed] at h
  split at h
  · simp at h
  · split at h
    · next hn => cases h; exact ne_char_of_namedReference hn
    · simp at h

theorem icase_of_readNameEscape (h : readNameEscape scope icase c d = .ok (.char x mark, e)) :
    mark = icase := by
  simp only [readNameEscape] at h
  split at h
  · exact absurd rfl (ne_char_of_readNamed h)
  · exact absurd rfl (ne_char_of_readNamed h)
  · exact icase_of_readLiteralEscape h

theorem icase_of_readDigitEscape (h : readDigitEscape scope icase c = .ok (.char x mark, d)) :
    mark = icase := by
  simp only [readDigitEscape] at h
  split at h
  · next hn =>
      cases h
      simp only [readNumbered] at hn
      split at hn
      · simp at hn
      · split at hn
        · simp at hn
        · split at hn <;> simp at hn
  · exact icase_of_readLiteralEscape h
  · simp at h

theorem icase_of_readEscape (h : readEscape scope icase c = .ok (.char x mark, d)) :
    mark = icase := by
  simp only [readEscape] at h
  split at h
  · simp at h
  · split at h
    · simp at h
    · next hletter =>
        cases h
        simp only [letterNode?] at hletter
        split at hletter <;> simp [lineBreak] at hletter
    · simp at h
    · split at h
      · simp only [readSetEscape] at h
        split at h <;> simp at h
      · split at h
        · exact icase_of_readNameEscape h
        · split at h
          · exact icase_of_readDigitEscape h
          · exact icase_of_readLiteralEscape h

end Escapes

def Opener.inside (flags : Flags) : Opener → Flags
  | capture _ _ => flags
  | nonCapturing => flags
  | toggled toggle => toggle.apply flags

theorem KeepsOptions.of_body {opener : Opener} {flags : Flags} {body : Node}
    (h : body.EachUnder Obeys (opener.inside flags)) : KeepsOptions flags (opener.node body) := by
  cases opener with
  | capture group name => exact ⟨⟨trivial, h⟩, rfl⟩
  | nonCapturing => exact ⟨⟨trivial, h⟩, rfl⟩
  | toggled toggle => exact ⟨⟨trivial, h⟩, rfl⟩

namespace Branches

def written (branches : Branches) : List Node := branches.finished.reverse ++ branches.items.reverse

structure Obey (flags behind : Flags) (branches : Branches) : Prop where
  each : EachOfUnder Obeys flags branches.written
  behind : flagsBehindAll flags branches.written = behind

theorem written_add (branches : Branches) (item : Node) :
    (branches.add item).written = branches.written ++ [item] := by
  simp only [written, add, List.reverse_cons, List.append_assoc]

namespace Obey

variable {flags behind after : Flags} {branches : Branches}

theorem none (flags : Flags) : Branches.none.Obey flags flags := ⟨trivial, rfl⟩

theorem add (h : branches.Obey flags behind) {item : Node} (hitem : item.EachUnder Obeys behind)
    (hafter : item.flagsBehind behind = after) : (branches.add item).Obey flags after := by
  constructor
  · rw [written_add, eachOfUnder_append, h.behind, eachOfUnder_singleton]
    exact ⟨h.each, hitem⟩
  · rw [written_add, flagsBehindAll_append, h.behind, flagsBehindAll_singleton, hafter]

theorem lastBranch (h : branches.Obey flags behind) :
    EachOfUnder Obeys flags (ofItems branches.items :: branches.finished).reverse ∧
      flagsBehindAll flags (ofItems branches.items :: branches.finished).reverse = behind := by
  obtain ⟨heach, hbehind⟩ := h
  rw [written, eachOfUnder_append] at heach
  rw [written, flagsBehindAll_append] at hbehind
  rw [List.reverse_cons, eachOfUnder_append, flagsBehindAll_append, eachOfUnder_singleton,
    flagsBehindAll_singleton, flagsBehind_ofItems]
  exact ⟨⟨heach.1, eachUnder_ofItems trivial (fun _ => trivial) heach.2⟩, hbehind⟩

theorem nextBranch (h : branches.Obey flags behind) : branches.nextBranch.Obey flags behind := by
  have hwritten : branches.nextBranch.written =
      (ofItems branches.items :: branches.finished).reverse := List.append_nil _
  exact ⟨hwritten ▸ h.lastBranch.1, hwritten ▸ h.lastBranch.2⟩

theorem node (h : branches.Obey flags behind) : branches.node.EachUnder Obeys flags :=
  eachUnder_ofBranches trivial (fun _ => trivial) h.lastBranch.1

theorem repeatLast (h : branches.Obey flags behind) {item : Node} {rest : List Node}
    (hitems : branches.items = item :: rest) (hitem : item.isToggleRest = false) (q : Quantifier) :
    (branches.repeatLast q).Obey flags behind := by
  have hbefore : branches.written = (branches.finished.reverse ++ rest.reverse) ++ [item] := by
    rw [written, hitems, List.reverse_cons, List.append_assoc]
  have hafter : (branches.repeatLast q).written =
      (branches.finished.reverse ++ rest.reverse) ++ [.loop q item] := by
    simp only [Branches.repeatLast, hitems, written, List.reverse_cons, List.append_assoc]
  obtain ⟨heach, hbehind⟩ := h
  rw [hbefore, eachOfUnder_append, eachOfUnder_singleton] at heach
  rw [hbefore, flagsBehindAll_append, flagsBehindAll_singleton] at hbehind
  constructor
  · rw [hafter, eachOfUnder_append, eachOfUnder_singleton]
    exact ⟨heach.1, hitem, heach.2⟩
  · rw [hafter, flagsBehindAll_append, flagsBehindAll_singleton]
    exact hbehind

end Obey

end Branches

def flagsInside (initial : Flags) : List OpenGroup → Flags
  | [] => initial
  | group :: _ => group.opener.inside group.flags

def ObeyAround (initial : Flags) : List OpenGroup → Prop
  | [] => True
  | group :: enclosing =>
      group.outer.Obey (flagsInside initial enclosing) group.flags ∧ ObeyAround initial enclosing

structure State.Obeys (initial : Flags) (s : State) : Prop where
  sound : s.Sound
  branches : s.branches.Obey (flagsInside initial s.enclosing) s.flags
  enclosing : ObeyAround initial s.enclosing

namespace State.Obeys

variable {initial : Flags} {s t : State} {c d : Cursor}

theorem add (h : s.Obeys initial) {item : Node} {last : Repeatable}
    (hsound : (s.add item last d).Sound) (hitem : KeepsOptions s.flags item) :
    (s.add item last d).Obeys initial :=
  ⟨hsound, h.branches.add hitem.obeys hitem.behind, h.enclosing⟩

theorem enter (h : s.Obeys initial) (opener : Opener) :
    (s.enter opener (opener.inside s.flags) d).Obeys initial :=
  ⟨h.sound.enter _ _, .none _, h.branches, h.enclosing⟩

theorem declare (h : s.Obeys initial) (name : Option String) : (s.declare name d).Obeys initial :=
  let entered := h.enter (.capture (s.groups.count + 1) name) (d := d)
  ⟨h.sound.declare name, entered.branches, entered.enclosing⟩

theorem toggle (h : s.Obeys initial) {toggle : Toggle} (hsound : (s.toggle toggle d).Sound) :
    (s.toggle toggle d).Obeys initial :=
  ⟨hsound, h.branches.add trivial rfl, h.enclosing⟩

theorem leave (h : s.Obeys initial) {group : OpenGroup} {enclosing : List OpenGroup}
    (he : s.enclosing = group :: enclosing) : (s.leave group enclosing d).Obeys initial := by
  obtain ⟨hsound, hbranches, hgroup⟩ := h
  rw [he] at hbranches hgroup
  have hnode := KeepsOptions.of_body hbranches.node
  exact ⟨hsound.leave he, hgroup.1.add hnode.obeys hnode.behind, hgroup.2⟩

theorem opening (h : s.Obeys initial) (hmove : Opening s c t) : t.Obeys initial := by
  have hsound := h.sound.opening hmove
  cases hmove with
  | capture _ _ => exact h.declare _
  | named _ _ _ _ _ => exact h.declare _
  | nonCapturing _ _ => exact h.enter .nonCapturing
  | toggleScoped _ _ => exact h.enter (.toggled _)
  | toggleRest _ _ => exact h.toggle hsound

theorem move (h : s.Obeys initial) {total : Nat} (hmove : Move total s t) : t.Obeys initial := by
  have hsound := h.sound.move hmove
  cases hmove with
  | repeatLast _ hl =>
      obtain ⟨item, rest, hitems, hrepeat⟩ := h.sound.last hl
      obtain ⟨-, -, htoggle⟩ := isRepeatable_iff.1 hrepeat
      exact ⟨hsound, h.branches.repeatLast hitems htoggle _, h.enclosing⟩
  | leave _ he => exact h.leave he
  | nextBranch _ => exact ⟨hsound, h.branches.nextBranch, h.enclosing⟩
  | lineAnchor _ _ _ => exact h.add hsound ⟨trivial, rfl⟩
  | escapedAnchor _ _ _ => exact h.add hsound ⟨trivial, rfl⟩
  | escape _ he _ =>
      refine h.add hsound (.of_escaped (Escaped.of_readEscape he) ?_)
      rintro x icase rfl
      exact icase_of_readEscape he
  | dot _ => exact h.add hsound ⟨fun hicase => absurd hicase Bool.false_ne_true, rfl⟩
  | group _ ho => exact h.opening ho
  | bracket _ _ => exact h.add hsound ⟨id, rfl⟩
  | char _ _ _ => exact h.add hsound ⟨fun _ _ => rfl, rfl⟩

end State.Obeys

end Reader

open Reader

variable {text : String} {flags : Flags} {p : Pattern}

theorem Pattern.obeys_of_read (h : Pattern.read text flags = .ok p) :
    p.root.EachUnder Node.Obeys flags := by
  have hstart : (State.start flags text).Obeys flags :=
    ⟨⟨.none, nofun, nofun⟩, .none flags, trivial⟩
  obtain ⟨s, hs, _, he, rfl⟩ := read_induction (P := State.Obeys flags) hstart
    (fun hs _ => ⟨⟨hs.sound.branches, hs.sound.enclosing, hs.sound.last⟩, hs.branches, hs.enclosing⟩)
    (fun hs _ _ _ hmove => hs.move hmove) h
  have hbranches := hs.branches
  rw [he] at hbranches
  exact hbranches.node

theorem Pattern.obeys_of_read_branches :
    ∃ p, Pattern.read "(?i:a(?-i)b|c)d(e(?i)|f\\R)*[g]" .none = .ok p ∧
      p.root.EachUnder Node.Obeys .none := by
  have heval : (Pattern.read "(?i:a(?-i)b|c)d(e(?i)|f\\R)*[g]" .none).toOption.map
      Pattern.groupCount = some 1 := by
    decide +kernel
  obtain ⟨p, hp, _⟩ := exists_of_read heval
  exact ⟨p, hp, Pattern.obeys_of_read hp⟩

end Specimen
