import Specimen.Proofs.Reader.Annotate
/-!
References, groups and option letters in front of a comment. A reference alone can tell the comment from the
end of its text: the run of digits behind a backslash is read as a whole.
-/

namespace Specimen.Reader

open Cursor

variable {note : Note} {c d : Cursor}

section References

variable {scope : Scope} {icase : Bool} {node : Node} {v : List Char}

/-- The text, from behind a backslash on, starts with a run of digits that goes on into `v`, and the digits in
front of `v` are the number of a group if they stand alone. -/
structure CutsNumber (total : Nat) (text v : List Char) (digits : List Char) : Prop where
  text_eq : text = digits ++ v
  isDigit : ∀ x ∈ digits, Text.isDigit 10 x = true
  starts : ∃ x, digits.head? = some x ∧ x ≠ '0'
  goesOn : ∃ x, v.head? = some x ∧ Text.isDigit 10 x = true
  refers : digits.length = 1 ∨ Text.numeral 10 digits ≤ total

theorem readNumbered_annotate (h : readNumbered scope c = .ok (some (node, d)))
    (hback : note.back ≤ d.rest.length) :
    readNumbered scope (c.annotate note) = .ok (some (node, d.annotate note)) := by
  simp only [readNumbered] at h
  split at h
  · cases h
  · next hnumber =>
      split at h
      · cases h
      · next hsmall =>
          split at h
          · next hcheck =>
              cases h
              simp only [readNumbered, span_annotate rfl hback, annotateSnd, if_neg hnumber,
                if_neg hsmall, hcheck]
          · cases h

theorem readNumbered_eq_none_iff : readNumbered scope c = .ok none ↔
    1 < (c.span (Text.isDigit 10)).1.length ∧
      scope.total < Text.numeral 10 (c.span (Text.isDigit 10)).1 := by
  simp only [readNumbered]
  constructor
  · intro h
    split at h
    · next hnumber => simpa using hnumber
    · split at h
      · cases h
      · split at h <;> cases h
  · intro h
    rw [if_pos (by simpa using h)]

theorem exists_of_append_eq {α : Type} {a b c d : List α} (h : a ++ b = c ++ d)
    (hlength : d.length < b.length) : ∃ more, more ≠ [] ∧ c = a ++ more ∧ b = more ++ d := by
  rcases List.append_eq_append_iff.1 h with ⟨more, hc, hb⟩ | ⟨more, ha, hd⟩
  · refine ⟨more, ?_, hc, hb⟩
    rintro rfl
    simp [hb] at hlength
  · rw [hd, List.length_append] at hlength
    exact absurd hlength (by omega)

theorem readNumbered_annotate_eq_none (h : readNumbered scope c = .ok none)
    (hstart : ∃ x, c.peek? = some x ∧ x ≠ '0') {front : List Char} (hrest : c.rest = front ++ v)
    (hv : v.length = note.back) (hfront : front ≠ [])
    (hcut : ∀ digits, ¬ CutsNumber scope.total c.rest v digits) :
    readNumbered scope (c.annotate note) = .ok none := by
  rw [readNumbered_eq_none_iff] at h ⊢
  rcases Nat.lt_or_ge (c.span (Text.isDigit 10)).2.rest.length note.back with hlt | hback
  · -- The run of digits goes on behind the comment, which cuts it.
    have hall : ∀ x ∈ (c.span (Text.isDigit 10)).1, Text.isDigit 10 x = true :=
      fun x hx => Drifts.holds_of_mem_span hx
    have hrun := (reads_span (Text.isDigit 10) c).rest_eq
    obtain ⟨more, hmore, hdigits, hbehind⟩ :=
      exists_of_append_eq (hrest.symm.trans hrun) (hv ▸ hlt)
    rw [hdigits] at hall
    have hreads : c.Reads front ⟨v, c.offset + utf8Length front⟩ := ⟨hrest, rfl⟩
    have hspan : (c.annotate note).span (Text.isDigit 10) = (front, _) :=
      span_of_digits (hreads.annotate (Nat.le_of_eq hv.symm))
        (fun x hx => hall x (List.mem_append_left more hx)) (peek?_annotate_of_length hv) rfl
    obtain ⟨x, others, rfl⟩ := List.exists_cons_of_ne_nil hmore
    obtain ⟨y, hy, hzero⟩ := hstart
    have hcuts : ¬ (front.length = 1 ∨ Text.numeral 10 front ≤ scope.total) := by
      refine fun hrefers => hcut front ⟨hrest, fun z hz => hall z (List.mem_append_left _ hz), ?_,
        ⟨x, by rw [hbehind]; rfl, hall x (by simp)⟩, hrefers⟩
      refine ⟨y, ?_, hzero⟩
      rw [peek?, hrest, List.head?_append_of_ne_nil _ hfront] at hy
      exact hy
    have hpos := List.length_pos_iff.2 hfront
    rw [hspan]
    simp only
    omega
  · rw [span_annotate rfl hback]
    exact h

theorem readNamed_annotate {closing : Char} (h : readNamed scope closing c = .ok (node, d))
    (hback : note.back ≤ d.rest.length) :
    readNamed scope closing (c.annotate note) = .ok (node, d.annotate note) := by
  simp only [readNamed] at h
  split at h
  · cases h
  · next hclose =>
      split at h
      · next hname =>
          cases h
          have hlt := Nat.lt_of_le_of_lt hback (passes_of_skip? hclose).length_lt
          simp only [readNamed, span_annotate_of_lt hlt, annotateSnd, skip?_annotate hclose hback,
            hname]
      · cases h

theorem readLiteralEscape_annotate (h : readLiteralEscape icase c = .ok (node, d))
    (hback : note.back ≤ d.rest.length) :
    readLiteralEscape icase (c.annotate note) = .ok (node, d.annotate note) := by
  simp only [readLiteralEscape] at h
  split at h
  · next hx =>
      cases h
      simp only [readLiteralEscape, readCharEscape_annotate hx hback]
  · cases h

theorem readSetEscape_annotate {negated : Bool} (h : readSetEscape negated c = .ok (node, d))
    (hback : note.back ≤ d.rest.length) :
    readSetEscape negated (c.annotate note) = .ok (node, d.annotate note) := by
  simp only [readSetEscape] at h
  split at h
  · next hset =>
      cases h
      simp only [readSetEscape, readProperty_annotate hset hback]
  · cases h

theorem readNameEscape_eq_literal (h : ∀ x, d.peek? = some x → x ≠ '<' ∧ x ≠ '\'') :
    readNameEscape scope icase c d = readLiteralEscape icase c := by
  unfold readNameEscape
  split
  · next hd => exact absurd rfl (h _ (peek?_of_next? hd)).1
  · next hd => exact absurd rfl (h _ (peek?_of_next? hd)).2
  · rfl

theorem readNameEscape_annotate {e : Cursor} {x : Char} (hx : c.next? = some (x, d))
    (h : readNameEscape scope icase c d = .ok (node, e)) (hback : note.back ≤ e.rest.length) :
    readNameEscape scope icase (c.annotate note) (d.annotate note) = .ok (node, e.annotate note) := by
  simp only [readNameEscape] at h
  split at h
  · next hd =>
      have hle := Nat.le_trans hback (passes_of_readNamed h).reaches.length_le
      simp only [readNameEscape, next?_annotate hd hle, readNamed_annotate h hback]
  · next hd =>
      have hle := Nat.le_trans hback (passes_of_readNamed h).reaches.length_le
      simp only [readNameEscape, next?_annotate hd hle, readNamed_annotate h hback]
  · next hangle hquote =>
      have hle := Nat.le_trans hback (length_le_of_next? hx (passes_of_readLiteralEscape h))
      have hmark : ∀ y, (d.annotate note).peek? = some y → y ≠ '<' ∧ y ≠ '\'' := by
        intro y hy
        rcases peek?_annotate_cases hle with hp | hp
        · rw [hp] at hy
          obtain ⟨f, hf⟩ := next?_of_peek? hy
          constructor
          · rintro rfl
            exact hangle _ hf
          · rintro rfl
            exact hquote _ hf
        · rw [hp] at hy
          cases hy
          decide
      rw [readNameEscape_eq_literal hmark]
      exact readLiteralEscape_annotate h hback

theorem readDigitEscape_annotate (hstart : ∃ x, c.peek? = some x ∧ x ≠ '0') {front : List Char}
    (hrest : c.rest = front ++ v) (hv : v.length = note.back)
    (hcut : ∀ digits, ¬ CutsNumber scope.total c.rest v digits)
    (h : readDigitEscape scope icase c = .ok (node, d)) (hback : note.back ≤ d.rest.length) :
    readDigitEscape scope icase (c.annotate note) = .ok (node, d.annotate note) := by
  simp only [readDigitEscape] at h
  split at h
  · next hnumber =>
      cases h
      simp only [readDigitEscape, readNumbered_annotate hnumber hback]
  · next hnone =>
      have hlt := Nat.lt_of_le_of_lt hback (passes_of_readLiteralEscape h).length_lt
      have hfront : front ≠ [] := by
        rintro rfl
        rw [hrest, List.nil_append] at hlt
        omega
      simp only [readDigitEscape, readNumbered_annotate_eq_none hnone hstart hrest hv hfront hcut,
        readLiteralEscape_annotate h hback]
  · cases h

theorem readEscape_annotate {front : List Char} (hrest : c.rest = front ++ v)
    (hv : v.length = note.back) (hcut : ∀ digits, ¬ CutsNumber scope.total c.rest v digits)
    (h : readEscape scope icase c = .ok (node, d)) (hback : note.back ≤ d.rest.length) :
    readEscape scope icase (c.annotate note) = .ok (node, d.annotate note) := by
  cases hx : c.next? with
  | none => simp [readEscape, hx] at h
  | some r =>
      obtain ⟨x, e⟩ := r
      have hle := Nat.le_trans hback (length_le_of_next? hx (passes_of_readEscape h))
      simp only [readEscape, hx, next?_annotate hx hle] at h ⊢
      split at h
      · cases h; rfl
      · cases h; rfl
      · cases h
      · split at h
        · next hp => rw [if_pos hp, readSetEscape_annotate h hback]
        · next hp =>
            rw [if_neg hp]
            split at h
            · next hk => rw [if_pos hk, readNameEscape_annotate hx h hback]
            · next hk =>
                rw [if_neg hk]
                split at h
                · next hdigit =>
                    rw [if_pos hdigit]
                    simp only [Bool.and_eq_true, decide_eq_true_eq] at hdigit
                    refine readDigitEscape_annotate ⟨x, peek?_of_next? hx, ?_⟩ hrest hv hcut h hback
                    rintro rfl
                    exact absurd hdigit.1 (by decide)
                · next hdigit => rw [if_neg hdigit, readLiteralEscape_annotate h hback]

end References

section Groups

variable {s t : State}

theorem readGroupName_annotate {closing : Char} {name : String}
    (h : readGroupName closing c = .ok (name, d)) (hback : note.back ≤ d.rest.length) :
    readGroupName closing (c.annotate note) = .ok (name, d.annotate note) := by
  simp only [readGroupName] at h
  split at h
  · cases h
  · next hclose =>
      split at h
      · next hlegal =>
          cases h
          have hlt := Nat.lt_of_le_of_lt hback (passes_of_skip? hclose).length_lt
          simp only [readGroupName, span_annotate_of_lt hlt, annotateSnd,
            skip?_annotate hclose hback, if_pos hlegal]
      · cases h

theorem readToggle_annotate {toggle changed : Toggle} {enable hasScope : Bool} {rest : List Char}
    {offset : Nat} (h : readToggle toggle enable rest offset = .ok (changed, hasScope, d))
    (hback : note.back ≤ d.rest.length) :
    readToggle toggle enable (note.putInto rest) offset = .ok (changed, hasScope, d.annotate note) := by
  fun_induction readToggle toggle enable rest offset with
  | case1 => cases h
  | case2 _ _ x rest offset next hminus ih =>
      have hle := Nat.le_trans hback (reaches_of_readToggle h).length_le
      rw [Note.putInto_cons hle, readToggle, if_pos hminus]
      exact ih h
  | case3 _ _ rest offset next hminus =>
      cases h
      rw [Note.putInto_cons hback, readToggle, if_neg hminus, if_pos rfl]
      rfl
  | case4 _ _ rest offset next hminus hclose =>
      cases h
      rw [Note.putInto_cons hback, readToggle, if_neg hminus, if_neg hclose, if_pos rfl]
      rfl
  | case5 _ _ x rest offset next hminus hclose hcolon changed hletter ih =>
      have hle := Nat.le_trans hback (reaches_of_readToggle h).length_le
      rw [Note.putInto_cons hle, readToggle, if_neg hminus, if_neg hclose, if_neg hcolon, hletter]
      exact ih h
  | case6 => cases h

namespace State

def annotate (note : Note) (s : State) : State := { s with cursor := s.cursor.annotate note }

-- With `:= rfl` these would rewrite by definition and leave the instances of an `if` behind.
@[simp] theorem cursor_annotate : (s.annotate note).cursor = s.cursor.annotate note := by rfl

@[simp] theorem flags_annotate : (s.annotate note).flags = s.flags := by rfl

@[simp] theorem groups_annotate : (s.annotate note).groups = s.groups := by rfl

@[simp] theorem enclosing_annotate : (s.annotate note).enclosing = s.enclosing := by rfl

@[simp] theorem last_annotate : (s.annotate note).last = s.last := by rfl

@[simp] theorem atPatternStart_annotate : (s.annotate note).atPatternStart = s.atPatternStart := by rfl

@[simp] theorem scope_annotate (total : Nat) : (s.annotate note).scope total = s.scope total := by rfl

end State

theorem openCapture_annotate (name : Option String) : openCapture (s.annotate note) name
    (d.annotate note) = (openCapture s name d).map (State.annotate note) := by
  simp only [openCapture]
  rw [State.groups_annotate]
  split
  · rfl
  · rfl

theorem openNamed_annotate {closing : Char} (h : openNamed s closing c = .ok t)
    (hback : note.back ≤ t.cursor.rest.length) :
    openNamed (s.annotate note) closing (c.annotate note) = .ok (t.annotate note) := by
  simp only [openNamed] at h
  split at h
  · next hname =>
      rw [cursor_of_openCapture h] at hback
      simp only [openNamed, readGroupName_annotate hname hback, openCapture_annotate, h]
      rfl
  · cases h

theorem openToggle_annotate (h : openToggle s c = .ok t) (hback : note.back ≤ t.cursor.rest.length) :
    openToggle (s.annotate note) (c.annotate note) = .ok (t.annotate note) := by
  have hrest : (c.annotate note).rest = note.putInto c.rest := rfl
  have hoffset : (c.annotate note).offset = c.offset := rfl
  simp only [openToggle] at h
  simp only [openToggle, hrest, hoffset]
  split at h
  · next hscope =>
      cases h
      rw [readToggle_annotate hscope hback]
      rfl
  · next hscope =>
      cases h
      rw [readToggle_annotate hscope hback]
      rfl
  · cases h

theorem passes_of_readToggle {toggle changed : Toggle} {enable hasScope : Bool} {rest : List Char}
    {offset : Nat} (h : readToggle toggle enable rest offset = .ok (changed, hasScope, d)) :
    Cursor.Passes ⟨rest, offset⟩ d := by
  have one (x : Char) (rest : List Char) (offset : Nat) :
      Cursor.Passes ⟨x :: rest, offset⟩ ⟨rest, offset + x.utf8Size⟩ := passes_of_next? rfl
  unfold readToggle at h
  split at h
  · cases h
  · simp only at h
    split at h
    · exact (one _ _ _).trans_reaches (reaches_of_readToggle h)
    · split at h
      · cases h; exact one _ _ _
      · split at h
        · cases h; exact one _ _ _
        · split at h
          · exact (one _ _ _).trans_reaches (reaches_of_readToggle h)
          · cases h

theorem passes_of_openToggle (h : openToggle s c = .ok t) : c.Passes t.cursor := by
  simp only [openToggle] at h
  split at h
  · next hscope => cases h; exact passes_of_readToggle hscope
  · next hscope => cases h; exact passes_of_readToggle hscope
  · cases h

/-- The marks behind `(?` that no option letters start with. -/
def specialMarks : List Char := [':', '=', '!', '<', '\'', '>', '~', '(']

theorem openSpecial_eq_openToggle (h : ∀ x, c.peek? = some x → x ∉ specialMarks) :
    openSpecial s c = openToggle s c := by
  have hne {x : Char} {d : Cursor} (hc : c.next? = some (x, d)) (hx : x ∈ specialMarks) : False :=
    h x (peek?_of_next? hc) hx
  unfold openSpecial
  split
  · next hc => exact (hne hc (by decide)).elim
  · next hc => exact (hne hc (by decide)).elim
  · next hc => exact (hne hc (by decide)).elim
  · next hc => exact (hne hc (by decide)).elim
  · next hc => exact (hne hc (by decide)).elim
  · next hc => exact (hne hc (by decide)).elim
  · next hc => exact (hne hc (by decide)).elim
  · next hc => exact (hne hc (by decide)).elim
  · rfl

theorem openSpecial_annotate (h : openSpecial s c = .ok t)
    (hback : note.back ≤ t.cursor.rest.length) :
    openSpecial (s.annotate note) (c.annotate note) = .ok (t.annotate note) := by
  simp only [openSpecial] at h
  split at h
  · next hc =>
      cases h
      simp only [openSpecial, next?_annotate hc hback]
      rfl
  · cases h
  · cases h
  · next d hc =>
      split at h
      · cases h
      · next hpeek =>
          have hlt := Nat.lt_of_le_of_lt hback (passes_of_openNamed h).length_lt
          simp only [openSpecial, next?_annotate hc (Nat.le_of_lt hlt), peek?_annotate hlt,
            if_neg hpeek]
          exact openNamed_annotate h hback
  · next d hc =>
      have hlt := Nat.lt_of_le_of_lt hback (passes_of_openNamed h).length_lt
      simp only [openSpecial, next?_annotate hc (Nat.le_of_lt hlt)]
      exact openNamed_annotate h hback
  · cases h
  · cases h
  · cases h
  · have hlt := Nat.lt_of_le_of_lt hback (passes_of_openToggle h).length_lt
    have hmark : ∀ x, (c.annotate note).peek? = some x → x ∉ specialMarks := by
      intro x hx
      rw [peek?_annotate hlt] at hx
      obtain ⟨d, hd⟩ := next?_of_peek? hx
      simp only [specialMarks, List.mem_cons, List.not_mem_nil, or_false]
      rintro (rfl | rfl | rfl | rfl | rfl | rfl | rfl | rfl)
      all_goals simp_all
    rw [openSpecial_eq_openToggle hmark]
    exact openToggle_annotate h hback

theorem readGroup_annotate (h : readGroup s c = .ok t) (hback : note.back ≤ t.cursor.rest.length) :
    readGroup (s.annotate note) (c.annotate note) = .ok (t.annotate note) := by
  simp only [readGroup] at h
  split at h
  · next hmark =>
      have hle := Nat.le_trans hback (reaches_of_openSpecial h).length_le
      simp only [readGroup, skip?_annotate hmark hle]
      exact openSpecial_annotate h hback
  · next hmark =>
      rw [cursor_of_openCapture h] at hback
      simp only [readGroup, skip?_annotate_eq_none hmark (by decide) hback, openCapture_annotate, h]
      rfl

end Groups

end Specimen.Reader
