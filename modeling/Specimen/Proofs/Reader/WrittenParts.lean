import Specimen.Proofs.Pattern.Written
import Specimen.Proofs.Reader.BracketText
import Specimen.Proofs.CodePointSet.Canonical

namespace Specimen.Reader

section Characters

variable {c d : Cursor}

theorem hexChar?_digits (h : HexChar) : hexChar? h.digits = some h.char := by
  have hvalid : (Text.numeral 16 h.digits).isValidChar := h.valid
  simp only [hexChar?, List.isEmpty_eq_false_iff.2 h.nonempty, Bool.not_false, Bool.true_and,
    decide_eq_true_eq, hvalid, if_true]
  rfl

theorem readUnicode_of_reads (h : HexChar) (hc : c.Reads ('{' :: (h.digits ++ ['}'])) d) :
    readUnicode c = .ok (h.char, d) := by
  obtain ⟨c₁, hopen, hc⟩ := Cursor.reads_cons_iff.1 hc
  obtain ⟨c₂, hdigits, hc⟩ := Cursor.reads_append_iff.1 hc
  obtain ⟨c₃, hclose, hc⟩ := Cursor.reads_cons_iff.1 hc
  rw [Cursor.reads_nil_iff] at hc
  have hspan : c₁.spanUpTo 6 (Text.isDigit 16) = (h.digits, c₂) := by
    refine Cursor.spanUpTo_of_reads hdigits h.isDigit h.short fun x hx => ?_
    rw [Cursor.peek?_of_next? hclose] at hx
    cases hx
    decide
  simp only [readUnicode, unicodeDigits?, Cursor.skip?_of_next? hopen, hspan,
    Cursor.skip?_of_next? hclose, Option.map_some, hexChar?_digits, hc]

theorem readCharEscape_of_hex (h : HexChar) (hu : c.next? = some ('u', d)) {e : Cursor}
    (hd : d.Reads ('{' :: (h.digits ++ ['}'])) e) : readCharEscape c = .ok (h.char, e) := by
  simp only [readCharEscape, hu, readUnicode_of_reads h hd]

theorem SpellsAtom.hex (h : HexChar) : SpellsAtom h.text (.char h.char) :=
  escape fun {c d e} hu hd => by
    have hread := readCharEscape_of_hex h hu hd
    simp [readClassEscape, hu, CodePointSet.ofClassLetter?, hread]

end Characters

end Specimen.Reader

namespace Specimen

theorem HexRange.spells (r : HexRange) (icase : Bool) :
    Reader.Spells icase r.text fun x => x ∈ r.interval :=
  (Reader.SpellsAtom.hex r.first).range (.hex r.last) r.ordered

namespace WrittenSet

open CodePointSet

theorem set_wellFormed (s : WrittenSet) : s.set.WellFormed := by
  refine wellFormed_iff.2 ⟨fun iv hiv => ?_, ?_⟩
  · obtain ⟨r, _, rfl⟩ := List.mem_map.1 hiv
    exact ⟨r.ordered, toNat_le_maxCodePoint r.last.char⟩
  · exact List.pairwise_map.2 s.apart

theorem mem_set {s : WrittenSet} {x : Nat} : x ∈ s.set ↔ ∃ r ∈ s.ranges, x ∈ r.interval := by
  rw [set, mem_ofIntervals]
  constructor
  · rintro ⟨_, hiv, hx⟩
    obtain ⟨r, hr, rfl⟩ := List.mem_map.1 hiv
    exact ⟨r, hr, hx⟩
  · rintro ⟨r, hr, hx⟩
    exact ⟨_, List.mem_map.2 ⟨r, hr, rfl⟩, hx⟩

theorem readBracket_of_reads (s : WrittenSet) (icase : Bool) {c d : Reader.Cursor}
    (hc : c.Reads (s.ranges.flatMap HexRange.text ++ [']']) d) :
    Reader.readBracket icase c = .ok (s.set, d) := by
  have hspells : ∀ operand ∈ [s.ranges], ∀ r ∈ operand,
      Reader.Spells icase r.text fun x => x ∈ r.interval := fun _ _ r _ => r.spells icase
  have hbody : c.Reads (Reader.bracketBody HexRange.text false s.ranges []) d := hc
  obtain ⟨found, hread, hfound⟩ := Reader.exists_readBracket (.inl s.nonempty) hspells hbody
  have hsame : found = s.set := by
    refine eq_of_mem_iff hfound.wellFormed s.set_wellFormed fun x => ?_
    rw [hfound.mem_iff, mem_set]
    simp [Bracketed, Joint, s.nonempty]
  rw [hread, hsame]

end WrittenSet

namespace Reader

section Quantifiers

variable {c d : Cursor}

theorem span_of_digits {base : Nat} {digits : List Char} {x : Char} (hc : c.Reads digits d)
    (hdigits : ∀ c ∈ digits, Text.isDigit base c = true) (hd : d.peek? = some x)
    (hx : Text.isDigit base x = false) : c.span (Text.isDigit base) = (digits, d) := by
  refine Cursor.span_of_reads hc hdigits fun y hy => ?_
  rw [hd] at hy
  cases hy
  exact hx

theorem number?_digits (n : Numeral 10) : number? n.digits = some n.value := by
  simp only [number?, List.isEmpty_eq_false_iff.2 n.nonempty, Bool.false_eq_true, if_false]
  rfl

open WrittenRepeat in
theorem number?_boundText (bound : Option (Numeral 10)) :
    number? (boundText bound) = bound.map Numeral.value := by
  cases bound with
  | none => rfl
  | some n => exact number?_digits n

open WrittenRepeat in
theorem isDigit_of_mem_boundText {bound : Option (Numeral 10)} :
    ∀ x ∈ boundText bound, Text.isDigit 10 x = true := by
  cases bound with
  | none => exact nofun
  | some n => exact n.isDigit

theorem interval?_of_fixed (n : Numeral 10) (hc : c.Reads (n.digits ++ ['}']) d) :
    interval? c = some (⟨some n.value, some n.value, .fixed⟩, d) := by
  obtain ⟨c₁, hdigits, hc⟩ := Cursor.reads_append_iff.1 hc
  obtain ⟨c₂, hclose, hc⟩ := Cursor.reads_cons_iff.1 hc
  rw [Cursor.reads_nil_iff] at hc
  have hpeek := Cursor.peek?_of_next? hclose
  have hspan := span_of_digits hdigits n.isDigit hpeek (by decide)
  have hcomma : c₁.peek? ≠ some ',' := by
    rw [hpeek]
    decide
  simp [interval?, writtenInterval, hspan, Cursor.skip?_eq_none hcomma, number?_digits,
    Cursor.skip?_of_next? hclose, hc]

open WrittenRepeat in
theorem interval?_of_range {least most : Option (Numeral 10)}
    (hbounded : (range least most).isBounded = true)
    (hc : c.Reads (boundText least ++ ',' :: (boundText most ++ ['}'])) d) :
    interval? c = some (⟨least.map Numeral.value, most.map Numeral.value, .range⟩, d) := by
  obtain ⟨c₁, hleast, hc⟩ := Cursor.reads_append_iff.1 hc
  obtain ⟨c₂, hcomma, hc⟩ := Cursor.reads_cons_iff.1 hc
  obtain ⟨c₃, hmost, hc⟩ := Cursor.reads_append_iff.1 hc
  obtain ⟨c₄, hclose, hc⟩ := Cursor.reads_cons_iff.1 hc
  rw [Cursor.reads_nil_iff] at hc
  have hfirst := span_of_digits hleast isDigit_of_mem_boundText (Cursor.peek?_of_next? hcomma)
    (by decide)
  have hsecond := span_of_digits hmost isDigit_of_mem_boundText (Cursor.peek?_of_next? hclose)
    (by decide)
  simp only [interval?, writtenInterval, hfirst, Cursor.skip?_of_next? hcomma, hsecond,
    Cursor.skip?_of_next? hclose, number?_boundText, hc]
  cases least with
  | some n => rfl
  | none =>
      cases most with
      | some n => rfl
      | none => cases hbounded

theorem bounds_of_small {w : WrittenInterval} (hsmall : w.least.getD 0 ≤ maxRepeat)
    (hordered : ∀ max, w.most = some max → w.least.getD 0 ≤ max ∧ max ≤ maxRepeat) :
    w.bounds = .ok (w.least.getD 0, w.most) := by
  have hmin : ¬ maxRepeat < w.least.getD 0 := Nat.not_lt.2 hsmall
  cases hmost : w.most with
  | none => simp [WrittenInterval.bounds, hmost, hmin]
  | some max =>
      obtain ⟨hle, hmax⟩ := hordered max hmost
      have hend : max < endlessRepeat := Nat.lt_of_le_of_lt hmax (by decide)
      simp [WrittenInterval.bounds, hmost, hend, hmin, Nat.not_lt.2 hmax, Nat.not_lt.2 hle]

theorem suffix_eq_greedy {form : RepeatForm}
    (h : ∀ x, c.peek? = some x → takesSuffix form x = false) : suffix form c = (.greedy, c) := by
  unfold suffix
  split
  · next hnext => cases h _ (Cursor.peek?_of_next? hnext)
  · next hnext => cases h _ (Cursor.peek?_of_next? hnext)
  · next hnext => cases h _ (Cursor.peek?_of_next? hnext)
  · rfl

theorem suffix_of_reads {form : RepeatForm} {greediness : Greediness}
    (hsuffixed : ∀ mark ∈ suffixText greediness, takesSuffix form mark = true)
    (hc : c.Reads (suffixText greediness) d)
    (hd : greediness = .greedy → ∀ x, d.peek? = some x → takesSuffix form x = false) :
    suffix form c = (greediness, d) := by
  cases greediness with
  | greedy =>
      rw [suffixText, Cursor.reads_nil_iff] at hc
      rw [hc]
      exact suffix_eq_greedy (hd rfl)
  | «lazy» =>
      obtain ⟨e, hmark, he⟩ := Cursor.reads_cons_iff.1 hc
      rw [Cursor.reads_nil_iff] at he
      have htakes := hsuffixed '?' (by decide)
      cases form with
      | symbol => simp only [suffix, hmark, he]
      | range => simp only [suffix, hmark, he]
      | fixed => cases htakes
  | possessive =>
      obtain ⟨e, hmark, he⟩ := Cursor.reads_cons_iff.1 hc
      rw [Cursor.reads_nil_iff] at he
      have htakes := hsuffixed '+' (by decide)
      cases form with
      | symbol => simp only [suffix, hmark, he]
      | range => cases htakes
      | fixed => cases htakes

theorem readQuantifier_of_spelling {r : WrittenRepeat} (hbounded : r.isBounded = true)
    (hc : c.Reads r.text d) : readQuantifier c = r.bounds.map fun bounds =>
      some (⟨bounds.1, bounds.2, (suffix r.form d).1⟩, (suffix r.form d).2) := by
  cases r with
  | fixed count =>
      obtain ⟨c₁, hopen, hcount⟩ := Cursor.reads_cons_iff.1 hc
      have hbounds : WrittenInterval.bounds ⟨some count.value, some count.value, .fixed⟩ =
          (WrittenRepeat.fixed count).bounds := rfl
      simp only [readQuantifier, hopen, interval?_of_fixed count hcount, hbounds]
      cases (WrittenRepeat.fixed count).bounds <;> rfl
  | range least most =>
      obtain ⟨c₁, hopen, hrange⟩ := Cursor.reads_cons_iff.1 hc
      have hbounds : WrittenInterval.bounds
          ⟨least.map Numeral.value, most.map Numeral.value, .range⟩ =
          (WrittenRepeat.range least most).bounds := rfl
      simp only [readQuantifier, hopen, interval?_of_range hbounded hrange, hbounds]
      cases (WrittenRepeat.range least most).bounds <;> rfl
  | star | plus | optional =>
      obtain ⟨c₁, hmark, hc₁⟩ := Cursor.reads_cons_iff.1 hc
      rw [Cursor.reads_nil_iff] at hc₁
      simp only [readQuantifier, hmark, hc₁]
      rfl

theorem readQuantifier_of_reads (q : WrittenQuantifier) (hc : c.Reads q.text d)
    (hd : ∀ x, d.peek? = some x → q.absorbs x = false) :
    readQuantifier c = .ok (some (q.quantifier, d)) := by
  obtain ⟨spelling, greediness, hbounded, hsmall, hordered, hsuffixed⟩ := q
  obtain ⟨e, hspelling, hsuffix⟩ := Cursor.reads_append_iff.1 hc
  have hend : suffix spelling.form e = (greediness, d) := by
    refine suffix_of_reads hsuffixed hsuffix fun hgreedy x hx => ?_
    simpa [WrittenQuantifier.absorbs, hgreedy] using hd x hx
  have hbounds : spelling.bounds = .ok (spelling.min, spelling.max) :=
    bounds_of_small hsmall hordered
  rw [readQuantifier_of_spelling hbounded hspelling, hbounds, hend]
  rfl

end Quantifiers

section Names

variable {c d : Cursor}

def angleMarks : List Char := ['>', '=', '!']

theorem isNameChar_angleMarks : ∀ mark ∈ angleMarks, isNameChar mark = false :=
  forall_mem_of_all (by decide)

theorem not_mem_chars (name : GroupName) {mark : Char} (hmark : mark ∈ angleMarks) :
    mark ∉ name.chars := by
  intro hmem
  have hname := name.isNameChar mark hmem
  rw [isNameChar_angleMarks mark hmark] at hname
  cases hname

theorem readGroupName_of_reads (name : GroupName) (hc : c.Reads (name.chars ++ ['>']) d) :
    readGroupName '>' c = .ok (name.name, d) := by
  obtain ⟨c₁, hchars, hc⟩ := Cursor.reads_append_iff.1 hc
  obtain ⟨c₂, hclose, hc⟩ := Cursor.reads_cons_iff.1 hc
  rw [Cursor.reads_nil_iff] at hc
  have hspan : c.span isNameChar = (name.chars, c₁) := by
    refine Cursor.span_of_reads hchars name.isNameChar fun x hx => ?_
    rw [Cursor.peek?_of_next? hclose] at hx
    cases hx
    exact isNameChar_angleMarks '>' (by decide)
  simp only [readGroupName, hspan, Cursor.skip?_of_next? hclose, name.legal, if_true, hc]
  rfl

theorem openSpecial_of_name {s : State} (name : GroupName) {e : Cursor}
    (hangle : c.next? = some ('<', d)) (hd : d.Reads (name.chars ++ ['>']) e) :
    openSpecial s c = openCapture s (some name.name) e := by
  have hpeek : d.peek? ≠ some '=' ∧ d.peek? ≠ some '!' := by
    have hne : name.chars ++ ['>'] ≠ [] := List.append_ne_nil_of_right_ne_nil _ (by decide)
    refine ⟨Cursor.peek?_ne_of_not_mem hd hne ?_, Cursor.peek?_ne_of_not_mem hd hne ?_⟩
    · have hmark : '=' ∉ name.chars := not_mem_chars name (by decide)
      simpa using hmark
    · have hmark : '!' ∉ name.chars := not_mem_chars name (by decide)
      simpa using hmark
  simp only [openSpecial, hangle, hpeek, decide_false, Bool.or_false, Bool.false_eq_true, if_false,
    openNamed, readGroupName_of_reads name hd]

theorem readNamed_of_reads {scope : Scope} {chars : List Char} {node : Node}
    (hchars : ∀ x ∈ chars, x ≠ '>') (hnode : namedReference scope chars = .ok node)
    (hc : c.Reads (chars ++ ['>']) d) : readNamed scope '>' c = .ok (node, d) := by
  obtain ⟨c₁, htext, hc⟩ := Cursor.reads_append_iff.1 hc
  obtain ⟨c₂, hclose, hc⟩ := Cursor.reads_cons_iff.1 hc
  rw [Cursor.reads_nil_iff] at hc
  have hspan : c.span (· != '>') = (chars, c₁) := by
    refine Cursor.span_of_reads htext (fun x hx => by simpa using hchars x hx) fun x hx => ?_
    rw [Cursor.peek?_of_next? hclose] at hx
    cases hx
    rfl
  simp only [readNamed, hspan, Cursor.skip?_of_next? hclose, hnode, hc]

theorem namedReference_of_digits {scope : Scope} (group : Numeral 10)
    (hrange : 1 ≤ group.value ∧ group.value ≤ maxGroups)
    (hcheck : scope.check group.value = .ok ()) :
    namedReference scope group.digits = .ok (.backRef group.value none) := by
  have hdigits : (!group.digits.isEmpty && group.digits.all (Text.isDigit 10)) = true := by
    simp only [List.isEmpty_eq_false_iff.2 group.nonempty, Bool.not_false, Bool.true_and]
    exact List.all_eq_true.2 group.isDigit
  have hvalue : Text.numeral 10 group.digits = group.value := rfl
  have hok : ¬ (group.value = 0 ∨ maxGroups < group.value) := by omega
  simp only [namedReference, hdigits, if_true, hvalue, Bool.or_eq_true, decide_eq_true_eq, hok,
    if_false, hcheck]
  rfl

theorem namedReference_of_name {scope : Scope} (name : GroupName) {group : Nat}
    (hfind : scope.groups.find? name.name = some group) (hcheck : scope.check group = .ok ()) :
    namedReference scope name.chars = .ok (.backRef group (some name.name)) := by
  have hdigits : (!name.chars.isEmpty && name.chars.all (Text.isDigit 10)) = false := by
    have hlegal := name.legal
    cases hchars : name.chars with
    | nil => rfl
    | cons x rest =>
        rw [hchars] at hlegal
        have hfirst : Text.isDigit 10 x = false := by simpa [isGroupName] using hlegal
        simp [hfirst]
  have hname : String.ofList name.chars = name.name := rfl
  simp only [namedReference, hdigits, Bool.false_eq_true, if_false, hname, hfind, hcheck]
  rfl

end Names

end Reader

end Specimen
