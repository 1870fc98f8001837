import Specimen.Proofs.Reader.WrittenRun
import Specimen.Proofs.Reader.InStepRun
import Specimen.Proofs.Reader.ControlScan

namespace Specimen

open Reader

inductive CharEscape where
  | shielded (c : Char) (other : c.isAlphanum = false)
  | braced (hex : HexChar)
  | fixed (hex : HexChar) (four : hex.digits.length = 4)
  | byte (hex : HexChar) (two : hex.digits.length = 2)
  | octal (number : Numeral 8) (three : number.digits.length = 3)
  | control (hyphen : Bool) (letter : Char) (alpha : letter.isAlpha = true)
  | named (letter c : Char) (known : letterEscape? letter = some c)

namespace CharEscape

def char : CharEscape → Char
  | shielded c _ => c
  | braced hex => hex.char
  | fixed hex _ => hex.char
  | byte hex _ => hex.char
  | octal number _ => Char.ofNat number.value
  | control _ letter _ => Char.ofNat (letter.toNat % 32)
  | named _ c _ => c

def body : CharEscape → List Char
  | shielded c _ => [c]
  | braced hex => 'u' :: '{' :: (hex.digits ++ ['}'])
  | fixed hex _ => 'u' :: hex.digits
  | byte hex _ => 'x' :: hex.digits
  | octal number _ => number.digits
  | control false letter _ => ['c', letter]
  | control true letter _ => ['C', '-', letter]
  | named letter _ _ => [letter]

end CharEscape

inductive CharSpelling where
  | literal (c : Char) (unmarked : c ∉ '{' :: syntaxChars)
  | escape (e : CharEscape)

namespace CharSpelling

def char : CharSpelling → Char
  | literal c _ => c
  | escape e => e.char

def text : CharSpelling → List Char
  | literal c _ => [c]
  | escape e => '\\' :: e.body

def Legal (extended : Bool) : CharSpelling → Prop
  | literal c _ => extended = true → isBlank c = false ∧ c ≠ '#'
  | escape _ => True

instance (extended : Bool) : (w : CharSpelling) → Decidable (w.Legal extended)
  | literal c _ => inferInstanceAs (Decidable (extended = true → isBlank c = false ∧ c ≠ '#'))
  | escape _ => .isTrue trivial

def textOf (spellings : List CharSpelling) : String := String.ofList (spellings.flatMap text)

def charsOf (spellings : List CharSpelling) : String := String.ofList (spellings.map char)

end CharSpelling

namespace Reader

section Escapes

variable {scope : Scope} {icase : Bool} {c d e : Cursor} {x : Char}

structure Unnamed (x : Char) : Prop where
  noSet : CodePointSet.ofClassLetter? x = none
  noNode : letterNode? x = none
  noName : x ∉ ['p', 'P', 'k']

theorem readEscape_of_unnamed (hx : c.next? = some (x, d)) (h : Unnamed x) :
    readEscape scope icase c =
      if '1' ≤ x ∧ x ≤ '9' then readDigitEscape scope icase c else readLiteralEscape icase c := by
  have hname := h.noName
  simp only [List.mem_cons, List.not_mem_nil, or_false, not_or] at hname
  simp [readEscape, hx, h.noSet, h.noNode, hname]

theorem readEscape_of_char {y : Char} (hx : c.next? = some (x, d)) (hname : Unnamed x)
    (hnumber : ¬ ('1' ≤ x ∧ x ≤ '9')) (h : readCharEscape c = .ok (y, e)) :
    readEscape scope icase c = .ok (.char y icase, e) := by
  rw [readEscape_of_unnamed hx hname, if_neg hnumber, readLiteralEscape, h]

theorem ne_of_not_isAlpha {mark : Char} (h : x.isAlpha = false) (hmark : mark.isAlpha = true) :
    x ≠ mark := by
  rintro rfl
  rw [h] at hmark
  cases hmark

theorem Unnamed.of_not_isAlpha (h : x.isAlpha = false) : Unnamed x := by
  have hne (mark : Char) (hmark : mark.isAlpha = true) := ne_of_not_isAlpha h hmark
  refine ⟨?_, ?_, ?_⟩
  · unfold CodePointSet.ofClassLetter?
    split
    all_goals first | exact absurd rfl (hne _ rfl) | rfl
  · unfold letterNode?
    split
    all_goals first | exact absurd rfl (hne _ rfl) | rfl
  · simp [hne 'p' rfl, hne 'P' rfl, hne 'k' rfl]

theorem letterEscape?_eq_none (h : x.isAlpha = false) : letterEscape? x = none := by
  have hne {mark : Char} (hmark : mark.isAlpha = true) := ne_of_not_isAlpha h hmark
  unfold letterEscape?
  split
  all_goals first | exact absurd rfl (hne rfl) | rfl

def operandLetters : List Char := ['c', 'C', 'M', 'x', 'u']

theorem not_mem_operandLetters (h : x.isAlpha = false) : x ∉ operandLetters := by
  intro hmem
  have halpha : ∀ mark ∈ operandLetters, mark.isAlpha = true := forall_mem_of_all (by decide)
  rw [halpha x hmem] at h
  cases h

section Digits

variable {base : Nat}

theorem isDigit_iff : Text.isDigit base x = true ↔ ∃ n, Text.hexDigit? x = some n ∧ n < base := by
  simp [Text.isDigit, Text.digit?, Option.isSome_filter, Option.any_eq_true]

theorem range_of_hexDigit? {n : Nat} (h : Text.hexDigit? x = some n) :
    ('0' ≤ x ∧ x ≤ '9') ∨ 10 ≤ n ∧ ('a' ≤ x ∧ x ≤ 'f' ∨ 'A' ≤ x ∧ x ≤ 'F') := by
  rw [Text.hexDigit?] at h
  split at h
  · next hx => exact .inl hx
  · split at h
    · next hx => cases h; exact .inr ⟨Nat.le_add_left _ _, .inl hx⟩
    · split at h
      · next hx => cases h; exact .inr ⟨Nat.le_add_left _ _, .inr hx⟩
      · cases h

theorem isAlphanum_of_isDigit (h : Text.isDigit base x = true) : x.isAlphanum = true := by
  obtain ⟨n, hn, -⟩ := isDigit_iff.1 h
  have of_letter (halpha : x.isAlpha = true) : x.isAlphanum = true :=
    Bool.or_eq_true_iff.2 (.inl halpha)
  rcases range_of_hexDigit? hn with hx | ⟨-, hx | hx⟩
  · have hdigit : x.isDigit = true :=
      Bool.and_eq_true_iff.2 ⟨decide_eq_true hx.1, decide_eq_true hx.2⟩
    exact Bool.or_eq_true_iff.2 (.inr hdigit)
  · have hhigh : x ≤ 'z' := Char.le_trans hx.2 (by decide)
    have hlower : x.isLower = true :=
      Bool.and_eq_true_iff.2 ⟨decide_eq_true hx.1, decide_eq_true hhigh⟩
    exact of_letter (Bool.or_eq_true_iff.2 (.inr hlower))
  · have hhigh : x ≤ 'Z' := Char.le_trans hx.2 (by decide)
    have hupper : x.isUpper = true := decide_eq_true ⟨hx.1, hhigh⟩
    exact of_letter (Bool.or_eq_true_iff.2 (.inl hupper))

theorem not_isAlpha_of_isDigit (hbase : base ≤ 10) (h : Text.isDigit base x = true) :
    x.isAlpha = false := by
  obtain ⟨n, hn, hlt⟩ := isDigit_iff.1 h
  rcases range_of_hexDigit? hn with hx | ⟨hle, -⟩
  · have hhigh : x.toNat ≤ 57 := hx.2
    refine Bool.or_eq_false_iff.2 ⟨decide_eq_false fun hupper => ?_,
      Bool.and_eq_false_imp.2 fun hlower => ?_⟩
    · have hlow : 65 ≤ x.toNat := hupper.1
      omega
    · have hlow : 97 ≤ x.toNat := of_decide_eq_true hlower
      omega
  · omega

theorem isDigit_mono {other : Nat} (hle : base ≤ other) (h : Text.isDigit base x = true) :
    Text.isDigit other x = true := by
  obtain ⟨n, hn, hlt⟩ := isDigit_iff.1 h
  exact isDigit_iff.2 ⟨n, hn, Nat.lt_of_lt_of_le hlt hle⟩

end Digits

theorem readCharEscape_eq (hx : c.next? = some (x, d)) (hletter : x ∉ operandLetters) :
    readCharEscape c =
      match letterEscape? x with
      | some y => .ok (y, d)
      | none => if Text.isDigit 8 x then .ok (readOctal x d) else .ok (x, d) := by
  simp only [operandLetters, List.mem_cons, List.not_mem_nil, or_false, not_or] at hletter
  unfold readCharEscape
  rw [hx]
  split
  · next h => cases h
  · next h => cases h; exact absurd rfl hletter.1
  · next h => cases h; exact absurd rfl hletter.2.1
  · next h => cases h; exact absurd rfl hletter.2.2.1
  · next h => cases h; exact absurd rfl hletter.2.2.2.1
  · next h => cases h; exact absurd rfl hletter.2.2.2.2
  · next h => cases h; rfl

theorem readCharEscape_of_shielded (hx : c.next? = some (x, d)) (h : x.isAlphanum = false) :
    readCharEscape c = .ok (x, d) := by
  have halpha : x.isAlpha = false := (Bool.or_eq_false_iff.1 h).1
  have hdigit : ¬ Text.isDigit 8 x = true := fun hx => by
    rw [isAlphanum_of_isDigit hx] at h
    cases h
  rw [readCharEscape_eq hx (not_mem_operandLetters halpha), letterEscape?_eq_none halpha]
  exact if_neg hdigit

theorem readCharEscape_of_named {y : Char} (hx : c.next? = some (x, d)) (h : letterEscape? x = some y) :
    readCharEscape c = .ok (y, d) := by
  have hoperand : x ∉ operandLetters := by
    intro hmem
    have hnone : ∀ mark ∈ operandLetters, letterEscape? mark = none := forall_mem_of_all (by decide)
    rw [hnone x hmem] at h
    cases h
  rw [readCharEscape_eq hx hoperand, h]

theorem unnamed_of_letterEscape? {y : Char} (h : letterEscape? x = some y) :
    Unnamed x ∧ ¬ ('1' ≤ x ∧ x ≤ '9') := by
  unfold letterEscape? at h
  split at h
  all_goals cases h
  all_goals exact ⟨⟨rfl, rfl, by decide⟩, by decide⟩

theorem readUnicode_of_four (hex : HexChar) (hfour : hex.digits.length = 4)
    (hc : c.Reads hex.digits d) : readUnicode c = .ok (hex.char, d) := by
  have hbrace : c.peek? ≠ some '{' := by
    refine Cursor.peek?_ne_of_not_mem hc hex.nonempty fun hmem => ?_
    have := hex.isDigit _ hmem
    revert this
    decide
  have hspan := Cursor.spanUpTo_of_length hc hex.isDigit hfour
  simp only [readUnicode, unicodeDigits?, Cursor.skip?_eq_none hbrace, hspan, hfour, if_true,
    hexChar?_digits]

theorem readHex_of_two (hex : HexChar) (htwo : hex.digits.length = 2) (hc : c.Reads hex.digits d) :
    readHex c = .ok (hex.char, d) := by
  have hspan := Cursor.spanUpTo_of_length hc hex.isDigit htwo
  simp only [readHex, hspan, List.isEmpty_eq_false_iff.2 hex.nonempty, Bool.false_eq_true, if_false]
  rfl

theorem readControl_of_letter (hx : c.next? = some (x, d)) (h : x.isAlpha = true) :
    readControl c = .ok (Char.ofNat (x.toNat % 32), d) := by
  have hmark : x ≠ '?' := by
    rintro rfl
    cases h
  have hascii : x.toNat < 0x80 := by
    have hle : x.toNat ≤ 122 := by
      rcases Bool.or_eq_true_iff.1 h with hupper | hlower
      · exact Nat.le_trans (of_decide_eq_true hupper).2 (by decide)
      · exact of_decide_eq_true (Bool.and_eq_true_iff.1 hlower).2
    omega
  simp only [readControl, hx, hmark, if_false, hascii, if_true]

theorem readCharEscape_of_octal (number : Numeral 8) (three : number.digits.length = 3)
    (hc : c.Reads number.digits d) : readCharEscape c = .ok (Char.ofNat number.value, d) := by
  obtain ⟨x, y, z, hdigits⟩ := List.length_eq_three.1 three
  have hdigit : ∀ v ∈ [x, y, z], Text.isDigit 8 v = true := hdigits ▸ number.isDigit
  rw [hdigits] at hc
  obtain ⟨c₁, hx, hc⟩ := Cursor.reads_cons_iff.1 hc
  have hspan : c₁.spanUpTo 2 (Text.isDigit 8) = ([y, z], d) :=
    Cursor.spanUpTo_of_length hc (fun v hv => hdigit v (List.mem_cons_of_mem x hv)) rfl
  have hfirst := hdigit x List.mem_cons_self
  have halpha := not_isAlpha_of_isDigit (by decide) hfirst
  rw [readCharEscape_eq hx (not_mem_operandLetters halpha), letterEscape?_eq_none halpha,
    Numeral.value, hdigits]
  simp only [hfirst, if_true, readOctal, hspan]

theorem le_numeralFrom {base : Nat} (hbase : 0 < base) (value : Nat) (digits : List Char) :
    value ≤ Text.numeralFrom base value digits := by
  induction digits generalizing value with
  | nil => exact Nat.le_refl value
  | cons x rest ih =>
      have hgrown : value ≤ value * base + (Text.digit? base x).getD 0 :=
        Nat.le_trans (Nat.le_mul_of_pos_right value hbase) (Nat.le_add_right _ _)
      exact Nat.le_trans hgrown (ih _)

theorem numeral_pos (hlow : '1' ≤ x) (hhigh : x ≤ '9') (rest : List Char) :
    0 < Text.numeral 10 (x :: rest) := by
  have hzero : '0' ≤ x := Char.le_trans (by decide) hlow
  have hvalue : 48 < x.toNat ∧ x.toNat ≤ 57 := ⟨hlow, hhigh⟩
  have hdigit : Text.digit? 10 x = some (x.toNat - 48) := by
    have hsmall : x.toNat - 48 < 10 := by omega
    simp only [Text.digit?, Text.hexDigit?, hzero, hhigh, and_self, if_true, Option.filter]
    exact if_pos (decide_eq_true hsmall)
  have hstart : 0 < 0 * 10 + (Text.digit? 10 x).getD 0 := by
    rw [hdigit, Option.getD_some]
    omega
  exact Nat.lt_of_lt_of_le hstart (le_numeralFrom (by decide) _ rest)

theorem readNumbered_eq_none {y : Char} {rest : List Char} (htotal : scope.total = 0)
    (hlow : '1' ≤ x) (hhigh : x ≤ '9') (hy : Text.isDigit 10 y = true)
    (hc : c.rest = x :: y :: rest) : readNumbered scope c = .ok none := by
  have hx := isDigit_of_le hlow hhigh
  have hpos := numeral_pos hlow hhigh (y :: rest.takeWhile (Text.isDigit 10))
  have hspan : (c.span (Text.isDigit 10)).1 = x :: y :: rest.takeWhile (Text.isDigit 10) := by
    simp only [Cursor.span, hc, List.takeWhile_cons, hx, hy, if_true]
  simp [readNumbered, hspan, htotal, hpos]

theorem readEscape_of_octal (htotal : scope.total = 0) (number : Numeral 8)
    (three : number.digits.length = 3) (hc : c.Reads number.digits d) :
    readEscape scope icase c = .ok (.char (Char.ofNat number.value) icase, d) := by
  have hread := readCharEscape_of_octal number three hc
  obtain ⟨x, y, z, hdigits⟩ := List.length_eq_three.1 three
  have hdigit : ∀ v ∈ [x, y, z], Text.isDigit 8 v = true := hdigits ▸ number.isDigit
  rw [hdigits] at hc
  have hfirst := hdigit x List.mem_cons_self
  have hname := Unnamed.of_not_isAlpha (not_isAlpha_of_isDigit (by decide) hfirst)
  have hrest : c.rest = x :: y :: ([z] ++ d.rest) := hc.rest_eq
  obtain ⟨c₁, hx, -⟩ := Cursor.reads_cons_iff.1 hc
  by_cases hnumber : '1' ≤ x ∧ x ≤ '9'
  · have hsecond : Text.isDigit 10 y = true := isDigit_mono (by decide) (hdigit y (by simp))
    have hnone := readNumbered_eq_none htotal hnumber.1 hnumber.2 hsecond hrest
    rw [readEscape_of_unnamed hx hname, if_pos hnumber]
    simp only [readDigitEscape, hnone, readLiteralEscape, hread]
  · exact readEscape_of_char hx hname hnumber hread

theorem readEscape_of_spelling (w : CharEscape) (htotal : scope.total = 0) (hc : c.Reads w.body d) :
    readEscape scope icase c = .ok (.char w.char icase, d) := by
  cases w with
  | shielded x other =>
      obtain ⟨_, hx, hd⟩ := Cursor.reads_cons_iff.1 hc
      obtain rfl := Cursor.reads_nil_iff.1 hd
      have hnumber : ¬ ('1' ≤ x ∧ x ≤ '9') := fun hle => by
        rw [isAlphanum_of_isDigit (isDigit_of_le hle.1 hle.2)] at other
        cases other
      exact readEscape_of_char hx (.of_not_isAlpha (Bool.or_eq_false_iff.1 other).1) hnumber
        (readCharEscape_of_shielded hx other)
  | braced hex => exact readEscape_of_hex hex hc
  | fixed hex four =>
      obtain ⟨c₁, hu, hdigits⟩ := Cursor.reads_cons_iff.1 hc
      refine readEscape_of_char hu ⟨rfl, rfl, by decide⟩ (by decide) ?_
      simp only [readCharEscape, hu, readUnicode_of_four hex four hdigits, CharEscape.char]
  | byte hex two =>
      obtain ⟨c₁, hx, hdigits⟩ := Cursor.reads_cons_iff.1 hc
      refine readEscape_of_char hx ⟨rfl, rfl, by decide⟩ (by decide) ?_
      simp only [readCharEscape, hx, readHex_of_two hex two hdigits, CharEscape.char]
  | octal number three => exact readEscape_of_octal htotal number three hc
  | control hyphen letter alpha =>
      cases hyphen with
      | false =>
          obtain ⟨c₁, hx, hd⟩ := Cursor.reads_cons_iff.1 hc
          obtain ⟨_, hletter, hd⟩ := Cursor.reads_cons_iff.1 hd
          obtain rfl := Cursor.reads_nil_iff.1 hd
          refine readEscape_of_char hx ⟨rfl, rfl, by decide⟩ (by decide) ?_
          simp only [readCharEscape, hx, readControl_of_letter hletter alpha, CharEscape.char]
      | true =>
          obtain ⟨c₁, hx, hd⟩ := Cursor.reads_cons_iff.1 hc
          obtain ⟨c₂, hhyphen, hd⟩ := Cursor.reads_cons_iff.1 hd
          obtain ⟨_, hletter, hd⟩ := Cursor.reads_cons_iff.1 hd
          obtain rfl := Cursor.reads_nil_iff.1 hd
          refine readEscape_of_char hx ⟨rfl, rfl, by decide⟩ (by decide) ?_
          simp only [readCharEscape, hx, Cursor.skip?_of_next? hhyphen,
            readControl_of_letter hletter alpha, CharEscape.char]
  | named letter x known =>
      obtain ⟨_, hx, hd⟩ := Cursor.reads_cons_iff.1 hc
      obtain rfl := Cursor.reads_nil_iff.1 hd
      obtain ⟨hname, hnumber⟩ := unnamed_of_letterEscape? known
      exact readEscape_of_char hx hname hnumber (readCharEscape_of_named hx known)

end Escapes

end Reader

end Specimen
