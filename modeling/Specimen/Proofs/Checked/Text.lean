import Specimen.Proofs.Checked.Classes
import Specimen.Proofs.Reader.CharSpelling

namespace Specimen.Checked

open Reader

section Spans

variable {p : Char → Bool} {c : Cursor}

def takeWhile (p : Char → Bool) : (limit : Nat) → Cursor → Checked (List Char × Cursor)
  | 0, c => return ([], c)
  | limit + 1, c =>
      match c.peek? with
      | none => return ([], c)
      | some x =>
          if p x then do
            let d ← consume x c
            let (rest, e) ← takeWhile p limit d
            return (x :: rest, e)
          else return ([], c)

theorem takeWhile_eq (limit : Nat) : takeWhile p limit c = .ok (c.spanUpTo limit p) := by
  induction limit generalizing c with
  | zero => simp [takeWhile, Cursor.spanUpTo, utf8Length]
  | succ limit ih =>
      obtain ⟨rest, offset⟩ := c
      cases rest with
      | nil => simp [takeWhile, Cursor.peek?, Cursor.spanUpTo, utf8Length]
      | cons x xs =>
          by_cases hx : p x = true
          · have hnext : (⟨x :: xs, offset⟩ : Cursor).next? = some (x, ⟨xs, offset + x.utf8Size⟩) := rfl
            simp only [takeWhile, Cursor.peek?_of_next? hnext, hx, if_true, consume_of_next? hnext,
              ok_bind, ih]
            simp [Cursor.spanUpTo, hx, utf8Length, Nat.add_assoc]
          · simp [takeWhile, Cursor.peek?, Cursor.spanUpTo, hx, utf8Length]

def span (p : Char → Bool) (c : Cursor) : Checked (List Char × Cursor) :=
  takeWhile p c.rest.length c

theorem span_eq : span p c = .ok (c.span p) := by
  have hdrop : c.rest.drop (c.rest.takeWhile p).length = c.rest.dropWhile p := by
    conv => lhs; arg 2; rw [← List.takeWhile_append_dropWhile (p := p) (l := c.rest)]
    rw [List.drop_left]
  rw [span, takeWhile_eq]
  simp only [Cursor.spanUpTo, Cursor.span, List.take_length, hdrop]

end Spans

section Quantifiers

variable {c d : Cursor} {w : WrittenInterval}

def writtenInterval (c : Cursor) : Checked (WrittenInterval × Cursor) := do
  let (leastDigits, d) ← span (Text.isDigit 10) c
  let least := number? leastDigits
  match d.skip? ',' with
  | some e => do
      let (mostDigits, f) ← span (Text.isDigit 10) e
      return (⟨least, number? mostDigits, .range⟩, f)
  | none => return (⟨least, least, .fixed⟩, d)

theorem writtenInterval_eq (c : Cursor) : writtenInterval c = .ok (Reader.writtenInterval c) := by
  simp only [writtenInterval, Reader.writtenInterval, span_eq, ok_bind]
  cases (c.span (Text.isDigit 10)).2.skip? ',' <;> rfl

/-- Reads an interval from behind its opening brace. The cursor has moved even where there is none. -/
def interval? (c : Cursor) : Checked (Option WrittenInterval × Cursor) := do
  let (written, d) ← writtenInterval c
  match d.skip? '}' with
  | none => return (none, d)
  | some e =>
      if written.least.isNone && written.most.isNone then return (none, e) else return (some written, e)

theorem interval?_of_some (h : Reader.interval? c = some (w, d)) :
    interval? c = .ok (some w, d) := by
  simp only [Reader.interval?] at h
  simp only [interval?, writtenInterval_eq, ok_bind]
  split at h
  · next hclose =>
      rw [hclose]
      split at h
      · cases h
      · next hbounded =>
          cases h
          exact if_neg hbounded
  · cases h

theorem interval?_of_none (h : Reader.interval? c = none) : ∃ d, interval? c = .ok (none, d) := by
  simp only [Reader.interval?] at h
  simp only [interval?, writtenInterval_eq, ok_bind]
  split at h
  · next e hclose =>
      rw [hclose]
      split at h
      · next hunbounded => exact ⟨e, if_pos hunbounded⟩
      · cases h
  · next hclose =>
      rw [hclose]
      exact ⟨_, rfl⟩

/-- Reads a quantifier without its suffix. Braces that hold no interval are read in vain: the cursor goes
back to where it was. -/
def quantifierHead (c : Cursor) : Checked (Option ((Nat × Option Nat) × RepeatForm) × Cursor) :=
  match c.peek? with
  | some '+' => do return (some ((1, none), .symbol), ← consume '+' c)
  | some '*' => do return (some ((0, none), .symbol), ← consume '*' c)
  | some '?' => do return (some ((0, some 1), .symbol), ← consume '?' c)
  | some '{' => do
      let d ← consume '{' c
      match ← interval? d with
      | (none, _) => return (none, c)
      | (some written, e) => return (some (← ofRead written.bounds, written.form), e)
  | _ => return (none, c)

def readQuantifier (c : Cursor) : Checked (Option Quantifier × Cursor) := do
  match ← quantifierHead c with
  | (none, d) => return (none, d)
  | (some ((min, max), form), d) =>
      let (greediness, e) := suffix form d
      return (some ⟨min, max, greediness⟩, e)

def orBack (c : Cursor) (found : Option (Quantifier × Cursor)) : Option Quantifier × Cursor :=
  (found.map Prod.fst, (found.map Prod.snd).getD c)

theorem quantifierHead_eq_none (h : ∀ x, c.peek? = some x → x ∉ repeatMarks) :
    quantifierHead c = .ok (none, c) := by
  unfold quantifierHead
  split
  · next hpeek => exact absurd (by decide) (h _ hpeek)
  · next hpeek => exact absurd (by decide) (h _ hpeek)
  · next hpeek => exact absurd (by decide) (h _ hpeek)
  · next hpeek => exact absurd (by decide) (h _ hpeek)
  · rfl

theorem readQuantifier_eq (c : Cursor) :
    readQuantifier c = ofRead ((Reader.readQuantifier c).map (orBack c)) := by
  by_cases hmark : ∃ x d, c.next? = some (x, d) ∧ x ∈ repeatMarks
  · obtain ⟨x, d, hnext, hx⟩ := hmark
    have hpeek := Cursor.peek?_of_next? hnext
    have hconsume := consume_of_next? hnext
    simp only [repeatMarks, List.mem_cons, List.not_mem_nil, or_false] at hx
    rcases hx with rfl | rfl | rfl | rfl
    · simp only [readQuantifier, quantifierHead, Reader.readQuantifier, hnext, hpeek, hconsume]
      rfl
    · simp only [readQuantifier, quantifierHead, Reader.readQuantifier, hnext, hpeek, hconsume]
      rfl
    · simp only [readQuantifier, quantifierHead, Reader.readQuantifier, hnext, hpeek, hconsume]
      rfl
    · simp only [readQuantifier, quantifierHead, Reader.readQuantifier, hnext, hpeek, hconsume,
        ok_bind]
      cases hinterval : Reader.interval? d with
      | none =>
          obtain ⟨e, he⟩ := interval?_of_none hinterval
          rw [he]
          rfl
      | some r =>
          obtain ⟨w, e⟩ := r
          rw [interval?_of_some hinterval]
          cases hbounds : w.bounds <;> simp only [ok_bind, hbounds] <;> rfl
  · have hnone : ∀ x, c.peek? = some x → x ∉ repeatMarks := by
      intro x hx hmem
      obtain ⟨d, hd⟩ := Cursor.next?_of_peek? hx
      exact hmark ⟨x, d, hd, hmem⟩
    rw [readQuantifier, quantifierHead_eq_none hnone, readQuantifier_eq_none hnone]
    rfl

end Quantifiers

section Numbers

variable {base limit : Nat} {digits : List Char}

def numeralFrom (base value : Nat) : List Char → Checked Nat
  | [] => return value
  | x :: rest => do
      let shifted ← fits 32 (value * base)
      let next ← fits 32 (shifted + (Text.digit? base x).getD 0)
      numeralFrom base next rest

theorem numeralFrom_eq (hbase : 0 < base) {value n : Nat} (hvalue : value < base.pow n)
    (hfits : base.pow (n + digits.length) ≤ wordSize 32) :
    numeralFrom base value digits = .ok (Text.numeralFrom base value digits) := by
  induction digits generalizing value n with
  | nil => rfl
  | cons x rest ih =>
      have hnext : value * base + (Text.digit? base x).getD 0 < base.pow (n + 1) :=
        Text.numeralFrom_lt base hbase [x] value n hvalue
      have hlength : n + 1 + rest.length = n + (x :: rest).length := by
        rw [List.length_cons]
        omega
      have hpow : base.pow (n + 1) ≤ base.pow (n + (x :: rest).length) :=
        Nat.pow_le_pow_right hbase (by omega)
      rw [numeralFrom, fits_of_lt (by omega), ok_bind, fits_of_lt (by omega), ok_bind]
      exact ih hnext (hlength ▸ hfits)

def numeral (base : Nat) (digits : List Char) : Checked Nat := numeralFrom base 0 digits

theorem numeral_eq (hbase : 0 < base) (hlength : digits.length ≤ limit)
    (hfits : base.pow limit ≤ wordSize 32) : numeral base digits = .ok (Text.numeral base digits) := by
  refine numeralFrom_eq hbase (n := 0) Nat.one_pos ?_
  rw [Nat.zero_add]
  exact Nat.le_trans (Nat.pow_le_pow_right hbase hlength) hfits

theorem length_spanUpTo_le (limit : Nat) (p : Char → Bool) (c : Cursor) :
    (c.spanUpTo limit p).1.length ≤ limit :=
  Nat.le_trans (List.takeWhile_sublist p).length_le (List.length_take_le limit c.rest)

def hexDigits (limit : Nat) (c : Cursor) : Checked ((Nat × Nat) × Cursor) := do
  let (digits, d) := c.spanUpTo limit (Text.isDigit 16)
  return ((← numeral 16 digits, digits.length), d)

theorem hexDigits_eq (hlimit : limit ≤ 6) (c : Cursor) : hexDigits limit c =
    .ok ((Text.numeral 16 (c.spanUpTo limit (Text.isDigit 16)).1,
      (c.spanUpTo limit (Text.isDigit 16)).1.length), (c.spanUpTo limit (Text.isDigit 16)).2) := by
  have hlength := Nat.le_trans (length_spanUpTo_le limit (Text.isDigit 16) c) hlimit
  simp only [hexDigits]
  rw [numeral_eq (by decide) hlength (by decide)]
  rfl

end Numbers

section Escapes

variable {c d : Cursor}

def readHex (c : Cursor) : Checked (Char × Cursor) := do
  let ((value, count), d) ← hexDigits 2 c
  if count = 0 then reject .hexEscape else return (Char.ofNat value, d)

theorem readHex_eq (c : Cursor) : readHex c = ofRead (Reader.readHex c) := by
  simp only [readHex, Reader.readHex, hexDigits_eq (show 2 ≤ 6 by decide), ok_bind,
    List.length_eq_zero_iff, List.isEmpty_iff]
  split <;> rfl

def unicodeDigits (c : Cursor) : Checked ((Nat × Nat) × Cursor) :=
  match c.skip? '{' with
  | some d => do
      let (number, e) ← hexDigits 6 d
      match e.skip? '}' with
      | some f => return (number, f)
      | none => reject .unicodeEscape
  | none => do
      let (number, d) ← hexDigits 4 c
      if number.2 = 4 then return (number, d) else reject .unicodeEscape

theorem unicodeDigits_eq (c : Cursor) : unicodeDigits c =
    (unicodeDigits? c).elim (reject .unicodeEscape) fun r =>
      .ok ((Text.numeral 16 r.1, r.1.length), r.2) := by
  simp only [unicodeDigits, unicodeDigits?]
  cases c.skip? '{' with
  | some d =>
      simp only [hexDigits_eq (Nat.le_refl 6), ok_bind]
      cases (d.spanUpTo 6 (Text.isDigit 16)).2.skip? '}' <;> rfl
  | none =>
      simp only [hexDigits_eq (show 4 ≤ 6 by decide), ok_bind]
      split <;> rfl

def readUnicode (c : Cursor) : Checked (Char × Cursor) := do
  let ((value, count), d) ← unicodeDigits c
  if 0 < count ∧ value.isValidChar then return (Char.ofNat value, d) else reject .unicodeEscape

theorem readUnicode_eq (c : Cursor) : readUnicode c = ofRead (Reader.readUnicode c) := by
  simp only [readUnicode, Reader.readUnicode, unicodeDigits_eq]
  cases unicodeDigits? c with
  | none => rfl
  | some r =>
      obtain ⟨digits, d⟩ := r
      simp only [Option.elim_some, ok_bind, hexChar?, List.length_pos_iff, Bool.and_eq_true,
        Bool.not_eq_true', List.isEmpty_eq_false_iff, decide_eq_true_eq]
      split <;> rfl

def readOctal (first : Char) (c : Cursor) : Checked (Char × Cursor) := do
  let value ← minus first.toNat '0'.toNat
  let (digits, d) := c.spanUpTo 2 (Text.isDigit 8)
  return (Char.ofNat (← numeralFrom 8 value digits), d)

theorem digit?_eq_of_octal {x : Char} (h : Text.isDigit 8 x = true) :
    '0'.toNat ≤ x.toNat ∧ Text.digit? 8 x = some (x.toNat - '0'.toNat) := by
  obtain ⟨value, hvalue⟩ := Option.isSome_iff_exists.1 h
  obtain ⟨hhex, hlt⟩ := Option.filter_eq_some_iff.1 hvalue
  have hlt : value < 8 := of_decide_eq_true hlt
  simp only [Text.hexDigit?] at hhex
  split at hhex
  · next hdigit =>
      cases hhex
      exact ⟨hdigit.1, hvalue⟩
  · split at hhex
    · cases hhex
      omega
    · split at hhex
      · cases hhex
        omega
      · cases hhex

theorem readOctal_eq {first : Char} (hfirst : Text.isDigit 8 first = true) (c : Cursor) :
    readOctal first c = .ok (Reader.readOctal first c) := by
  obtain ⟨hzero, hdigit⟩ := digit?_eq_of_octal hfirst
  have hlength := length_spanUpTo_le 2 (Text.isDigit 8) c
  have hvalue : first.toNat - '0'.toNat < Nat.pow 8 1 := Text.digit?_lt hdigit
  have hfits : Nat.pow 8 (1 + (c.spanUpTo 2 (Text.isDigit 8)).1.length) ≤ wordSize 32 :=
    Nat.le_trans (Nat.pow_le_pow_right (by decide) (Nat.add_le_add_left hlength 1)) (by decide)
  have hnumeral (digits : List Char) : Text.numeral 8 (first :: digits) =
      Text.numeralFrom 8 (first.toNat - '0'.toNat) digits := by
    simp only [Text.numeral, Text.numeralFrom, List.foldl_cons, hdigit, Option.getD_some, Nat.zero_mul,
      Nat.zero_add]
  simp only [readOctal, Reader.readOctal, minus_of_le hzero, ok_bind, hnumeral]
  rw [numeralFrom_eq (by decide) hvalue hfits]
  rfl

def readCharEscape (c : Cursor) : Checked (Char × Cursor) :=
  match c.next? with
  | none => reject .incompleteEscape
  | some ('c', d) => ofRead (readControl d)
  | some ('C', d) =>
      match d.skip? '-' with
      | some e => ofRead (readControl e)
      | none => reject .controlEscape
  | some ('M', _) => reject .metaEscape
  | some ('x', d) => readHex d
  | some ('u', d) => readUnicode d
  | some (x, d) =>
      match letterEscape? x with
      | some y => return (y, d)
      | none => if Text.isDigit 8 x then readOctal x d else return (x, d)

theorem readCharEscape_of_next? {x : Char} (hx : c.next? = some (x, d)) (hletter : x ∉ operandLetters) :
    readCharEscape c =
      match letterEscape? x with
      | some y => .ok (y, d)
      | none => if Text.isDigit 8 x then readOctal x d else .ok (x, d) := by
  simp only [operandLetters, List.mem_cons, List.not_mem_nil, or_false, not_or] at hletter
  unfold readCharEscape
  rw [hx]
  split
  · next h => cases h
  · next h => cases h; exact absurd rfl hletter.1
  · next h => cases h; exact absurd rfl hletter.2.1
  · next h => cases h; exact absurd rfl hletter.2.2.1
  · next h => cases h; exact absurd rfl hletter.2.2.2.1
  · next h => cases h; exact absurd rfl hletter.2.2.2.2
  · next h => cases h; rfl

theorem readCharEscape_eq (c : Cursor) : readCharEscape c = ofRead (Reader.readCharEscape c) := by
  cases hnext : c.next? with
  | none =>
      simp only [readCharEscape, Reader.readCharEscape, hnext]
      rfl
  | some r =>
      obtain ⟨x, d⟩ := r
      by_cases hletter : x ∈ operandLetters
      · simp only [operandLetters, List.mem_cons, List.not_mem_nil, or_false] at hletter
        rcases hletter with rfl | rfl | rfl | rfl | rfl
        · simp only [readCharEscape, Reader.readCharEscape, hnext]
        · simp only [readCharEscape, Reader.readCharEscape, hnext]
          cases d.skip? '-' <;> rfl
        · simp only [readCharEscape, Reader.readCharEscape, hnext]
          rfl
        · simp only [readCharEscape, Reader.readCharEscape, hnext, readHex_eq]
        · simp only [readCharEscape, Reader.readCharEscape, hnext, readUnicode_eq]
      · rw [readCharEscape_of_next? hnext hletter, Reader.readCharEscape_eq hnext hletter]
        cases letterEscape? x with
        | some y => rfl
        | none =>
            dsimp only
            split
            · next hdigit => exact readOctal_eq hdigit d
            · rfl

def readProperty (negated : Bool) (c : Cursor) : Checked (CodePointSet × Cursor) :=
  match c.skip? '{' with
  | none => reject .propertyUnreadable
  | some d =>
      let (caret, e) := d.skipOptional '^'
      let (chars, f) := e.span (· != '}')
      match f.skip? '}' with
      | none => reject .propertyUnreadable
      | some g =>
          let name := String.ofList chars
          match Unicode.Property.ofName? name with
          | none => reject (.unknownProperty name)
          | some property => do
              let set ← ofPredicate property.contains
              return (← if negated != caret then complement set else pure set, g)

theorem readProperty_eq (negated : Bool) (c : Cursor) :
    readProperty negated c = ofRead (Reader.readProperty negated c) := by
  simp only [readProperty, Reader.readProperty]
  cases c.skip? '{' with
  | none => rfl
  | some d =>
      dsimp only
      generalize (d.skipOptional '^').2.span (· != '}') = name
      cases name.2.skip? '}' with
      | none => rfl
      | some g =>
          dsimp only
          cases Unicode.Property.ofName? (String.ofList name.1) with
          | none => rfl
          | some property =>
              have hset := complement_eq (CodePointSet.ofPredicate_wellFormed property.contains)
              simp only [ofPredicate_eq, ok_bind, hset]
              split <;> rfl

end Escapes

end Specimen.Checked
