import Specimen.Proofs.Reader.Reads
import Specimen.Proofs.Reader.SetExpr
import Specimen.Proofs.CodePointSet.CaseClosure
import Specimen.Reader.Bracket

namespace Specimen.Reader

namespace ClassItem

def Adds (item : ClassItem) (P : Nat → Prop) : Prop :=
  ∀ {s : CodePointSet} {Q : Nat → Prop}, s.Holds Q → (item.addTo s).Holds fun x => Q x ∨ P x

theorem adds_char (c : Char) : (char c).Adds (· = c.toNat) := fun hs =>
  hs.insert (CodePointSet.toNat_le_maxCodePoint c)

theorem adds_range {first last : Char} (h : first ≤ last) :
    (range first last).Adds fun x => first.toNat ≤ x ∧ x ≤ last.toNat := fun hs =>
  CodePointSet.Holds.insertInterval hs h (CodePointSet.toNat_le_maxCodePoint last)

theorem adds_set {s : CodePointSet} {P : Nat → Prop} (h : s.Holds P) : (set s).Adds P := fun ht =>
  ht.union h

end ClassItem

section Items

variable {c d e f : Cursor} {item : ClassItem} {first last x : Char}

theorem readClassItem_of_atom (h : readClassAtom c = .ok (item, d)) (hd : d.peek? ≠ some '-') :
    readClassItem c = .ok (item, d) := by
  simp only [readClassItem, h, rangeMark?, Cursor.skip?_eq_none hd]

theorem readClassItem_of_range (hfirst : readClassAtom c = .ok (.char first, d))
    (hd : d.next? = some ('-', e)) (hopen : e.peek? ≠ some '[') (hclose : e.peek? ≠ some ']')
    (hlast : readClassAtom e = .ok (.char last, f)) (hle : first ≤ last) :
    readClassItem c = .ok (.range first last, f) := by
  simp only [readClassItem, hfirst, rangeMark?, Cursor.skip?_of_next? hd, if_neg hclose, if_neg hopen,
    hlast, rangeItem, if_pos hle]

end Items

def bracketRun (icase : Bool) (s : BracketState) : Except SyntaxError (CodePointSet × Cursor) :=
  run (bracketStep icase) BracketState.size size_lt_of_bracketStep s

section Steps

variable {icase : Bool} {b : OpenBracket} {outer : List OpenBracket} {c d e : Cursor} {x : Char}

theorem bracketStep_of_peek (hx : c.peek? = some x) (hclose : x ≠ ']') :
    bracketStep icase ⟨b, outer, c⟩ = readMember ⟨b, outer, c⟩ := by
  obtain ⟨e, he⟩ := Cursor.next?_of_peek? hx
  simp only [bracketStep, he, hclose, decide_false, Bool.false_and, Bool.false_eq_true, if_false]

theorem bracketRun_item {item : ClassItem} (hx : c.peek? = some x) (hclose : x ≠ ']')
    (hand : x ≠ '&') (hopen : x ≠ '[') (h : readClassItem c = .ok (item, d)) :
    bracketRun icase ⟨b, outer, c⟩ = bracketRun icase ⟨b.add item, outer, d⟩ := by
  have hnoAnd : c.peek? ≠ some '&' := by simpa [hx] using hand
  have hnoOpen : c.peek? ≠ some '[' := by simpa [hx] using hopen
  refine run_of_more size_lt_of_bracketStep ?_
  rw [bracketStep_of_peek hx hclose]
  simp only [readMember, Cursor.skipAll?_eq_none hnoAnd, Cursor.skip?_eq_none hnoOpen, h]

theorem bracketRun_nextOperand (h : c.Reads ['&', '&'] d) :
    bracketRun icase ⟨b, outer, c⟩ = bracketRun icase ⟨b.nextOperand, outer, d⟩ := by
  refine run_of_more size_lt_of_bracketStep ?_
  rw [bracketStep_of_peek (Cursor.peek?_of_reads h) (by decide)]
  simp only [readMember, Cursor.skipAll?_of_reads h]

theorem readMember_of_open (h : c.next? = some ('[', d)) :
    readMember ⟨b, outer, c⟩ = readNested ⟨b, outer, c⟩ d := by
  have hnoAnd : c.peek? ≠ some '&' := by simp [Cursor.peek?_of_next? h]
  simp only [readMember, Cursor.skipAll?_eq_none hnoAnd, Cursor.skip?_of_next? h]

theorem bracketRun_posix {set : CodePointSet} (h : c.next? = some ('[', d))
    (hposix : readPosixClass c = .ok (some (set, e))) :
    bracketRun icase ⟨b, outer, c⟩ = bracketRun icase ⟨b.add (.set set), outer, e⟩ := by
  refine run_of_more size_lt_of_bracketStep ?_
  rw [bracketStep_of_peek (Cursor.peek?_of_next? h) (by decide), readMember_of_open h]
  simp only [readNested, hposix]

theorem bracketRun_open (h : c.next? = some ('[', d)) (hposix : d.peek? ≠ some ':') :
    bracketRun icase ⟨b, outer, c⟩ = bracketRun icase (openBracket (b :: outer) d) := by
  have hnone : readPosixClass c = .ok none := by
    simp only [readPosixClass, Cursor.skipAll?, Cursor.skip?_of_next? h, Cursor.skip?_eq_none hposix]
  refine run_of_more size_lt_of_bracketStep ?_
  rw [bracketStep_of_peek (Cursor.peek?_of_next? h) (by decide), readMember_of_open h]
  simp only [readNested, hnone]

theorem bracketStep_close (h : c.next? = some (']', d)) (hfresh : b.fresh = false) :
    bracketStep icase ⟨b, outer, c⟩ = .ok (closeBracket icase ⟨b, outer, c⟩ d) := by
  simp only [bracketStep, h, hfresh, Bool.not_false, Bool.and_true, decide_true, if_true]

theorem bracketRun_leave {parent : OpenBracket} (h : c.next? = some (']', d))
    (hfresh : b.fresh = false) :
    bracketRun icase ⟨b, parent :: outer, c⟩ =
      bracketRun icase ⟨parent.add (.set (b.close icase)), outer, d⟩ :=
  run_of_more size_lt_of_bracketStep (bracketStep_close h hfresh)

theorem bracketRun_finish (h : c.next? = some (']', d)) (hfresh : b.fresh = false) :
    bracketRun icase ⟨b, [], c⟩ = .ok (b.close icase, d) :=
  run_of_done size_lt_of_bracketStep (bracketStep_close h hfresh)

end Steps

theorem skipOptional_of_caretText {negated : Bool} {text : List Char} {c d : Cursor}
    (hc : c.Reads (SetExpr.caretText negated ++ text) d)
    (htext : ∀ e : Cursor, e.Reads text d → e.peek? ≠ some '^') :
    ∃ e, c.skipOptional '^' = (negated, e) ∧ e.Reads text d := by
  cases negated with
  | true =>
      obtain ⟨e, hcaret, he⟩ := Cursor.reads_cons_iff.1 hc
      exact ⟨e, Cursor.skipOptional_of_next? hcaret, he⟩
  | false => exact ⟨c, Cursor.skipOptional_eq_false (htext c hc), hc⟩

def separators : List Char := [']', '&', '-', '^', ':']

def Starts (text : List Char) : Prop := ∃ x rest, text = x :: rest ∧ x ∉ separators

theorem Starts.append {text : List Char} (h : Starts text) (more : List Char) :
    Starts (text ++ more) := by
  obtain ⟨x, rest, rfl, hx⟩ := h
  exact ⟨x, rest ++ more, rfl, hx⟩

theorem Starts.peek?_ne {text : List Char} (h : Starts text) {c d : Cursor} (hc : c.Reads text d)
    {x : Char} (hx : x ∈ separators) : c.peek? ≠ some x := by
  obtain ⟨y, rest, rfl, hy⟩ := h
  rw [Cursor.peek?_of_reads hc]
  intro heq
  cases heq
  exact hy hx

structure Spells (icase : Bool) (text : List Char) (P : Nat → Prop) : Prop where
  starts : Starts text
  reads {b : OpenBracket} {outer : List OpenBracket} {c d : Cursor} : c.Reads text d →
    d.peek? ≠ some '-' → ∃ item : ClassItem, item.Adds P ∧
      bracketRun icase ⟨b, outer, c⟩ = bracketRun icase ⟨b.add item, outer, d⟩

section Operands

variable {α : Type} {has : α → Nat → Prop} {operands : List (List α)}

theorem joint_append_nil {x : Nat} : Joint has (operands ++ [[]]) x ↔ Joint has operands x := by
  simp only [Joint, List.mem_append, List.mem_singleton, or_imp, forall_and, forall_eq, ne_eq,
    not_true, false_imp_iff, and_true, or_and_right, exists_or, exists_eq_left, or_false]

theorem joint_append {items : List α} (h : items ≠ []) {x : Nat} :
    Joint has (operands ++ [items]) x ↔
      (∀ operand ∈ operands, operand ≠ [] → ∃ a ∈ operand, has a x) ∧ ∃ a ∈ items, has a x := by
  simp only [Joint, List.mem_append, List.mem_singleton, or_imp, forall_and, forall_eq, h, ne_eq,
    not_false_iff, true_imp_iff, or_and_right, exists_or, exists_eq_left, or_true, true_and]

def Joins (has : α → Nat → Prop) (operands : List (List α)) : Option CodePointSet → Prop
  | none => ∀ operand ∈ operands, operand = []
  | some s => (∃ operand ∈ operands, operand ≠ []) ∧ s.Holds (Joint has operands)

theorem Joins.getD {set : Option CodePointSet} (h : Joins has operands set) :
    (set.getD ∅).Holds (Joint has operands) := by
  cases set with
  | some s => exact h.2
  | none =>
      refine CodePointSet.Holds.empty.of_iff fun x => ?_
      simp only [iff_false]
      rintro ⟨⟨operand, hmem, hne⟩, _⟩
      exact hne (h operand hmem)

structure Follows (has : α → Nat → Prop) (negated : Bool) (done : List (List α)) (items : List α)
    (b : OpenBracket) : Prop where
  negated : b.negated = negated
  left : Joins has done b.left
  operand : b.operand.Holds fun x => ∃ a ∈ items, has a x
  hasItems : b.hasItems = !items.isEmpty
  fresh : b.fresh = true → done = [] ∧ items = []

namespace Follows

variable {negated : Bool} {done : List (List α)} {items : List α} {b : OpenBracket}

theorem start (has : α → Nat → Prop) (negated : Bool) :
    Follows has negated [] [] (.start negated) where
  negated := rfl
  left := by simp [OpenBracket.start, Joins]
  operand := CodePointSet.Holds.empty.of_iff fun x => by simp
  hasItems := rfl
  fresh := fun _ => ⟨rfl, rfl⟩

theorem add (h : Follows has negated done items b) {item : ClassItem} {a : α}
    (hitem : item.Adds (has a)) : Follows has negated done (items ++ [a]) (b.add item) where
  negated := h.negated
  left := h.left
  operand := (hitem h.operand).of_iff fun x => by simp [or_and_right, exists_or]
  hasItems := by simp [OpenBracket.add]
  fresh := nofun

theorem joined (h : Follows has negated done items b) : Joins has (done ++ [items]) b.joined := by
  have hleft := h.left
  by_cases hitems : items = []
  · have hjoined : b.joined = b.left := by simp [OpenBracket.joined, h.hasItems, hitems]
    rw [hjoined, hitems]
    cases hb : b.left with
    | none =>
        rw [hb] at hleft
        exact fun operand hmem => (List.mem_append.1 hmem).elim (hleft operand) List.eq_of_mem_singleton
    | some s =>
        rw [hb] at hleft
        obtain ⟨⟨operand, hmem, hne⟩, hs⟩ := hleft
        exact ⟨⟨operand, List.mem_append_left _ hmem, hne⟩, hs.of_iff fun x => joint_append_nil⟩
  · have hhas : b.hasItems = true := by simp [h.hasItems, hitems]
    have hsome : ∃ operand ∈ done ++ [items], operand ≠ [] :=
      ⟨items, List.mem_append_right _ List.mem_cons_self, hitems⟩
    cases hb : b.left with
    | none =>
        rw [hb] at hleft
        have hjoined : b.joined = some b.operand := by simp [OpenBracket.joined, hb, hhas]
        rw [hjoined]
        refine ⟨hsome, h.operand.of_iff fun x => (joint_append hitems).trans (and_iff_right ?_)⟩
        exact fun operand hmem hne => absurd (hleft operand hmem) hne
    | some s =>
        rw [hb] at hleft
        have hjoined : b.joined = some (s.inter b.operand) := by simp [OpenBracket.joined, hb, hhas]
        rw [hjoined]
        refine ⟨hsome, (hleft.2.inter h.operand).of_iff fun x => (joint_append hitems).trans ?_⟩
        exact and_congr_left' (and_iff_right hleft.1).symm

theorem nextOperand (h : Follows has negated done items b) :
    Follows has negated (done ++ [items]) [] b.nextOperand where
  negated := h.negated
  left := h.joined
  operand := CodePointSet.Holds.empty.of_iff fun x => by simp
  hasItems := rfl
  fresh := nofun

theorem close (h : Follows has negated done items b) (icase : Bool) :
    (b.close icase).Holds (Bracketed icase negated (Joint has (done ++ [items]))) := by
  have hset := h.joined.getD
  simp only [OpenBracket.close, h.negated]
  cases negated with
  | false => exact hset
  | true =>
      cases icase with
      | false => exact hset.complement.of_iff fun x => by simp [Bracketed, ClosedIf]
      | true => exact hset.caseClosure.complement.of_iff fun x => by simp [Bracketed, ClosedIf]

end Follows

section Text

variable {icase negated : Bool} {text : α → List Char} {c d : Cursor}

theorem peek?_ne_hyphen {items : List α} (h : ∀ a ∈ items, Spells icase (text a) (has a))
    (hc : c.Reads (items.flatMap text) d) (hd : d.peek? ≠ some '-') : c.peek? ≠ some '-' := by
  cases items with
  | nil =>
      rw [List.flatMap_nil, Cursor.reads_nil_iff] at hc
      rwa [hc]
  | cons a rest =>
      have hstarts := (h a List.mem_cons_self).starts.append (rest.flatMap text)
      exact hstarts.peek?_ne hc (by decide)

theorem run_items (outer : List OpenBracket) {done : List (List α)} {items more : List α} {b : OpenBracket}
    (h : ∀ a ∈ more, Spells icase (text a) (has a)) (hb : Follows has negated done items b)
    (hc : c.Reads (more.flatMap text) d) (hd : d.peek? ≠ some '-') :
    ∃ b', Follows has negated done (items ++ more) b' ∧
      bracketRun icase ⟨b, outer, c⟩ = bracketRun icase ⟨b', outer, d⟩ := by
  induction more generalizing items b c with
  | nil =>
      rw [List.flatMap_nil, Cursor.reads_nil_iff] at hc
      rw [hc, List.append_nil]
      exact ⟨b, hb, rfl⟩
  | cons a rest ih =>
      rw [List.flatMap_cons] at hc
      obtain ⟨e, ha, hrest⟩ := Cursor.reads_append_iff.1 hc
      have hothers := fun other hother => h other (List.mem_cons_of_mem a hother)
      obtain ⟨item, hitem, hrun⟩ :=
        (h a List.mem_cons_self).reads ha (peek?_ne_hyphen hothers hrest hd)
      obtain ⟨b', hb', hrun'⟩ := ih hothers (hb.add hitem) hrest
      rw [List.append_assoc] at hb'
      exact ⟨b', hb', hrun.trans hrun'⟩

def operandText (text : α → List Char) (operand : List α) : List Char :=
  '&' :: '&' :: operand.flatMap text

theorem peek?_ne_hyphen_of_operands {more : List (List α)}
    (hc : c.Reads (more.flatMap (operandText text)) d) (hd : d.peek? ≠ some '-') :
    c.peek? ≠ some '-' := by
  cases more with
  | nil =>
      rw [List.flatMap_nil, Cursor.reads_nil_iff] at hc
      rwa [hc]
  | cons operand rest =>
      rw [Cursor.peek?_of_reads hc]
      exact nofun

theorem run_operands (outer : List OpenBracket) {done more : List (List α)} {items : List α} {b : OpenBracket}
    (h : ∀ operand ∈ more, ∀ a ∈ operand, Spells icase (text a) (has a))
    (hb : Follows has negated done items b) (hc : c.Reads (more.flatMap (operandText text)) d)
    (hd : d.peek? ≠ some '-') :
    ∃ front last b', front ++ [last] = done ++ items :: more ∧ Follows has negated front last b' ∧
      bracketRun icase ⟨b, outer, c⟩ = bracketRun icase ⟨b', outer, d⟩ := by
  induction more generalizing done items b c with
  | nil =>
      rw [List.flatMap_nil, Cursor.reads_nil_iff] at hc
      rw [hc]
      exact ⟨done, items, b, rfl, hb, rfl⟩
  | cons operand rest ih =>
      rw [List.flatMap_cons] at hc
      obtain ⟨e, hoperand, hrest⟩ := Cursor.reads_append_iff.1 hc
      have hsplit : operandText text operand = ['&', '&'] ++ operand.flatMap text := rfl
      rw [hsplit] at hoperand
      obtain ⟨f, hand, hitems⟩ := Cursor.reads_append_iff.1 hoperand
      obtain ⟨b₁, hb₁, hrun₁⟩ := run_items outer (h operand List.mem_cons_self)
        hb.nextOperand hitems (peek?_ne_hyphen_of_operands hrest hd)
      obtain ⟨front, last, b₂, hfront, hb₂, hrun₂⟩ :=
        ih (fun other hother => h other (List.mem_cons_of_mem operand hother)) hb₁ hrest
      refine ⟨front, last, b₂, ?_, hb₂, ?_⟩
      · rw [hfront, List.append_assoc]
        rfl
      · rw [bracketRun_nextOperand hand, hrun₁, hrun₂]

def bracketBody (text : α → List Char) (negated : Bool) (first : List α) (more : List (List α)) :
    List Char :=
  SetExpr.caretText negated ++ (first.flatMap text ++ (more.flatMap (operandText text) ++ [']']))

section Body

variable {first : List α} {more : List (List α)} (hne : first ≠ [] ∨ more ≠ [])
  (h : ∀ operand ∈ first :: more, ∀ a ∈ operand, Spells icase (text a) (has a))

include hne h

-- A bracket without a caret starts with an item or with `&&`.
theorem peek?_operands {x : Char} (hx : x ∈ separators) (hand : x ≠ '&')
    (hc : c.Reads (first.flatMap text ++ (more.flatMap (operandText text) ++ [']'])) d) :
    c.peek? ≠ some x := by
  cases first with
  | cons a rest =>
      have hstarts := (h _ List.mem_cons_self a List.mem_cons_self).starts
      rw [List.flatMap_cons, List.append_assoc] at hc
      exact (hstarts.append _).peek?_ne hc hx
  | nil =>
      cases more with
      | nil => simp at hne
      | cons operand rest =>
          rw [Cursor.peek?_of_reads hc]
          intro heq
          cases heq
          exact hand rfl

theorem openBracket_of_reads (outer : List OpenBracket)
    (hc : c.Reads (bracketBody text negated first more) d) :
    ∃ e, e.Reads (first.flatMap text ++ (more.flatMap (operandText text) ++ [']'])) d ∧
      openBracket outer c = ⟨.start negated, outer, e⟩ := by
  obtain ⟨e, hcaret, he⟩ := skipOptional_of_caretText hc fun e he =>
    peek?_operands hne h (by decide) (by decide) he
  exact ⟨e, he, by simp only [openBracket, hcaret]⟩

theorem peek?_body (hc : c.Reads (bracketBody text negated first more) d) :
    c.peek? ≠ some ':' := by
  cases negated with
  | true =>
      rw [Cursor.peek?_of_reads hc]
      exact nofun
  | false => exact peek?_operands hne h (by decide) (by decide) hc

theorem run_body (outer : List OpenBracket)
    (hc : c.Reads (bracketBody text negated first more) d) :
    ∃ b e, e.next? = some (']', d) ∧ b.fresh = false ∧
      (b.close icase).Holds (Bracketed icase negated (Joint has (first :: more))) ∧
      bracketRun icase (openBracket outer c) = bracketRun icase ⟨b, outer, e⟩ := by
  obtain ⟨c₁, hbody, hopen⟩ := openBracket_of_reads hne h outer hc
  obtain ⟨c₂, hfirst, hbody⟩ := Cursor.reads_append_iff.1 hbody
  obtain ⟨c₃, hmore, hclose⟩ := Cursor.reads_append_iff.1 hbody
  obtain ⟨e, hnext, he⟩ := Cursor.reads_cons_iff.1 hclose
  rw [Cursor.reads_nil_iff] at he
  have hend : c₃.peek? ≠ some '-' := by
    rw [Cursor.peek?_of_next? hnext]
    exact nofun
  obtain ⟨b₁, hb₁, hrun₁⟩ := run_items outer (h first List.mem_cons_self)
    (.start has negated) hfirst (peek?_ne_hyphen_of_operands hmore hend)
  obtain ⟨front, last, b, hfront, hb, hrun⟩ := run_operands outer
    (fun operand hmem => h operand (List.mem_cons_of_mem first hmem)) hb₁ hmore hend
  refine ⟨b, c₃, he ▸ hnext, ?_, ?_, ?_⟩
  · refine Bool.eq_false_iff.2 fun hfresh => ?_
    obtain ⟨rfl, rfl⟩ := hb.fresh hfresh
    cases hfront
    simp at hne
  · have hset := hb.close icase
    rw [hfront] at hset
    exact hset
  · rw [hopen, hrun₁, hrun]

theorem Spells.bracket (negated : Bool) : Spells icase ('[' :: bracketBody text negated first more)
    (Bracketed icase negated (Joint has (first :: more))) where
  starts := ⟨'[', _, rfl, by decide⟩
  reads := by
    intro b outer c d hc hd
    obtain ⟨c₁, hopen, hbody⟩ := Cursor.reads_cons_iff.1 hc
    obtain ⟨inner, e, hclose, hfresh, hset, hrun⟩ := run_body hne h (b :: outer) hbody
    refine ⟨.set (inner.close icase), ClassItem.adds_set hset, ?_⟩
    rw [bracketRun_open hopen (peek?_body hne h hbody), hrun, bracketRun_leave hclose hfresh]

theorem exists_readBracket (hc : c.Reads (bracketBody text negated first more) d) :
    ∃ set, readBracket icase c = .ok (set, d) ∧
      set.Holds (Bracketed icase negated (Joint has (first :: more))) := by
  obtain ⟨b, e, hclose, hfresh, hset, hrun⟩ := run_body hne h [] hc
  exact ⟨b.close icase, hrun.trans (bracketRun_finish hclose hfresh), hset⟩

end Body

end Text

end Operands

end Specimen.Reader
