import Specimen.Proofs.Reader.RepeatBounds
import Specimen.Proofs.Reader.CharSpelling
import Specimen.Proofs.Reader.EscapeText
/-!
A text with a comment put into it. A reader that comes to an end in front of the comment, or where it stands,
reads what it reads without it.
-/

namespace Specimen.Reader

inductive CommentBody : List Char → Prop where
  | nil : CommentBody []
  | char {c : Char} {body : List Char} : c ≠ '\\' → c ≠ ')' → CommentBody body →
      CommentBody (c :: body)
  | escaped (c : Char) {body : List Char} : CommentBody body → CommentBody ('\\' :: c :: body)

structure Comment where
  body : List Char
  isBody : CommentBody body
  oneLine : '\n' ∉ body

def Comment.text (comment : Comment) : List Char := '(' :: '?' :: '#' :: (comment.body ++ [')'])

theorem Comment.newline_not_mem_text (comment : Comment) : '\n' ∉ comment.text := by
  simp [text, comment.oneLine]

/-- A comment to be put into a text in front of its last `back` characters. -/
structure Note where
  comment : Comment
  back : Nat

namespace Note

variable {note : Note}

def putInto (note : Note) (text : List Char) : List Char :=
  text.take (text.length - note.back) ++ (note.comment.text ++ text.drop (text.length - note.back))

theorem putInto_append {front rest : List Char} (h : note.back ≤ rest.length) :
    note.putInto (front ++ rest) = front ++ note.putInto rest := by
  have hlength : (front ++ rest).length - note.back = front.length + (rest.length - note.back) := by
    rw [List.length_append]
    omega
  rw [putInto, hlength, List.take_length_add_append, List.drop_length_add_append, List.append_assoc]
  rfl

theorem putInto_cons {x : Char} {rest : List Char} (h : note.back ≤ rest.length) :
    note.putInto (x :: rest) = x :: note.putInto rest :=
  @putInto_append note [x] rest h

theorem putInto_of_length {rest : List Char} (h : rest.length = note.back) :
    note.putInto rest = note.comment.text ++ rest := by
  rw [putInto, h, Nat.sub_self]
  rfl

end Note

namespace Cursor

def annotate (note : Note) (c : Cursor) : Cursor := ⟨note.putInto c.rest, c.offset⟩

variable {note : Note} {c d : Cursor} {x mark : Char} {text : List Char} {p : Char → Bool}

def annotateSnd {α : Type} (note : Note) (r : α × Cursor) : α × Cursor := (r.1, r.2.annotate note)

theorem Reads.annotate (h : c.Reads text d) (hback : note.back ≤ d.rest.length) :
    (c.annotate note).Reads text (d.annotate note) := by
  refine ⟨?_, h.offset_eq⟩
  rw [Cursor.annotate, h.rest_eq, Note.putInto_append hback]
  rfl

theorem peek?_annotate (hback : note.back < c.rest.length) :
    (c.annotate note).peek? = c.peek? := by
  cases hrest : c.rest with
  | nil => simp [hrest] at hback
  | cons x rest =>
      have hle : note.back ≤ rest.length := by
        rw [hrest] at hback
        exact Nat.le_of_lt_succ hback
      rw [peek?, peek?, Cursor.annotate, hrest, Note.putInto_cons hle]
      rfl

theorem peek?_annotate_of_length (hback : c.rest.length = note.back) :
    (c.annotate note).peek? = some '(' := by
  rw [peek?, annotate, Note.putInto_of_length hback]
  rfl

theorem peek?_annotate_cases (hback : note.back ≤ c.rest.length) :
    (c.annotate note).peek? = c.peek? ∨ (c.annotate note).peek? = some '(' := by
  rcases Nat.lt_or_eq_of_le hback with hlt | heq
  · exact .inl (peek?_annotate hlt)
  · exact .inr (peek?_annotate_of_length heq.symm)

theorem peek?_annotate_ne (h : c.peek? ≠ some x) (hx : x ≠ '(') (hback : note.back ≤ c.rest.length) :
    (c.annotate note).peek? ≠ some x := by
  rcases peek?_annotate_cases hback with hpeek | hpeek
  · rw [hpeek]
    exact h
  · rw [hpeek]
    intro heq
    cases heq
    exact hx rfl

theorem next?_annotate (h : c.next? = some (x, d)) (hback : note.back ≤ d.rest.length) :
    (c.annotate note).next? = some (x, d.annotate note) := by
  obtain ⟨e, hnext, hreads⟩ := reads_cons_iff.1 ((reads_of_next? h).annotate hback)
  rw [hnext, reads_nil_iff.1 hreads]

theorem skip?_annotate (h : c.skip? mark = some d) (hback : note.back ≤ d.rest.length) :
    (c.annotate note).skip? mark = some (d.annotate note) := by
  obtain ⟨e, hnext, hreads⟩ := reads_cons_iff.1 ((reads_of_skip? h).annotate hback)
  rw [skip?_of_next? hnext, reads_nil_iff.1 hreads]

theorem skip?_annotate_eq_none (h : c.skip? mark = none) (hmark : mark ≠ '(')
    (hback : note.back ≤ c.rest.length) : (c.annotate note).skip? mark = none :=
  skip?_eq_none (peek?_annotate_ne (peek?_ne_of_skip?_eq_none h) hmark hback)

theorem skipAll?_annotate {marks : List Char} (h : c.skipAll? marks = some d)
    (hback : note.back ≤ d.rest.length) :
    (c.annotate note).skipAll? marks = some (d.annotate note) :=
  skipAll?_of_reads ((reads_of_skipAll? h).annotate hback)

theorem exists_of_reads_annotate (h : (c.annotate note).Reads text d) (htext : '(' ∉ text)
    (hback : note.back ≤ c.rest.length) :
    ∃ e, c.Reads text e ∧ note.back ≤ e.rest.length ∧ d = e.annotate note := by
  induction text generalizing c with
  | nil => exact ⟨c, .refl c, hback, (reads_nil_iff.1 h).symm⟩
  | cons x text ih =>
      simp only [List.mem_cons, not_or] at htext
      obtain ⟨e, hnext, hreads⟩ := reads_cons_iff.1 h
      have hpeek := peek?_of_next? hnext
      rcases Nat.lt_or_eq_of_le hback with hlt | heq
      · rw [peek?_annotate hlt] at hpeek
        obtain ⟨f, hf⟩ := next?_of_peek? hpeek
        have hone := length_of_next? hf
        have hle : note.back ≤ f.rest.length := by omega
        rw [next?_annotate hf hle] at hnext
        cases hnext
        obtain ⟨g, hg, hend⟩ := ih hreads htext.2 hle
        exact ⟨g, reads_cons_iff.2 ⟨f, hf, hg⟩, hend⟩
      · rw [peek?_annotate_of_length heq.symm] at hpeek
        cases hpeek
        exact absurd rfl htext.1

theorem skipAll?_annotate_eq_none {marks : List Char} (h : c.skipAll? marks = none)
    (hmarks : '(' ∉ marks) (hback : note.back ≤ c.rest.length) :
    (c.annotate note).skipAll? marks = none := by
  refine Option.eq_none_iff_forall_ne_some.2 fun d hd => ?_
  obtain ⟨e, he, -⟩ := exists_of_reads_annotate (reads_of_skipAll? hd) hmarks hback
  rw [skipAll?_of_reads he] at h
  cases h

theorem skipOptional_annotate (hmark : mark ≠ '(')
    (hback : note.back ≤ (c.skipOptional mark).2.rest.length) :
    (c.annotate note).skipOptional mark = annotateSnd note (c.skipOptional mark) := by
  cases hskip : c.skip? mark with
  | none =>
      simp only [skipOptional, hskip] at hback ⊢
      rw [skip?_annotate_eq_none hskip hmark hback]
      rfl
  | some d =>
      simp only [skipOptional, hskip] at hback ⊢
      rw [skip?_annotate hskip hback]
      rfl

theorem span_annotate_of (hback : note.back ≤ (c.span p).2.rest.length)
    (hend : ∀ x, ((c.span p).2.annotate note).peek? = some x → p x = false) :
    (c.annotate note).span p = annotateSnd note (c.span p) :=
  span_of_reads ((reads_span p c).annotate hback)
    (fun _ hx => List.all_eq_true.1 List.all_takeWhile _ hx) hend

theorem span_annotate_of_lt (hback : note.back < (c.span p).2.rest.length) :
    (c.annotate note).span p = annotateSnd note (c.span p) := by
  refine span_annotate_of (Nat.le_of_lt hback) fun x hx => ?_
  rw [peek?_annotate hback] at hx
  exact peek?_span hx

theorem span_annotate (hp : p '(' = false) (hback : note.back ≤ (c.span p).2.rest.length) :
    (c.annotate note).span p = annotateSnd note (c.span p) := by
  refine span_annotate_of hback fun x hx => ?_
  rcases peek?_annotate_cases hback with hpeek | hpeek
  · rw [hpeek] at hx
    exact peek?_span hx
  · rw [hpeek] at hx
    cases hx
    exact hp

theorem spanUpTo_annotate {limit : Nat} (hp : p '(' = false)
    (hback : note.back ≤ (c.spanUpTo limit p).2.rest.length) :
    (c.annotate note).spanUpTo limit p = annotateSnd note (c.spanUpTo limit p) := by
  have hreads := (reads_spanUpTo limit p c).annotate hback
  have hall : ∀ x ∈ (c.spanUpTo limit p).1, p x = true :=
    fun _ hx => List.all_eq_true.1 List.all_takeWhile _ hx
  have hle : (c.spanUpTo limit p).1.length ≤ limit :=
    Nat.le_trans (List.takeWhile_prefix p).length_le (List.length_take_le limit c.rest)
  rcases Nat.lt_or_eq_of_le hle with hlt | heq
  · refine spanUpTo_of_reads hreads hall hle fun x hx => ?_
    rcases peek?_annotate_cases hback with hpeek | hpeek
    · rw [hpeek] at hx
      exact peek?_spanUpTo hlt hx
    · rw [hpeek] at hx
      cases hx
      exact hp
  · exact spanUpTo_of_length hreads hall heq

end Cursor

open Cursor

variable {note : Note} {c d : Cursor}

section Trivia

theorem commentEnd?_annotate {rest : List Char} {offset : Nat} (h : commentEnd? rest offset = some d)
    (hback : note.back ≤ d.rest.length) :
    commentEnd? (note.putInto rest) offset = some (d.annotate note) := by
  fun_induction commentEnd? rest offset with
  | case1 => cases h
  | case2 => cases h
  | case3 x rest offset ih =>
      have hle := Nat.le_trans hback (reaches_of_commentEnd? h).length_le
      rw [Note.putInto_cons (Nat.le_succ_of_le hle), Note.putInto_cons hle]
      exact ih h
  | case4 rest offset =>
      cases h
      rw [Note.putInto_cons hback]
      rfl
  | case5 x rest offset hend hescape hclose ih =>
      have hle := Nat.le_trans hback (reaches_of_commentEnd? h).length_le
      have hx : x ≠ '\\' := by
        rintro rfl
        cases rest with
        | nil => exact hend rfl rfl
        | cons y rest => exact hescape y rest rfl rfl
      rw [Note.putInto_cons hle, commentEnd?, if_neg hclose]
      · exact ih h
      · exact fun heq => absurd heq hx
      · exact fun _ _ heq => absurd heq hx

theorem commentEnd?_of_body {body rest : List Char} {offset : Nat} (h : CommentBody body) :
    commentEnd? (body ++ ')' :: rest) offset = some ⟨rest, offset + utf8Length (body ++ [')'])⟩ := by
  induction h generalizing offset with
  | nil => rfl
  | @char x body hescape hclose _ ih =>
      rw [List.cons_append, commentEnd?, if_neg hclose, ih, Nat.add_assoc]
      · rfl
      · exact fun heq => absurd heq hescape
      · exact fun _ _ heq => absurd heq hescape
  | escaped x _ ih =>
      rw [List.cons_append, List.cons_append, commentEnd?, ih, Nat.add_assoc, Nat.add_assoc]
      rfl

theorem skipAll?_comment_annotate (h : c.skipAll? ['(', '?', '#'] = none)
    (hback : note.back < c.rest.length) : (c.annotate note).skipAll? ['(', '?', '#'] = none := by
  cases hopen : c.skip? '(' with
  | none =>
      refine skipAll?_eq_none ?_
      rw [peek?_annotate hback]
      exact peek?_ne_of_skip?_eq_none hopen
  | some d =>
      have hone : c.rest.length = d.rest.length + 1 := by
        rw [(reads_of_skip? hopen).rest_eq]
        rfl
      have hle : note.back ≤ d.rest.length := by omega
      have hrest : d.skipAll? ['?', '#'] = none := by
        rw [← h]
        simp only [skipAll?, hopen]
      have hafter := skipAll?_annotate_eq_none hrest (by decide) hle
      simp only [skipAll?, skip?_annotate hopen hle] at hafter ⊢
      exact hafter

theorem BehindTrivia.annotate {extended : Bool} (h : BehindTrivia extended c)
    (hback : note.back < c.rest.length) : BehindTrivia extended (c.annotate note) := by
  refine ⟨skipAll?_comment_annotate h.noComment hback, fun x d hx hextended => ?_⟩
  have hpeek := peek?_of_next? hx
  rw [peek?_annotate hback] at hpeek
  obtain ⟨e, he⟩ := next?_of_peek? hpeek
  exact h.noBlank x e he hextended

theorem skipTrivia_of_note (extended : Bool) (hback : c.rest.length = note.back) :
    skipTrivia extended (c.annotate note) =
      (skipTrivia extended c).map (shift (utf8Length note.comment.text)) := by
  have hopen : (c.annotate note).skipAll? ['(', '?', '#'] =
      some ⟨note.comment.body ++ ')' :: c.rest, c.offset + utf8Length ['(', '?', '#']⟩ := by
    refine skipAll?_of_reads ⟨?_, rfl⟩
    rw [Cursor.annotate, Note.putInto_of_length hback]
    simp [Comment.text]
  have hoffset : c.offset + utf8Length ['(', '?', '#'] + utf8Length (note.comment.body ++ [')']) =
      c.offset + utf8Length note.comment.text := by
    rw [Nat.add_assoc, ← utf8Length_append]
    rfl
  rw [skipTrivia_eq, hopen]
  simp only [commentEnd?_of_body note.comment.isBody, hoffset]
  exact skipTrivia_shift extended

theorem skipLine_eq (c : Cursor) :
    skipLine c = ((c.span (· != '\n')).2.skipOptional '\n').2 :=
  rfl

theorem skipLine_annotate {d : Cursor} (h : (c.span (· != '\n')).2.next? = some ('\n', d))
    (hback : note.back ≤ d.rest.length) : skipLine (c.annotate note) = d.annotate note := by
  have hlt := Nat.lt_of_le_of_lt hback (passes_of_next? h).length_lt
  rw [skipLine_eq, span_annotate_of_lt hlt, annotateSnd,
    skipOptional_of_next? (next?_annotate h hback)]

-- Nothing ends the line, so the comment is part of it.
theorem skipLine_annotate_unfinished (h : (c.span (· != '\n')).2.rest = [])
    (hback : note.back = 0) : (skipLine c).rest = [] ∧
      skipLine (c.annotate note) = (skipLine c).shift (utf8Length note.comment.text) := by
  have hreads := reads_span (· != '\n') c
  have hall : ∀ x ∈ (c.span (· != '\n')).1 ++ note.comment.text, (x != '\n') = true := by
    intro x hx
    rcases List.mem_append.1 hx with hx | hx
    · exact Drifts.holds_of_mem_span (p := (· != '\n')) hx
    · exact bne_iff_ne.2 fun heq => note.comment.newline_not_mem_text (heq ▸ hx)
  generalize (c.span (· != '\n')).1 = line at hreads hall
  generalize hend : (c.span (· != '\n')).2 = d at h hreads
  have hpeek : ∀ n, (d.shift n).peek? ≠ some '\n' := by
    intro n
    rw [peek?, shift, h]
    exact fun heq => by cases heq
  have hhere : d.peek? ≠ some '\n' := hpeek 0
  have hline : skipLine c = d := by rw [skipLine_eq, hend, skipOptional_eq_false hhere]
  have hnone : ([] : List Char).length = note.back := hback.symm
  have hswallowed : (c.annotate note).Reads (line ++ note.comment.text)
      (d.shift (utf8Length note.comment.text)) := by
    refine (hreads.annotate (hback ▸ Nat.zero_le _)).append ⟨?_, rfl⟩
    rw [annotate, h, Note.putInto_of_length hnone, shift, h]
  refine ⟨hline ▸ h, ?_⟩
  rw [skipLine_eq, span_of_reads hswallowed hall fun x hx => ?_, skipOptional_eq_false (hpeek _), hline]
  simp [peek?, shift, h] at hx

theorem skipTrivia_annotate_line (extended : Bool) (hback : note.back ≤ (skipLine c).rest.length) :
    skipTrivia extended (skipLine (c.annotate note)) =
      skipTrivia extended ((skipLine c).annotate note) := by
  cases hnext : (c.span (· != '\n')).2.next? with
  | none =>
      have hrest := rest_of_next?_eq_none hnext
      have hzero : note.back = 0 := by
        have hle := Nat.le_trans hback (reaches_skipOptional '\n' (c.span (· != '\n')).2).length_le
        simpa [hrest] using hle
      obtain ⟨hnil, hline⟩ := skipLine_annotate_unfinished hrest hzero
      rw [hline, skipTrivia_shift, skipTrivia_of_note]
      rw [hnil, hzero]
      rfl
  | some r =>
      obtain ⟨x, d⟩ := r
      obtain rfl : x = '\n' := by simpa using peek?_span (peek?_of_next? hnext)
      have hline : skipLine c = d := by rw [skipLine_eq, skipOptional_of_next? hnext]
      rw [hline] at hback ⊢
      rw [skipLine_annotate hnext hback]

theorem skipTrivia_annotate {extended : Bool} (h : skipTrivia extended c = .ok d)
    (hback : note.back ≤ d.rest.length) :
    skipTrivia extended (c.annotate note) = skipTrivia extended (d.annotate note) := by
  fun_induction skipTrivia extended c with
  | case1 c b hb e he ih =>
      have hend := Nat.le_trans hback (reaches_of_skipTrivia h).length_le
      have hstart := Nat.le_trans hend (reaches_of_commentEnd? he).length_le
      rw [skipTrivia_eq, skipAll?_annotate hb hstart]
      simp only [annotate, commentEnd?_annotate he hend]
      exact ih h
  | case2 => cases h
  | case3 c hc x b hb hx ih =>
      have hend := Nat.le_trans hback (reaches_of_skipTrivia h).length_le
      have hstart := Nat.lt_of_le_of_lt hend (passes_of_next? hb).length_lt
      rw [skipTrivia_eq, skipAll?_comment_annotate hc hstart, next?_annotate hb hend]
      simp only [hx, if_true]
      exact ih h
  | case4 c hc x b hb hx hsharp ih =>
      have hline := Nat.le_trans hback (reaches_of_skipTrivia h).length_le
      have hend := Nat.le_trans hline (reaches_skipLine b).length_le
      have hstart := Nat.lt_of_le_of_lt hend (passes_of_next? hb).length_lt
      rw [skipTrivia_eq, skipAll?_comment_annotate hc hstart, next?_annotate hb hend]
      simp only [hx, hsharp, if_true, Bool.false_eq_true, if_false]
      rw [skipTrivia_annotate_line extended hline]
      exact ih h
  | case5 => cases h; rfl
  | case6 => cases h; rfl

end Trivia

section Repeats

variable {q : Quantifier}

theorem suffix_annotate (form : RepeatForm) (hback : note.back ≤ (suffix form c).2.rest.length) :
    suffix form (c.annotate note) = annotateSnd note (suffix form c) := by
  by_cases htakes : ∃ x d, c.next? = some (x, d) ∧ takesSuffix form x = true
  · obtain ⟨x, d, hx, htakes⟩ := htakes
    have hsuffix : ∀ {e : Cursor} {f : Cursor}, e.next? = some (x, f) → (suffix form e).2 = f ∧
        (suffix form e).1 = (suffix form c).1 := by
      intro e f he
      simp only [suffix, hx, he]
      simp only [takesSuffix] at htakes
      split at htakes
      · exact ⟨rfl, rfl⟩
      · exact ⟨rfl, rfl⟩
      · exact ⟨rfl, rfl⟩
      · cases htakes
    rw [(hsuffix hx).1] at hback
    obtain ⟨hend, hsame⟩ := hsuffix (next?_annotate hx hback)
    rw [annotateSnd, (hsuffix hx).1, ← hend, ← hsame]
  · have hgreedy : ∀ x, c.peek? = some x → takesSuffix form x = false := by
      intro x hx
      obtain ⟨d, hd⟩ := next?_of_peek? hx
      exact Bool.eq_false_iff.2 fun h => htakes ⟨x, d, hd, h⟩
    rw [suffix_eq_greedy hgreedy] at hback ⊢
    refine suffix_eq_greedy fun x hx => ?_
    rcases peek?_annotate_cases hback with hpeek | hpeek
    · exact hgreedy x (hpeek ▸ hx)
    · rw [hpeek] at hx
      cases hx
      cases form <;> rfl

theorem readQuantifier_annotate (h : readQuantifier c = .ok (some (q, d)))
    (hback : note.back ≤ d.rest.length) :
    readQuantifier (c.annotate note) = .ok (some (q, d.annotate note)) := by
  obtain ⟨r, hbounded, hbounds, e, hreads, hsuffix⟩ := exists_spelling_of_readQuantifier h
  have hle := (reaches_suffix r.form e).length_le
  have hannotated : suffix r.form (e.annotate note) = annotateSnd note (suffix r.form e) := by
    refine suffix_annotate r.form ?_
    rw [hsuffix]
    exact hback
  rw [hsuffix] at hle hannotated
  rw [readQuantifier_of_spelling hbounded (hreads.annotate (Nat.le_trans hback hle)), hannotated,
    hbounds]
  rfl

theorem not_mem_text_of_spelling (r : WrittenRepeat) : '(' ∉ r.text := by
  intro h
  have hbound (bound : Option (Numeral 10)) : '(' ∉ WrittenRepeat.boundText bound := by
    intro hmem
    have hdigit := isDigit_of_mem_boundText _ hmem
    cases hdigit
  have hdigits (n : Numeral 10) : '(' ∉ n.digits := hbound (some n)
  cases r with
  | star | plus | optional => simp [WrittenRepeat.text] at h
  | fixed n => simp [WrittenRepeat.text, hdigits] at h
  | range least most => simp [WrittenRepeat.text, hbound] at h

theorem exists_spelling_of_readQuantifier_ne (h : readQuantifier c ≠ .ok none) :
    ∃ r : WrittenRepeat, r.isBounded = true ∧ ∃ e, c.Reads r.text e := by
  simp only [readQuantifier] at h
  split at h
  · next hc => exact ⟨.star, rfl, _, reads_of_next? hc⟩
  · next hc => exact ⟨.plus, rfl, _, reads_of_next? hc⟩
  · next hc => exact ⟨.optional, rfl, _, reads_of_next? hc⟩
  · next hc =>
      split at h
      · next hinterval =>
          obtain ⟨r, hbounded, -, -, text, htext, hreads⟩ := exists_spelling_of_interval? hinterval
          exact ⟨r, hbounded, _, htext ▸ reads_cons_iff.2 ⟨_, hc, hreads⟩⟩
      · exact absurd rfl h
  · exact absurd rfl h

theorem readQuantifier_annotate_eq_none (h : readQuantifier c = .ok none)
    (hback : note.back ≤ c.rest.length) : readQuantifier (c.annotate note) = .ok none := by
  refine Decidable.of_not_not fun hne => ?_
  obtain ⟨r, hbounded, e, hreads⟩ := exists_spelling_of_readQuantifier_ne hne
  obtain ⟨f, hf, -⟩ := exists_of_reads_annotate hreads (not_mem_text_of_spelling r) hback
  rw [readQuantifier_of_spelling hbounded hf] at h
  cases hbounds : r.bounds with
  | error reason => rw [hbounds] at h; cases h
  | ok bounds => rw [hbounds] at h; cases h

theorem readQuantifier_annotate_ne (h : ∀ r, readQuantifier c ≠ .ok (some r))
    (hback : note.back ≤ c.rest.length) (r : Quantifier × Cursor) :
    readQuantifier (c.annotate note) ≠ .ok (some r) := by
  intro hsome
  obtain ⟨s, hbounded, hbounds, e, hreads, -⟩ := exists_spelling_of_readQuantifier hsome
  obtain ⟨f, hf, -⟩ := exists_of_reads_annotate hreads (not_mem_text_of_spelling s) hback
  have hread := readQuantifier_of_spelling hbounded hf
  rw [hbounds] at hread
  exact h _ hread

end Repeats

section Escapes

variable {x : Char}

theorem readControl_annotate (h : readControl c = .ok (x, d)) (hback : note.back ≤ d.rest.length) :
    readControl (c.annotate note) = .ok (x, d.annotate note) := by
  obtain ⟨y, hy⟩ := EscapeText.next_of_readControl h
  simp only [readControl, hy, next?_annotate hy hback] at h ⊢
  split at h
  · next hmark => cases h; rw [if_pos hmark]
  · next hmark =>
      split at h
      · next hascii => cases h; rw [if_neg hmark, if_pos hascii]
      · cases h

theorem readHex_annotate (h : readHex c = .ok (x, d)) (hback : note.back ≤ d.rest.length) :
    readHex (c.annotate note) = .ok (x, d.annotate note) := by
  simp only [readHex] at h
  split at h
  · cases h
  · next hdigits =>
      cases h
      simp only [readHex, spanUpTo_annotate rfl hback, annotateSnd, if_neg hdigits]

theorem unicodeDigits?_annotate {digits : List Char} (h : unicodeDigits? c = some (digits, d))
    (hback : note.back ≤ d.rest.length) :
    unicodeDigits? (c.annotate note) = some (digits, d.annotate note) := by
  simp only [unicodeDigits?] at h
  split at h
  · next e hopen =>
      obtain ⟨f, hclose, hf⟩ := Option.map_eq_some_iff.1 h
      cases hf
      have hend := Nat.le_trans hback (passes_of_skip? hclose).reaches.length_le
      have hstart := Nat.le_trans hend (reaches_spanUpTo 6 (Text.isDigit 16) e).length_le
      simp only [unicodeDigits?, skip?_annotate hopen hstart, spanUpTo_annotate rfl hend, annotateSnd,
        skip?_annotate hclose hback, Option.map_some]
  · next hopen =>
      split at h
      · next hfour =>
          cases h
          have hstart := Nat.le_trans hback (reaches_spanUpTo 4 (Text.isDigit 16) c).length_le
          simp only [unicodeDigits?, skip?_annotate_eq_none hopen (by decide) hstart,
            spanUpTo_annotate rfl hback, annotateSnd, if_pos hfour]
      · cases h

theorem readUnicode_annotate (h : readUnicode c = .ok (x, d)) (hback : note.back ≤ d.rest.length) :
    readUnicode (c.annotate note) = .ok (x, d.annotate note) := by
  simp only [readUnicode] at h
  split at h
  · next hdigits =>
      split at h
      · next hx =>
          cases h
          simp only [readUnicode, unicodeDigits?_annotate hdigits hback, hx]
      · cases h
  · cases h

theorem readOctal_annotate (first : Char) (hback : note.back ≤ (readOctal first c).2.rest.length) :
    readOctal first (c.annotate note) = annotateSnd note (readOctal first c) := by
  simp only [readOctal] at hback ⊢
  rw [spanUpTo_annotate rfl hback]
  rfl

theorem readCharEscape_annotate (h : readCharEscape c = .ok (x, d))
    (hback : note.back ≤ d.rest.length) :
    readCharEscape (c.annotate note) = .ok (x, d.annotate note) := by
  simp only [readCharEscape] at h
  split at h
  · cases h
  · next e hc =>
      have hle := Nat.le_trans hback (reaches_of_readControl h).length_le
      simp only [readCharEscape, next?_annotate hc hle, readControl_annotate h hback]
  · next e hc =>
      split at h
      · next f hhyphen =>
          have hend := Nat.le_trans hback (reaches_of_readControl h).length_le
          have hle := Nat.le_trans hend (passes_of_skip? hhyphen).reaches.length_le
          simp only [readCharEscape, next?_annotate hc hle, skip?_annotate hhyphen hend,
            readControl_annotate h hback]
      · cases h
  · cases h
  · next e hc =>
      have hle := Nat.le_trans hback (reaches_of_readHex h).length_le
      simp only [readCharEscape, next?_annotate hc hle, readHex_annotate h hback]
  · next e hc =>
      have hle := Nat.le_trans hback (reaches_of_readUnicode h).length_le
      simp only [readCharEscape, next?_annotate hc hle, readUnicode_annotate h hback]
  · next y e _ _ _ _ _ hc =>
      have hletter : y ∉ operandLetters := by
        simp only [operandLetters, List.mem_cons, List.not_mem_nil, or_false, not_or]
        exact ⟨by assumption, by assumption, by assumption, by assumption, by assumption⟩
      split at h
      · next hnamed =>
          cases h
          rw [readCharEscape_eq (next?_annotate hc hback) hletter, hnamed]
      · next hunnamed =>
          split at h
          · next hdigit =>
              simp only [Except.ok.injEq] at h
              have hend : note.back ≤ (readOctal y e).2.rest.length := by
                rw [h]
                exact hback
              have hle := Nat.le_trans hend (reaches_readOctal y e).length_le
              rw [readCharEscape_eq (next?_annotate hc hle) hletter, hunnamed]
              simp only [hdigit, if_true, readOctal_annotate y hend, h, annotateSnd]
          · next hdigit =>
              cases h
              rw [readCharEscape_eq (next?_annotate hc hback) hletter, hunnamed]
              exact if_neg hdigit

theorem readProperty_annotate {negated : Bool} {set : CodePointSet}
    (h : readProperty negated c = .ok (set, d)) (hback : note.back ≤ d.rest.length) :
    readProperty negated (c.annotate note) = .ok (set, d.annotate note) := by
  simp only [readProperty] at h
  split at h
  · cases h
  · next e hopen =>
      split at h
      · cases h
      · next f hclose =>
          split at h
          · cases h
          · next property hproperty =>
              cases h
              have hlt := Nat.lt_of_le_of_lt hback (passes_of_skip? hclose).length_lt
              have hname := Nat.le_trans (Nat.le_of_lt hlt) (reaches_span _ _).length_le
              have hcaret := Nat.le_trans hname (reaches_skipOptional _ _).length_le
              simp only [readProperty, skip?_annotate hopen hcaret,
                skipOptional_annotate (by decide) hname, annotateSnd, span_annotate_of_lt hlt,
                skip?_annotate hclose hback, hproperty]

end Escapes

end Specimen.Reader
