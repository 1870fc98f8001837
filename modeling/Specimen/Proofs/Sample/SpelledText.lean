import Specimen.Proofs.Reader.CharSpelling
import Specimen.Proofs.Reader.Reached
import Specimen.Proofs.Sample.Failing

namespace Specimen

open Reader

namespace CharEscape

theorem exists_body (e : CharEscape) :
    ∃ x rest, e.body = x :: rest ∧ ∀ y ∈ rest, isInert y = true := by
  have hdigits {base : Nat} (n : Numeral base) : ∀ y ∈ n.digits, isInert y = true :=
    fun y hy => isInert_of_isDigit (n.isDigit y hy)
  cases e with
  | shielded c other => exact ⟨c, [], rfl, by simp⟩
  | braced hex =>
      refine ⟨'u', _, rfl, fun y hy => ?_⟩
      simp only [List.mem_cons, List.mem_append, List.not_mem_nil, or_false] at hy
      rcases hy with rfl | hy | rfl
      · rfl
      · exact hdigits hex.toNumeral y hy
      · rfl
  | fixed hex four => exact ⟨'u', _, rfl, hdigits hex.toNumeral⟩
  | byte hex two => exact ⟨'x', _, rfl, hdigits hex.toNumeral⟩
  | octal number three =>
      obtain ⟨x, rest, hcons⟩ := List.exists_cons_of_ne_nil number.nonempty
      refine ⟨x, rest, hcons, fun y hy => hdigits number y ?_⟩
      rw [hcons]
      exact List.mem_cons_of_mem x hy
  | control hyphen letter alpha =>
      have hletter : isInert letter = true := isInert_of_isAlpha alpha
      cases hyphen with
      | false => exact ⟨'c', [letter], rfl, by simpa using hletter⟩
      | true => exact ⟨'C', ['-', letter], rfl, by simpa using ⟨rfl, hletter⟩⟩
  | named letter c known => exact ⟨letter, [], rfl, by simp⟩

end CharEscape

namespace Reader

section Scan

variable {g : GroupScan}

theorem GroupScan.foldl_inert {text : List Char} (hmode : g.mode = .plain)
    (h : ∀ x ∈ text, isInert x = true) : text.foldl step g = g := by
  induction text with
  | nil => rfl
  | cons x rest ih =>
      rw [List.foldl_cons, step_inert hmode (h x List.mem_cons_self)]
      exact ih fun y hy => h y (List.mem_cons_of_mem x hy)

theorem GroupScan.step_shielded (hmode : g.mode = .plain) (x : Char) : (g.step '\\').step x = g := by
  obtain ⟨count, depth, extended, outer, mode⟩ := g
  cases hmode
  rfl

theorem GroupScan.foldl_spelling {w : CharSpelling} (hmode : g.mode = .plain)
    (hdepth : g.bracketDepth = 0) (hw : w.Legal g.extended) : w.text.foldl step g = g := by
  cases w with
  | literal c unmarked =>
      refine step_outside hmode hdepth (fun hmem => unmarked ?_) fun hsharp => ?_
      · have hsub : ['\\', '[', '(', ')'] ⊆ '{' :: syntaxChars := by decide
        exact hsub hmem
      · exact Bool.eq_false_iff.2 fun hextended => (hw hextended).2 hsharp
  | escape e =>
      obtain ⟨x, rest, hbody, hinert⟩ := e.exists_body
      rw [CharSpelling.text, hbody, List.foldl_cons, List.foldl_cons, step_shielded hmode,
        foldl_inert hmode hinert]

theorem GroupScan.foldl_spellings {ws : List CharSpelling} (hmode : g.mode = .plain)
    (hdepth : g.bracketDepth = 0) (hws : ∀ w ∈ ws, w.Legal g.extended) :
    (ws.flatMap CharSpelling.text).foldl step g = g := by
  induction ws with
  | nil => rfl
  | cons w rest ih =>
      rw [List.flatMap_cons, List.foldl_append,
        foldl_spelling hmode hdepth (hws w List.mem_cons_self)]
      exact ih fun other hother => hws other (List.mem_cons_of_mem w hother)

theorem countGroups_spellings {ws : List CharSpelling} {flags : Flags}
    (hws : ∀ w ∈ ws, w.Legal flags.extended) :
    countGroups flags (ws.flatMap CharSpelling.text) = 0 := by
  rw [countGroups, GroupScan.foldl_spellings rfl rfl hws]
  rfl

end Scan

section Run

variable {total : Nat} {s : State} {d : Cursor} {x : Char}

theorem run_char (hx : s.cursor.next? = some (x, d)) (hmark : x ∉ '{' :: syntaxChars)
    (hblank : s.flags.extended = true → isBlank x = false ∧ x ≠ '#') :
    patternRun total s = patternRun total (addChar s x d) :=
  run_of_more size_lt_of_step (step_of_char hx hmark hblank)

theorem run_spelling {w : CharSpelling} {s : State} (hs : s.flags.icase = false)
    (hw : w.Legal s.flags.extended) (hc : s.cursor.Reads w.text d) :
    patternRun 0 s = patternRun 0 (s.add (.char w.char false) .admitted d) := by
  cases w with
  | literal c unmarked =>
      obtain ⟨_, hx, hd⟩ := Cursor.reads_cons_iff.1 hc
      obtain rfl := Cursor.reads_nil_iff.1 hd
      rw [run_char hx unmarked hw, addChar, hs]
      rfl
  | escape e =>
      obtain ⟨c, hslash, hbody⟩ := Cursor.reads_cons_iff.1 hc
      have hread : readEscape (s.scope 0) s.flags.icase c = .ok (.char e.char s.flags.icase, d) :=
        readEscape_of_spelling e rfl hbody
      rw [run_escape hslash hread rfl, hs]
      rfl

theorem run_spellings {ws : List CharSpelling} {s : State} (hs : s.flags.icase = false)
    (hclosed : s.enclosing = []) (hws : ∀ w ∈ ws, w.Legal s.flags.extended)
    (hc : s.cursor.Reads (ws.flatMap CharSpelling.text) d) (hd : d.rest = []) :
    patternRun 0 s = .ok (Branches.node ⟨s.branches.finished,
      (ws.map fun w => .char w.char false).reverse ++ s.branches.items⟩, s.groups) := by
  induction ws generalizing s with
  | nil =>
      obtain rfl := Cursor.reads_nil_iff.1 hc
      exact run_end (by rw [Cursor.next?, hd]) hclosed
  | cons w rest ih =>
      obtain ⟨e, hw, hrest⟩ := Cursor.reads_append_iff.1 hc
      rw [run_spelling hs (hws w List.mem_cons_self) hw,
        ih (s := s.add (.char w.char false) .admitted e) hs hclosed
          (fun other hother => hws other (List.mem_cons_of_mem w hother)) hrest]
      simp [State.add, Branches.add]

end Run

end Reader

section Samples

variable {limits : Limits} {cs : List Char} {text : String}

def Sample.ofText (text : String) : Sample := ⟨[.text text], []⟩

theorem Sample.ofText_append_ofChar (text : String) (c : Char) :
    (ofText text).append (.ofChar c) = ofText (text ++ c.toString) := rfl

theorem samples_char (hlimit : 1 ≤ limits.groupResults) (c : Char) :
    (Node.char c false).samples limits = [.ofChar c] := by
  rw [Node.samples, charSamples]
  simp only [Bool.false_eq_true, if_false]
  rw [List.take_of_length_le hlimit]
  rfl

theorem product_singleton {limit : Nat} (hlimit : 1 ≤ limit) (s next : Sample) :
    product limit [s] [next] = [s.append next] := by
  rw [product, List.take_of_length_le hlimit]
  rfl

theorem catSamples_chars (hgroup : 1 ≤ limits.groupResults) (htotal : 1 ≤ limits.totalResults)
    (text : String) (cs : List Char) :
    catSamples limits [.ofText text] (cs.map fun c => .char c false) =
      [.ofText (text ++ String.ofList cs)] := by
  induction cs generalizing text with
  | nil =>
      have htext : text ++ String.ofList [] = text := String.toList_inj.1 (by simp)
      rw [List.map_nil, catSamples, htext]
  | cons c rest ih =>
      have htext : text ++ c.toString ++ String.ofList rest = text ++ String.ofList (c :: rest) :=
        String.toList_inj.1 (by simp)
      rw [List.map_cons, catSamples, if_neg (by simp), samples_char hgroup,
        product_singleton htotal, Sample.ofText_append_ofChar, ih, htext]

theorem texts_of_sequence (hgroup : 1 ≤ limits.groupResults) (htotal : 1 ≤ limits.totalResults)
    (cs : List Char) :
    ((Node.sequence (cs.map fun c => .char c false)).samples limits).map Sample.text =
      [String.ofList cs] := by
  match cs with
  | [] => rfl
  | [c] =>
      rw [List.map_cons, List.map_nil, Node.sequence, samples_char hgroup]
      exact congrArg (· :: []) (String.toList_inj.1 (by simp [Sample.text, Sample.ofChar]))
  | first :: second :: rest =>
      have hstart : catSamples limits [.empty] (.char first false ::
          (second :: rest).map fun c => .char c false) =
          catSamples limits [.ofText first.toString] ((second :: rest).map fun c => .char c false) := by
        rw [catSamples, if_neg (by simp), samples_char hgroup, product_singleton htotal]
        rfl
      have hnode : Node.sequence ((first :: second :: rest).map fun c => .char c false) =
          .cat (.char first false :: (second :: rest).map fun c => .char c false) := rfl
      rw [hnode, Node.samples, hstart, catSamples_chars hgroup htotal]
      exact congrArg (· :: []) (String.toList_inj.1 (by simp [Sample.text, Sample.ofText]))

theorem examples_of_one_text {p : Pattern} (htotal : 1 ≤ limits.totalResults)
    (h : (p.root.samples limits).map Sample.text = [text]) : p.examples limits = [text] := by
  have hfails : ¬ p.root.alwaysFails = true := fun hfails => by
    rw [samples_of_alwaysFails hfails] at h
    cases h
  have hdistinct : distinct [text] = [text] := by
    rw [distinct_eq_eraseDups, List.eraseDups_cons]
    rfl
  rw [Pattern.examples, if_neg hfails, h, hdistinct, List.take_of_length_le htotal]

end Samples

theorem Pattern.read_spelled (spellings : List CharSpelling) (flags : Flags)
    (hicase : flags.icase = false) (hlegal : ∀ w ∈ spellings, w.Legal flags.extended) :
    ∃ p, Pattern.read (CharSpelling.textOf spellings) flags = .ok p ∧
      p = ⟨.sequence (spellings.map fun w => .char w.char false), flags, ∅⟩ ∧
      ∀ limits : Limits, 1 ≤ limits.groupResults → 1 ≤ limits.totalResults →
        p.examples limits = [CharSpelling.charsOf spellings] := by
  have htext : (CharSpelling.textOf spellings).toList = spellings.flatMap CharSpelling.text :=
    String.toList_ofList
  have hreads : (Cursor.ofString (CharSpelling.textOf spellings)).Reads
      (spellings.flatMap CharSpelling.text) ⟨[], utf8Length (spellings.flatMap CharSpelling.text)⟩ := by
    refine ⟨?_, (Nat.zero_add _).symm⟩
    rw [Cursor.ofString, htext, List.append_nil]
  have hcount : countGroups flags (CharSpelling.textOf spellings).toList = 0 := by
    rw [htext]
    exact countGroups_spellings hlegal
  refine ⟨_, ?_, rfl, fun limits hgroup htotal => ?_⟩
  · rw [Pattern.read_eq, hcount, run_spellings hicase rfl hlegal hreads rfl]
    simp only [State.start, Branches.none, List.append_nil, Branches.node, Node.ofItems_reverse]
    rfl
  · have htexts := texts_of_sequence hgroup htotal (spellings.map CharSpelling.char)
    rw [List.map_map] at htexts
    exact examples_of_one_text htotal htexts

theorem Pattern.read_spelled_octal :
    ∃ p, Pattern.read "\\1010\\ \\C-mz\x7d\\x2a3\\n" ⟨false, true, true⟩ = .ok p ∧
      p.examples .standard = ["A0 \rz\x7d*3\n"] := by
  let spellings : List CharSpelling := [
    .escape (.octal ⟨['1', '0', '1'], by decide, forall_mem_of_all (by decide)⟩ rfl),
    .literal '0' (by decide),
    .escape (.shielded ' ' rfl),
    .escape (.control true 'm' rfl),
    .literal 'z' (by decide),
    .literal '}' (by decide),
    .escape (.byte ⟨⟨['2', 'a'], by decide, forall_mem_of_all (by decide)⟩, by decide, by decide⟩ rfl),
    .literal '3' (by decide),
    .escape (.named 'n' '\n' rfl)]
  obtain ⟨p, hp, -, hexamples⟩ :=
    Pattern.read_spelled spellings ⟨false, true, true⟩ rfl (by decide)
  exact ⟨p, hp, hexamples .standard (by decide) (by decide)⟩

end Specimen
