import Specimen.Reader.Group
import Specimen.Reader.Repeat

namespace Specimen.Reader

def scanMarks : List Char := ['\\', '[', ']', '#', '(', ')']

def isInert (c : Char) : Bool := !scanMarks.contains c

theorem mem_scanMarks_of_not_isInert {c : Char} (h : ¬ isInert c = true) : c ∈ scanMarks := by
  simpa [isInert] using h

theorem forall_mem_of_all {marks : List Char} {p : Char → Prop} [DecidablePred p]
    (h : marks.all (fun mark => decide (p mark)) = true) : ∀ mark ∈ marks, p mark := by
  intro mark hmark
  exact of_decide_eq_true (List.all_eq_true.1 h mark hmark)

theorem isInert_of_holds {p : Char → Bool} {c : Char} (h : p c = true)
    (hmarks : scanMarks.all (fun mark => !p mark) = true) : isInert c = true := by
  refine Decidable.of_not_not fun hinert => ?_
  have := List.all_eq_true.1 hmarks c (mem_scanMarks_of_not_isInert hinert)
  rw [h] at this
  cases this

theorem isInert_of_isDigit {base : Nat} {c : Char} (h : Text.isDigit base c = true) :
    isInert c = true := by
  have hhex : (Text.hexDigit? c).isSome = true := by
    simp only [Text.isDigit, Text.digit?] at h
    cases hc : Text.hexDigit? c with
    | none => simp [hc] at h
    | some d => rfl
  exact isInert_of_holds (p := fun c => (Text.hexDigit? c).isSome) hhex (by decide)

theorem isInert_of_isAlpha {c : Char} (h : c.isAlpha = true) : isInert c = true :=
  isInert_of_holds h (by decide)

theorem isInert_of_isNameChar {c : Char} (h : isNameChar c = true) : isInert c = true :=
  isInert_of_holds h (by decide)

section Names

open Unicode

variable {name known : String} {c : Char}

def nameMarks : List Char := '^' :: '}' :: scanMarks

/-- Whether a name holds none of the marks. Bytes are looked at, since a kernel decodes no text fast. -/
def isUnmarked (name : String) : Bool :=
  name.toByteArray.data.toList.all fun byte => !(nameMarks.map (·.val.toUInt8)).contains byte

theorem not_mem_of_isUnmarked (h : isUnmarked name = true) (hc : c ∈ name.toList) :
    c ∉ nameMarks := by
  intro hmark
  have hsizes : ∀ mark ∈ nameMarks, mark.utf8Size = 1 := forall_mem_of_all (by decide)
  have hbyte : c.val.toUInt8 ∈ name.toByteArray.data.toList := by
    rw [← String.utf8Encode_toList, List.utf8Encode, List.toList_data_toByteArray]
    exact List.mem_flatMap.2 ⟨c, hc, by rw [String.utf8EncodeChar_eq_singleton (hsizes c hmark)]; simp⟩
  have := List.all_eq_true.1 h _ hbyte
  simp only [Bool.not_eq_true', List.contains_eq_mem, decide_eq_false_iff_not] at this
  exact this (List.mem_map.2 ⟨c, hmark, rfl⟩)

-- No mark is a lowercase letter.
theorem eq_of_toLower_mem {y : Char} (h : y.toLower ∈ nameMarks) : y.toLower = y := by
  have hbounds : ∀ mark ∈ nameMarks, mark.val.toNat < 97 ∨ 122 < mark.val.toNat :=
    forall_mem_of_all (by decide)
  by_cases hupper : y.val ≥ 'A'.val ∧ y.val ≤ 'Z'.val
  · have hlow : 65 ≤ y.val.toNat := hupper.1
    have hhigh : y.val.toNat ≤ 90 := hupper.2
    have hval : y.toLower.val = y.val + ('a'.val - 'A'.val) := congrArg Char.val (dif_pos hupper)
    have hshift : ('a'.val - 'A'.val).toNat = 32 := rfl
    have hbound := hbounds _ h
    rw [hval, UInt32.toNat_add, hshift] at hbound
    omega
  · exact dif_neg hupper

theorem not_mem_of_looseName (h : looseName known = looseName name)
    (hknown : isUnmarked known = true) (hc : c ∈ name.toList) : c ∉ nameMarks := by
  intro hmark
  have hkept : ∀ mark ∈ nameMarks, isNameFiller mark = false ∧ mark.toLower = mark :=
    forall_mem_of_all (by decide)
  obtain ⟨hfiller, hlower⟩ := hkept c hmark
  have hmem : c ∈ (looseName name).toList := by
    rw [looseName, String.toList_ofList]
    exact List.mem_map.2 ⟨c, List.mem_filter.2 ⟨hc, by rw [hfiller]; rfl⟩, hlower⟩
  rw [← h, looseName, String.toList_ofList] at hmem
  obtain ⟨y, hy, hyc⟩ := List.mem_map.1 hmem
  have hself : y = c := (eq_of_toLower_mem (hyc ▸ hmark)).symm.trans hyc
  exact not_mem_of_isUnmarked hknown (hself ▸ (List.mem_filter.1 hy).1) hmark

theorem not_mem_of_plainName (h : isUnmarked (plainName name) = true) (hc : c ∈ name.toList) :
    c ∉ nameMarks := by
  intro hmark
  have hkept : ∀ mark ∈ nameMarks,
      (!(mark == ' ' || mark == '-' || mark == '_')) = true ∧ foldNameChar mark = mark :=
    forall_mem_of_all (by decide)
  obtain ⟨hfiller, hfold⟩ := hkept c hmark
  have hmem : c ∈ (plainName name).toList := by
    rw [plainName, String.toList_ofList]
    exact List.mem_map.2 ⟨c, List.mem_filter.2 ⟨hc, hfiller⟩, hfold⟩
  exact not_mem_of_isUnmarked h hmem hmark

theorem isUnmarked_of_posix {posix : PosixClass} (h : PosixClass.ofName? name = some posix) :
    isUnmarked name = true := by
  unfold PosixClass.ofName? at h
  split at h
  all_goals first | decide | cases h

theorem isUnmarked_of_binary {property : BinaryProperty}
    (h : BinaryProperty.ofPlainName? name = some property) : isUnmarked name = true := by
  unfold BinaryProperty.ofPlainName? at h
  split at h
  all_goals first | decide | cases h

theorem categoryNames_unmarked :
    CategoryGroup.all.all (fun group => group.names.all isUnmarked) = true := by
  decide

theorem scriptNames_unmarked : Script.names.all (fun names => names.all isUnmarked) = true := by
  decide

theorem not_mem_of_category {group : CategoryGroup} (h : CategoryGroup.ofName? name = some group)
    (hc : c ∈ name.toList) : c ∉ nameMarks := by
  have hall := List.all_eq_true.1 categoryNames_unmarked _ (List.mem_of_find?_eq_some h)
  have hany := List.find?_some h
  obtain ⟨known, hmem, hknown⟩ := List.any_eq_true.1 hany
  exact not_mem_of_looseName (beq_iff_eq.1 hknown) (List.all_eq_true.1 hall known hmem) hc

theorem not_mem_of_script {script : Script} (h : Script.ofName? name = some script)
    (hc : c ∈ name.toList) : c ∉ nameMarks := by
  rw [Script.ofName?, Option.bind_eq_some_iff] at h
  obtain ⟨names, hnames, _⟩ := h
  have hall := List.all_eq_true.1 scriptNames_unmarked _ (List.mem_of_find?_eq_some hnames)
  have hany := List.find?_some hnames
  obtain ⟨known, hmem, hknown⟩ := List.any_eq_true.1 hany
  exact not_mem_of_looseName (beq_iff_eq.1 hknown) (List.all_eq_true.1 hall known hmem) hc

theorem not_mem_of_property {property : Property} (h : Property.ofName? name = some property)
    (hc : c ∈ name.toList) : c ∉ nameMarks := by
  simp only [Property.ofName?, Option.orElse_eq_orElse, Option.orElse_eq_or, Option.or_eq_some_iff,
    Option.map_eq_some_iff] at h
  rcases h with ⟨posix, hposix, _⟩ | ⟨_, ⟨binary, hbinary, _⟩ | ⟨_, ⟨group, hgroup, _⟩ |
    ⟨_, script, hscript, _⟩⟩⟩
  · exact not_mem_of_plainName (isUnmarked_of_posix hposix) hc
  · exact not_mem_of_plainName (isUnmarked_of_binary hbinary) hc
  · exact not_mem_of_category hgroup hc
  · exact not_mem_of_script hscript hc

theorem isInert_of_property {property : Property} (h : Property.ofName? name = some property)
    (hc : c ∈ name.toList) : isInert c = true := by
  refine Decidable.of_not_not fun hinert => not_mem_of_property h hc ?_
  exact List.mem_cons_of_mem _ (List.mem_cons_of_mem _ (mem_scanMarks_of_not_isInert hinert))

end Names

def Cursor.Drifts (c d : Cursor) : Prop := ∃ text, c.Reads text d ∧ ∀ x ∈ text, isInert x = true

namespace Cursor.Drifts

variable {c d e : Cursor} {x : Char}

theorem refl (c : Cursor) : c.Drifts c := ⟨[], .refl c, nofun⟩

theorem trans (h : c.Drifts d) (k : d.Drifts e) : c.Drifts e := by
  obtain ⟨s, hs, hsi⟩ := h
  obtain ⟨t, ht, hti⟩ := k
  refine ⟨s ++ t, hs.append ht, fun x hx => ?_⟩
  rcases List.mem_append.1 hx with hx | hx
  · exact hsi x hx
  · exact hti x hx

theorem next (h : c.next? = some (x, d)) (hx : isInert x = true) : c.Drifts d :=
  ⟨[x], reads_of_next? h, by simpa using hx⟩

theorem skip {mark : Char} (h : c.skip? mark = some d) (hx : isInert mark = true) : c.Drifts d :=
  ⟨[mark], reads_of_skip? h, by simpa using hx⟩

theorem optional (mark : Char) (hx : isInert mark = true) (c : Cursor) :
    c.Drifts (c.skipOptional mark).2 := by
  simp only [skipOptional]
  split
  · next h => exact skip h hx
  · exact refl c

theorem span {p : Char → Bool} (h : ∀ x ∈ (c.span p).1, isInert x = true) :
    c.Drifts (c.span p).2 :=
  ⟨_, reads_span p c, h⟩

theorem holds_of_mem_span {p : Char → Bool} (h : x ∈ (c.span p).1) : p x = true :=
  List.all_eq_true.1 List.all_takeWhile x h

theorem spanUpTo {p : Char → Bool} (h : ∀ x, p x = true → isInert x = true) (limit : Nat)
    (c : Cursor) : c.Drifts (c.spanUpTo limit p).2 :=
  ⟨_, reads_spanUpTo limit p c, fun x hx => h x (List.all_eq_true.1 List.all_takeWhile x hx)⟩

theorem digits (base : Nat) (c : Cursor) : c.Drifts (c.span (Text.isDigit base)).2 :=
  span fun _ hx => isInert_of_isDigit (holds_of_mem_span hx)

end Cursor.Drifts

open Cursor.Drifts in
theorem drifts_writtenInterval (c : Cursor) : c.Drifts (writtenInterval c).2 := by
  simp only [writtenInterval]
  split
  · next h => exact ((digits 10 c).trans (skip h rfl)).trans (digits 10 _)
  · exact digits 10 c

open Cursor.Drifts in
theorem drifts_of_interval? {c d : Cursor} {w : WrittenInterval} (h : interval? c = some (w, d)) :
    c.Drifts d := by
  simp only [interval?] at h
  split at h
  · next he =>
      split at h
      · simp at h
      · cases h
        exact (drifts_writtenInterval c).trans (skip he rfl)
  · simp at h

open Cursor.Drifts in
theorem drifts_suffix (form : RepeatForm) (c : Cursor) : c.Drifts (suffix form c).2 := by
  simp only [suffix]
  split
  · next h => exact next h rfl
  · next h => exact next h rfl
  · next h => exact next h rfl
  · exact refl c

open Cursor.Drifts in
theorem drifts_of_readQuantifier {c d : Cursor} {q : Quantifier}
    (h : readQuantifier c = .ok (some (q, d))) : c.Drifts d := by
  simp only [readQuantifier] at h
  split at h
  · next hc => cases h; exact (next hc rfl).trans (drifts_suffix _ _)
  · next hc => cases h; exact (next hc rfl).trans (drifts_suffix _ _)
  · next hc => cases h; exact (next hc rfl).trans (drifts_suffix _ _)
  · next hc =>
      split at h
      · next he =>
          split at h
          · cases h
            exact ((next hc rfl).trans (drifts_of_interval? he)).trans (drifts_suffix _ _)
          · simp at h
      · simp at h
  · simp at h

open Cursor.Drifts in
theorem drifts_of_readProperty {negated : Bool} {c d : Cursor} {set : CodePointSet}
    (h : readProperty negated c = .ok (set, d)) : c.Drifts d := by
  simp only [readProperty] at h
  split at h
  · simp at h
  · next hc =>
      split at h
      · simp at h
      · next hf =>
          split at h
          · simp at h
          · next property hname =>
              cases h
              refine (((skip hc rfl).trans (optional '^' rfl _)).trans (span fun x hx => ?_)).trans
                (skip hf rfl)
              exact isInert_of_property hname (by rw [String.toList_ofList]; exact hx)

open Cursor.Drifts in
theorem drifts_of_readGroupName {closing : Char} {c d : Cursor} {name : String}
    (hclosing : isInert closing = true) (h : readGroupName closing c = .ok (name, d)) :
    c.Drifts d ∧ ∀ x ∈ name.toList, isInert x = true := by
  simp only [readGroupName] at h
  split at h
  · simp at h
  · next he =>
      split at h
      · cases h
        have hname : ∀ x ∈ (c.span isNameChar).1, isInert x = true :=
          fun x hx => isInert_of_isNameChar (holds_of_mem_span hx)
        refine ⟨(span hname).trans (skip he hclosing), ?_⟩
        rw [String.toList_ofList]
        exact hname
      · simp at h

end Specimen.Reader
