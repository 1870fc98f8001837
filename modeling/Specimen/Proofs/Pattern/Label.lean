import Specimen.Proofs.Pattern.Children
import Specimen.Proofs.Text.Printed
import Specimen.Pattern.Outline
/-!
The label of a node in an outline says all there is to the node but its children.
-/

namespace Specimen

open Text

section Sets

variable {s t : List Char}

def isIntervalChar (x : Char) : Bool := isDigit 16 x || x == '-'

namespace Interval

variable {a b : Interval}

def tail (iv : Interval) : List Char :=
  if iv.first = iv.last then [] else "-0x".toList ++ (hexText iv.last).toList

theorem toList_text (iv : Interval) :
    iv.text.toList = "0x".toList ++ ((hexText iv.first).toList ++ iv.tail) := by
  by_cases h : iv.first = iv.last
  · simp [text, tail, h]
  · simp [text, tail, h]

theorem stops_tail (iv : Interval) (hs : Stops isIntervalChar s) :
    Stops (isDigit 16) (iv.tail ++ s) := by
  by_cases h : iv.first = iv.last
  · rw [tail, if_pos h]
    exact hs.mono fun x hx => by simp [isIntervalChar, hx]
  · rw [tail, if_neg h]
    exact stops_cons.2 rfl

theorem tail_append_ne (h : a.first ≠ a.last) (ht : Stops isIntervalChar t) :
    a.tail ++ s ≠ t := by
  rintro rfl
  rw [tail, if_neg h] at ht
  cases stops_cons.1 ht

theorem text_append_inj (hs : Stops isIntervalChar s) (ht : Stops isIntervalChar t)
    (h : a.text.toList ++ s = b.text.toList ++ t) : a = b ∧ s = t := by
  simp only [toList_text, List.append_assoc] at h
  obtain ⟨hfirst, htail⟩ :=
    hexText_append_inj (a.stops_tail hs) (b.stops_tail ht) (List.append_cancel_left h)
  by_cases ha : a.first = a.last
  · by_cases hb : b.first = b.last
    · simp only [tail, if_pos ha, if_pos hb, List.nil_append] at htail
      cases a
      cases b
      simp only at ha hb hfirst
      exact ⟨by rw [← ha, ← hb, hfirst], htail⟩
    · rw [tail, if_pos ha] at htail
      exact absurd htail.symm (tail_append_ne hb hs)
  · by_cases hb : b.first = b.last
    · have hempty : b.tail = [] := if_pos hb
      rw [hempty] at htail
      exact absurd htail (tail_append_ne ha ht)
    · simp only [tail, if_neg ha, if_neg hb, List.append_assoc] at htail
      obtain ⟨hlast, hrest⟩ := hexText_append_inj
        (hs.mono fun x hx => by simp [isIntervalChar, hx])
        (ht.mono fun x hx => by simp [isIntervalChar, hx]) (List.append_cancel_left htail)
      cases a
      cases b
      simp only at hfirst hlast
      exact ⟨by rw [hfirst, hlast], hrest⟩

end Interval

def furtherText (ivs : List Interval) : List Char :=
  ivs.flatMap fun iv => ", ".toList ++ iv.text.toList

theorem intercalate_cons {α : Type} (sep first : List α) (rest : List (List α)) :
    sep.intercalate (first :: rest) = first ++ rest.flatMap (sep ++ ·) := by
  induction rest generalizing first with
  | nil => simp
  | cons second rest ih =>
      simp only [List.intercalate_cons_cons, ih, List.flatMap_cons, List.append_assoc]

theorem toList_commaText (iv : Interval) (ivs : List Interval) :
    (", ".intercalate ((iv :: ivs).map Interval.text)).toList =
      iv.text.toList ++ furtherText ivs := by
  rw [String.toList_intercalate, List.map_cons, List.map_cons, intercalate_cons, furtherText,
    List.flatMap_map, List.flatMap_map]

def isSetChar (x : Char) : Bool := isIntervalChar x || x == ','

theorem stops_of_isSetChar (hs : Stops isSetChar s) : Stops isIntervalChar s :=
  hs.mono fun x hx => by simp [isSetChar, hx]

theorem stops_furtherText (ivs : List Interval) (hs : Stops isSetChar s) :
    Stops isIntervalChar (furtherText ivs ++ s) := by
  cases ivs with
  | nil => exact stops_of_isSetChar hs
  | cons iv ivs => exact stops_cons.2 rfl

theorem furtherText_append_inj {a b : List Interval} (hs : Stops isSetChar s)
    (ht : Stops isSetChar t) (h : furtherText a ++ s = furtherText b ++ t) : a = b ∧ s = t := by
  refine blocks_append_inj (fun iv : Interval => ", ".toList ++ iv.text.toList) (fun _ => True)
    (Stops isSetChar) (Stops isIntervalChar) stops_of_isSetChar (fun _ => stops_cons.2 rfl) ?_ ?_
    (fun _ _ => trivial) (fun _ _ => trivial) hs ht h
  · intro iv u _ hstops
    cases stops_cons.1 hstops
  · intro iv _ jv u v _ hu hv heq
    rw [List.append_assoc, List.append_assoc] at heq
    exact Interval.text_append_inj hu hv (List.append_cancel_left heq)

theorem CodePointSet.text_append_inj {a b : CodePointSet} (hs : Stops isSetChar s)
    (ht : Stops isSetChar t) (h : a.text.toList ++ s = b.text.toList ++ t) : a = b ∧ s = t := by
  have hfirst {iv : Interval} {ivs : List Interval} {u v : List Char} (hu : Stops isSetChar u) :
      u ≠ (", ".intercalate ((iv :: ivs).map Interval.text)).toList ++ v := by
    rintro rfl
    rw [toList_commaText, Interval.toList_text] at hu
    cases stops_cons.1 hu
  obtain ⟨⟨a⟩⟩ := a
  obtain ⟨⟨b⟩⟩ := b
  simp only [text] at h
  cases a with
  | nil =>
      cases b with
      | nil => exact ⟨rfl, h⟩
      | cons iv ivs => exact absurd h (hfirst hs)
  | cons iv ivs =>
      cases b with
      | nil => exact absurd h.symm (hfirst ht)
      | cons jv jvs =>
          rw [toList_commaText, toList_commaText, List.append_assoc, List.append_assoc] at h
          obtain ⟨rfl, hrest⟩ := Interval.text_append_inj (stops_furtherText ivs hs)
            (stops_furtherText jvs ht) h
          obtain ⟨rfl, hbehind⟩ := furtherText_append_inj hs ht hrest
          exact ⟨rfl, hbehind⟩

end Sets

section Marks

variable {s t : List Char}

theorem Flags.isAlpha_of_mem_letters (flags : Flags) : ∀ x ∈ flags.letters, x.isAlpha = true := by
  have hall : flags.letters.all Char.isAlpha = true := by
    obtain ⟨i, m, x⟩ := flags
    cases i <;> cases m <;> cases x <;> decide
  exact List.all_eq_true.1 hall

theorem Flags.text_append_inj {f g : Flags} (hs : Stops Char.isAlpha s) (ht : Stops Char.isAlpha t)
    (h : f.text.toList ++ s = g.text.toList ++ t) : f = g ∧ s = t := by
  rw [text, text, String.toList_ofList, String.toList_ofList] at h
  obtain ⟨hletters, hrest⟩ :=
    eq_of_append_eq f.isAlpha_of_mem_letters g.isAlpha_of_mem_letters hs ht h
  rw [← ofChars_letters f, hletters, ofChars_letters g]
  exact ⟨rfl, hrest⟩

namespace Toggle

def disabledText (toggle : Toggle) : List Char :=
  (if toggle.disable = .none then [] else '-' :: toggle.disable.text.toList) ++ [')']

theorem toList_text (toggle : Toggle) :
    toggle.text.toList = "(?".toList ++ (toggle.enable.text.toList ++ toggle.disabledText) := by
  by_cases h : toggle.disable = .none
  · simp [text, disabledText, h]
  · simp [text, disabledText, h]

theorem stops_disabledText (toggle : Toggle) : Stops Char.isAlpha (toggle.disabledText ++ s) := by
  by_cases h : toggle.disable = .none
  · rw [disabledText, if_pos h]
    exact stops_cons.2 rfl
  · rw [disabledText, if_neg h]
    exact stops_cons.2 rfl

theorem text_append_inj {a b : Toggle} (h : a.text.toList ++ s = b.text.toList ++ t) :
    a = b ∧ s = t := by
  simp only [toList_text, List.append_assoc] at h
  obtain ⟨henable, hdisabled⟩ := Flags.text_append_inj a.stops_disabledText b.stops_disabledText
    (List.append_cancel_left h)
  have hclose {u : List Char} : Stops Char.isAlpha (')' :: u) := stops_cons.2 rfl
  obtain ⟨enable, disable⟩ := a
  obtain ⟨enable', disable'⟩ := b
  simp only at henable
  by_cases ha : disable = .none
  · by_cases hb : disable' = .none
    · simp only [disabledText, ha, hb, if_true] at hdisabled
      exact ⟨by rw [henable, ha, hb], List.append_cancel_left hdisabled⟩
    · simp [disabledText, ha, hb] at hdisabled
  · by_cases hb : disable' = .none
    · simp [disabledText, ha, hb] at hdisabled
    · simp only [disabledText, ha, hb, if_false, List.cons_append, List.append_assoc,
        List.nil_append] at hdisabled
      obtain ⟨hdisable, hrest⟩ := Flags.text_append_inj hclose hclose (List.cons.inj hdisabled).2
      exact ⟨by rw [henable, hdisable], (List.cons.inj hrest).2⟩

end Toggle

theorem Anchor.text_injective {a b : Anchor} (h : a.text = b.text) : a = b := by
  revert h
  cases a <;> cases b <;> decide

theorem Greediness.text_injective {a b : Greediness} (h : a.text = b.text) : a = b := by
  revert h
  cases a <;> cases b <;> decide

theorem icaseMark_injective {a b : Bool} (h : icaseMark a = icaseMark b) : a = b := by
  revert h
  cases a <;> cases b <;> decide

theorem stops_icaseMark (icase : Bool) : Stops isSetChar (icaseMark icase).toList := by
  cases icase with
  | false => exact stops_nil
  | true => exact stops_cons.2 rfl

namespace Quantifier

def maxText (max : Option Nat) : List Char := (max.map fun n => (toString n).toList).getD []

theorem toList_text (q : Quantifier) : q.text.toList =
    '{' :: ((toString q.min).toList ++ ',' :: (maxText q.max ++
      '}' :: ' ' :: q.greediness.text.toList)) := by
  cases hmax : q.max with
  | none => simp [text, maxText, hmax]
  | some n => simp [text, maxText, hmax]

theorem maxText_append_inj {a b : Option Nat} (h : maxText a ++ '}' :: s = maxText b ++ '}' :: t) :
    a = b ∧ s = t := by
  have hclose (u : List Char) : Stops (isDigit 10) ('}' :: u) := stops_cons.2 rfl
  have hdigits {n : Nat} {u v : List Char} : '}' :: u ≠ (toString n).toList ++ v := fun heq =>
    not_stops_toString n v (heq ▸ hclose u)
  cases a with
  | none =>
      cases b with
      | none => exact ⟨rfl, (List.cons.inj h).2⟩
      | some n => exact absurd h hdigits
  | some m =>
      cases b with
      | none => exact absurd h.symm hdigits
      | some n =>
          obtain ⟨rfl, hrest⟩ := toString_append_inj (hclose s) (hclose t) h
          exact ⟨rfl, (List.cons.inj hrest).2⟩

theorem text_injective {a b : Quantifier} (h : a.text = b.text) : a = b := by
  have hlists := congrArg String.toList h
  simp only [toList_text] at hlists
  obtain ⟨hmin, hrest⟩ := toString_append_inj (stops_cons.2 rfl) (stops_cons.2 rfl)
    (List.cons.inj hlists).2
  obtain ⟨hmax, hbehind⟩ := maxText_append_inj (List.cons.inj hrest).2
  have hgreediness := Greediness.text_injective (String.toList_inj.1 (List.cons.inj hbehind).2)
  cases a
  cases b
  simp only at hmin hmax hgreediness
  rw [hmin, hmax, hgreediness]

end Quantifier

end Marks

inductive Shape where
  | empty
  | char
  | bracket
  | cat
  | alt
  | capture (named : Bool)
  | nonCapturing
  | toggle
  | anchor
  | backRef (named : Bool)
  | loop
  deriving DecidableEq

namespace Shape

def word : Shape → String
  | empty => "Empty"
  | char => ""
  | bracket => "Bracket"
  | cat => "Cat"
  | alt => "Alt"
  | capture false => "CaptureGroup"
  | capture true => "NamedCaptureGroup"
  | nonCapturing => "NonCapturingGroup"
  | toggle => "OptionToggle"
  | anchor => "Anchor"
  | backRef false => "BackRef"
  | backRef true => "NamedBackRef"
  | loop => "Loop"

def all : List Shape :=
  [empty, char, bracket, cat, alt, capture false, capture true, nonCapturing, toggle, anchor,
    backRef false, backRef true, loop]

theorem mem_all (shape : Shape) : shape ∈ all := by
  cases shape with
  | capture named => cases named <;> decide
  | backRef named => cases named <;> decide
  | _ => decide

theorem holds_of_all {p : Shape → Bool} (h : all.all p = true) (shape : Shape) : p shape = true :=
  List.all_eq_true.1 h shape shape.mem_all

theorem word_injective {a b : Shape} (h : a.word = b.word) : a = b := by
  have hall : all.all (fun a => all.all fun b => decide (a.word = b.word → a = b)) = true := by
    decide
  exact of_decide_eq_true (holds_of_all (holds_of_all hall a) b) h

theorem isAlpha_word (shape : Shape) : ∀ x ∈ shape.word.toList, x.isAlpha = true :=
  List.all_eq_true.1 (@holds_of_all (fun shape => shape.word.toList.all Char.isAlpha) (by decide) shape)

end Shape

def groupText (group : Nat) (name : Option String) : List Char :=
  (toString group).toList ++ (name.map fun name => ' ' :: (quoted name).toList).getD []

theorem groupText_inj {m n : Nat} {a b : Option String} (h : groupText m a = groupText n b) :
    m = n ∧ a = b := by
  have hstops (name : Option String) :
      Stops (isDigit 10) ((name.map fun name => ' ' :: (quoted name).toList).getD []) := by
    cases name with
    | none => exact stops_nil
    | some name => exact stops_cons.2 rfl
  obtain ⟨hgroup, hname⟩ := toString_append_inj (hstops a) (hstops b) h
  refine ⟨hgroup, ?_⟩
  cases a with
  | none =>
      cases b with
      | none => rfl
      | some name => cases hname
  | some name =>
      cases b with
      | none => cases hname
      | some other =>
          have hquoted := String.toList_inj.1 (List.cons.inj hname).2
          have happend : (quoted name).toList ++ [] = (quoted other).toList ++ [] := by rw [hquoted]
          rw [(quoted_append_inj happend).1]

namespace Node

def shape : Node → Shape
  | empty => .empty
  | char _ _ => .char
  | bracket _ _ => .bracket
  | cat _ => .cat
  | alt _ => .alt
  | capture _ name _ => .capture name.isSome
  | nonCapturing _ => .nonCapturing
  | toggleRest _ | toggleScoped _ _ => .toggle
  | anchor _ => .anchor
  | backRef _ name => .backRef name.isSome
  | loop _ _ => .loop

def details : Node → List Char
  | char c icase => (quotedChar c).toList ++ (icaseMark icase).toList
  | bracket set icase => ' ' :: (set.text.toList ++ (icaseMark icase).toList)
  | capture group name _ | backRef group name => ' ' :: groupText group name
  | toggleRest toggle => ' ' :: (toggle.text.toList ++ " rest of group".toList)
  | toggleScoped toggle _ => ' ' :: (toggle.text.toList ++ " scoped".toList)
  | anchor kind => ' ' :: kind.text.toList
  | loop quantifier _ => ' ' :: quantifier.text.toList
  | empty | cat _ | alt _ | nonCapturing _ => []

theorem toList_label (node : Node) :
    node.label.toList = node.shape.word.toList ++ node.details := by
  unfold label
  cases node with
  | capture group name body => cases name <;> simp [shape, Shape.word, details, groupText]
  | backRef group name => cases name <;> simp [shape, Shape.word, details, groupText]
  | _ => simp [shape, Shape.word, details]

theorem stops_details (node : Node) : Stops Char.isAlpha node.details := by
  cases node with
  | char c icase =>
      rw [details, toList_quotedChar]
      exact stops_cons.2 rfl
  | empty | cat items | alt branches | nonCapturing body => exact stops_nil
  | _ => exact stops_cons.2 rfl

variable {a b : Node}

theorem shape_details_of_label_eq (h : a.label = b.label) :
    a.shape = b.shape ∧ a.details = b.details := by
  have hlists := congrArg String.toList h
  rw [toList_label, toList_label] at hlists
  obtain ⟨hword, hdetails⟩ := eq_of_append_eq a.shape.isAlpha_word b.shape.isAlpha_word
    a.stops_details b.stops_details hlists
  exact ⟨Shape.word_injective (String.toList_inj.1 hword), hdetails⟩

theorem eq_of_label_eq (hlabel : a.label = b.label) (hchildren : a.children = b.children) : a = b := by
  obtain ⟨hshape, hdetails⟩ := shape_details_of_label_eq hlabel
  cases a with
  | empty =>
      cases b with
      | empty => rfl
      | _ => cases hshape
  | char c icase =>
      cases b with
      | char d other =>
          obtain ⟨rfl, hmark⟩ := quotedChar_append_inj hdetails
          rw [icaseMark_injective (String.toList_inj.1 hmark)]
      | _ => cases hshape
  | bracket set icase =>
      cases b with
      | bracket members other =>
          obtain ⟨rfl, hmark⟩ := CodePointSet.text_append_inj (stops_icaseMark icase)
            (stops_icaseMark other) (List.cons.inj hdetails).2
          rw [icaseMark_injective (String.toList_inj.1 hmark)]
      | _ => cases hshape
  | cat items =>
      cases b with
      | cat others => exact congrArg cat hchildren
      | _ => cases hshape
  | alt branches =>
      cases b with
      | alt others => exact congrArg alt hchildren
      | _ => cases hshape
  | capture group name body =>
      cases b with
      | capture number called inside =>
          obtain ⟨rfl, rfl⟩ := groupText_inj (List.cons.inj hdetails).2
          cases hchildren
          rfl
      | _ => cases hshape
  | nonCapturing body =>
      cases b with
      | nonCapturing inside =>
          cases hchildren
          rfl
      | _ => cases hshape
  | toggleRest toggle =>
      cases b with
      | toggleRest other => rw [(Toggle.text_append_inj (List.cons.inj hdetails).2).1]
      | toggleScoped other inside => cases hchildren
      | _ => cases hshape
  | toggleScoped toggle body =>
      cases b with
      | toggleRest other => cases hchildren
      | toggleScoped other inside =>
          rw [(Toggle.text_append_inj (List.cons.inj hdetails).2).1]
          cases hchildren
          rfl
      | _ => cases hshape
  | anchor kind =>
      cases b with
      | anchor other =>
          rw [Anchor.text_injective (String.toList_inj.1 (List.cons.inj hdetails).2)]
      | _ => cases hshape
  | backRef group name =>
      cases b with
      | backRef number called =>
          obtain ⟨rfl, rfl⟩ := groupText_inj (List.cons.inj hdetails).2
          rfl
      | _ => cases hshape
  | loop quantifier body =>
      cases b with
      | loop other inside =>
          rw [Quantifier.text_injective (String.toList_inj.1 (List.cons.inj hdetails).2)]
          cases hchildren
          rfl
      | _ => cases hshape

end Node

section OneLine

theorem newline_not_mem_of_isAlpha {text : List Char} (h : ∀ x ∈ text, x.isAlpha = true) :
    '\n' ∉ text := by
  intro hmem
  cases h _ hmem

theorem Interval.newline_not_mem_text (iv : Interval) : '\n' ∉ iv.text.toList := by
  have hhex := newline_not_mem_hexText
  by_cases h : iv.first = iv.last
  · simp [toList_text, tail, h, hhex]
  · simp [toList_text, tail, h, hhex]

theorem CodePointSet.newline_not_mem_text (set : CodePointSet) : '\n' ∉ set.text.toList := by
  obtain ⟨⟨ivs⟩⟩ := set
  cases ivs with
  | nil => simp [text]
  | cons iv ivs =>
      rw [text, toList_commaText, furtherText]
      simp [Interval.newline_not_mem_text]

theorem Toggle.newline_not_mem_text (toggle : Toggle) : '\n' ∉ toggle.text.toList := by
  have hflags (flags : Flags) : '\n' ∉ flags.text.toList := by
    rw [Flags.text, String.toList_ofList]
    exact newline_not_mem_of_isAlpha flags.isAlpha_of_mem_letters
  by_cases h : toggle.disable = .none
  · simp [toList_text, disabledText, h, hflags]
  · simp [toList_text, disabledText, h, hflags]

theorem Anchor.newline_not_mem_text (kind : Anchor) : '\n' ∉ kind.text.toList := by
  cases kind <;> decide

theorem Quantifier.newline_not_mem_text (q : Quantifier) : '\n' ∉ q.text.toList := by
  have hgreediness : '\n' ∉ q.greediness.text.toList := by cases q.greediness <;> decide
  cases hmax : q.max with
  | none => simp [toList_text, maxText, hmax, newline_not_mem_digits, hgreediness]
  | some n => simp [toList_text, maxText, hmax, newline_not_mem_digits, hgreediness]

theorem newline_not_mem_groupText (group : Nat) (name : Option String) :
    '\n' ∉ groupText group name := by
  cases name with
  | none => simp [groupText, newline_not_mem_digits]
  | some name => simp [groupText, newline_not_mem_digits, newline_not_mem_quoted]

theorem newline_not_mem_icaseMark (icase : Bool) : '\n' ∉ (icaseMark icase).toList := by
  cases icase <;> decide

theorem Node.newline_not_mem_label (node : Node) : '\n' ∉ node.label.toList := by
  have hword := newline_not_mem_of_isAlpha node.shape.isAlpha_word
  have hdetails : '\n' ∉ node.details := by
    cases node with
    | empty | cat _ | alt _ | nonCapturing _ => simp [details]
    | char c icase => simp [details, newline_not_mem_quotedChar, newline_not_mem_icaseMark]
    | bracket set icase =>
        simp [details, CodePointSet.newline_not_mem_text, newline_not_mem_icaseMark]
    | capture group name _ => simp [details, newline_not_mem_groupText]
    | backRef group name => simp [details, newline_not_mem_groupText]
    | toggleRest toggle => simp [details, Toggle.newline_not_mem_text]
    | toggleScoped toggle _ => simp [details, Toggle.newline_not_mem_text]
    | anchor kind => simp [details, Anchor.newline_not_mem_text]
    | loop q _ => simp [details, Quantifier.newline_not_mem_text]
  rw [toList_label, List.mem_append, not_or]
  exact ⟨hword, hdetails⟩

end OneLine

end Specimen
