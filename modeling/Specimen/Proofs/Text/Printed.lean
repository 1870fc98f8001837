import Specimen.Text.Digit
import Specimen.Text.Quoted

namespace Specimen.Text

def Stops (p : Char → Bool) (text : List Char) : Prop := ∀ x, text.head? = some x → p x = false

section Stops

variable {p : Char → Bool} {a b s t : List Char} {x : Char}

theorem stops_nil : Stops p [] := by
  intro x h
  cases h

theorem stops_cons : Stops p (x :: t) ↔ p x = false := by
  simp [Stops]

theorem Stops.mono {q : Char → Bool} (h : Stops p s) (hq : ∀ x, q x = true → p x = true) :
    Stops q s := by
  intro x hx
  refine Bool.eq_false_iff.2 fun hholds => ?_
  have hstop := h x hx
  rw [hq x hholds] at hstop
  cases hstop

theorem takeWhile_append_of_stops (ha : ∀ x ∈ a, p x = true) (hs : Stops p s) :
    (a ++ s).takeWhile p = a := by
  have hnil : s.takeWhile p = [] := by
    cases s with
    | nil => rfl
    | cons x s => rw [List.takeWhile_cons, stops_cons.1 hs]; rfl
  rw [List.takeWhile_append_of_pos ha, hnil, List.append_nil]

theorem eq_of_append_eq (ha : ∀ x ∈ a, p x = true) (hb : ∀ x ∈ b, p x = true) (hs : Stops p s)
    (ht : Stops p t) (h : a ++ s = b ++ t) : a = b ∧ s = t := by
  have heq : a = b := by
    rw [← takeWhile_append_of_stops ha hs, h, takeWhile_append_of_stops hb ht]
  rw [heq] at h
  exact ⟨heq, List.append_cancel_left h⟩

end Stops

theorem blocks_append_inj {α β : Type} (code : α → List β) (IsBlock : α → Prop)
    (Ends Follows : List β → Prop) {as bs : List α} {s t : List β}
    (hends : ∀ {u}, Ends u → Follows u) (hnext : ∀ {a u}, IsBlock a → Follows (code a ++ u))
    (hfirst : ∀ {a u}, IsBlock a → ¬ Ends (code a ++ u))
    (hblock : ∀ a ∈ as, ∀ {b u v}, IsBlock b → Follows u → Follows v → code a ++ u = code b ++ v →
      a = b ∧ u = v)
    (has : ∀ a ∈ as, IsBlock a) (hbs : ∀ b ∈ bs, IsBlock b) (hs : Ends s) (ht : Ends t)
    (h : as.flatMap code ++ s = bs.flatMap code ++ t) : as = bs ∧ s = t := by
  have hfollows {cs : List α} {u : List β} (hcs : ∀ c ∈ cs, IsBlock c) (hu : Ends u) :
      Follows (cs.flatMap code ++ u) := by
    cases cs with
    | nil => exact hends hu
    | cons c cs =>
        rw [List.flatMap_cons, List.append_assoc]
        exact hnext (hcs c List.mem_cons_self)
  have hdone {c : α} {cs : List α} {u v : List β} (hc : IsBlock c) (hu : Ends u) :
      u ≠ (c :: cs).flatMap code ++ v := by
    rintro rfl
    rw [List.flatMap_cons, List.append_assoc] at hu
    exact hfirst hc hu
  induction as generalizing bs with
  | nil =>
      cases bs with
      | nil => exact ⟨rfl, h⟩
      | cons b bs => exact absurd h (hdone (hbs b List.mem_cons_self) hs)
  | cons a as ih =>
      cases bs with
      | nil => exact absurd h.symm (hdone (has a List.mem_cons_self) ht)
      | cons b bs =>
          have hothers := fun c hc => has c (List.mem_cons_of_mem a hc)
          have hrest := fun c hc => hbs c (List.mem_cons_of_mem b hc)
          rw [List.flatMap_cons, List.flatMap_cons, List.append_assoc, List.append_assoc] at h
          obtain ⟨rfl, hbehind⟩ := hblock a List.mem_cons_self (hbs b List.mem_cons_self)
            (hfollows hothers hs) (hfollows hrest ht) h
          obtain ⟨rfl, hend⟩ :=
            ih (fun c hc => hblock c (List.mem_cons_of_mem a hc)) hothers hrest hbehind
          exact ⟨rfl, hend⟩

section Digits

variable {base : Nat} {m n : Nat} {s t : List Char}

theorem digit?_digitChar {d : Nat} (hbase : base ≤ 16) (hd : d < base) :
    digit? base d.digitChar = some d := by
  have hhex : ∀ d < 16, hexDigit? d.digitChar = some d := by decide
  rw [digit?, hhex d (by omega), Option.filter_some, if_pos (by simpa using hd)]

theorem numeralFrom_append (value : Nat) (front back : List Char) :
    numeralFrom base value (front ++ back) = numeralFrom base (numeralFrom base value front) back :=
  List.foldl_append

theorem toDigits_spec (hlow : 1 < base) (hhigh : base ≤ 16) (n : Nat) :
    (∀ x ∈ Nat.toDigits base n, isDigit base x = true) ∧ numeral base (Nat.toDigits base n) = n := by
  induction n using Nat.strongRecOn with
  | ind n ih =>
      have hdigit (d : Nat) (hd : d < base) :
          isDigit base d.digitChar = true ∧ ∀ value,
            numeralFrom base value [d.digitChar] = value * base + d := by
        have hvalue := digit?_digitChar hhigh hd
        exact ⟨by rw [isDigit, hvalue]; rfl, fun value => by simp [numeralFrom, hvalue]⟩
      rw [Nat.toDigits_eq_if hlow]
      by_cases hn : n < base
      · rw [if_pos hn]
        obtain ⟨hlast, hvalue⟩ := hdigit n hn
        exact ⟨by simpa using hlast, by rw [numeral, hvalue, Nat.zero_mul, Nat.zero_add]⟩
      · rw [if_neg hn]
        obtain ⟨hlast, hvalue⟩ := hdigit (n % base) (Nat.mod_lt n (by omega))
        obtain ⟨hfront, hn⟩ := ih (n / base) (Nat.div_lt_self (by omega) hlow)
        constructor
        · intro x hx
          rcases List.mem_append.1 hx with hx | hx
          · exact hfront x hx
          · rw [List.mem_singleton.1 hx]
            exact hlast
        · have hnumeral : numeralFrom base 0 (Nat.toDigits base (n / base)) = n / base := hn
          rw [numeral, numeralFrom_append, hnumeral, hvalue, Nat.mul_comm]
          exact Nat.div_add_mod n base

theorem toDigits_append_inj (hlow : 1 < base) (hhigh : base ≤ 16) (hs : Stops (isDigit base) s)
    (ht : Stops (isDigit base) t) (h : Nat.toDigits base m ++ s = Nat.toDigits base n ++ t) :
    m = n ∧ s = t := by
  obtain ⟨hm, hmvalue⟩ := toDigits_spec hlow hhigh m
  obtain ⟨hn, hnvalue⟩ := toDigits_spec hlow hhigh n
  obtain ⟨hdigits, hrest⟩ := eq_of_append_eq hm hn hs ht h
  rw [← hmvalue, hdigits, hnvalue]
  exact ⟨rfl, hrest⟩

theorem hexText_append_inj (hs : Stops (isDigit 16) s) (ht : Stops (isDigit 16) t)
    (h : (hexText m).toList ++ s = (hexText n).toList ++ t) : m = n ∧ s = t := by
  rw [hexText, hexText, String.toList_ofList, String.toList_ofList] at h
  exact toDigits_append_inj (by decide) (by decide) hs ht h

theorem toString_append_inj (hs : Stops (isDigit 10) s) (ht : Stops (isDigit 10) t)
    (h : (toString m).toList ++ s = (toString n).toList ++ t) : m = n ∧ s = t := by
  rw [Nat.toString_eq_ofList_toDigits, Nat.toString_eq_ofList_toDigits, String.toList_ofList,
    String.toList_ofList] at h
  exact toDigits_append_inj (by decide) (by decide) hs ht h

theorem not_stops_toString (n : Nat) (t : List Char) :
    ¬ Stops (isDigit 10) ((toString n).toList ++ t) := by
  rw [Nat.toString_eq_ofList_toDigits, String.toList_ofList]
  obtain ⟨x, rest, htext⟩ := List.exists_cons_of_ne_nil (@Nat.toDigits_ne_nil n 10)
  have hx := (@toDigits_spec 10 (by decide) (by decide) n).1 x (by rw [htext]; exact .head _)
  rw [htext, List.cons_append, stops_cons, hx]
  decide

theorem newline_not_mem_digits {base : Nat} (hlow : 1 < base) (hhigh : base ≤ 16) (n : Nat) :
    '\n' ∉ Nat.toDigits base n := by
  intro h
  have hdigit : isDigit base '\n' = true := (toDigits_spec hlow hhigh n).1 _ h
  cases hdigit

theorem newline_not_mem_hexText (n : Nat) : '\n' ∉ (hexText n).toList := by
  rw [hexText, String.toList_ofList]
  exact newline_not_mem_digits (by decide) (by decide) n

end Digits

section Quoting

variable {quote c d : Char} {s t : List Char}

def meaning : Char → Char
  | '0' => '\x00'
  | 't' => '\t'
  | 'n' => '\n'
  | 'r' => '\r'
  | mark => mark

def unescape : List Char → Char × List Char
  | '\\' :: 'u' :: '{' :: text =>
      (.ofNat (numeral 16 (text.takeWhile (isDigit 16))), (text.dropWhile (isDigit 16)).tail)
  | '\\' :: mark :: text => (meaning mark, text)
  | c :: text => (c, text)
  | [] => ('\x00', [])

theorem escaped_cases (hquote : quote = '\'' ∨ quote = '"') (c : Char) :
    (∃ mark, (escaped quote c).toList = ['\\', mark] ∧ mark ≠ 'u' ∧ mark ≠ '\n' ∧ meaning mark = c) ∨
      (escaped quote c).toList = '\\' :: 'u' :: '{' :: (Nat.toDigits 16 c.toNat ++ ['}']) ∨
      (escaped quote c).toList = [c] ∧ c ≠ '\\' ∧ c ≠ quote ∧ c ≠ '\n' := by
  have hshort {mark : Char} {text : String} (htext : text.toList = ['\\', mark]) (hu : mark ≠ 'u')
      (hn : mark ≠ '\n') (hc : c = meaning mark) :
      ∃ mark, text.toList = ['\\', mark] ∧ mark ≠ 'u' ∧ mark ≠ '\n' ∧ meaning mark = c :=
    ⟨mark, htext, hu, hn, hc.symm⟩
  simp only [escaped]
  split
  · exact .inl (hshort rfl (by decide) (by decide) ‹_›)
  split
  · exact .inl (hshort rfl (by decide) (by decide) ‹_›)
  split
  · exact .inl (hshort rfl (by decide) (by decide) ‹_›)
  split
  · exact .inl (hshort rfl (by decide) (by decide) ‹_›)
  split
  · exact .inl (hshort rfl (by decide) (by decide) ‹_›)
  split
  · next hc =>
      refine .inl (hshort String.toList_ofList ?_ ?_ ?_)
      all_goals rcases hquote with rfl | rfl
      all_goals first | decide | exact hc
  split
  · exact .inr (.inl (by simp [hexText]))
  · next hfeed _ hbackslash hmark _ =>
      exact .inr (.inr ⟨String.toList_singleton c, hbackslash, hmark, hfeed⟩)

theorem unescape_escaped (hquote : quote = '\'' ∨ quote = '"') :
    unescape ((escaped quote c).toList ++ s) = (c, s) := by
  obtain ⟨mark, htext, hu, _, hmeaning⟩ | htext | ⟨htext, hbackslash, _⟩ := escaped_cases hquote c
  · rw [htext, ← hmeaning]
    simp [unescape, hu]
  · obtain ⟨hdigits, hvalue⟩ := @toDigits_spec 16 (by decide) (by decide) c.toNat
    have hclose : Stops (isDigit 16) ('}' :: s) := stops_cons.2 (by decide)
    have happend : (escaped quote c).toList ++ s =
        '\\' :: 'u' :: '{' :: (Nat.toDigits 16 c.toNat ++ '}' :: s) := by
      simp [htext]
    rw [happend, unescape, takeWhile_append_of_stops hdigits hclose, hvalue, Char.ofNat_toNat,
      List.dropWhile_append_of_pos hdigits, List.dropWhile_cons, stops_cons.1 hclose]
    rfl
  · rw [htext]
    simp [unescape, hbackslash]

theorem escaped_append_inj (hquote : quote = '\'' ∨ quote = '"')
    (h : (escaped quote c).toList ++ s = (escaped quote d).toList ++ t) : c = d ∧ s = t := by
  have hread := congrArg unescape h
  rw [unescape_escaped hquote, unescape_escaped hquote] at hread
  exact Prod.mk.inj hread

theorem exists_escaped_eq (hquote : quote = '\'' ∨ quote = '"') (c : Char) :
    ∃ x rest, (escaped quote c).toList = x :: rest ∧ x ≠ quote := by
  have hbackslash : '\\' ≠ quote := by rcases hquote with rfl | rfl <;> decide
  obtain ⟨mark, htext, _⟩ | htext | ⟨htext, _, hc, _⟩ := escaped_cases hquote c
  · exact ⟨_, _, htext, hbackslash⟩
  · exact ⟨_, _, htext, hbackslash⟩
  · exact ⟨_, _, htext, hc⟩

theorem newline_not_mem_escaped (hquote : quote = '\'' ∨ quote = '"') (c : Char) :
    '\n' ∉ (escaped quote c).toList := by
  obtain ⟨mark, htext, _, hmark, _⟩ | htext | ⟨htext, _, _, hc⟩ := escaped_cases hquote c
  · simp [htext, hmark.symm]
  · simp [htext, newline_not_mem_digits]
  · simp [htext, hc.symm]

theorem toList_quotedChar (c : Char) :
    (quotedChar c).toList = '\'' :: ((escaped '\'' c).toList ++ ['\'']) := by
  simp [quotedChar]

theorem newline_not_mem_quotedChar (c : Char) : '\n' ∉ (quotedChar c).toList := by
  simp [toList_quotedChar, newline_not_mem_escaped]

theorem quotedChar_append_inj (h : (quotedChar c).toList ++ s = (quotedChar d).toList ++ t) :
    c = d ∧ s = t := by
  simp only [toList_quotedChar, List.cons_append, List.append_assoc] at h
  obtain ⟨hchar, hrest⟩ := escaped_append_inj (.inl rfl) (List.cons.inj h).2
  exact ⟨hchar, (List.cons.inj hrest).2⟩

def quotedRest (text : List Char) : List Char := text.flatMap (fun c => (escaped '"' c).toList) ++ ['"']

theorem toList_quoted (text : String) : (quoted text).toList = '"' :: quotedRest text.toList := by
  have hfold (cs : List Char) (out : String) :
      (cs.foldl (fun out c => out ++ escaped '"' c) out).toList =
        out.toList ++ cs.flatMap (fun c => (escaped '"' c).toList) := by
    induction cs generalizing out with
    | nil => simp
    | cons c cs ih => simp [ih]
  simp [quoted, hfold, quotedRest]

theorem quotedRest_append_inj {a b : List Char}
    (h : quotedRest a ++ s = quotedRest b ++ t) : a = b ∧ s = t := by
  have hfirst {c : Char} {u : List Char} :
      ¬ ((escaped '"' c).toList ++ u).head? = some '"' := by
    obtain ⟨x, rest, htext, hx⟩ := exists_escaped_eq (.inr rfl) c
    simpa [htext] using hx
  simp only [quotedRest, List.append_assoc] at h
  obtain ⟨htext, hrest⟩ := blocks_append_inj (fun c => (escaped '"' c).toList) (fun _ => True)
    (fun u => u.head? = some '"') (fun _ => True) (fun _ => trivial) (fun _ => trivial)
    (fun _ => hfirst) (fun _ _ _ _ _ _ _ _ heq => escaped_append_inj (.inr rfl) heq)
    (fun _ _ => trivial) (fun _ _ => trivial) rfl rfl h
  exact ⟨htext, (List.cons.inj hrest).2⟩

theorem newline_not_mem_quoted (text : String) : '\n' ∉ (quoted text).toList := by
  simp [toList_quoted, quotedRest, newline_not_mem_escaped]

theorem quoted_append_inj {a b : String} (h : (quoted a).toList ++ s = (quoted b).toList ++ t) :
    a = b ∧ s = t := by
  rw [toList_quoted, toList_quoted] at h
  obtain ⟨htext, hrest⟩ := quotedRest_append_inj (List.cons.inj h).2
  exact ⟨String.toList_inj.1 htext, hrest⟩

end Quoting

end Specimen.Text
