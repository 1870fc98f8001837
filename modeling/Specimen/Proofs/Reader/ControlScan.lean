import Specimen.Reader.GroupScan
import Specimen.Proofs.Reader.Inert

namespace Specimen.Reader

inductive Control where
  | none
  /-- Behind `\C`. -/
  | hyphen
  /-- Behind `\c` or `\C-`. -/
  | operand
  deriving DecidableEq, Repr

structure ControlScan where
  scan : GroupScan
  control : Control
  deriving DecidableEq, Repr

namespace ControlScan

def start (extended : Bool) : ControlScan := ⟨.start extended, .none⟩

def after (mode : ScanMode) (c : Char) : Control :=
  if mode = .escaped then
    if c = 'c' then .operand else if c = 'C' then .hyphen else .none
  else .none

def step (s : ControlScan) (c : Char) : ControlScan :=
  match s.control with
  | .none => ⟨s.scan.step c, after s.scan.mode c⟩
  | .hyphen => ⟨s.scan.step c, if c = '-' then .operand else .none⟩
  | .operand => ⟨s.scan, .none⟩

def harmless (s : ControlScan) : List Char → Bool
  | [] => true
  | c :: rest => (s.control ≠ .operand || s.scan.step c = s.scan) && (s.step c).harmless rest

theorem scan_step_eq_iff {s : ControlScan} {c : Char} :
    (s.step c).scan = s.scan.step c ↔ s.control ≠ .operand ∨ s.scan.step c = s.scan := by
  rw [step]
  cases hcontrol : s.control with
  | none => simp
  | hyphen => simp
  | operand => simpa using eq_comm

theorem harmless_iff {s : ControlScan} {text : List Char} :
    s.harmless text = true ↔
      ∀ front, front <+: text → (front.foldl step s).scan = front.foldl GroupScan.step s.scan := by
  induction text generalizing s with
  | nil => simp [harmless, List.prefix_nil]
  | cons c rest ih =>
      simp only [harmless, Bool.and_eq_true, Bool.or_eq_true, decide_eq_true_eq,
        ← scan_step_eq_iff, ih]
      constructor
      · rintro ⟨hscan, hrest⟩ front hfront
        rcases List.prefix_cons_iff.mp hfront with rfl | ⟨tail, rfl, htail⟩
        · rfl
        · rw [List.foldl_cons, List.foldl_cons, ← hscan]
          exact hrest tail htail
      · intro h
        have hscan : (s.step c).scan = s.scan.step c := h [c] ⟨rest, rfl⟩
        refine ⟨hscan, fun front hfront => ?_⟩
        rw [hscan]
        exact h (c :: front) ((List.prefix_cons_inj c).mpr hfront)

def countFrom (s : ControlScan) (c : Cursor) : Nat := (c.rest.foldl step s).scan.total

theorem countFrom_reads {s : ControlScan} {c d : Cursor} {text : List Char} (h : c.Reads text d) :
    s.countFrom c = (text.foldl step s).countFrom d := by
  rw [countFrom, countFrom, h.rest_eq, List.foldl_append]

theorem countFrom_next {s : ControlScan} {c d : Cursor} {x : Char} (h : c.next? = some (x, d)) :
    s.countFrom c = (s.step x).countFrom d :=
  countFrom_reads (Cursor.reads_of_next? h)

theorem countFrom_cons (s : ControlScan) (x : Char) (rest : List Char) (offset : Nat) :
    s.countFrom ⟨x :: rest, offset⟩ = (s.step x).countFrom ⟨rest, offset + x.utf8Size⟩ :=
  countFrom_next rfl

theorem countFrom_skip {s : ControlScan} {c d : Cursor} {mark : Char} (h : c.skip? mark = some d) :
    s.countFrom c = (s.step mark).countFrom d :=
  countFrom_reads (Cursor.reads_of_skip? h)

theorem countFrom_congr {s t : ControlScan} {c : Cursor} (htotal : s.scan.total = t.scan.total)
    (hstep : ∀ x d, c.next? = some (x, d) → s.step x = t.step x) :
    s.countFrom c = t.countFrom c := by
  cases hnext : c.next? with
  | some next =>
      obtain ⟨x, d⟩ := next
      rw [countFrom_next hnext, countFrom_next hnext, hstep x d hnext]
  | none =>
      have hrest : c.rest = [] := by
        simp only [Cursor.next?] at hnext
        split at hnext
        · assumption
        · cases hnext
      rw [countFrom, countFrom, hrest]
      exact htotal

end ControlScan

def controlCount (flags : Flags) (text : List Char) : Nat :=
  (text.foldl ControlScan.step (.start flags.extended)).scan.total

theorem countGroups_of_harmless {flags : Flags} {text : List Char}
    (h : (ControlScan.start flags.extended).harmless text = true) :
    countGroups flags text = controlCount flags text := by
  have hscan := ControlScan.harmless_iff.mp h text List.prefix_rfl
  rw [countGroups, controlCount, hscan]
  rfl

section Steps

variable {g : GroupScan} {c : Char}

theorem GroupScan.step_inert (hmode : g.mode = .plain) (hc : isInert c = true) : g.step c = g := by
  have hne (mark : Char) (hmark : isInert mark = false) : c ≠ mark := by
    rintro rfl
    rw [hmark] at hc
    cases hc
  obtain ⟨count, depth, extended, outer, mode⟩ := g
  cases hmode
  simp [step, plainStep, hne '\\' rfl, hne '[' rfl, hne ']' rfl, hne '#' rfl, hne '(' rfl, hne ')' rfl]

theorem GroupScan.step_outside (hmode : g.mode = .plain) (hdepth : g.bracketDepth = 0)
    (hc : c ∉ ['\\', '[', '(', ')']) (hsharp : c = '#' → g.extended = false) : g.step c = g := by
  obtain ⟨count, depth, extended, outer, mode⟩ := g
  cases hmode
  cases hdepth
  simp only [List.mem_cons, List.not_mem_nil, or_false, not_or] at hc
  have hcomment : (c = '#' ∧ extended = true) = False := by
    refine eq_false fun h => ?_
    have := hsharp h.1
    rw [h.2] at this
    cases this
  simp [step, plainStep, hc, hcomment]

theorem GroupScan.step_inside (hmode : g.mode = .plain) (hdepth : 0 < g.bracketDepth)
    (hc : c ∉ ['\\', '[', ']']) : g.step c = g := by
  obtain ⟨count, depth, extended, outer, mode⟩ := g
  cases hmode
  simp only [List.mem_cons, List.not_mem_nil, or_false, not_or] at hc
  simp only at hdepth
  simp [step, plainStep, hc, hdepth]

end Steps

namespace ControlScan

variable {g : GroupScan} {c d : Cursor}

theorem step_none {x : Char} (hmode : g.mode ≠ .escaped) :
    step ⟨g, .none⟩ x = ⟨g.step x, .none⟩ := by
  simp only [step, after]
  rw [if_neg hmode]

def of (g : GroupScan) (mode : ScanMode) : ControlScan := ⟨{ g with mode := mode }, .none⟩

theorem step_of {mode : ScanMode} {x : Char} (hmode : mode ≠ .escaped) :
    (of g mode).step x = ⟨GroupScan.step { g with mode := mode } x, .none⟩ :=
  step_none hmode

theorem step_plain_inert {x : Char} (hx : isInert x = true) : (of g .plain).step x = of g .plain := by
  have hmode : ScanMode.plain ≠ .escaped := by decide
  rw [step_of hmode, GroupScan.step_inert rfl hx, of]

theorem foldl_inert {text : List Char} (h : ∀ x ∈ text, isInert x = true) :
    text.foldl step (of g .plain) = of g .plain := by
  induction text with
  | nil => rfl
  | cons x rest ih =>
      rw [List.foldl_cons, step_plain_inert (h x List.mem_cons_self)]
      exact ih fun y hy => h y (List.mem_cons_of_mem x hy)

theorem countFrom_drifts (h : c.Drifts d) :
    (of g .plain).countFrom c = (of g .plain).countFrom d := by
  obtain ⟨text, hreads, hinert⟩ := h
  rw [countFrom_reads hreads, foldl_inert hinert]

end ControlScan

end Specimen.Reader
