import Specimen.Proofs.Pattern.Label
import Specimen.Proofs.Reader.Numbering
import Specimen.Sample.Generate
/-!
An outline can be read back: the lines from the text, the tree from the depths and labels of its lines, and
the groups from the tree and the lines for them.
-/

namespace Specimen

open Text

section Lines

variable {s t : List Char}

def isLead (x : Char) : Bool := x == '.' || x == 'G'

theorem Shape.stops_word {shape : Shape} (hchar : shape ≠ .char) :
    Stops isLead (shape.word.toList ++ s) := by
  have hall : all.all (fun shape => shape == .char ||
      shape.word.toList.head?.any fun x => !isLead x) = true := by decide
  have hlead := holds_of_all hall shape
  rw [beq_false_of_ne hchar, Bool.false_or] at hlead
  cases hword : shape.word.toList with
  | nil =>
      rw [hword] at hlead
      cases hlead
  | cons x rest =>
      rw [hword] at hlead
      exact stops_cons.2 (by simpa using hlead)

theorem Node.stops_label (node : Node) (s : List Char) :
    Stops isLead (node.label.toList ++ s) := by
  rw [toList_label, List.append_assoc]
  cases node with
  | char c icase =>
      rw [details, toList_quotedChar]
      exact stops_cons.2 rfl
  | _ => exact Shape.stops_word (by rintro ⟨⟩)

namespace OutlineLine

theorem toList_text (line : OutlineLine) : line.text.toList =
    List.replicate (2 * line.depth) '.' ++ (line.label.toList ++ ['\n']) := by
  have hdots (depth : Nat) :
      (List.replicate depth "..").flatMap String.toList = List.replicate (2 * depth) '.' := by
    induction depth with
    | zero => rfl
    | succ depth ih =>
        rw [List.replicate_succ, List.flatMap_cons, ih, Nat.mul_succ, Nat.add_comm,
          ← List.replicate_append_replicate]
        rfl
  simp [text, hdots]

def IsOfNode (line : OutlineLine) : Prop := ∃ node : Node, line.label = node.label

theorem text_append_inj {a b : OutlineLine} (ha : a.IsOfNode) (hb : b.IsOfNode)
    (h : a.text.toList ++ s = b.text.toList ++ t) : a = b ∧ s = t := by
  obtain ⟨depth, label⟩ := a
  obtain ⟨depth', label'⟩ := b
  obtain ⟨node, rfl⟩ := ha
  obtain ⟨node', rfl⟩ := hb
  simp only [toList_text, List.append_assoc] at h
  have hdot {node : Node} {u : List Char} : Stops (· == '.') (node.label.toList ++ u) :=
    (node.stops_label u).mono fun x hx => by simp [isLead, hx]
  obtain ⟨hdots, hrest⟩ := eq_of_append_eq (by simp) (by simp) hdot hdot h
  have hkept {node : Node} : ∀ x ∈ node.label.toList, (x != '\n') = true := by
    intro x hx
    refine bne_iff_ne.2 ?_
    rintro rfl
    exact node.newline_not_mem_label hx
  obtain ⟨hlabel, hbehind⟩ :=
    eq_of_append_eq hkept hkept (stops_cons.2 rfl) (stops_cons.2 rfl) hrest
  have hdepth := congrArg List.length hdots
  simp only [List.length_replicate] at hdepth
  refine ⟨?_, (List.cons.inj hbehind).2⟩
  rw [String.toList_inj.1 hlabel, Nat.eq_of_mul_eq_mul_left (by decide) hdepth]

theorem exists_text_eq {line : OutlineLine} (h : line.IsOfNode) (s : List Char) :
    ∃ x rest, line.text.toList ++ s = x :: rest ∧ x ≠ 'G' := by
  obtain ⟨depth, label⟩ := line
  obtain ⟨node, rfl⟩ := h
  simp only [toList_text, List.append_assoc]
  cases depth with
  | zero =>
      have hlead := node.stops_label ('\n' :: s)
      obtain ⟨x, rest, htext⟩ : ∃ x rest, node.label.toList ++ '\n' :: s = x :: rest :=
        List.exists_cons_of_ne_nil (by simp)
      rw [htext, stops_cons] at hlead
      refine ⟨x, rest, htext, ?_⟩
      rintro rfl
      cases hlead
  | succ depth => exact ⟨'.', _, rfl, by decide⟩

theorem texts_append_inj {a b : List OutlineLine} (ha : ∀ line ∈ a, line.IsOfNode)
    (hb : ∀ line ∈ b, line.IsOfNode) (hs : Stops (· != 'G') s) (ht : Stops (· != 'G') t)
    (h : a.flatMap (·.text.toList) ++ s = b.flatMap (·.text.toList) ++ t) : a = b ∧ s = t := by
  refine blocks_append_inj (·.text.toList) IsOfNode (Stops (· != 'G')) (fun _ => True)
    (fun _ => trivial) (fun _ => trivial) ?_ ?_ ha hb hs ht h
  · intro line u hline hstops
    obtain ⟨x, rest, htext, hx⟩ := exists_text_eq hline u
    rw [htext, stops_cons] at hstops
    exact hx (by simpa using hstops)
  · intro line hline other u v hother _ _ heq
    exact text_append_inj (ha line hline) hother heq

end OutlineLine

end Lines

namespace Node

def linesAt (depth : Nat) (node : Node) : List OutlineLine := (node.outlineOnto [] depth).reverse

def linesOf (depth : Nat) (nodes : List Node) : List OutlineLine := nodes.flatMap (linesAt depth)

theorem outlineOnto_eq_outlineAllOnto (node : Node) (done : List OutlineLine) (depth : Nat) :
    node.outlineOnto done depth =
      outlineAllOnto (⟨depth, node.label⟩ :: done) (depth + 1) node.children := by
  cases node <;> rfl

theorem outlineAllOnto_eq {nodes : List Node}
    (h : ∀ node ∈ nodes, ∀ done depth,
      node.outlineOnto done depth = (node.linesAt depth).reverse ++ done)
    (done : List OutlineLine) (depth : Nat) :
    outlineAllOnto done depth nodes = (linesOf depth nodes).reverse ++ done := by
  induction nodes generalizing done with
  | nil => rfl
  | cons node rest ih =>
      rw [outlineAllOnto, h node List.mem_cons_self,
        ih fun node hnode => h node (List.mem_cons_of_mem _ hnode)]
      simp [linesOf]

theorem outlineOnto_eq (node : Node) : ∀ done depth,
    node.outlineOnto done depth = (node.linesAt depth).reverse ++ done := by
  induction node using induction_children with
  | h node ih =>
      intro done depth
      have hchildren := outlineAllOnto_eq ih
      rw [linesAt, List.reverse_reverse, outlineOnto_eq_outlineAllOnto, hchildren,
        outlineOnto_eq_outlineAllOnto, hchildren]
      simp

theorem linesAt_eq (node : Node) (depth : Nat) :
    node.linesAt depth = ⟨depth, node.label⟩ :: linesOf (depth + 1) node.children := by
  rw [linesAt, outlineOnto_eq_outlineAllOnto, outlineAllOnto_eq fun child _ => child.outlineOnto_eq]
  simp

def Surfaces (depth : Nat) (lines : List OutlineLine) : Prop :=
  ∀ line, lines.head? = some line → line.depth ≤ depth

theorem Surfaces.mono {depth deeper : Nat} {s : List OutlineLine} (h : Surfaces depth s)
    (hle : depth ≤ deeper) : Surfaces deeper s :=
  fun line hline => Nat.le_trans (h line hline) hle

theorem surfaces_linesAt {node : Node} {depth limit : Nat} (s : List OutlineLine) :
    Surfaces limit (node.linesAt depth ++ s) ↔ depth ≤ limit := by
  simp [Surfaces, linesAt_eq]

theorem linesAt_append_inj (node : Node) : ∀ {depth : Nat} {other : Node}
    {s t : List OutlineLine}, Surfaces depth s → Surfaces depth t →
    node.linesAt depth ++ s = other.linesAt depth ++ t → node = other ∧ s = t := by
  induction node using induction_children with
  | h node ih =>
      intro depth other s t hs ht heq
      rw [linesAt_eq, linesAt_eq, List.cons_append, List.cons_append, List.cons.injEq,
        OutlineLine.mk.injEq] at heq
      obtain ⟨⟨_, hlabel⟩, hrest⟩ := heq
      -- The children come one level deeper than all that may follow them.
      obtain ⟨hchildren, hbehind⟩ := blocks_append_inj (linesAt (depth + 1)) (fun _ => True)
        (Surfaces depth) (Surfaces (depth + 1)) (fun hu => hu.mono (Nat.le_succ depth))
        (fun _ => (surfaces_linesAt _).2 (Nat.le_refl _))
        (fun _ hu => Nat.not_succ_le_self depth ((surfaces_linesAt _).1 hu))
        (fun child hchild _ _ _ _ hu hv heq => ih child hchild hu hv heq)
        (fun _ _ => trivial) (fun _ _ => trivial) hs ht hrest
      exact ⟨eq_of_label_eq hlabel hchildren, hbehind⟩

theorem isOfNode_of_mem_linesAt (node : Node) :
    ∀ {depth : Nat}, ∀ line ∈ node.linesAt depth, line.IsOfNode := by
  induction node using induction_children with
  | h node ih =>
      intro depth line hline
      rw [linesAt_eq, List.mem_cons] at hline
      rcases hline with rfl | hline
      · exact ⟨node, rfl⟩
      · obtain ⟨child, hchild, hline⟩ := List.mem_flatMap.1 hline
        exact ih child hchild line hline

end Node

section Groups

variable {s t : List Char}

def GroupInfo.nameText (info : GroupInfo) : List Char :=
  (info.name.map fun name => " <".toList ++ (name.toList ++ ['>'])).getD []

theorem GroupInfo.toList_text (info : GroupInfo) (group : Nat) : (info.text group).toList =
    "Group ".toList ++ ((toString group).toList ++ (" at ".toList ++
      ((toString info.offset).toList ++ (info.nameText ++ ['\n'])))) := by
  cases hname : info.name with
  | none => simp [text, nameText, hname]
  | some name => simp [text, nameText, hname]

def groupLines (first : Nat) (infos : List GroupInfo) : List Char :=
  (infos.zipIdx first).flatMap fun entry => (entry.1.text entry.2).toList

theorem groupLines_cons (first : Nat) (info : GroupInfo) (infos : List GroupInfo) :
    groupLines first (info :: infos) = (info.text first).toList ++ groupLines (first + 1) infos := by
  rw [groupLines, List.zipIdx_cons, List.flatMap_cons]
  rfl

theorem stops_groupLines (first : Nat) (infos : List GroupInfo) :
    Stops (· != 'G') (groupLines first infos) := by
  cases infos with
  | nil => exact stops_nil
  | cons info infos =>
      rw [groupLines_cons, GroupInfo.toList_text]
      exact stops_cons.2 rfl

theorem groupLines_inj {first : Nat} {a b : List GroupInfo} (hnames : a.map (·.name) = b.map (·.name))
    (h : groupLines first a = groupLines first b) : a = b := by
  induction a generalizing b first with
  | nil =>
      cases b with
      | nil => rfl
      | cons info infos => cases hnames
  | cons info infos ih =>
      cases b with
      | nil => cases hnames
      | cons other others =>
          rw [List.map_cons, List.map_cons, List.cons.injEq] at hnames
          obtain ⟨hname, hnames⟩ := hnames
          have hstops (info : GroupInfo) (u : List Char) :
              Stops (isDigit 10) (info.nameText ++ '\n' :: u) := by
            cases hname : info.name with
            | none => simp [GroupInfo.nameText, hname, stops_cons]; rfl
            | some name => simp [GroupInfo.nameText, hname, stops_cons]; rfl
          have htext : info.nameText = other.nameText := by
            rw [GroupInfo.nameText, GroupInfo.nameText, hname]
          simp only [groupLines_cons, GroupInfo.toList_text, List.append_assoc,
            List.append_cancel_left_eq, List.singleton_append] at h
          obtain ⟨hoffset, hrest⟩ := toString_append_inj (hstops info _) (hstops other _) h
          rw [htext] at hrest
          have hbehind := (List.cons.inj (List.append_cancel_left hrest)).2
          rw [ih hnames hbehind]
          cases info
          cases other
          simp only at hname hoffset
          rw [hname, hoffset]

theorem GroupTable.map_name_eq (table : GroupTable) :
    table.groups.toList.map (·.name) = table.numbered.map Prod.snd := by
  refine List.ext_getElem (by simp [numbered, count]) fun n hn _ => ?_
  rw [List.length_map, Array.length_toList] at hn
  simp [numbered, name?, get?, Nat.add_comm 1 n, hn]

end Groups

open Reader

namespace Pattern

variable {text text' : String} {flags flags' : Flags} {p q : Pattern}

theorem toList_outline (p : Pattern) : p.outline.toList =
    (p.root.linesAt 0).flatMap (·.text.toList) ++ groupLines 1 p.groups.groups.toList := by
  rw [outline, String.toList_append, String.toList_join, String.toList_join, List.flatMap_map,
    List.flatMap_map]
  rfl

theorem captures_of_read (h : Pattern.read text flags = .ok p) :
    captures (p.root.visits []) = p.groups.numbered := by
  obtain ⟨s, hs, hvisits, rfl⟩ := exists_numbered h
  rw [hvisits]
  exact hs.captures

theorem eq_of_outline_eq (hp : Pattern.read text flags = .ok p)
    (hq : Pattern.read text' flags' = .ok q) (h : p.outline = q.outline) :
    p.root = q.root ∧ p.groups = q.groups ∧ ∀ limits, p.examples limits = q.examples limits := by
  have hlists := congrArg String.toList h
  rw [toList_outline, toList_outline] at hlists
  obtain ⟨hlines, hgroups⟩ := OutlineLine.texts_append_inj p.root.isOfNode_of_mem_linesAt
    q.root.isOfNode_of_mem_linesAt (stops_groupLines _ _) (stops_groupLines _ _) hlists
  have hend : Node.Surfaces 0 [] := by
    intro line hline
    cases hline
  have hroot : p.root = q.root := by
    refine (p.root.linesAt_append_inj hend hend ?_).1
    rw [List.append_nil, List.append_nil]
    exact hlines
  have hnumbered : p.groups.numbered = q.groups.numbered := by
    rw [← captures_of_read hp, ← captures_of_read hq, hroot]
  have hnames : p.groups.groups.toList.map (·.name) = q.groups.groups.toList.map (·.name) := by
    rw [GroupTable.map_name_eq, GroupTable.map_name_eq, hnumbered]
  refine ⟨hroot, ?_, fun limits => ?_⟩
  · have hinfos := Array.toList_inj.1 (groupLines_inj hnames hgroups)
    cases hpg : p.groups
    cases hqg : q.groups
    rw [hpg, hqg] at hinfos
    exact congrArg GroupTable.mk hinfos
  · rw [examples, examples, hroot]

theorem eq_of_outline_eq_spellings :
    ∃ p q, Pattern.read "(\\n)[bc]*" .none = .ok p ∧
      Pattern.read "(\\x0a)[b-c]\x7b0,\x7d" ⟨false, true, true⟩ = .ok q ∧
      p.root = q.root ∧ p.groups = q.groups ∧ ∀ limits, p.examples limits = q.examples limits := by
  let lines := "Cat\n..CaptureGroup 1\n....'\\n'\n..Loop \x7b0,\x7d Greedy\n....Bracket 0x62-0x63\n" ++
    "Group 1 at 0\n"
  have hletter : (Pattern.read "(\\n)[bc]*" .none).toOption.map outline = some lines := by
    decide +kernel
  have hdigits : (Pattern.read "(\\x0a)[b-c]\x7b0,\x7d" ⟨false, true, true⟩).toOption.map outline =
      some lines := by
    decide +kernel
  obtain ⟨p, hp, houtline⟩ := exists_of_read hletter
  obtain ⟨q, hq, hsame⟩ := exists_of_read hdigits
  exact ⟨p, q, hp, hq, eq_of_outline_eq hp hq (houtline.trans hsame.symm)⟩

end Pattern

end Specimen
