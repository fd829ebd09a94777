import CatalogEntities.Proofs.Layout.EntityPage
import CatalogEntities.Proofs.Text.Span

/-!
The lines of an entity's module, read off its text: which lines are not blank, and how many blank
lines stand before each of them.

Main result: `EntityPage.source_spaced`.
-/

namespace CatalogEntities.Layout

open Text

/-- The lines of a text; what follows the last line feed is a line, too. -/
def sourceLines (code : String) : List String := (splitAt '\n' code.toList).map String.ofList

def isBlankLine (line : String) : Bool := line.toList.all isBlank

/-- The lines that are not blank, each with the number of blank lines right before it. `n` blank
lines have been passed already. -/
def spaced (n : Nat) : List String → List (Nat × String)
  | [] => []
  | line :: rest => if isBlankLine line then spaced (n + 1) rest else (n, line) :: spaced 0 rest

/-- The lines of a block; its gap is before the first one. -/
def Block.spaced (b : Block) : List (Nat × String) :=
  match b.lines with
  | [] => []
  | first :: more => (b.gap, first) :: more.map (0, ·)

/-- A text that is shown on one line. -/
structure OneLine (s : String) : Prop where
  single : '\n' ∉ s.toList
  shown : ¬ isBlankLine s

instance (s : String) : Decidable (OneLine s) :=
  decidable_of_iff ('\n' ∉ s.toList ∧ ¬ isBlankLine s)
    ⟨fun ⟨single, shown⟩ => ⟨single, shown⟩, fun h => ⟨h.single, h.shown⟩⟩

/-- A block that shows all of its lines, and its gap before one. -/
structure Block.Shown (b : Block) : Prop where
  lines : ∀ line ∈ b.lines, OneLine line
  gap : b.lines = [] → b.gap = 0

/-- All texts that a page lays out. -/
def EntityPage.texts (p : EntityPage) : List String :=
  p.headerLines ++ p.importGroups.flatten ++ p.typeCheckingImports ++
    p.enums.flatMap (fun d => d.name :: d.members.flatMap fun m => [m.1, m.2]) ++
    [p.className, p.baseClass, p.tableName] ++
      p.columns.flatMap (fun c => c.commentLines ++ [c.statement]) ++
    p.mapperArguments.toList ++ p.relationSections.flatten

/-- A page of texts that are shown on one line each, without empty import groups and relation
sections. -/
structure EntityPage.Presentable (p : EntityPage) : Prop where
  texts : ∀ s ∈ p.texts, OneLine s
  importGroups : [] ∉ p.importGroups
  relationSections : [] ∉ p.relationSections

/-! ### Reading lines -/

theorem sourceLines_layOut {lines : List String} (h : ∀ line ∈ lines, '\n' ∉ line.toList) :
    sourceLines (layOut lines) = lines ++ [""] := by
  induction lines with
  | nil => rfl
  | cons line rest ih =>
    obtain ⟨hline, hrest⟩ := List.forall_mem_cons.mp h
    have htext : (layOut (line :: rest)).toList = line.toList ++ '\n' :: (layOut rest).toList := by
      simp [layOut]
    rw [sourceLines, htext, splitAt_append hline, List.map_cons, String.ofList_toList,
      ← sourceLines, ih hrest, List.cons_append]

theorem map_spaced (n : Nat) (lines : List String) :
    (spaced n lines).map (·.2) = lines.filter (!isBlankLine ·) := by
  induction lines generalizing n with
  | nil => rfl
  | cons line rest ih =>
    by_cases hblank : isBlankLine line
    · rw [spaced, if_pos hblank, ih, List.filter_cons_of_neg (by simp [hblank])]
    · rw [spaced, if_neg hblank, List.map_cons, ih, List.filter_cons_of_pos (by simp [hblank])]

theorem spaced_replicate (n gap : Nat) (lines : List String) :
    spaced n (List.replicate gap "" ++ lines) = spaced (n + gap) lines := by
  induction gap generalizing n with
  | zero => rfl
  | succ gap ih =>
    have hblank : isBlankLine "" := rfl
    rw [List.replicate_succ, List.cons_append, spaced, if_pos hblank, ih, Nat.add_right_comm,
      Nat.add_assoc]

theorem spaced_shown {lines : List String} (h : ∀ line ∈ lines, OneLine line)
    (later : List String) :
    spaced 0 (lines ++ later) = lines.map (0, ·) ++ spaced 0 later := by
  induction lines with
  | nil => rfl
  | cons line rest ih =>
    obtain ⟨hline, hrest⟩ := List.forall_mem_cons.mp h
    rw [List.cons_append, spaced, if_neg hline.shown, ih hrest, List.map_cons, List.cons_append]

theorem Block.Shown.spaced_layout {b : Block} (h : b.Shown) (later : List String) :
    Layout.spaced 0 (b.layout ++ later) = b.spaced ++ Layout.spaced 0 later := by
  rw [Block.layout, List.append_assoc, spaced_replicate, Nat.zero_add, Block.spaced]
  cases hlines : b.lines with
  | nil =>
    rw [h.gap hlines]
    rfl
  | cons first more =>
    obtain ⟨hfirst, hmore⟩ := List.forall_mem_cons.mp (hlines ▸ h.lines)
    rw [List.cons_append, Layout.spaced, if_neg hfirst.shown, spaced_shown hmore]
    rfl

/-- Blocks that are shown can be read off the text that they lay out. -/
theorem spaced_blocks {blocks : List Block} (h : ∀ b ∈ blocks, b.Shown) :
    spaced 0 (sourceLines (layOut (blocks.flatMap Block.layout))) =
      blocks.flatMap Block.spaced := by
  have hsingle : ∀ line ∈ blocks.flatMap Block.layout, '\n' ∉ line.toList := by
    intro line hline
    obtain ⟨b, hb, hline⟩ := List.mem_flatMap.mp hline
    rcases List.mem_append.mp hline with hempty | hline
    · rw [List.eq_of_mem_replicate hempty]
      decide
    · exact ((h b hb).lines line hline).single
  rw [sourceLines_layOut hsingle]
  clear hsingle
  induction blocks with
  | nil => rfl
  | cons b rest ih =>
    obtain ⟨hb, hrest⟩ := List.forall_mem_cons.mp h
    rw [List.flatMap_cons, List.append_assoc, hb.spaced_layout, ih hrest, List.flatMap_cons]

theorem Block.map_spaced (b : Block) : b.spaced.map (·.2) = b.lines := by
  rw [Block.spaced]
  cases b.lines with
  | nil => rfl
  | cons first more => simp [Function.comp_def]

/-! ### Lines made of texts -/

/-- What is put around a text leaves it on one line. -/
theorem OneLine.around {s before after : String} (h : OneLine s) (hbefore : '\n' ∉ before.toList)
    (hafter : '\n' ∉ after.toList) : OneLine (before ++ s ++ after) := by
  refine ⟨?_, fun hblank => h.shown ?_⟩
  · simpa only [String.toList_append, List.mem_append, not_or] using ⟨⟨hbefore, h.single⟩, hafter⟩
  · simp only [isBlankLine, String.toList_append, List.all_append, Bool.and_eq_true] at hblank
    exact hblank.1.2

theorem OneLine.behind {s before : String} (h : OneLine s) (hbefore : '\n' ∉ before.toList) :
    OneLine (before ++ s) := by
  have haround := h.around hbefore (by decide : '\n' ∉ "".toList)
  rwa [String.append_empty] at haround

theorem OneLine.behind_all {lines : List String} {before : String} (h : ∀ s ∈ lines, OneLine s)
    (hbefore : '\n' ∉ before.toList) : ∀ line ∈ lines.map (before ++ ·), OneLine line := by
  intro line hline
  obtain ⟨s, hs, rfl⟩ := List.mem_map.mp hline
  exact (h s hs).behind hbefore

theorem EnumPart.lines_shown {d : EnumPart} (hname : OneLine d.name)
    (hmembers : ∀ m ∈ d.members, OneLine m.1 ∧ OneLine m.2) : ∀ line ∈ d.lines, OneLine line := by
  intro line hline
  rcases List.mem_cons.mp hline with rfl | hline
  · exact hname.around (by decide) (by decide)
  · obtain ⟨m, hm, rfl⟩ := List.mem_map.mp hline
    obtain ⟨hmember, hvalue⟩ := hmembers m hm
    exact hvalue.behind (hmember.around (by decide) (by decide)).single

theorem ColumnPart.lines_shown {c : ColumnPart} (hcomments : ∀ s ∈ c.commentLines, OneLine s)
    (hstatement : OneLine c.statement) : ∀ line ∈ c.lines, OneLine line := by
  intro line hline
  rcases List.mem_append.mp hline with hline | hline
  · exact OneLine.behind_all hcomments (by decide) line hline
  · rw [List.mem_singleton.mp hline]
    exact hstatement.behind (by decide)

namespace EntityPage

variable {p : EntityPage}

theorem Presentable.mapperArguments (h : p.Presentable) : p.mapperArguments ≠ some "" := by
  intro hempty
  have hline : OneLine "" := h.texts "" (by simp [EntityPage.texts, hempty])
  exact hline.shown rfl

theorem Presentable.shown (h : p.Presentable) : ∀ b ∈ p.blocks, b.Shown := by
  have htexts := h.texts
  simp only [EntityPage.texts, List.forall_mem_append, List.forall_mem_cons, List.mem_flatten,
    List.mem_flatMap] at htexts
  obtain ⟨⟨⟨⟨⟨⟨⟨hheader, himports⟩, hguarded⟩, henums⟩, hclass, hbase, htable, -⟩, hcolumns⟩,
      hmapper⟩, hsections⟩ := htexts
  intro b hb
  simp only [blocks, List.mem_cons, List.mem_append, List.mem_map] at hb
  -- one case for each kind of block, in the order of the page
  rcases hb with rfl | ((⟨group, hgroup, rfl⟩ | hb) | ⟨d, hd, rfl⟩) | rfl |
    (hb | ⟨text, htext, rfl⟩) |
    ⟨statements, hstatements, rfl⟩
  · exact ⟨OneLine.behind_all hheader (by decide), fun _ => rfl⟩
  · refine ⟨fun line hline => himports line ⟨group, hgroup, hline⟩, fun hempty => ?_⟩
    exact absurd (hempty ▸ hgroup) h.importGroups
  · unfold guardedBlocks at hb
    split at hb
    · contradiction
    · obtain rfl := List.mem_singleton.mp hb
      have hguard : OneLine "if TYPE_CHECKING:" := ⟨by decide, by decide⟩
      exact ⟨List.forall_mem_cons.mpr ⟨hguard, OneLine.behind_all hguarded (by decide)⟩,
        fun hempty => absurd hempty (List.cons_ne_nil _ _)⟩
  · have hmember {m : String × String} (hm : m ∈ d.members) {s : String} (hs : s = m.1 ∨ s = m.2) :
        OneLine s := by
      refine henums s ⟨d, hd, List.mem_cons_of_mem _ (List.mem_flatMap.mpr ⟨m, hm, ?_⟩)⟩
      simpa using hs
    have hmembers : ∀ m ∈ d.members, OneLine m.1 ∧ OneLine m.2 :=
      fun m hm => ⟨hmember hm (Or.inl rfl), hmember hm (Or.inr rfl)⟩
    exact ⟨d.lines_shown (henums _ ⟨d, hd, List.mem_cons_self⟩) hmembers,
      fun hempty => absurd hempty (List.cons_ne_nil _ _)⟩
  · have hname : OneLine ("class " ++ p.className ++ "(" ++ p.baseClass ++ "):") :=
      hbase.around (hclass.around (by decide) (by decide)).single (by decide)
    refine ⟨List.forall_mem_cons.mpr
      ⟨hname, List.forall_mem_singleton.mpr (htable.behind (by decide))⟩,
      fun hempty => absurd hempty (List.cons_ne_nil _ _)⟩
  · unfold columnBlocks at hb
    split at hb
    · contradiction
    · rename_i hsome
      obtain rfl := List.mem_singleton.mp hb
      refine ⟨fun line hline => ?_, fun hempty => ?_⟩
      · obtain ⟨c, hc, hline⟩ := List.mem_flatMap.mp hline
        exact c.lines_shown (fun s hs => hcolumns s ⟨c, hc, by simp [hs]⟩)
          (hcolumns _ ⟨c, hc, by simp⟩) line hline
      · obtain ⟨c, hc⟩ := List.exists_mem_of_ne_nil _ (mt List.isEmpty_iff.mpr hsome)
        have hlines : c.lines = [] := List.flatMap_eq_nil_iff.mp hempty c hc
        simp [ColumnPart.lines] at hlines
  · exact ⟨List.forall_mem_singleton.mpr ((hmapper text htext).behind (by decide)),
      fun hempty => absurd hempty (List.cons_ne_nil _ _)⟩
  · refine ⟨OneLine.behind_all (fun s hs => hsections s ⟨statements, hstatements, hs⟩) (by decide),
      fun hempty => ?_⟩
    exact absurd (List.map_eq_nil_iff.mp hempty ▸ hstatements) h.relationSections

/-- The lines of a page's text that are not blank are the lines of its blocks, and the blank lines
before each are the gaps of the blocks. -/
theorem source_spaced (h : p.Presentable) : ∃ code, p.source = .ok code ∧
    (sourceLines code).filter (!isBlankLine ·) = p.blocks.flatMap Block.lines ∧
    spaced 0 (sourceLines code) = p.blocks.flatMap Block.spaced := by
  have hspaced := spaced_blocks h.shown
  refine ⟨_, p.source_eq h.mapperArguments, ?_, hspaced⟩
  simp only [← map_spaced 0, hspaced, List.map_flatMap, Block.map_spaced]

/-- A page with an enumeration, a comment, mapper arguments and two relation sections, but without
neighbours. -/
def ordersPage : EntityPage where
  headerLines := ["Do not edit."]
  importGroups :=
  [["import enum"], ["import sqlalchemy as sa", "from sqlalchemy.orm import Mapped"]]
  typeCheckingImports := []
  enums := [⟨"State", [("OPEN", "'open'"), ("PAID", "'paid'")]⟩]
  className := "Orders"
  baseClass := "Base"
  tableName := "'orders'"
  columns :=
  [⟨["set by the shop", "or by hand"], "state: Mapped[State]"⟩, ⟨[], "note: Mapped[str]"⟩]
  mapperArguments := some "__mapper_args__ = {}"
  relationSections :=
  [["customer: Mapped[Customer]"], ["lines: Mapped[list[Line]]", "labels: Mapped[list[Label]]"]]

theorem ordersPage_spaced : ordersPage.Presentable ∧ ∃ code, ordersPage.source = .ok code ∧
    spaced 0 (sourceLines code) = [
      (0, "# Do not edit."),
      (1, "import enum"),
      (1, "import sqlalchemy as sa"), (0, "from sqlalchemy.orm import Mapped"),
      (2, "class State(str, enum.Enum):"), (0, "    OPEN = 'open'"), (0, "    PAID = 'paid'"),
      (2, "class Orders(Base):"), (0, "    __tablename__ = 'orders'"),
      (1, "    #: set by the shop"), (0, "    #: or by hand"), (0, "    state: Mapped[State]"),
      (0, "    note: Mapped[str]"),
      (1, "    __mapper_args__ = {}"),
      (1, "    customer: Mapped[Customer]"),
      (1, "    lines: Mapped[list[Line]]"), (0, "    labels: Mapped[list[Label]]")] := by
  have h : ordersPage.Presentable := ⟨by decide +kernel, by decide, by decide⟩
  obtain ⟨code, hcode, -, hspaced⟩ := source_spaced h
  exact ⟨h, code, hcode, hspaced.trans (by decide +kernel)⟩

end EntityPage

end CatalogEntities.Layout
