import CatalogEntities.Layout.Page
import CatalogEntities.Proofs.Layout.Filling

/-!
The text of an entity's page: blocks of lines with empty lines before each.

Main result: `EntityPage.source_eq`.
-/

namespace CatalogEntities.Layout

/-- Lines that stand together, and how many empty lines come before them. -/
structure Block where
  gap : Nat
  lines : List String
  deriving DecidableEq, Repr

def Block.layout (b : Block) : List String := List.replicate b.gap "" ++ b.lines

def EnumPart.lines (d : EnumPart) : List String :=
  ("class " ++ d.name ++ "(str, enum.Enum):") :: d.members.map fun m =>
    "    " ++ m.1 ++ " = " ++ m.2

def ColumnPart.lines (c : ColumnPart) : List String :=
  c.commentLines.map ("    #: " ++ ·) ++ ["    " ++ c.statement]

namespace EntityPage

variable (p : EntityPage)

/-- Classes that only a type checker imports. -/
def guardedBlocks : List Block :=
  if p.typeCheckingImports.isEmpty then []
  else [⟨1, "if TYPE_CHECKING:" :: p.typeCheckingImports.map ("    " ++ ·)⟩]

def classBlock : Block :=
  ⟨2, ["class " ++ p.className ++ "(" ++ p.baseClass ++ "):",
    "    __tablename__ = " ++ p.tableName]⟩

def columnBlocks : List Block :=
  if p.columns.isEmpty then [] else [⟨1, p.columns.flatMap ColumnPart.lines⟩]

/-- The blocks of a page, one after the other. -/
def blocks : List Block :=
  ⟨0, p.headerLines.map ("# " ++ ·)⟩ :: (p.importGroups.map (⟨1, ·⟩) ++ p.guardedBlocks ++
    p.enums.map (fun d => ⟨2, d.lines⟩) ++ p.classBlock :: (p.columnBlocks ++
    p.mapperArguments.toList.map (fun text => ⟨1, ["    " ++ text]⟩) ++
    p.relationSections.map fun statements => ⟨1, statements.map ("    " ++ ·)⟩))

end EntityPage

/-! ### Pieces of the template -/

/-- The fields of a member, a name with the text of its value, as the template knows them. -/
def memberFields (member : String × String) : List (Value × Value) :=
  [(.text "name", .text member.1), (.text "value", .text member.2)]

/-- The fields of an enumeration as the template knows them. -/
def EnumPart.fields (d : EnumPart) : List (Value × Value) :=
  [(.text "name", .text d.name),
    (.text "members", .list (d.members.map fun m => .map (memberFields m)))]

/-- The fields of a column as the template knows them. -/
def ColumnPart.fields (c : ColumnPart) : List (Value × Value) :=
  [(.text "comment_lines", .list (c.commentLines.map .text)),
    (.text "statement", .text c.statement)]

section

variable (names : Names)

theorem fill_member (member : String × String) : Template.fill [
    .text "    ", .output ⟨"member", some "name"⟩, .text " = ",
    .output ⟨"member", some "value"⟩, .text "\n"]
      (("member", .map (memberFields member)) :: names) =
        .ok (layOut ["    " ++ member.1 ++ " = " ++ member.2]) := by
  refine (fill_cons (fill_text _)
    (fill_cons (fill_outputOf (value_of_field (List.lookup_cons_self ..) rfl))
    (fill_cons (fill_text _)
      (fill_cons (fill_outputOf (value_of_field (List.lookup_cons_self ..) rfl))
      (fill_singleton (fill_text _)))))).trans ?_
  simp only [layOut, String.append_empty, String.append_assoc]

theorem fill_enum (d : EnumPart) : Template.fill [
    .text "\n\nclass ", .output ⟨"enum", some "name"⟩, .text "(str, enum.Enum):\n",
    .each "member" ⟨"enum", some "members"⟩ [
      .text "    ", .output ⟨"member", some "name"⟩, .text " = ", .output ⟨"member", some "value"⟩,
      .text "\n"]]
      (("enum", .map d.fields) :: names) = .ok (layOut (Block.layout ⟨2, d.lines⟩)) := by
  have hsource : Reference.value (("enum", .map d.fields) :: names) ⟨"enum", some "members"⟩ =
      .ok (.list (d.members.map fun m => .map (memberFields m))) :=
    value_of_field (List.lookup_cons_self ..) rfl
  have hmembers : Piece.fill (.each "member" ⟨"enum", some "members"⟩ [
      .text "    ", .output ⟨"member", some "name"⟩, .text " = ", .output ⟨"member", some "value"⟩,
      .text "\n"])
      (("enum", .map d.fields) :: names) =
        .ok (layOut (d.members.map fun m => "    " ++ m.1 ++ " = " ++ m.2)) := by
    rw [List.map_eq_flatMap]
    exact fill_eachOf _ hsource (fill_member _)
  refine (fill_cons (fill_text _)
    (fill_cons (fill_outputOf (value_of_field (List.lookup_cons_self ..) rfl))
    (fill_cons (fill_text _) (fill_singleton hmembers)))).trans ?_
  have hstart : "\n\nclass " = "" ++ "\n" ++ ("" ++ "\n" ++ "class ") := by decide +kernel
  have hbases : "(str, enum.Enum):\n" = "(str, enum.Enum):" ++ "\n" := by decide +kernel
  simp only [Block.layout, EnumPart.lines, List.replicate, List.cons_append, List.nil_append,
    layOut, hstart, hbases, String.append_assoc]

theorem fill_column (c : ColumnPart) : Template.fill [
    .each "comment" ⟨"column", some "comment_lines"⟩ [.text "    #: ", .output ⟨"comment", none⟩,
      .text "\n"],
    .text "    ", .output ⟨"column", some "statement"⟩,
    .text "\n"] (("column", .map c.fields) :: names) =
      .ok (layOut c.lines) := by
  refine (fill_cons (fill_eachLineOf "    #: " (value_of_field (List.lookup_cons_self ..) rfl))
    (fill_cons (fill_text _)
      (fill_cons (fill_outputOf (value_of_field (List.lookup_cons_self ..) rfl))
      (fill_singleton (fill_text _))))).trans ?_
  simp only [ColumnPart.lines, layOut_append, layOut, String.append_empty, String.append_assoc]

end

namespace EntityPage

variable (p : EntityPage)

theorem fill_guarded :
    Piece.fill (.when ⟨"type_checking_imports", none⟩ [.text "\nif TYPE_CHECKING:\n",
    .each "line" ⟨"type_checking_imports", none⟩ [.text "    ", .output ⟨"line", none⟩,
      .text "\n"]]) p.names =
      .ok (layOut (p.guardedBlocks.flatMap Block.layout)) := by
  refine (fill_when _ rfl).trans ?_
  rw [List.isEmpty_map, guardedBlocks]
  split
  · rfl
  · refine (fill_cons (fill_text _) (fill_singleton (fill_eachLine "    " rfl))).trans ?_
    have hguard : "\nif TYPE_CHECKING:\n" = "" ++ "\n" ++ ("if TYPE_CHECKING:" ++ "\n") := by
      decide +kernel
    rw [hguard]
    simp only [List.flatMap_cons, List.flatMap_nil, List.append_nil, Block.layout, List.replicate,
      List.cons_append, List.nil_append, layOut, String.append_assoc]

theorem fill_classBlock :
    Template.fill [.text "\n\nclass ", .output ⟨"class_name", none⟩, .text "(",
    .output ⟨"base_class", none⟩, .text "):\n    __tablename__ = ", .output ⟨"table_name", none⟩,
    .text "\n"] p.names =
      .ok (layOut p.classBlock.layout) := by
  refine (fill_cons (fill_text _)
    (fill_cons (fill_output rfl) (fill_cons (fill_text _) (fill_cons (fill_output rfl)
    (fill_cons (fill_text _)
      (fill_cons (fill_output rfl) (fill_singleton (fill_text _)))))))).trans ?_
  have hstart : "\n\nclass " = "" ++ "\n" ++ ("" ++ "\n" ++ "class ") := by decide +kernel
  have hgap : "):\n    __tablename__ = " = "):" ++ "\n" ++ "    __tablename__ = " := by
    decide +kernel
  rw [hstart, hgap]
  simp only [classBlock, Block.layout, List.replicate, List.cons_append, List.nil_append, layOut,
    String.append_empty, String.append_assoc]

theorem fill_columns : Template.fill [.when ⟨"columns", none⟩ [.text "\n"],
    .each "column" ⟨"columns", none⟩ [
      .each "comment" ⟨"column", some "comment_lines"⟩ [.text "    #: ", .output ⟨"comment", none⟩,
        .text "\n"],
      .text "    ", .output ⟨"column", some "statement"⟩, .text "\n"]] p.names =
      .ok (layOut (p.columnBlocks.flatMap Block.layout)) := by
  have hsource : p.names.lookup "columns" = some (.list (p.columns.map fun c => .map c.fields)) :=
    rfl
  have hgap : Piece.fill (.when ⟨"columns", none⟩ [.text "\n"]) p.names =
      .ok (if p.columns.isEmpty then "" else "\n") := by
    refine (fill_when _ hsource).trans ?_
    rw [List.isEmpty_map]
    split
    · rfl
    · exact fill_singleton (fill_text _)
  refine (fill_cons hgap
    (fill_singleton (fill_each ColumnPart.lines hsource (fill_column p.names)))).trans ?_
  rw [columnBlocks]
  split
  · rename_i hempty
    rw [List.isEmpty_iff.mp hempty]
    rfl
  · simp only [List.flatMap_cons, List.flatMap_nil, List.append_nil, Block.layout, List.replicate,
      List.cons_append, List.nil_append, layOut, String.empty_append]

theorem fill_mapperArguments (h : p.mapperArguments ≠ some "") :
    Piece.fill (.when ⟨"mapper_args", none⟩
    [.text "\n", .text "    ", .output ⟨"mapper_args", none⟩, .text "\n"]) p.names =
      .ok (layOut
        ((p.mapperArguments.toList.map fun text =>
          ⟨1, ["    " ++ text]⟩).flatMap Block.layout)) := by
  have hsource :
      p.names.lookup "mapper_args" = some ((p.mapperArguments.map Value.text).getD .null) := rfl
  cases hargs : p.mapperArguments with
  | none =>
    rw [hargs] at hsource
    simp only [Piece.fill, value_of_lookup hsource, bind, Except.bind]
    rfl
  | some text =>
    rw [hargs] at hsource h
    have htruth : (Value.text text).truth = true := by
      simpa [Value.truth] using h
    have hbody : Template.fill [.text "\n", .text "    ", .output ⟨"mapper_args", none⟩,
      .text "\n"] p.names =
        .ok ("\n" ++ ("    " ++ (text ++ "\n"))) :=
      fill_cons (fill_text _)
        (fill_cons (fill_text _) (fill_cons (fill_output hsource) (fill_singleton (fill_text _))))
    simp only [Piece.fill, value_of_lookup hsource, Option.map_some, Option.getD_some, htruth, bind,
      Except.bind,
      ↓reduceIte, hbody, Option.toList_some, List.map_cons, List.map_nil, List.flatMap_cons,
      List.flatMap_nil,
      List.append_nil, Block.layout, List.replicate, List.cons_append, List.nil_append, layOut,
      String.empty_append, String.append_empty, String.append_assoc]

theorem fill_sections : Piece.fill (.each "section" ⟨"relation_sections", none⟩ [.text "\n",
    .each "statement" ⟨"section", none⟩ [.text "    ", .output ⟨"statement", none⟩,
      .text "\n"]]) p.names =
      .ok (layOut
        ((p.relationSections.map fun statements =>
          ⟨1, statements.map ("    " ++ ·)⟩).flatMap Block.layout)) := by
  rw [List.flatMap_map]
  refine fill_each _ rfl fun statements => ?_
  refine (fill_cons (fill_text _)
    (fill_singleton (fill_eachLine "    " (List.lookup_cons_self ..)))).trans ?_
  simp only [Block.layout, List.replicate, List.cons_append, List.nil_append, layOut,
    String.empty_append]

theorem fill_importGroups : Piece.fill (.each "group" ⟨"import_groups", none⟩ [.text "\n",
    .each "line" ⟨"group", none⟩ [.text "", .output ⟨"line", none⟩, .text "\n"]]) p.names =
      .ok (layOut ((p.importGroups.map (⟨1, ·⟩)).flatMap Block.layout)) := by
  rw [List.flatMap_map]
  exact fill_each _ rfl fun group => fill_group (List.lookup_cons_self ..)

theorem fill_enums : Piece.fill (.each "enum" ⟨"enums", none⟩ [
    .text "\n\nclass ", .output ⟨"enum", some "name"⟩, .text "(str, enum.Enum):\n",
    .each "member" ⟨"enum", some "members"⟩ [
      .text "    ", .output ⟨"member", some "name"⟩, .text " = ", .output ⟨"member", some "value"⟩,
      .text "\n"]])
      p.names = .ok (layOut ((p.enums.map fun d => ⟨2, d.lines⟩).flatMap Block.layout)) := by
  have hsource : p.names.lookup "enums" = some (.list (p.enums.map fun d => .map d.fields)) := rfl
  rw [List.flatMap_map]
  exact fill_each _ hsource (fill_enum p.names)

/-- The text of a page is its blocks; only empty mapper arguments would be taken for none. -/
theorem source_eq (h : p.mapperArguments ≠ some "") :
    p.source = .ok (layOut (p.blocks.flatMap Block.layout)) := by
  have hbody := fill_append p.fill_classBlock
    (fill_append p.fill_columns
      (fill_cons (p.fill_mapperArguments h) (fill_singleton p.fill_sections)))
  refine (fill_cons (fill_eachLine "# " rfl)
    (fill_cons p.fill_importGroups (fill_cons p.fill_guarded
    (fill_cons p.fill_enums hbody)))).trans ?_
  simp only [blocks, List.flatMap_cons, List.flatMap_append, layOut_append, String.append_assoc]
  rfl

end EntityPage

end CatalogEntities.Layout
