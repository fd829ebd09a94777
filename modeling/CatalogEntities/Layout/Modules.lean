import CatalogEntities.Layout.Template

/-!
The two templates: the module of an entity and the entry module of the package.
-/

namespace CatalogEntities.Layout

private def line (indent : String) (r : Reference) : List Piece :=
  [.text indent, .output r, .text "\n"]

private def eachLine (indent item source : String) : Piece :=
  .each item ⟨source, none⟩ (line indent ⟨item, none⟩)

/-- Comment lines, and the import groups with an empty line before each. -/
def headPieces : Template := [
  eachLine "# " "line" "header_lines",
  .each "group" ⟨"import_groups", none⟩ [.text "\n", eachLine "" "line" "group"]]

def entityTemplate : Template := headPieces ++ [
  Piece.when ⟨"type_checking_imports", none⟩ [
    .text "\nif TYPE_CHECKING:\n", eachLine "    " "line" "type_checking_imports"],
  .each "enum" ⟨"enums", none⟩ [
    .text "\n\nclass ", .output ⟨"enum", some "name"⟩, .text "(str, enum.Enum):\n",
    .each "member" ⟨"enum", some "members"⟩ [
      .text "    ", .output ⟨"member", some "name"⟩, .text " = ", .output ⟨"member", some "value"⟩,
      .text "\n"]],
  .text "\n\nclass ", .output ⟨"class_name", none⟩, .text "(", .output ⟨"base_class", none⟩,
  .text "):\n    __tablename__ = ", .output ⟨"table_name", none⟩, .text "\n",
  .when ⟨"columns", none⟩ [.text "\n"],
  .each "column" ⟨"columns", none⟩ (
    .each "comment" ⟨"column", some "comment_lines"⟩ (line "    #: " ⟨"comment", none⟩) ::
      line "    " ⟨"column", some "statement"⟩),
  .when ⟨"mapper_args", none⟩ (.text "\n" :: line "    " ⟨"mapper_args", none⟩),
  .each "section" ⟨"relation_sections", none⟩ [.text "\n", eachLine "    " "statement" "section"]]

def entryTemplate : Template := headPieces ++ [
  Piece.when ⟨"entity_imports", none⟩ [.text "\n", eachLine "" "line" "entity_imports"],
  .text "\nload_dotenv()\n\n", .output ⟨"entities_assign", none⟩, .text "\n\n",
  .output ⟨"data_source_assign", none⟩, .text "\n\n", .output ⟨"all_assign", none⟩, .text "\n"]

def entityTemplateName : String := "entity.py.j2"

def entryTemplateName : String := "index.py.j2"

/-- Templates by name. -/
def template? (name : String) : Option Template :=
  if name == entityTemplateName then some entityTemplate
  else if name == entryTemplateName then some entryTemplate
  else none

end CatalogEntities.Layout
