import CatalogEntities.Code.Expr
import CatalogEntities.Entity.Basic
import CatalogEntities.Number.DecimalText

/-!
The statements of an entity's class: one per column and relation, and the mapper identity of a
table without a primary key.
-/

namespace CatalogEntities

open Catalog Code Text Number

/-- Defaults that are expressions of the database although they look like words. -/
def expressionDefaults : List String := [
  "CURRENT_TIMESTAMP", "CURRENT_DATE", "CURRENT_TIME", "NOW()", "LOCALTIME", "LOCALTIMESTAMP",
  "UUID()"]

/-- A word, and then parentheses up to the end. -/
def isFunctionCall (cs : List Char) : Bool :=
  match cs.dropWhile isWordChar with
  | '(' :: rest => !(cs.takeWhile isWordChar).isEmpty && rest.getLast? == some ')'
  | _ => false

/-- Whether a default is an expression of the database and no literal. -/
def isExpressionDefault (c : Column) : Bool :=
  let raw := upper (trim (c.defaultText.getD "").toList)
  !raw.isEmpty &&
    (occursIn "DEFAULT_GENERATED".toList (upper c.extra.toList) ||
      expressionDefaults.contains (String.ofList raw) ||
      "CURRENT_TIMESTAMP".toList.isPrefixOf raw ||
      isFunctionCall raw)

namespace EntityColumn

/-- A name from the database library. -/
def sa (name : String) : Expr := .field (.name "sa") name

/-- How a default is emitted. -/
inductive Default
  /-- The attribute's own default. -/
  | value (e : Expr)
  /-- A literal that the database applies. -/
  | serverText (raw : String)
  /-- An expression that the database evaluates. -/
  | serverExpression (raw : String)

def Default.keyword : Default → String × Expr
  | .value e => ("default", e)
  | .serverText raw => ("server_default", .text raw)
  | .serverExpression raw => ("server_default", .apply (sa "text") [.text raw] [])

def trueTexts : List String := ["1", "b'1'", "true"]

/-- The default of a column whose catalog default is the literal `raw`. -/
def literalDefault (c : EntityColumn) (raw : String) : Default :=
  match c.enumeration with
  | some e =>
    match e.members.find? (·.value == raw) with
    | some member => .value (.field (.name e.name) member.name)
    | none => .serverText raw
  | none =>
    match c.type.logical with
    | .bool => .value (.bool (trueTexts.contains (String.ofList (lower (trim raw.toList)))))
    | .int =>
      match integerOfText raw with
      | .ok n => .value (.int n)
      | .error _ => .serverText raw
    | .float =>
      match readFloat? raw with
      | some x => .value (.float x)
      | none => .serverText raw
    | .decimal =>
      if isDecimalText raw then .value (.apply (.dotted "decimal.Decimal") [.text raw] [])
      else .serverText raw
    | .text => .value (.text raw)
    | _ => .serverText raw

/-- What becomes of the catalog default; columns that count up have none. -/
def default? (c : EntityColumn) : Option Default :=
  match c.column.defaultText with
  | none => none
  | some raw =>
    if c.column.isAutoIncrement then none
    else if isExpressionDefault c.column then some (.serverExpression raw)
    else some (c.literalDefault raw)

def intLiteral (n : Nat) : Expr := .int n

/-- The type argument of a column. -/
def typeExpr (c : EntityColumn) : Expr :=
  match c.type.transform, c.enumeration with
  | some transform, _ => .apply (.name transform.name) [] []
  | none, some e => .apply (sa "Enum") [.name e.name] [("values_callable", .name "enum_values")]
  | none, none =>
    match c.type.length, c.type.precision with
    | some n, _ => .apply (sa c.type.column) [intLiteral n] []
    | none, some p =>
      .apply (sa c.type.column) (intLiteral p :: c.type.scale.toList.map intLiteral) []
    | none, none => sa c.type.column

/-- The value type of a column as annotated. -/
def valueType (c : EntityColumn) : Expr :=
  match c.enumeration with
  | some e => .name e.name
  | none =>
    if c.type.isUntyped || c.type.logical == .json then .name "Any" else .dotted c.type.logical.name

def valueHint (c : EntityColumn) : Expr :=
  let value := c.valueType
  let value :=
    if c.column.nullable && !c.column.isPrimary then .subscript (.name "Optional") [value]
    else value
  .subscript (.name "Mapped") [value]

/-- The column's name in the database, where it differs from the attribute. -/
def nameArgument (c : EntityColumn) : List Expr :=
  if c.attr == c.column.name then [] else [.text c.column.name]

def foreignKeyArgument (c : EntityColumn) : List Expr :=
  c.foreignKey.toList.map fun key =>
    .apply (sa "ForeignKey") [.text (key.referencedTable ++ "." ++ key.referencedColumn)] []

def keyKeywords (c : EntityColumn) : List (String × Expr) :=
  if c.column.isPrimary then
    [("primary_key", .bool true), ("autoincrement", .bool c.column.isAutoIncrement)]
  else if c.column.nullable then [("nullable", .bool true)]
  else []

def commentKeyword (c : EntityColumn) : List (String × Expr) :=
  match c.column.comment with
  | some comment => if comment.isEmpty then [] else [("comment", .text comment)]
  | none => []

def columnCall (c : EntityColumn) : Expr :=
  .apply (.name "mapped_column") (c.nameArgument ++ c.typeExpr :: c.foreignKeyArgument)
    (c.keyKeywords ++ c.default?.toList.map Default.keyword ++ c.commentKeyword)

/-- `attribute: Mapped[...] = mapped_column(...)`. -/
def statement (c : EntityColumn) : Statement := .annotated c.attr c.valueHint (some c.columnCall)

end EntityColumn

namespace EntityRelation

/-- The target stands between quotes: its module is imported for type checking only. -/
def valueHint (r : EntityRelation) : Expr :=
  let target := Expr.text r.targetClass
  let value :=
    if r.many then .subscript (.name "List") [target]
    else if r.nullable then .subscript (.name "Optional") [target]
    else target
  .subscript (.name "Mapped") [value]

/-- A keyword for a text that is neither missing nor empty. -/
def textKeyword (key : String) (text : Option String) : List (String × Expr) :=
  match text with
  | some s => if s.isEmpty then [] else [(key, .text s)]
  | none => []

def relationCall (r : EntityRelation) : Expr :=
  .apply (.name "relationship") [.text r.targetClass] <|
    textKeyword "secondary" r.secondary ++ textKeyword "foreign_keys" r.foreignKeys ++
    textKeyword "remote_side" r.remoteSide ++ textKeyword "back_populates" r.backPopulates ++
    (if r.viewOnly then [("viewonly", .bool true)] else [])

/-- `name: Mapped[...] = relationship(...)`. -/
def statement (r : EntityRelation) : Statement :=
  .annotated r.name r.valueHint (some r.relationCall)

end EntityRelation

namespace Entity

/-- All columns of a table without a primary key identify its rows. -/
def mapperArguments? (e : Entity) : Option Statement :=
  if e.table.hasPrimaryKey || e.columns.isEmpty then none
  else some <| .assign "__mapper_args__" <|
    .dict [.mk (.text "primary_key") (.names (e.columns.map (·.attr)))]

end Entity

end CatalogEntities
