import CatalogEntities.Catalog.EnumLiteral
import CatalogEntities.Number.Integer
import CatalogEntities.Text.Case

/-!
Column types: what a declaration such as `varchar(64)` or `enum('a','b')` means for an entity.
Reading a declaration fails only on a size that looks like a number and has no value.
-/

namespace CatalogEntities.Catalog

open Text Number

/-- The kind of value that an attribute holds. -/
inductive LogicalType
  | int
  | float
  | decimal
  | text
  | bool
  | datetime
  | date
  | time
  | bytes
  | json
  | untyped
  deriving DecidableEq, Repr

/-- The value type as an annotation names it. -/
def LogicalType.name : LogicalType → String
  | .int => "int"
  | .float => "float"
  | .decimal => "decimal.Decimal"
  | .text => "str"
  | .bool => "bool"
  | .datetime => "datetime.datetime"
  | .date => "datetime.date"
  | .time => "datetime.time"
  | .bytes => "bytes"
  | .json => "Any"
  | .untyped => "untyped"

/-- The module that a qualified value type comes from. -/
def LogicalType.module? : LogicalType → Option String
  | .decimal => some "decimal"
  | .datetime | .date | .time => some "datetime"
  | _ => none

/-- Conversions between stored and loaded values. -/
inductive Transform
  | boolean
  | bigInteger
  deriving DecidableEq, Repr

def Transform.name : Transform → String
  | .boolean => "BooleanTransformer"
  | .bigInteger => "BigIntTransformer"

/-- What a keyword stands for: value type, column class, default length and conversion. -/
structure TypeSpec where
  logical : LogicalType
  column : String
  length : Option Nat
  transform : Option Transform
  deriving DecidableEq, Repr

private def spec (logical : LogicalType) (column : String) : TypeSpec :=
  ⟨logical, column, none, none⟩

def typeTable : List (String × TypeSpec) := [
  ("tinyint", ⟨.bool, "SmallInteger", none, some .boolean⟩),
  ("smallint", spec .int "SmallInteger"),
  ("mediumint", spec .int "Integer"),
  ("int", spec .int "Integer"),
  ("integer", spec .int "Integer"),
  ("bigint", ⟨.text, "BigInteger", none, some .bigInteger⟩),
  ("year", spec .int "SmallInteger"),
  ("decimal", spec .decimal "Numeric"),
  ("numeric", spec .decimal "Numeric"),
  ("float", spec .float "Float"),
  ("double", spec .float "Double"),
  ("real", spec .float "Double"),
  ("varchar", ⟨.text, "String", some 255, none⟩),
  ("char", ⟨.text, "String", some 1, none⟩),
  ("tinytext", spec .text "Text"),
  ("text", spec .text "Text"),
  ("mediumtext", spec .text "Text"),
  ("longtext", spec .text "Text"),
  ("datetime", spec .datetime "DateTime"),
  ("timestamp", spec .datetime "DateTime"),
  ("date", spec .date "Date"),
  ("time", spec .time "Time"),
  ("binary", spec .bytes "LargeBinary"),
  ("varbinary", spec .bytes "LargeBinary"),
  ("tinyblob", spec .bytes "LargeBinary"),
  ("blob", spec .bytes "LargeBinary"),
  ("mediumblob", spec .bytes "LargeBinary"),
  ("longblob", spec .bytes "LargeBinary"),
  ("json", spec .json "JSON")]

/-- Keywords whose declared length is kept. -/
def lengthKeywords : List String := ["varchar", "char"]

/-- Keywords whose declared precision and scale are kept. -/
def precisionKeywords : List String := ["decimal", "numeric"]

structure ColumnType where
  logical : LogicalType
  /-- The keyword of the declaration. -/
  storage : String
  /-- The column class. -/
  column : String
  length : Option Nat
  precision : Option Nat
  scale : Option Nat
  enumValues : List String
  transform : Option Transform
  deriving DecidableEq, Repr

namespace ColumnType

/-- What an unknown declaration means: text of unknown type. -/
def untyped : ColumnType :=
  { logical := .untyped, storage := "text", column := "Text", length := none, precision := none,
    scale := none, enumValues := [], transform := none }

def isUntyped (t : ColumnType) : Bool := t.logical == .untyped

def isEnum (t : ColumnType) : Bool := !t.enumValues.isEmpty

/-- An enumeration of the given literals. -/
def enumeration (literals : List String) : ColumnType :=
  { untyped with logical := .text, storage := "enum", column := "Enum", enumValues := literals }

/-- The parts of a declaration: its keyword, and what stands between the first parenthesis
behind it and the last one of the text. -/
structure Declaration where
  keyword : String
  arguments : Option (List Char)
  deriving DecidableEq, Repr

/-- A declaration starts with ASCII letters, after blanks. -/
def Declaration.ofChars? (cs : List Char) : Option Declaration :=
  let body := cs.dropWhile isBlank
  let keyword := body.takeWhile isAsciiLetter
  if keyword.isEmpty then none
  else
    let arguments := match (body.dropWhile isAsciiLetter).dropWhile isBlank with
      | '(' :: rest => (cutLast? ')' rest).map (·.1)
      | _ => none
    some ⟨String.ofList (asciiLower keyword), arguments⟩

/-- The literals of an enumeration's arguments. -/
def literals (arguments : List Char) : List String :=
  (EnumLiteral.readAll arguments).map String.ofList

/-- The sizes of an argument list: its first two items, if both are made of digits. -/
def sizes (arguments : Option (List Char)) : Except IntegerFault (Option Nat × Option Nat) :=
  match arguments with
  | none => .ok (none, none)
  | some [] => .ok (none, none)
  | some cs => readSizes [] (((splitAt ',' cs).map trim).take 2)
where
  readSizes (sizes : List Nat) : List (List Char) → Except IntegerFault (Option Nat × Option Nat)
    | [] => .ok (sizes[0]?, sizes[1]?)
    | part :: rest =>
      if part.isEmpty || !part.all isDigit then .ok (none, none)
      else do
        let n ← integerOfText (String.ofList part)
        readSizes (sizes ++ [n.toNat]) rest

/-- The type that a known keyword means with its arguments. -/
def ofSpec (keyword : String) (spec : TypeSpec) (first second : Option Nat) : ColumnType :=
  { logical := spec.logical
    storage := keyword
    column := spec.column
    length := if lengthKeywords.contains keyword then first <|> spec.length else none
    precision := if precisionKeywords.contains keyword then first else none
    scale := if precisionKeywords.contains keyword then second else none
    enumValues := []
    transform := spec.transform }

/-- The type of a declaration. -/
def ofDeclaration (d : Declaration) : Except IntegerFault ColumnType :=
  if d.keyword == "enum" then
    match literals (d.arguments.getD []) with
    | [] => .ok untyped
    | values => .ok (enumeration values)
  else
    match typeTable.lookup d.keyword with
    | none => .ok untyped
    | some spec => do
      let (first, second) ← sizes d.arguments
      return ofSpec d.keyword spec first second

/-- The type of a declaration's text. -/
def ofText (s : String) : Except IntegerFault ColumnType :=
  match Declaration.ofChars? s.toList with
  | none => .ok untyped
  | some d => ofDeclaration d

/-- What there is to say about a text that means no known type; enumerations without literals
are passed over in silence. -/
def complaint? (s : String) : Option String :=
  match Declaration.ofChars? s.toList with
  | none => some s!"Unparsable column type '{s}', falling back to untyped"
  | some d =>
    if d.keyword == "enum" || (typeTable.lookup d.keyword).isSome then none
    else some s!"Unknown column type '{s}', falling back to untyped"

end ColumnType

end CatalogEntities.Catalog
