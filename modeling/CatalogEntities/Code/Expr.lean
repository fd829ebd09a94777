import CatalogEntities.Number.Shortest

/-!
Expressions and statements of generated modules, and their text on one line.
-/

namespace CatalogEntities.Code

open Text Number

mutual

inductive Expr
  | name (id : String)
  | field (object : Expr) (name : String)
  | text (s : String)
  | bool (b : Bool)
  | int (n : Int)
  | float (x : Binary64)
  | list (items : List Expr)
  | dict (entries : List Entry)
  | subscript (container : Expr) (items : List Expr)
  | call (function : Expr) (arguments : List Argument)

/-- An entry of a dictionary. -/
inductive Entry
  | mk (key value : Expr)

inductive Argument
  | positional (value : Expr)
  | keyword (name : String) (value : Expr)

end

instance : Inhabited Expr := ⟨.name ""⟩

/-- The number as an expression that evaluates to it: infinity overflows to itself, and the
undefined number is a difference of infinities. -/
def floatLiteral : Binary64 → String
  | .nan => "(1e309-1e309)"
  | .infinite negative => if negative then "-1e309" else "1e309"
  | x => floatText x

mutual

def Expr.render : Expr → String
  | .name id => id
  | .field object name => object.render ++ "." ++ name
  | .text s => Literal.encodeText s
  | .bool b => if b then "True" else "False"
  | .int n => integerText n
  | .float x => floatLiteral x
  | .list items => "[" ++ joinWith ", " (Expr.renderAll items) ++ "]"
  | .dict entries => "\x7b" ++ joinWith ", " (Entry.renderAll entries) ++ "\x7d"
  | .subscript container items =>
    let inner := if items.isEmpty then "()" else joinWith ", " (Expr.renderAll items)
    container.render ++ "[" ++ inner ++ "]"
  | .call function arguments =>
    function.render ++ "(" ++ joinWith ", " (Argument.renderAll arguments) ++ ")"

def Expr.renderAll : List Expr → List String
  | [] => []
  | e :: rest => e.render :: Expr.renderAll rest

def Entry.render : Entry → String
  | .mk key value => key.render ++ ": " ++ value.render

def Entry.renderAll : List Entry → List String
  | [] => []
  | e :: rest => e.render :: Entry.renderAll rest

def Argument.render : Argument → String
  | .positional value => value.render
  | .keyword name value => name ++ "=" ++ value.render

def Argument.renderAll : List Argument → List String
  | [] => []
  | a :: rest => a.render :: Argument.renderAll rest

end

namespace Expr

/-- A chain of attributes, `a.b.c`. -/
def dotted (path : String) : Expr :=
  match (splitAt '.' path.toList).map String.ofList with
  | [] => .name ""
  | first :: fields => fields.foldl .field (.name first)

def names (ids : List String) : Expr := .list (ids.map .name)

def texts (items : List String) : Expr := .list (items.map .text)

/-- A call of a function or of a function of an object, positional arguments first. -/
def apply (function : Expr) (arguments : List Expr) (keywords : List (String × Expr)) : Expr :=
  .call function (arguments.map .positional ++ keywords.map fun (key, value) => .keyword key value)

end Expr

inductive Statement
  | expression (value : Expr)
  | assign (target : String) (value : Expr)
  | annotated (target : String) (hint : Expr) (value : Option Expr)
  | importModule (module : String)
  /-- `level` counts the points in front of the module. -/
  | importNames (level : Nat) (module : String) (names : List String)

def Statement.render : Statement → String
  | .expression value => value.render
  | .assign target value => target ++ " = " ++ value.render
  | .annotated target hint value =>
    let head := target ++ ": " ++ hint.render
    match value with
    | some value => head ++ " = " ++ value.render
    | none => head
  | .importModule module => "import " ++ module
  | .importNames level module names =>
    "from " ++ String.ofList (List.replicate level '.') ++ module ++ " import " ++
      joinWith ", " names

/-- An import of names, or of the module itself if there are none. -/
def Statement.ofImport (level : Nat) (module : String) (names : List String) : Statement :=
  if names.isEmpty then .importModule module else .importNames level module names

end CatalogEntities.Code
