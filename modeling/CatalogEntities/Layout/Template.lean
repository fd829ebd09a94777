import CatalogEntities.Value

/-!
Templates: literal text, outputs of values, repeated and conditional parts. A template is filled
from named values and refuses names that are not there.

Main definition: `Template.fill`.
-/

namespace CatalogEntities.Layout

/-- A name, or a field of a named value. -/
structure Reference where
  base : String
  field : Option String := none
  deriving DecidableEq, Repr

inductive Piece
  | text (s : String)
  | output (value : Reference)
  | each (item : String) (source : Reference) (body : List Piece)
  | when (condition : Reference) (body : List Piece)

abbrev Template := List Piece

inductive TemplateFault
  | undefined (name : String)
  | noField (owner name : String)
  | notIterable (kind : String)
  deriving DecidableEq, Repr

def TemplateFault.message : TemplateFault → String
  | .undefined name => Text.Literal.encodeText name ++ " is undefined"
  | .noField owner name =>
    Text.Literal.encodeText owner ++ " has no attribute " ++ Text.Literal.encodeText name
  | .notIterable kind => s!"'{kind}' object is not iterable"

/-- Named values; an inner name hides an outer one. -/
abbrev Names := List (String × Value)

/-- How an owner of fields is called. -/
def ownerName (v : Value) : String :=
  match v with
  | .null => "None"
  | v => v.kind ++ " object"

def Reference.value (names : Names) (r : Reference) : Except TemplateFault Value :=
  match names.lookup r.base with
  | none => .error (.undefined r.base)
  | some v =>
    match r.field with
    | none => .ok v
    | some field =>
      match v with
      | .map entries =>
        match Value.field? entries field with
        | some inner => .ok inner
        | none => .error (.noField (ownerName v) field)
      | v => .error (.noField (ownerName v) field)

/-- The items that a repeated part runs over. -/
def items (v : Value) : Except TemplateFault (List Value) :=
  match v with
  | .list vs => .ok vs
  | .tuple vs => .ok vs
  | .set vs => .ok vs
  | .map entries => .ok (entries.map (·.1))
  | .text s => .ok (s.toList.map fun c => .text (String.singleton c))
  | .bytes bs => .ok (bs.map fun b => .int b.toNat)
  | v => .error (.notIterable v.kind)

/-- Joined results of all items, stopping at the first fault. -/
def gather {α : Type} (f : α → Except TemplateFault String) : List α → Except TemplateFault String
  | [] => .ok ""
  | a :: rest => do
    let head ← f a
    let tail ← gather f rest
    return head ++ tail

mutual

def Piece.fill (p : Piece) (names : Names) : Except TemplateFault String :=
  match p with
  | .text s => .ok s
  | .output r => (r.value names).map Value.display
  | .each item source body => do
    let vs ← items (← source.value names)
    gather (fun v => Template.fill body ((item, v) :: names)) vs
  | .when condition body => do
    if (← condition.value names).truth then Template.fill body names else return ""

/-- The text of a template over named values. -/
def Template.fill (t : List Piece) (names : Names) : Except TemplateFault String :=
  match t with
  | [] => .ok ""
  | p :: rest => do
    let head ← p.fill names
    let tail ← Template.fill rest names
    return head ++ tail

end

end CatalogEntities.Layout
