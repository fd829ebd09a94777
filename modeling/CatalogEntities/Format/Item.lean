import CatalogEntities.Format.Literal
import CatalogEntities.Naming.Reserved

/-!
Items of a statement: tokens with the space in front of them decided, bracketed groups, and the
places of optional parentheses. Arranging tokens as items checks the expression grammar.

Main definition: `arrange`.
-/

namespace CatalogEntities.Format

inductive GroupKind
  | parentheses
  | call
  | bases
  | list
  | subscript
  | braces
  deriving DecidableEq, Repr

def GroupKind.opening : GroupKind → String
  | .parentheses | .call | .bases => "("
  | .list | .subscript => "["
  | .braces => "\x7b"

def GroupKind.closing : GroupKind → String
  | .parentheses | .call | .bases => ")"
  | .list | .subscript => "]"
  | .braces => "\x7d"

/-- `space` tells that a space stands in front of the item. Optional parentheses are not shown
unless a line is split at them. -/
inductive Item
  | token (space : Bool) (t : Token)
  | group (space : Bool) (kind : GroupKind) (body : List Item)
  | open (space : Bool)
  | close

namespace Item

def isComma : Item → Bool
  | .token _ t => t.isOperator ","
  | _ => false

def isEqual : Item → Bool
  | .token _ t => t.isOperator "="
  | _ => false

/-- The item with no space in front of it. -/
def unspaced : Item → Item
  | .token _ t => .token false t
  | .group _ kind body => .group false kind body
  | .open _ => .open false
  | .close => .close

mutual

def text : Item → String
  | .token space t => (if space then " " else "") ++ t.text
  | .group space kind body =>
    (if space then " " else "") ++ kind.opening ++ textAll body ++ kind.closing
  | .open space => if space then " " else ""
  | .close => ""

def textAll : List Item → String
  | [] => ""
  | item :: rest => item.text ++ textAll rest

end

end Item

def commaCount (items : List Item) : Nat := (items.filter Item.isComma).length

/-- Whether a trailing comma asks for one line per element: not in a tuple or a subscript of one
element. -/
def GroupKind.asksToSplit (kind : GroupKind) (body : List Item) : Bool :=
  (body.getLast?.map Item.isComma).getD false &&
    match kind with
    | .parentheses | .subscript => 2 ≤ commaCount body
    | _ => true

mutual

/-- Whether some group within the item has a trailing comma that asks for splitting. -/
def Item.asksToSplit : Item → Bool
  | .group _ kind body => kind.asksToSplit body || anyAsksToSplit body
  | _ => false

def anyAsksToSplit : List Item → Bool
  | [] => false
  | item :: rest => item.asksToSplit || anyAsksToSplit rest

end

/-- What surrounds an expression, which decides what may stand in it beside expressions. -/
inductive Surroundings
  | statement
  | call
  | list
  | subscript
  | braces
  deriving DecidableEq, Repr

def unaryOperators : List String := ["-", "+", "~"]

def binaryOperators : List String := [
  "+", "-", "*", "/", "//", "%", "@", "**", "<<", ">>", "&", "|", "^", "<", ">", "<=",
  ">=", "==", "!="]

def binaryWords : List String := ["and", "or", "in", "is"]

def constantWords : List String := ["None", "True", "False"]

/-- Whether a name may stand as an operand. -/
def isOperandName (name : String) : Bool :=
  !Naming.keywords.contains name || constantWords.contains name

/-- Where arranging stands. `glued` tells that no space comes next; `pending` counts conditions
whose alternative is still to come. -/
structure Position where
  operand : Bool := true
  elementStart : Bool := true
  glued : Bool := true
  afterString : Bool := false
  pending : Nat := 0
  colons : Nat := 0

/-- Behind an operand. -/
def Position.behind (p : Position) (string : Bool) : Position :=
  { p with operand := false, elementStart := false, glued := false, afterString := string }

/-- Before an operand. -/
def Position.before (p : Position) (glued : Bool) : Position :=
  { p with operand := true, elementStart := false, glued := glued, afterString := false }

/-- Whether an expression may end here. -/
def Position.mayEnd (p : Position) (s : Surroundings) : Bool :=
  p.pending == 0 && (!p.operand || p.elementStart || (s == .subscript && 0 < p.colons))

/-- Arranges tokens up to the closing bracket, or at the level of a statement up to a token that
no expression contains. Returns the items and the tokens from there on. -/
def arrangeFrom : Nat → Surroundings → Position → List Token → Option (List Item × List Token)
  | 0, _, _, _ => none
  | _ + 1, s, p, [] => if s == .statement && p.mayEnd s then some ([], []) else none
  | fuel + 1, s, p, t :: rest =>
    let space := !p.glued
    let emit (item : Item) (p : Position) (rest : List Token) : Option (List Item × List Token) :=
      (arrangeFrom fuel s p rest).map fun (items, after) => (item :: items, after)
    let group (space : Bool) (kind : GroupKind) (inner : Surroundings) :
        Option (List Item × List Token) := do
      let (body, after) ← arrangeFrom fuel inner {} rest
      match after with
      | closer :: after =>
        if closer.isOperator kind.closing then emit (.group space kind body) (p.behind false) after
          else none
      | [] => none
    match t.kind with
    | .number => if p.operand then emit (.token space t.normal) (p.behind false) rest else none
    | .string =>
      if p.operand then emit (.token space t.normal) (p.behind true) rest
      else if p.afterString then emit (.token true t.normal) (p.behind true) rest
      else none
    | .name =>
      if p.operand then
        if t.text == "not" then emit (.token space t) (p.before false) rest
        else if isOperandName t.text then
          match s, p.elementStart, rest with
          | .call, true, eq :: more =>
            if eq.isOperator "=" then
              (emit (.token false eq) (p.before true) more).map fun (items, after) =>
                (.token space t :: items, after)
            else emit (.token space t) (p.behind false) rest
          | _, _, _ => emit (.token space t) (p.behind false) rest
        else none
      else if binaryWords.contains t.text then emit (.token true t) (p.before false) rest
      else if t.text == "if" then
        emit (.token true t) { p.before false with pending := p.pending + 1 } rest
      else if t.text == "else" && 0 < p.pending then
        emit (.token true t) { p.before false with pending := p.pending - 1 } rest
      else if t.text == "not" then
        match rest with
        | word :: _ => if word.isWord "in" then emit (.token true t) (p.behind false) rest else none
        | [] => none
      else none
    | .operator =>
      match t.text with
      | "(" => if p.operand then group space .parentheses .list else group false .call .call
      | "[" => if p.operand then group space .list .list else group false .subscript .subscript
      | "\x7b" => if p.operand then group space .braces .braces else none
      | "," =>
        if p.operand && !(s == .subscript && 0 < p.colons) then none
        else if p.pending != 0 then none
        else emit (.token false t) { glued := false } rest
      | "." =>
        if p.operand then none
        else match rest with
          | name :: rest =>
            if name.kind == .name && isOperandName name.text then
              (emit (.token false name) (p.behind false) rest).map fun (items, after) =>
                (.token false t :: items, after)
            else none
          | [] => none
      | ":" =>
        if s == .braces && !p.operand && p.colons == 0 && p.pending == 0 then
          emit (.token false t) { p.before false with colons := 1 } rest
        else if s == .subscript && p.pending == 0 &&
          (!p.operand || p.elementStart || 0 < p.colons) then
          emit (.token false t) { p.before true with colons := p.colons + 1 } rest
        else if s == .statement && p.mayEnd s then some ([], t :: rest)
        else none
      | op =>
        if p.operand then
          if unaryOperators.contains op then emit (.token space t) (p.before true) rest
          else if p.elementStart &&
              ((op == "*" && s != .subscript) || (op == "**" && (s == .call || s == .braces))) then
            emit (.token space t) (p.before true) rest
          else if p.mayEnd s && s != .statement && [")", "]", "\x7d"].contains op then
            some ([], t :: rest)
          else none
        else if binaryOperators.contains op then emit (.token true t) (p.before false) rest
        else if p.mayEnd s then some ([], t :: rest)
        else none

/-- The items of an expression at the start of a text, and the tokens after it. An expression at
the level of a statement has at least one item. -/
def arrange (glued : Bool) (tokens : List Token) : Option (List Item × List Token) :=
  match arrangeFrom (2 * tokens.length + 2) .statement { glued := glued } tokens with
  | some ([], _) => none
  | result => result

/-- The items of call arguments up to the closing parenthesis, and the tokens after that. -/
def arrangeArguments (tokens : List Token) : Option (List Item × List Token) :=
  match arrangeFrom (2 * tokens.length + 2) .call {} tokens with
  | some (items, t :: rest) => if t.isOperator ")" then some (items, rest) else none
  | _ => none

end CatalogEntities.Format
