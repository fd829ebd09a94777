import CatalogEntities.Assoc
import CatalogEntities.Number.Shortest
import CatalogEntities.Text.Case

/-!
Dynamic values: what a settings document, a catalog row or a report's context may hold, with
their kind names, their texts, their truth and their reading as an integer.
-/

namespace CatalogEntities

open Number Text

inductive Value
  | null
  | bool (b : Bool)
  | int (n : Int)
  | float (x : Binary64)
  | text (s : String)
  | bytes (b : List UInt8)
  | list (items : List Value)
  | tuple (items : List Value)
  | set (items : List Value)
  | map (entries : List (Value × Value))
  /-- A calendar date or a point in time: `dated` tells which, `shown` is its text. -/
  | moment (dated : Bool) (shown : String)
  deriving Inhabited

namespace Value

/-- The name of the value's kind, as messages print it. -/
def kind : Value → String
  | .null => "NoneType"
  | .bool _ => "bool"
  | .int _ => "int"
  | .float _ => "float"
  | .text _ => "str"
  | .bytes _ => "bytes"
  | .list _ => "list"
  | .tuple _ => "tuple"
  | .set _ => "set"
  | .map _ => "dict"
  | .moment dated _ => if dated then "date" else "datetime"

/-- Whether the value counts as true: no null, no zero, nothing empty. -/
def truth : Value → Bool
  | .null => false
  | .bool b => b
  | .int n => n != 0
  | .float x => !x.isZero
  | .text s => !s.isEmpty
  | .bytes b => !b.isEmpty
  | .list items => !items.isEmpty
  | .tuple items => !items.isEmpty
  | .set items => !items.isEmpty
  | .map entries => !entries.isEmpty
  | .moment _ _ => true

mutual

/-- The value as an element of a container shows it: texts between quotes. -/
def literal : Value → String
  | .null => "None"
  | .bool b => if b then "True" else "False"
  | .int n => integerText n
  | .float x => floatText x
  | .text s => Literal.encodeText s
  | .bytes b => String.ofList (Literal.encodeBytes b)
  | .list items => "[" ++ joinWith ", " (literals items) ++ "]"
  | .tuple items =>
    match items with
    | [item] => "(" ++ literal item ++ ",)"
    | items => "(" ++ joinWith ", " (literals items) ++ ")"
  | .set items =>
    if items.isEmpty then "set()" else "\x7b" ++ joinWith ", " (literals items) ++ "\x7d"
  | .map entries => "\x7b" ++ joinWith ", " (pairLiterals entries) ++ "\x7d"
  | .moment _ shown => shown

def literals : List Value → List String
  | [] => []
  | v :: rest => literal v :: literals rest

def pairLiterals : List (Value × Value) → List String
  | [] => []
  | (k, v) :: rest => (literal k ++ ": " ++ literal v) :: pairLiterals rest

end

/-- The value as text on its own: a text is itself, anything else its literal. -/
def display : Value → String
  | .text s => s
  | v => literal v

/-- Numbers are one key whether they are truth values, integers or floats. -/
def number? : Value → Option Int
  | .bool b => some (if b then 1 else 0)
  | .int n => some n
  | .float x => x.toInteger?
  | _ => none

mutual

/-- Equality of keys. -/
def sameKey : Value → Value → Bool
  | .null, .null => true
  | .text a, .text b => a == b
  | .bytes a, .bytes b => a == b
  | .float a, .float b => a == b || (a.isZero && b.isZero)
  | .tuple a, .tuple b => sameKeys a b
  | .moment d a, .moment e b => d == e && a == b
  | a, b =>
    match a.number?, b.number? with
    | some m, some n => m == n
    | _, _ => false

def sameKeys : List Value → List Value → Bool
  | [], [] => true
  | a :: as, b :: bs => sameKey a b && sameKeys as bs
  | _, _ => false

end

instance : BEq Value := ⟨sameKey⟩

/-- The entry under a text key. -/
def field? (entries : List (Value × Value)) (name : String) : Option Value :=
  Assoc.get? entries (.text name)

end Value

/-- Why a value has no reading as an integer. -/
inductive IntegerReading
  | unreadable (fault : IntegerFault)
  | undefinedNumber
  | unbounded
  | wrongKind (kind : String)
  deriving DecidableEq, Repr

def IntegerReading.message : IntegerReading → String
  | .unreadable fault => fault.message
  | .undefinedNumber => "cannot convert float NaN to integer"
  | .unbounded => "cannot convert float infinity to integer"
  | .wrongKind kind =>
    s!"int() argument must be a string, a bytes-like object or a real number, not '{kind}'"

/-- The integer that a value denotes: fractions lose their fractional part, texts and bytes are
read. -/
def Value.toInteger : Value → Except IntegerReading Int
  | .bool b => .ok (if b then 1 else 0)
  | .int n => .ok n
  | .float .nan => .error .undefinedNumber
  | .float (.infinite _) => .error .unbounded
  | .float x => .ok (x.truncate?.getD 0)
  | .text s => (integerOfText s).mapError .unreadable
  | .bytes b => (integerOfBytes b).mapError .unreadable
  | v => .error (.wrongKind v.kind)

end CatalogEntities
