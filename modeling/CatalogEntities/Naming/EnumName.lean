import CatalogEntities.Naming.Identifier
import CatalogEntities.Number.Integer

/-!
Names of enumerations and of their members.
-/

namespace CatalogEntities.Naming

open Text

/-- One or more decimal digits, and what follows them. -/
def takeDecimals? (cs : List Char) : Option (List Char) :=
  if (cs.takeWhile isDecimal).isEmpty then none else some (cs.dropWhile isDecimal)

def isNumberChars (cs : List Char) : Bool :=
  let body := match cs with
    | '+' :: rest => rest
    | '-' :: rest => rest
    | cs => cs
  match takeDecimals? body with
  | none => false
  | some [] => true
  | some ('.' :: rest) => takeDecimals? rest == some []
  | some _ => false

/-- An optionally signed decimal number with an optional fraction, blanks around it ignored. -/
def isNumber (s : String) : Bool := isNumberChars (trim s.toList)

/-- The member of a literal: numbers get a stem, all else is written in Pascal case. -/
def memberName (literal : String) : String :=
  if isNumber literal then "Val" ++ String.ofList (wordChars (trim literal.toList))
  else
    let name := pascalCase literal
    if name.isEmpty then "Empty" else withStem "Val" name

structure EnumMember where
  name : String
  value : String
  deriving DecidableEq, Repr, Inhabited

/-- Names given so far, each with the number of the last one derived from it. -/
abbrev Counters := List (String × Nat)

def numbered (base : String) (k : Nat) : String := base ++ "_" ++ Number.natText k

/-- The name of one more literal: its own, or the next free numbered one. -/
def nextMember (seen : Counters) (literal : String) : Counters × EnumMember :=
  let base := memberName literal
  match seen.lookup base with
  | none => (seen ++ [(base, 1)], ⟨base, literal⟩)
  | some last =>
    let k := firstFree (seen.map (·.1)) (numbered base) (last + 1)
    let counted := seen.map fun (name, n) => if name == base then (name, k) else (name, n)
    (counted ++ [(numbered base k, 1)], ⟨numbered base k, literal⟩)

def membersFrom (seen : Counters) : List String → List EnumMember
  | [] => []
  | literal :: rest =>
    let (seen, member) := nextMember seen literal
    member :: membersFrom seen rest

/-- One member per literal, in order, under different names. -/
def enumMembers (literals : List String) : List EnumMember := membersFrom [] literals

/-- The class of an enumeration column: the column's name, else the entity's class in front of
it, else that with a number from 2 on. -/
def enumClassName (column entityClass : String) (taken : List String) : String :=
  let own := withStem "Enum" (pascalCase column)
  let name := if taken.contains own then entityClass ++ own else own
  if taken.contains name then
    let family (k : Nat) := name ++ Number.natText k
    family (firstFree taken family 2)
  else name

end CatalogEntities.Naming
