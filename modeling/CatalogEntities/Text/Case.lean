import CatalogEntities.Text.CaseTable
import CatalogEntities.Text.CharClass

/-!
Full case mappings: one character may map to several, and a capital sigma at the end of a word
becomes a final sigma.
-/

namespace CatalogEntities.Text

def CaseRun.image? (run : CaseRun) (n : Nat) : Option Char :=
  let (first, last, step, offset) := run
  if first ≤ n && n ≤ last && (n - first) % step == 0 then
    some (Char.ofNat (Int.toNat (n + offset)))
  else
    none

def mapCase (runs : List CaseRun) (expansions : List (Nat × List Nat)) (c : Char) : List Char :=
  match expansions.lookup c.toNat with
  | some codes => codes.map Char.ofNat
  | none => [(runs.findSome? fun run => CaseRun.image? run c.toNat).getD c]

def upperChar (c : Char) : List Char :=
  if isAscii c then [if isAsciiLower c then Char.ofNat (c.toNat - 32) else c]
  else mapCase upperRuns upperExpansions c

def lowerChar (c : Char) : List Char :=
  if isAscii c then [if isAsciiUpper c then Char.ofNat (c.toNat + 32) else c]
  else mapCase lowerRuns lowerExpansions c

def upper (cs : List Char) : List Char := cs.flatMap upperChar

/-- Whether the first character that is not skipped has a case. -/
def meetsCased (cs : List Char) : Bool :=
  match cs.dropWhile caseIgnorableTable.has with
  | [] => false
  | c :: _ => casedTable.has c

def lowerAfter (before : List Char) : List Char → List Char
  | [] => []
  | c :: rest =>
    let image :=
      if c == 'Σ' then
        if meetsCased before && !meetsCased rest then ['ς'] else ['σ']
      else
        lowerChar c
    image ++ lowerAfter (c :: before) rest

def lower (cs : List Char) : List Char := lowerAfter [] cs

def asciiLower (cs : List Char) : List Char :=
  cs.map fun c => if isAsciiUpper c then Char.ofNat (c.toNat + 32) else c

end CatalogEntities.Text
