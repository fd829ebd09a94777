import CatalogEntities.Text.CharClass
import CatalogEntities.Text.CompositionTable
import CatalogEntities.Text.DecompositionTable

/-!
The normal form of Unicode 14 that identifiers are compared in (NFKC). Every character is
decomposed, the marks behind a character are put in the order of their classes, and then characters
are composed again.

Main definition: `nfkc`.
-/

namespace CatalogEntities.Text

/-! ### Decomposition -/

def FormRun.image? (run : FormRun) (n : Nat) : Option (List Nat) :=
  if run.1 ≤ n && n ≤ run.2.1 then some [run.2.2 + (n - run.1)] else none

def FormBlock.image? (block : FormBlock) (n : Nat) : Option (List Nat) :=
  if block.1 ≤ n then block.2[n - block.1]? else none

/-- What a syllable of Hangul is put together from: two letters, or three. -/
def syllableLetters (n : Nat) : List Nat :=
  let index := n - 0xac00
  let last := if index % 28 = 0 then [] else [0x11a7 + index % 28]
  [0x1100 + index / 588, 0x1161 + index % 588 / 28] ++ last

def isSyllable (n : Nat) : Bool := 0xac00 ≤ n && n ≤ 0xd7a3

/-- The full compatibility decomposition of a code point, if it is not its own. -/
def form? (n : Nat) : Option (List Nat) :=
  if isSyllable n then some (syllableLetters n)
  else match formRuns.findSome? (FormRun.image? · n) with
    | some form => some form
    | none => formBlocks.findSome? (FormBlock.image? · n)

def decompose (c : Char) : List Char :=
  if isAscii c then [c]
  else match form? c.toNat with
    | some form => form.map Char.ofNat
    | none => [c]

/-! ### Order -/

/-- The combining class; those that are no marks have class 0. -/
def combiningClass (c : Char) : Nat :=
  if isAscii c then 0
  else ((classRuns.find? fun run => run.1 ≤ c.toNat && c.toNat ≤ run.2.1).map (·.2.2)).getD 0

/-- Puts a mark behind the ones with a lower class. -/
def insertMark (c : Char) : List Char → List Char
  | [] => [c]
  | d :: rest =>
    if 0 < combiningClass d ∧ combiningClass d < combiningClass c then d :: insertMark c rest
    else c :: d :: rest

/-- Every run of marks in the order of their classes, those of one class as they were. -/
def orderMarks (cs : List Char) : List Char := cs.foldr insertMark []

/-! ### Composition -/

/-- The syllable of two letters of Hangul, or of a syllable without a last letter and one. -/
def syllable? (m n : Nat) : Option Nat :=
  if 0x1100 ≤ m && m < 0x1113 && 0x1161 ≤ n && n < 0x1176 then
    some (0xac00 + ((m - 0x1100) * 21 + (n - 0x1161)) * 28)
  else if isSyllable m && (m - 0xac00) % 28 = 0 && 0x11a8 ≤ n && n < 0x11c3 then
    some (m + (n - 0x11a7))
  else none

/-- The character that two are composed to. None of ASCII is the second one. -/
def composite? (c d : Char) : Option Char :=
  if isAscii d then none
  else match syllable? c.toNat d.toNat with
    | some code => some (Char.ofNat code)
    | none => ((compositionRows.lookup d.toNat).bind (·.lookup c.toNat)).map Char.ofNat

/-- Whether a mark that has stayed shuts off what comes behind it: only what has a higher class gets
past. -/
def isShutOff (stayed : List Char) (c : Char) : Bool :=
  stayed.head?.any fun mark => combiningClass c ≤ combiningClass mark

/-- Composition behind a character that is no mark. The marks that have stayed come last one
first. -/
def composeFrom (starter : Char) (stayed : List Char) : List Char → List Char
  | [] => starter :: stayed.reverse
  | c :: rest =>
    match if isShutOff stayed c then none else composite? starter c with
    | some whole => composeFrom whole stayed rest
    | none =>
      if combiningClass c = 0 then starter :: stayed.reverse ++ composeFrom c [] rest
      else composeFrom starter (c :: stayed) rest

/-- Marks without a character in front of them are composed with nothing. -/
def compose : List Char → List Char
  | [] => []
  | c :: rest => if combiningClass c = 0 then composeFrom c [] rest else c :: compose rest

/-- The normal form of a text. -/
def nfkc (text : String) : String :=
  String.ofList (compose (orderMarks (text.toList.flatMap decompose)))

end CatalogEntities.Text
