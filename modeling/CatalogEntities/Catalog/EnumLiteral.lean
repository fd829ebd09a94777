import CatalogEntities.Text.Span

/-!
Quoted literals of the catalog: single quotes around the text, a quote inside written twice.

Main definitions: `EnumLiteral.encode` writes one literal, `EnumLiteral.readAll` finds all
literals of an argument list.
-/

namespace CatalogEntities.Catalog.EnumLiteral

open Text

/-- A quote inside a literal is written twice. -/
def double : List Char → List Char
  | [] => []
  | c :: rest => if c == '\'' then '\'' :: '\'' :: double rest else c :: double rest

def encode (cs : List Char) : List Char := '\'' :: double cs ++ ['\'']

/-- The text up to the closing quote, and what follows it. Two quotes are one quote of the text,
unless no closing quote follows: then the first of them closes. -/
def body? : List Char → Option (List Char × List Char)
  | [] => none
  | '\'' :: '\'' :: rest =>
    match body? rest with
    | some (text, after) => some ('\'' :: text, after)
    | none => some ([], '\'' :: rest)
  | '\'' :: rest => some ([], rest)
  | c :: rest => (body? rest).map fun (text, after) => (c :: text, after)

theorem length_of_body {cs text after : List Char} (h : body? cs = some (text, after)) :
    after.length < cs.length := by
  fun_induction body? cs generalizing text after with
  | case1 => simp at h
  | case2 rest t a heq ih =>
    simp only [Option.some.injEq, Prod.mk.injEq] at h
    have := ih heq
    simp only [List.length_cons]
    rw [← h.2]
    omega
  | case3 rest =>
    simp only [Option.some.injEq, Prod.mk.injEq] at h
    rw [← h.2]
    simp
  | case4 rest =>
    simp only [Option.some.injEq, Prod.mk.injEq] at h
    rw [← h.2]
    simp
  | case5 c rest _ _ ih =>
    obtain ⟨⟨t, a⟩, found, eq⟩ := Option.map_eq_some_iff.1 h
    simp only [Prod.mk.injEq] at eq
    have := ih found
    simp only [List.length_cons]
    rw [← eq.2]
    omega

/-- The texts of all literals, in order; anything between them is skipped. -/
def readAll : List Char → List (List Char)
  | [] => []
  | c :: rest =>
    if c == '\'' then
      match _h : body? rest with
      | some (text, after) => text :: readAll after
      | none => readAll rest
    else readAll rest
termination_by cs => cs.length
decreasing_by
  · have := length_of_body _h
    simp only [List.length_cons]
    omega
  all_goals simp

/-- Two quotes in a row become one. -/
def undouble : List Char → List Char
  | '\'' :: '\'' :: rest => '\'' :: undouble rest
  | c :: rest => c :: undouble rest
  | [] => []

end CatalogEntities.Catalog.EnumLiteral
