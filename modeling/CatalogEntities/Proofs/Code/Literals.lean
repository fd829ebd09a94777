import CatalogEntities.Code.Expr
import CatalogEntities.Proofs.Number.Integer
import CatalogEntities.Proofs.Text.LineLiterals

/-!
The literals of an expression. Where the words of an expression are code, its text is one line, and
the literals of that are read as the texts of the expression, in order.

Main result: `Expr.carries`.
-/

namespace CatalogEntities.Code

open Text Number Literal

/-! ### Numerals -/

theorem isCode_of_isAsciiDigit {c : Char} (h : isAsciiDigit c) :
    isCode c := isCode_of_class (by decide) h

theorem isCode_toDigits {n : Nat} : ∀ c ∈ Nat.toDigits 10 n, isCode c := fun c hc =>
  isCode_of_isAsciiDigit
    (isAsciiDigit_of_mem_natText (n := n) (by rwa [natText, String.toList_ofList]))

theorem codeWord_append {a b : String} : CodeWord (a ++ b) ↔ CodeWord a ∧ CodeWord b := by
  rw [CodeWord, String.toList_append, List.all_append, Bool.and_eq_true]
  rfl

theorem codeWord_integerText (n : Int) : CodeWord (integerText n) := by
  have hnat : CodeWord (natText n.natAbs) := List.all_eq_true.mpr fun c hc =>
    isCode_of_isAsciiDigit (isAsciiDigit_of_mem_natText hc)
  unfold integerText
  split
  · exact codeWord_append.mpr ⟨by decide, hnat⟩
  · exact hnat

/-- A decimal number in a layout, with its zeros and its exponent written out. -/
theorem write_eq (layout : FloatLayout) (d : Decimal) : layout.write d =
    (let ds := Nat.toDigits 10 d.digits
    let point : Int := ds.length + d.exponent
    if layout.least ≤ point && point ≤ layout.most then
      if point ≤ 0 then '0' :: '.' :: List.replicate (-point).toNat '0' ++ ds
      else if point ≥ ds.length then
        ds ++ List.replicate (point - ds.length).toNat '0' ++ ['.', '0']
      else ds.take point.toNat ++ '.' :: ds.drop point.toNat
    else
      let head := match ds with
        | [a] => [a]
        | a :: more => a :: '.' :: more
        | [] => []
      let es := Nat.toDigits 10 (point - 1).natAbs
      head ++ 'e' :: (if point - 1 < 0 then '-' else '+') ::
        (if es.length < 2 then '0' :: es else es)) := rfl

theorem isCode_write (layout : FloatLayout) (d : Decimal) : ∀ c ∈ layout.write d, isCode c := by
  have hzeros (n : Nat) : ∀ c ∈ List.replicate n '0', isCode c := fun c hc => by
    rw [List.eq_of_mem_replicate hc]
    decide
  have hds : ∀ c ∈ Nat.toDigits 10 d.digits, isCode c := isCode_toDigits
  rw [write_eq]
  extract_lets ds point head es
  have hes : ∀ c ∈ es, isCode c := isCode_toDigits
  have hpointed (xs : List Char) (hxs : ∀ c ∈ xs, isCode c) :
      ∀ c ∈ (match xs with | [a] => [a] | a :: more => a :: '.' :: more | [] => []), isCode c := by
    rcases xs with _ | ⟨a, _ | ⟨b, more⟩⟩
    · exact hxs
    · exact hxs
    · rw [List.forall_mem_cons] at hxs
      exact List.forall_mem_cons.mpr ⟨hxs.1, List.forall_mem_cons.mpr ⟨by decide, hxs.2⟩⟩
  have hhead : ∀ c ∈ head, isCode c := hpointed ds hds
  split
  · -- small numbers, then those without a fraction, and those with a point among the digits
    split
    · simp only [List.cons_append, List.forall_mem_cons, List.forall_mem_append]
      exact ⟨by decide, by decide, hzeros _, hds⟩
    · split
      · simp only [List.forall_mem_cons, List.forall_mem_append]
        exact ⟨⟨hds, hzeros _⟩, by decide, by decide, List.forall_mem_nil _⟩
      · simp only [List.forall_mem_cons, List.forall_mem_append]
        exact ⟨fun c hc => hds c (List.mem_of_mem_take hc),
          by decide, fun c hc => hds c (List.mem_of_mem_drop hc)⟩
  · simp only [List.forall_mem_cons, List.forall_mem_append]
    refine ⟨hhead, by decide, ?_, ?_⟩
    · split <;> decide
    · split
      · exact List.forall_mem_cons.mpr ⟨by decide, hes⟩
      · exact hes

theorem codeWord_floatLiteral (x : Binary64) : CodeWord (floatLiteral x) := by
  cases x with
  | nan => decide
  | infinite negative => cases negative <;> decide
  | finite negative m e =>
    have hbody :
        CodeWord
          (if m == 0 then "0.0" else String.ofList (literalLayout.write (shortest m e))) := by
      split
      · decide
      · rw [CodeWord, String.toList_ofList (l := literalLayout.write _), List.all_eq_true]
        exact isCode_write _ _
    rw [floatLiteral, floatText]
    · cases negative with
      | false => exact hbody
      | true =>
        rw [if_pos rfl]
        exact codeWord_append.mpr ⟨by decide, hbody⟩
    all_goals simp

/-! ### Literals and words of expressions -/

mutual

/-- The texts that an expression writes as literals, from left to right. -/
def Expr.literals : Expr → List String
  | .name _ => []
  | .field object _ => object.literals
  | .text s => [s]
  | .bool _ => []
  | .int _ => []
  | .float _ => []
  | .list items => Expr.literalsAll items
  | .dict entries => Entry.literalsAll entries
  | .subscript container items => container.literals ++ Expr.literalsAll items
  | .call function arguments => function.literals ++ Argument.literalsAll arguments

def Expr.literalsAll : List Expr → List String
  | [] => []
  | e :: rest => e.literals ++ Expr.literalsAll rest

def Entry.literals : Entry → List String
  | .mk key value => key.literals ++ value.literals

def Entry.literalsAll : List Entry → List String
  | [] => []
  | e :: rest => e.literals ++ Entry.literalsAll rest

def Argument.literals : Argument → List String
  | .positional value => value.literals
  | .keyword _ value => value.literals

def Argument.literalsAll : List Argument → List String
  | [] => []
  | a :: rest => a.literals ++ Argument.literalsAll rest

end

mutual

/-- The names that stand in an expression as they are. -/
def Expr.words : Expr → List String
  | .name id => [id]
  | .field object name => object.words ++ [name]
  | .text _ => []
  | .bool _ => []
  | .int _ => []
  | .float _ => []
  | .list items => Expr.wordsAll items
  | .dict entries => Entry.wordsAll entries
  | .subscript container items => container.words ++ Expr.wordsAll items
  | .call function arguments => function.words ++ Argument.wordsAll arguments

def Expr.wordsAll : List Expr → List String
  | [] => []
  | e :: rest => e.words ++ Expr.wordsAll rest

def Entry.words : Entry → List String
  | .mk key value => key.words ++ value.words

def Entry.wordsAll : List Entry → List String
  | [] => []
  | e :: rest => e.words ++ Entry.wordsAll rest

def Argument.words : Argument → List String
  | .positional value => value.words
  | .keyword name value => name :: value.words

def Argument.wordsAll : List Argument → List String
  | [] => []
  | a :: rest => a.words ++ Argument.wordsAll rest

end

/-- All of the words are code. -/
def AllCode (words : List String) : Prop := ∀ w ∈ words, CodeWord w

instance (words : List String) : Decidable (AllCode words) :=
  inferInstanceAs (Decidable (∀ w ∈ words, CodeWord w))

theorem allCode_append {xs ys : List String} :
    AllCode (xs ++ ys) ↔ AllCode xs ∧ AllCode ys := List.forall_mem_append

theorem carries_joinWith_cons {x : String} {rest : List String} {xs ys : List String}
    (hx : Carries x xs)
    (hrest : Carries (joinWith ", " rest) ys) : Carries (joinWith ", " (x :: rest)) (xs ++ ys) := by
  cases rest with
  | nil =>
    obtain rfl : [] = ys := Option.some.inj hrest.readsBack.literals
    rw [joinWith, String.intercalate_singleton, List.append_nil]
    exact hx
  | cons y more =>
    rw [joinWith, String.intercalate_cons_of_ne_nil (List.cons_ne_nil y more)]
    exact hx.glued (by decide) hrest

theorem carries_empty : Carries "" [] := .of_codeWord rfl

mutual

/-- An expression is written on one line, with its texts as the literals of that. -/
theorem Expr.carries (e : Expr) (h : AllCode e.words) : Carries e.render e.literals := by
  cases e with
  | name id => exact .of_codeWord (h id (List.mem_singleton_self id))
  | field object name =>
    obtain ⟨hobject, hname⟩ := allCode_append.mp h
    rw [Expr.render]
    exact ((object.carries hobject).append_code (by decide)).append_code
      (hname name (List.mem_singleton_self name))
  | text s => exact .literal s
  | bool b =>
    have hcode : CodeWord (if b then "True" else "False") := by cases b <;> decide
    exact .of_codeWord hcode
  | int n => exact .of_codeWord (codeWord_integerText n)
  | float x => exact .of_codeWord (codeWord_floatLiteral x)
  | list items =>
    rw [Expr.render]
    exact ((Expr.carriesAll items h).glue_append (by decide)).append_code (by decide)
  | dict entries =>
    rw [Expr.render]
    exact ((Entry.carriesAll entries h).glue_append (by decide)).append_code (by decide)
  | subscript container items =>
    obtain ⟨hcontainer, hitems⟩ := allCode_append.mp h
    have hinner : Carries (if items.isEmpty then "()" else joinWith ", " (Expr.renderAll items))
        (Expr.literalsAll items) := by
      split
      · rename_i hempty
        rw [List.isEmpty_iff.mp hempty]
        exact .of_codeWord (by decide)
      · exact Expr.carriesAll items hitems
    rw [Expr.render]
    exact ((container.carries hcontainer).glued (by decide) hinner).append_code (by decide)
  | call function arguments =>
    obtain ⟨hfunction, harguments⟩ := allCode_append.mp h
    rw [Expr.render]
    exact ((function.carries hfunction).glued (by decide)
      (Argument.carriesAll arguments harguments)).append_code
      (by decide)

theorem Expr.carriesAll (es : List Expr) (h : AllCode (Expr.wordsAll es)) :
    Carries (joinWith ", " (Expr.renderAll es)) (Expr.literalsAll es) := by
  cases es with
  | nil => exact carries_empty
  | cons e rest =>
    obtain ⟨he, hrest⟩ := allCode_append.mp h
    exact carries_joinWith_cons (e.carries he) (Expr.carriesAll rest hrest)

theorem Entry.carries (e : Entry) (h : AllCode e.words) : Carries e.render e.literals := by
  obtain ⟨key, value⟩ := e
  obtain ⟨hkey, hvalue⟩ := allCode_append.mp h
  exact (key.carries hkey).glued (by decide) (value.carries hvalue)

theorem Entry.carriesAll (es : List Entry) (h : AllCode (Entry.wordsAll es)) :
    Carries (joinWith ", " (Entry.renderAll es)) (Entry.literalsAll es) := by
  cases es with
  | nil => exact carries_empty
  | cons e rest =>
    obtain ⟨he, hrest⟩ := allCode_append.mp h
    exact carries_joinWith_cons (Entry.carries e he) (Entry.carriesAll rest hrest)

theorem Argument.carries (a : Argument) (h : AllCode a.words) : Carries a.render a.literals := by
  cases a with
  | positional value => exact value.carries h
  | keyword name value =>
    obtain ⟨hname, hvalue⟩ := List.forall_mem_cons.mp h
    exact (Carries.of_codeWord hname).glued (by decide) (value.carries hvalue)

theorem Argument.carriesAll (as : List Argument) (h : AllCode (Argument.wordsAll as)) :
    Carries (joinWith ", " (Argument.renderAll as)) (Argument.literalsAll as) := by
  cases as with
  | nil => exact carries_empty
  | cons a rest =>
    obtain ⟨ha, hrest⟩ := allCode_append.mp h
    exact carries_joinWith_cons (Argument.carries a ha) (Argument.carriesAll rest hrest)

end

/-! ### Calls and statements -/

theorem Argument.literalsAll_eq (arguments : List Argument) :
    Argument.literalsAll arguments = arguments.flatMap Argument.literals := by
  induction arguments with
  | nil => rfl
  | cons a rest ih => rw [Argument.literalsAll, List.flatMap_cons, ih]

theorem Argument.wordsAll_eq (arguments : List Argument) :
    Argument.wordsAll arguments = arguments.flatMap Argument.words := by
  induction arguments with
  | nil => rfl
  | cons a rest ih => rw [Argument.wordsAll, List.flatMap_cons, ih]

theorem Expr.literals_apply (function : Expr) (arguments : List Expr)
    (keywords : List (String × Expr)) :
    (Expr.apply function arguments keywords).literals =
      function.literals ++
        (arguments.flatMap literals ++ keywords.flatMap fun k => k.2.literals) := by
  rw [apply, literals, Argument.literalsAll_eq, List.flatMap_append, List.flatMap_map,
    List.flatMap_map]
  rfl

theorem Expr.words_apply (function : Expr) (arguments : List Expr)
    (keywords : List (String × Expr)) :
    (Expr.apply function arguments keywords).words =
      function.words ++
        (arguments.flatMap words ++ keywords.flatMap fun k => k.1 :: k.2.words) := by
  rw [apply, words, Argument.wordsAll_eq, List.flatMap_append, List.flatMap_map, List.flatMap_map]
  rfl

/-- A chain of attributes has no literals. -/
theorem Expr.literals_dotted (path : String) : (Expr.dotted path).literals = [] := by
  have hfields (fields : List String) (e : Expr) :
      (fields.foldl Expr.field e).literals = e.literals := by
    induction fields generalizing e with
    | nil => rfl
    | cons field rest ih => exact ih (.field e field)
  unfold dotted
  split
  · rfl
  · exact hfields _ _

/-- A declaration is written on one line, with the texts of its annotation and its value. -/
theorem Statement.carries_annotated {target : String} {hint value : Expr}
    (h : AllCode (target :: (hint.words ++ value.words))) :
    Carries (Statement.annotated target hint (some value)).render
      (hint.literals ++ value.literals) := by
  obtain ⟨htarget, hparts⟩ := List.forall_mem_cons.mp h
  obtain ⟨hhint, hvalue⟩ := allCode_append.mp hparts
  have hhead : Carries (target ++ ": " ++ hint.render) hint.literals :=
    (Carries.of_codeWord htarget).glued (by decide) (hint.carries hhint)
  exact hhead.glued (by decide) (value.carries hvalue)

end CatalogEntities.Code
