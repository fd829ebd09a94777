import CatalogEntities.Proofs.Text.Literal

/-!
The literals of a line of code, found from left to right. A literal begins at a quote that follows
no word and no other literal and ends at the next one that is not escaped; what stands between
literals holds no quotes, comments and continuations.

Main results: `textsFrom_encode`, `Carries.readsBack`, `Carries.glued`.
-/

namespace CatalogEntities.Text.Literal

/-- What begins a literal or a comment, joins lines or ends one. -/
def marks : List Char := ['\'', '"', '#', '\\', '\n', '\r']

/-- Code outside literals. -/
def isCode (c : Char) : Bool := !(marks.contains c)

/-- A text that is code throughout. -/
def CodeWord (w : String) : Prop := w.toList.all isCode

instance (w : String) : Decidable (CodeWord w) :=
  inferInstanceAs (Decidable (w.toList.all isCode = true))

/-- What parts of a line may have between them. -/
def isSpace (c : Char) : Bool := [' ', '\t', '\x0c'].contains c

/-- Whether a literal may follow a character of code. Spaces change nothing about that. -/
def freshAfter (fresh : Bool) (c : Char) : Bool := if isSpace c then fresh else !isWordChar c

/-- Where the reader of a line stands. -/
inductive Place
  /-- Outside literals; in front, spaces aside, stands neither a word nor a literal if the place is
  fresh. -/
  | code (fresh : Bool)
  /-- In a literal, with all of it that was read, its opening quote included. -/
  | literal (quote : Char) (read : List Char)
  /-- In a literal behind a backslash. -/
  | escape (quote : Char) (read : List Char)

/-- The texts of the literals of a line in order. Words in front of a quote would change its
meaning, threefold quotes open another kind of literal, and neighbours would be one literal: lines
with any of these are refused. -/
def textsFrom : Place → List Char → Option (List String)
  | .code _, [] => some []
  | .code fresh, c :: rest =>
    if c == '\'' || c == '"' then
      if fresh && !([c, c].isPrefixOf rest) then textsFrom (.literal c [c]) rest else none
    else if isCode c then textsFrom (.code (freshAfter fresh c)) rest
    else none
  | .literal quote read, c :: rest =>
    if c == quote then
      (decode? (read ++ [c])).bind fun text =>
        (textsFrom (.code false) rest).map (String.ofList text :: ·)
    else if c == '\\' then textsFrom (.escape quote (read ++ [c])) rest
    else textsFrom (.literal quote (read ++ [c])) rest
  | .escape quote read, c :: rest => textsFrom (.literal quote (read ++ [c])) rest
  | .literal _ _, [] => none
  | .escape _ _, [] => none

/-- The texts of the literals of a line. -/
def texts? (line : String) : Option (List String) := textsFrom (.code true) line.toList

/-- Characters of a class that has none of the marks are code. -/
theorem isCode_of_class {p : Char → Bool} (hmarks : marks.all (!p ·)) {c : Char} (hc : p c) :
    isCode c := by
  have hmem : c ∉ marks := fun hmem => by simpa [hc] using List.all_eq_true.mp hmarks c hmem
  simpa [isCode] using hmem

/-! ### Characters of a literal -/

theorem isCode_hexDigits (width n : Nat) : ∀ d ∈ hexDigits width n, isCode d := by
  have hdigit : ∀ d : Fin 16, isCode (hexDigit d.val) := by decide
  induction width generalizing n with
  | zero => exact List.forall_mem_nil _
  | succ width ih =>
    intro d hd
    rw [hexDigits, List.mem_append, List.mem_singleton] at hd
    rcases hd with hd | rfl
    · exact ih (n / 16) d hd
    · exact hdigit ⟨n % 16, Nat.mod_lt n (by decide)⟩

/-- A character of a literal is shown as itself, or by a backslash, a mark and digits. -/
theorem encodeChar_forms (quote c : Char) :
    (encodeChar quote c = [c] ∧ c ≠ quote ∧ c ≠ '\\' ∧ c ≠ '\n' ∧ c ≠ '\r') ∨
      ∃ mark digits, encodeChar quote c = '\\' :: mark :: digits ∧
      (mark = quote ∨ mark ≠ '\n' ∧ mark ≠ '\r') ∧
        ∀ d ∈ digits, isCode d := by
  have hnone : ∀ d ∈ ([] : List Char), isCode d := List.forall_mem_nil _
  unfold encodeChar
  split
  · rename_i hmark
    refine .inr ⟨c, [], rfl, ?_, hnone⟩
    rcases Bool.or_eq_true_iff.mp hmark with hquote | hescape
    · exact .inl (eq_of_beq hquote)
    · rw [eq_of_beq hescape]
      exact .inr (by decide)
  rename_i hmark
  obtain ⟨hquote, hescape⟩ : c ≠ quote ∧ c ≠ '\\' := by simpa using hmark
  split
  · exact .inr ⟨'t', [], rfl, .inr (by decide), hnone⟩
  split
  · exact .inr ⟨'n', [], rfl, .inr (by decide), hnone⟩
  rename_i hline
  split
  · exact .inr ⟨'r', [], rfl, .inr (by decide), hnone⟩
  rename_i hreturn
  split
  · exact .inl ⟨rfl, hquote, hescape, by simpa using hline, by simpa using hreturn⟩
  · unfold escapeCode
    split
    · exact .inr ⟨'x', _, rfl, .inr (by decide), isCode_hexDigits 2 _⟩
    · split
      · exact .inr ⟨'u', _, rfl, .inr (by decide), isCode_hexDigits 4 _⟩
      · exact .inr ⟨'U', _, rfl, .inr (by decide), isCode_hexDigits 8 _⟩

section

variable {quote : Char} (hquote : quote = '\'' ∨ quote = '"')
include hquote

theorem ne_quote_of_isCode {d : Char} (hd : isCode d) :
    d ≠ quote ∧ d ≠ '\\' ∧ d ≠ '\n' ∧ d ≠ '\r' := by
  simp only [isCode, marks, Bool.not_eq_true', List.contains_eq_mem, decide_eq_false_iff_not,
    List.mem_cons, List.not_mem_nil, or_false, not_or] at hd
  rcases hquote with rfl | rfl
  · exact ⟨hd.1, hd.2.2.2⟩
  · exact ⟨hd.2.1, hd.2.2.2⟩

theorem textsFrom_literal {digits : List Char} (h : ∀ d ∈ digits, isCode d)
    (read rest : List Char) :
    textsFrom (.literal quote read) (digits ++ rest) =
      textsFrom (.literal quote (read ++ digits)) rest := by
  induction digits generalizing read with
  | nil => rw [List.nil_append, List.append_nil]
  | cons d more ih =>
    obtain ⟨hclose, hescape, -⟩ := ne_quote_of_isCode hquote (h d List.mem_cons_self)
    rw [List.cons_append, textsFrom, if_neg (by simpa using hclose),
      if_neg (by simpa using hescape),
      ih fun e he => h e (List.mem_cons_of_mem _ he), List.append_assoc, List.singleton_append]

/-- The reader passes over a character of a literal. -/
theorem textsFrom_encodeChar (c : Char) (read rest : List Char) :
    textsFrom (.literal quote read) (encodeChar quote c ++ rest) =
      textsFrom (.literal quote (read ++ encodeChar quote c)) rest := by
  have hplain : ('\\' == quote) = false := by rcases hquote with rfl | rfl <;> decide
  rcases encodeChar_forms quote c with ⟨hself, hclose, hescape, -⟩ |
    ⟨mark, digits, hescaped, -, hdigits⟩
  · rw [hself, List.singleton_append, textsFrom, if_neg (by simpa using hclose),
      if_neg (by simpa using hescape)]
  · rw [hescaped, List.cons_append, List.cons_append, textsFrom, hplain, if_neg Bool.false_ne_true,
      if_pos BEq.rfl,
      textsFrom, textsFrom_literal hquote hdigits, List.append_assoc, List.append_assoc]
    rfl

theorem textsFrom_body (cs read rest : List Char) :
    textsFrom (.literal quote read) (cs.flatMap (encodeChar quote) ++ rest) =
      textsFrom (.literal quote (read ++ cs.flatMap (encodeChar quote))) rest := by
  induction cs generalizing read with
  | nil => rw [List.flatMap_nil, List.nil_append, List.append_nil]
  | cons c more ih =>
    rw [List.flatMap_cons, List.append_assoc, textsFrom_encodeChar hquote, ih, List.append_assoc]

/-- An opening quote and the body behind it are no threefold quote. -/
theorem not_threefold (cs : List Char) {rest : List Char} (hrest : rest.head? ≠ some quote) :
    [quote, quote].isPrefixOf (cs.flatMap (encodeChar quote) ++ quote :: rest) = false := by
  have hplain : (quote == '\\') = false := by rcases hquote with rfl | rfl <;> decide
  cases cs with
  | nil =>
    cases rest with
    | nil => simp
    | cons d more =>
      have hne : (quote == d) = false := beq_false_of_ne fun he => hrest (he ▸ rfl)
      rw [List.flatMap_nil, List.nil_append, List.isPrefixOf_cons_cons, List.isPrefixOf_cons_cons,
        hne, Bool.false_and, Bool.and_false]
  | cons c more =>
    rcases encodeChar_forms quote c with ⟨hself, hclose, -⟩ | ⟨mark, digits, hescaped, -⟩
    · have hne : (quote == c) = false := beq_false_of_ne hclose.symm
      rw [List.flatMap_cons, hself, List.singleton_append, List.cons_append,
        List.isPrefixOf_cons_cons, hne, Bool.false_and]
    · rw [List.flatMap_cons, hescaped, List.cons_append, List.cons_append,
        List.isPrefixOf_cons_cons, hplain, Bool.false_and]

theorem quote_ne_line : quote ≠ '\n' ∧ quote ≠ '\r' := by
  rcases hquote with rfl | rfl <;> decide

theorem body_one_line (cs : List Char) :
    '\n' ∉ cs.flatMap (encodeChar quote) ∧ '\r' ∉ cs.flatMap (encodeChar quote) := by
  have hchar (c d : Char) (hd : d ∈ encodeChar quote c) : d ≠ '\n' ∧ d ≠ '\r' := by
    rcases encodeChar_forms quote c with ⟨hself, -, -, hline⟩ |
      ⟨mark, digits, hescaped, hmark, hdigits⟩
    · rw [hself, List.mem_singleton] at hd
      exact hd ▸ hline
    · rw [hescaped, List.mem_cons, List.mem_cons] at hd
      rcases hd with rfl | rfl | hd
      · decide
      · rcases hmark with rfl | hmark
        · exact quote_ne_line hquote
        · exact hmark
      · exact (ne_quote_of_isCode hquote (hdigits d hd)).2.2
  constructor
  · intro hmem
    obtain ⟨c, -, hd⟩ := List.mem_flatMap.mp hmem
    exact (hchar c _ hd).1 rfl
  · intro hmem
    obtain ⟨c, -, hd⟩ := List.mem_flatMap.mp hmem
    exact (hchar c _ hd).2 rfl

end

/-- A text whose first part is no literal. -/
def Clear (cs : List Char) : Prop := ∀ c ∈ cs.find? (!isSpace ·), c ≠ '\'' ∧ c ≠ '"'

theorem Clear.head {c : Char} {cs : List Char} (h : Clear cs) (hc : cs.head? = some c) :
    c ≠ '\'' ∧ c ≠ '"' := by
  obtain ⟨rest, rfl⟩ := List.head?_eq_some_iff.mp hc
  by_cases hspace : isSpace c
  · have hquotes : ¬ isSpace '\'' ∧ ¬ isSpace '"' := by decide
    exact ⟨fun he => hquotes.1 (he ▸ hspace), fun he => hquotes.2 (he ▸ hspace)⟩
  · exact h c (List.find?_cons_of_pos (by simpa using hspace))

theorem Clear.append {xs ys : List Char} (hx : Clear xs) (hy : Clear ys) : Clear (xs ++ ys) := by
  intro c hc
  rw [List.find?_append] at hc
  cases hfirst : xs.find? (!isSpace ·) with
  | none =>
    rw [hfirst, Option.none_or] at hc
    exact hy c hc
  | some d =>
    rw [hfirst, Option.some_or] at hc
    exact hx c (hfirst ▸ hc)

theorem encode_one_line (cs : List Char) : '\n' ∉ encode cs ∧ '\r' ∉ encode cs := by
  have hquote := quoteFor_cases cs
  obtain ⟨hline, hreturn⟩ := quote_ne_line hquote
  obtain ⟨hline', hreturn'⟩ := body_one_line hquote cs
  simp only [encode, List.cons_append, List.mem_cons, List.mem_append, List.not_mem_nil,
    or_false, not_or]
  exact ⟨⟨hline.symm, hline', hline.symm⟩, hreturn.symm, hreturn', hreturn.symm⟩

/-- A written literal is read as the text that it was written for, whatever follows that opens no
other one. -/
theorem textsFrom_encode (cs : List Char) {rest : List Char} (hrest : Clear rest) :
    textsFrom (.code true) (encode cs ++ rest) =
      (textsFrom (.code false) rest).map (String.ofList cs :: ·) := by
  have hquote := quoteFor_cases cs
  have hopens : (quoteFor cs == '\'' || quoteFor cs == '"') = true := by simpa using hquote
  have hnext : rest.head? ≠ some (quoteFor cs) := by
    intro hhead
    obtain ⟨hsingle, hdouble⟩ := hrest.head hhead
    exact hquote.elim hsingle hdouble
  have hread :
      decode? ((quoteFor cs :: cs.flatMap (encodeChar (quoteFor cs))) ++ [quoteFor cs]) = some cs :=
    decode?_encode cs
  have htext : encode cs ++ rest =
      quoteFor cs :: (cs.flatMap (encodeChar (quoteFor cs)) ++ quoteFor cs :: rest) := by
    simp [encode]
  rw [htext, textsFrom, if_pos hopens, not_threefold hquote cs hnext, Bool.not_false,
    Bool.true_and, if_pos rfl,
    textsFrom_body hquote, List.singleton_append, textsFrom, if_pos BEq.rfl, hread,
    Option.bind_some]

/-! ### Lines put together -/

theorem ne_quotes_of_isCode {c : Char} (hc : isCode c) : c ≠ '\'' ∧ c ≠ '"' :=
  ⟨(ne_quote_of_isCode (.inl rfl) hc).1, (ne_quote_of_isCode (.inr rfl) hc).1⟩

theorem textsFrom_code {code : List Char} (hcode : ∀ c ∈ code, isCode c) (fresh : Bool)
    (rest : List Char) :
    textsFrom (.code fresh) (code ++ rest) =
      textsFrom (.code (code.foldl freshAfter fresh)) rest := by
  induction code generalizing fresh with
  | nil => rfl
  | cons c more ih =>
    obtain ⟨hsingle, hdouble⟩ := ne_quotes_of_isCode (hcode c List.mem_cons_self)
    have hplain : (c == '\'' || c == '"') = false := by simp [hsingle, hdouble]
    rw [List.cons_append, textsFrom, hplain, if_neg Bool.false_ne_true,
      if_pos (hcode c List.mem_cons_self)]
    exact ih (fun d hd => hcode d (List.mem_cons_of_mem _ hd)) _

/-- What stands in front of the reader matters only if a literal comes next. -/
theorem textsFrom_fresh (fresh : Bool) {rest : List Char} (h : Clear rest) :
    textsFrom (.code fresh) rest = textsFrom (.code true) rest := by
  induction rest with
  | nil => rw [textsFrom, textsFrom]
  | cons c more ih =>
    obtain ⟨hsingle, hdouble⟩ := h.head rfl
    have hplain : (c == '\'' || c == '"') = false := by simp [hsingle, hdouble]
    rw [textsFrom, textsFrom, hplain, if_neg Bool.false_ne_true, if_neg Bool.false_ne_true]
    by_cases hspace : isSpace c
    · have hmore : Clear more := by
        intro d hd
        exact h d (by rwa [List.find?_cons_of_neg (by simp [hspace])])
      rw [freshAfter, freshAfter, if_pos hspace, if_pos hspace, ih hmore]
    · rw [freshAfter, freshAfter, if_neg hspace, if_neg hspace]

/-- Code that a literal may follow, whatever stands in front of the code. -/
def isGlue (code : String) : Bool := code.toList.all isCode && code.toList.foldl freshAfter false

theorem foldl_freshAfter {cs : List Char} (h : cs.foldl freshAfter false = true) (fresh : Bool) :
    cs.foldl freshAfter fresh = true ∧ cs.find? (!isSpace ·) ≠ none := by
  induction cs with
  | nil => contradiction
  | cons c more ih =>
    rw [List.foldl_cons] at h ⊢
    by_cases hspace : isSpace c
    · rw [freshAfter, if_pos hspace] at h ⊢
      rw [List.find?_cons_of_neg (by simp [hspace])]
      exact ih h
    · rw [freshAfter, if_neg hspace] at h ⊢
      rw [List.find?_cons_of_pos (by simp [hspace])]
      exact ⟨h, Option.some_ne_none c⟩

namespace CodeWord

variable {w : String} (h : CodeWord w)
include h

theorem isCode : ∀ c ∈ w.toList, isCode c := List.all_eq_true.mp h

theorem clear :
    Clear w.toList := fun c hc => ne_quotes_of_isCode (h.isCode c (List.mem_of_find?_eq_some hc))

theorem one_line : '\n' ∉ w.toList ∧ '\r' ∉ w.toList :=
  ⟨fun hmem => absurd (h.isCode _ hmem) (by decide),
    fun hmem => absurd (h.isCode _ hmem) (by decide)⟩

end CodeWord

section

variable {code : String} (h : isGlue code)
include h

theorem codeWord_of_isGlue : CodeWord code := (Bool.and_eq_true_iff.mp h).1

theorem textsFrom_glue (fresh : Bool) (rest : List Char) :
    textsFrom (.code fresh) (code.toList ++ rest) = textsFrom (.code true) rest := by
  rw [textsFrom_code (codeWord_of_isGlue h).isCode,
    (foldl_freshAfter (Bool.and_eq_true_iff.mp h).2 fresh).1]

theorem clear_glue (rest : List Char) : Clear (code.toList ++ rest) := by
  obtain ⟨c, hc⟩ :=
    Option.ne_none_iff_exists'.mp (foldl_freshAfter (Bool.and_eq_true_iff.mp h).2 false).2
  have hclear := (codeWord_of_isGlue h).clear
  intro d hd
  rw [List.find?_append, hc, Option.some_or] at hd
  exact hclear d (hc ▸ hd)

end

/-- A single line whose literals are read as the given texts. -/
structure ReadsBack (line : String) (texts : List String) : Prop where
  oneLine : '\n' ∉ line.toList ∧ '\r' ∉ line.toList
  literals : texts? line = some texts

/-- A part of a line: it ends no line, its literals are those of the given texts, and it leaves the
reader in code. What follows may not begin with a literal. -/
structure Carries (part : String) (texts : List String) : Prop where
  oneLine : '\n' ∉ part.toList ∧ '\r' ∉ part.toList
  read : ∀ rest : List Char, Clear rest →
    textsFrom (.code true) (part.toList ++ rest) = (textsFrom (.code true) rest).map (texts ++ ·)

namespace Carries

variable {a b code : String} {as bs : List String}

theorem readsBack (h : Carries a as) : ReadsBack a as := by
  have hread := h.read [] (by simp [Clear])
  rw [List.append_nil] at hread
  refine ⟨h.oneLine, ?_⟩
  rw [texts?, hread, textsFrom, Option.map_some, List.append_nil]

theorem of_codeWord (h : CodeWord code) : Carries code [] := by
  refine ⟨h.one_line, fun rest hrest => ?_⟩
  rw [textsFrom_code h.isCode, textsFrom_fresh _ hrest]
  simp

theorem literal (s : String) : Carries (encodeText s) [s] := by
  have htext : (encodeText s).toList = encode s.toList := String.toList_ofList
  refine ⟨htext ▸ encode_one_line s.toList, fun rest hrest => ?_⟩
  rw [htext, textsFrom_encode _ hrest, textsFrom_fresh false hrest, String.ofList_toList]
  rfl

/-- Two parts, of which the second begins with no literal. -/
theorem append (ha : Carries a as) (hb : Carries b bs) (hclear : Clear b.toList) :
    Carries (a ++ b) (as ++ bs) := by
  refine ⟨?_, fun rest hrest => ?_⟩
  · rw [String.toList_append, List.mem_append, List.mem_append, not_or, not_or]
    exact ⟨⟨ha.oneLine.1, hb.oneLine.1⟩, ha.oneLine.2, hb.oneLine.2⟩
  · rw [String.toList_append, List.append_assoc, ha.read _ (hclear.append hrest),
      hb.read rest hrest, Option.map_map]
    congr 1
    funext texts
    exact (List.append_assoc as bs texts).symm

/-- Code may follow anything. -/
theorem append_code (ha : Carries a as) (h : CodeWord code) : Carries (a ++ code) as := by
  have hboth := ha.append (of_codeWord h) h.clear
  rwa [List.append_nil] at hboth

/-- Anything may follow code that is no end of a word. -/
theorem glue_append (h : isGlue code) (hb : Carries b bs) : Carries (code ++ b) bs := by
  obtain ⟨hline, hreturn⟩ := (codeWord_of_isGlue h).one_line
  refine ⟨?_, fun rest hrest => ?_⟩
  · rw [String.toList_append, List.mem_append, List.mem_append, not_or, not_or]
    exact ⟨⟨hline, hb.oneLine.1⟩, hreturn, hb.oneLine.2⟩
  · rw [String.toList_append, List.append_assoc, textsFrom_glue h, hb.read rest hrest]

/-- Two parts with such code between them. -/
theorem glued (ha : Carries a as) (h : isGlue code) (hb : Carries b bs) :
    Carries (a ++ code ++ b) (as ++ bs) := by
  have hclear : Clear (code ++ b).toList := by
    rw [String.toList_append]
    exact clear_glue h b.toList
  rw [String.append_assoc]
  exact ha.append (glue_append h hb) hclear

end Carries

end CatalogEntities.Text.Literal
