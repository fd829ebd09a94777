import CatalogEntities.Naming.EnumName
import CatalogEntities.Proofs.Assoc
import CatalogEntities.Proofs.Naming.Numbered
import CatalogEntities.Proofs.Text.Normal
import CatalogEntities.Proofs.Text.Span

/-!
Names for the members of an enumeration. `Search` and `Named` are the naming as a loop over counters
that stops at names in use and may be stuck at names without a counter; `enumMembers` gives what the
loop gives, and the loop is never stuck. The names of members and of classes are plain: no class
takes them for names of its own, in normal form neither.

Main results: `Naming.named_iff`, `Naming.Named.nodup`, `Naming.Named.plain`.
-/

namespace CatalogEntities.Naming

open Text

theorem numbered_injective (base : String) : Function.Injective (numbered base) := fun _ _ he =>
  Number.natText_injective ((String.append_right_inj _).mp he)

theorem numbered_ne (base : String) (k : Nat) : numbered base k ≠ base := by
  intro he
  have hlength := congrArg String.length he
  simp only [numbered, String.length_append] at hlength
  have hmark : "_".length = 1 := by decide
  omega

/-- The counter of a base is not that of a numbered name. -/
theorem get?_put_numbered (seen : Counters) (base : String) (n : Nat) {k : Nat} :
    Assoc.get? (Assoc.put seen base n) (numbered base k) = Assoc.get? seen (numbered base k) := by
  rw [Assoc.get?_put, if_neg (by simpa using numbered_ne base k)]

/-! ### The loop -/

/-- The search for a free name. While the name is in use, the counter of the base goes up and the
base is tried with that number; without a counter for the base the search is stuck. -/
inductive Search (base : String) : Counters → String → Counters → String → Prop
  | free {seen : Counters} {name : String} : Assoc.get? seen name = none →
    Search base seen name seen name
  | taken {seen counted : Counters} {name found : String} {n last : Nat} :
      Assoc.get? seen name = some n → Assoc.get? seen base = some last →
      Search base (Assoc.put seen base (last + 1)) (numbered base (last + 1)) counted found →
      Search base seen name counted found

/-- Literals are named one after the other; a name that was found is in use from then on. -/
inductive Named : Counters → List String → List EnumMember → Prop
  | nil {seen : Counters} : Named seen [] []
  | cons {seen counted : Counters} {literal name : String} {rest : List String} {members : List
    EnumMember} :
      Search (memberName literal) seen (memberName literal) counted name →
      Named (Assoc.put counted name 1) rest members →
      Named seen (literal :: rest) (⟨name, literal⟩ :: members)

namespace Search

variable {base name found : String} {seen counted : Counters}

theorem unique {found' : String} {counted' : Counters} (h : Search base seen name counted found)
    (h' : Search base seen name counted' found') : counted = counted' ∧ found = found' := by
  induction h with
  | free hfree =>
    cases h' with
    | free _ => exact ⟨rfl, rfl⟩
    | taken hname _ _ =>
      rw [hfree] at hname
      contradiction
  | taken hname hlast _ ih =>
    cases h' with
    | free hfree =>
      rw [hfree] at hname
      contradiction
    | taken _ hlast' hrest =>
      obtain rfl := Option.some.inj (hlast.symm.trans hlast')
      exact ih hrest

theorem is_free (h : Search base seen name counted found) : Assoc.get? counted found = none := by
  induction h with
  | free hfree => exact hfree
  | taken _ _ _ ih => exact ih

/-- A name in use stays in use. -/
theorem keeps (h : Search base seen name counted found) {key : String}
    (hkey : Assoc.get? counted key = none) :
    Assoc.get? seen key = none := by
  induction h with
  | free _ => exact hkey
  | taken _ _ _ ih =>
    have hput := ih hkey
    rw [Assoc.get?_put] at hput
    split at hput
    · contradiction
    · exact hput

theorem is_numbered (h : Search base seen name counted found) :
    found = name ∨ ∃ k, found = numbered base k := by
  induction h with
  | free _ => exact .inl rfl
  | taken _ _ _ ih =>
    rcases ih with hfound | hfound
    · exact .inr ⟨_, hfound⟩
    · exact .inr hfound

/-- The search counts up to the first number that gives a free name. -/
theorem counts_to {n last taken : Nat} (hname : Assoc.get? seen name = some taken)
    (hlast : Assoc.get? seen base = some last)
    (hfree : Assoc.get? seen (numbered base (last + 1 + n)) = none)
    (hbefore : ∀ i < n, Assoc.get? seen (numbered base (last + 1 + i)) ≠ none) :
    Search base seen name (Assoc.put seen base (last + 1 + n)) (numbered base (last + 1 + n)) := by
  induction n generalizing seen name last taken with
  | zero =>
    refine .taken hname hlast (.free ?_)
    rw [get?_put_numbered]
    exact hfree
  | succ n ih =>
    have hcount (i : Nat) : last + 1 + (i + 1) = last + 1 + 1 + i := by omega
    obtain ⟨m, hm⟩ := Option.ne_none_iff_exists'.mp (hbefore 0 (Nat.succ_pos n))
    rw [Nat.add_zero, ← get?_put_numbered seen base (last + 1)] at hm
    have hself : Assoc.get? (Assoc.put seen base (last + 1)) base = some (last + 1) := by
      rw [Assoc.get?_put, if_pos BEq.rfl]
    rw [hcount] at hfree ⊢
    rw [← get?_put_numbered seen base (last + 1)] at hfree
    have hlater : ∀ i < n,
        Assoc.get? (Assoc.put seen base (last + 1)) (numbered base (last + 1 + 1 + i)) ≠ none := by
      intro i hi
      rw [get?_put_numbered, ← hcount]
      exact hbefore (i + 1) (Nat.succ_lt_succ hi)
    have hrest := ih hm hself hfree hlater
    rw [Assoc.put_put] at hrest
    exact .taken hname hlast hrest

end Search

theorem Named.unique {seen : Counters} {literals : List String} {members members' : List EnumMember}
    (h : Named seen literals members) (h' : Named seen literals members') : members = members' := by
  induction h generalizing members' with
  | nil =>
    cases h'
    rfl
  | cons hsearch _ ih =>
    obtain _ | ⟨hsearch', hrest'⟩ := h'
    obtain ⟨rfl, rfl⟩ := hsearch.unique hsearch'
    rw [ih hrest']

/-- One literal is named as the loop names it. -/
theorem nextMember_search {seen : Counters} (hseen : (Assoc.keys seen).Nodup) (literal : String) :
    ∃ counted name, Search (memberName literal) seen (memberName literal) counted name ∧
      nextMember seen literal = (Assoc.put counted name 1, ⟨name, literal⟩) ∧
      (Assoc.keys counted).Nodup := by
  cases hlast : Assoc.get? seen (memberName literal) with
  | none =>
    have hlookup : seen.lookup (memberName literal) = none := hlast
    refine ⟨seen, memberName literal, .free hlast, ?_, hseen⟩
    rw [Assoc.put_of_not_mem (Assoc.get?_eq_none_iff.mp hlast)]
    simp only [nextMember, hlookup]
  | some last =>
    have hin : memberName literal ∈ Assoc.keys seen := by
      by_contra hout
      rw [Assoc.get?_eq_none_iff.mpr hout] at hlast
      contradiction
    -- the name is taken: the numbers behind the last one given out are tried in turn
    obtain ⟨n, hn, hfree, hbefore⟩ :=
      firstFree_spec (numbered_injective (memberName literal)) (Assoc.keys seen) (last + 1)
    have htaken :
        ∀ i < n, Assoc.get? seen (numbered (memberName literal) (last + 1 + i)) ≠ none := by
      intro i hi hnone
      exact Assoc.get?_eq_none_iff.mp hnone (hbefore i hi)
    have hsearch := Search.counts_to hlast hlast (Assoc.get?_eq_none_iff.mpr hfree) htaken
    refine ⟨_, _, hsearch, ?_, Assoc.nodup_keys_put hseen _ _⟩
    have hlookup : seen.lookup (memberName literal) = some last := hlast
    have hnumber :
        firstFree (seen.map (·.1)) (numbered (memberName literal)) (last + 1) = last + 1 + n := hn
    rw [Assoc.put_of_not_mem (Assoc.get?_eq_none_iff.mp hsearch.is_free),
      ← Assoc.map_eq_put hseen hin]
    simp only [nextMember, hlookup, hnumber]

theorem named_membersFrom {seen : Counters} (hseen : (Assoc.keys seen).Nodup)
    (literals : List String) :
    Named seen literals (membersFrom seen literals) := by
  induction literals generalizing seen with
  | nil => exact .nil
  | cons literal rest ih =>
    obtain ⟨counted, name, hsearch, hnext, hcounted⟩ := nextMember_search hseen literal
    rw [membersFrom, hnext]
    exact .cons hsearch (ih (Assoc.nodup_keys_put hcounted name 1))

/-- The loop has one run, and the members are what it gives. -/
theorem named_iff {literals : List String} {members : List EnumMember} :
    Named [] literals members ↔ members = enumMembers literals := by
  have hempty : (Assoc.keys ([] : Counters)).Nodup := List.nodup_nil
  have hrun : Named [] literals (enumMembers literals) := named_membersFrom hempty literals
  constructor
  · exact fun h => h.unique hrun
  · rintro rfl
    exact hrun

/-! ### The names that are given -/

namespace Named

variable {seen : Counters} {literals : List String} {members : List EnumMember}

theorem values_eq (h : Named seen literals members) : members.map (·.value) = literals := by
  induction h with
  | nil => rfl
  | cons _ _ ih => rw [List.map_cons, ih]

/-- Names in use are not given again. -/
theorem is_free (h : Named seen literals members) {name : String}
    (hname : name ∈ members.map (·.name)) :
    Assoc.get? seen name = none := by
  induction h with
  | nil => exact absurd hname List.not_mem_nil
  | @cons seen counted literal given rest members hsearch _ ih =>
    rcases List.mem_cons.mp hname with rfl | hlater
    · exact hsearch.keeps hsearch.is_free
    · have hput := ih hlater
      rw [Assoc.get?_put] at hput
      split at hput
      · contradiction
      · exact hsearch.keeps hput

theorem nodup (h : Named seen literals members) : (members.map (·.name)).Nodup := by
  induction h with
  | nil => exact List.nodup_nil
  | @cons seen counted literal given rest members _ hrest ih =>
    refine List.nodup_cons.mpr ⟨fun hlater => ?_, ih⟩
    have hput := hrest.is_free hlater
    rw [Assoc.get?_put, if_pos BEq.rfl] at hput
    contradiction

end Named

/-! ### Plain names -/

/-- Names that start with neither a low line nor a small m, and are not empty. -/
def Plain (name : String) : Prop := ∃ c rest, name.toList = c :: rest ∧ ¬ lowLines.has c ∧ c ≠ 'm'

/-- Names that do not start with an underscore, and are not empty. -/
def Unmarked (name : String) : Prop := ∃ c rest, name.toList = c :: rest ∧ c ≠ '_'

theorem Plain.unmarked {name : String} (h : Plain name) : Unmarked name := by
  obtain ⟨c, rest, htext, hlow, -⟩ := h
  refine ⟨c, rest, htext, ?_⟩
  rintro rfl
  exact hlow (by decide)

theorem Plain.unmarked_nfkc {name : String} (h : Plain name) : Unmarked (nfkc name) := by
  obtain ⟨c, rest, htext, hlow, -⟩ := h
  obtain ⟨d, more, hform, hd⟩ := nfkc_head htext
  exact ⟨d, more, hform, fun hunderscore => hlow (hd hunderscore)⟩

theorem Plain.append {name : String} (h : Plain name) (suffix : String) :
    Plain (name ++ suffix) := by
  obtain ⟨c, rest, hname, hmark, hsmall⟩ := h
  exact ⟨c, rest ++ suffix.toList,
    by rw [String.toList_append, hname, List.cons_append], hmark, hsmall⟩

theorem upperChar_plain {c d : Char} {rest : List Char} (hc : isLetterOrNumeral c)
    (hd : upperChar c = d :: rest) :
    ¬ lowLines.has d ∧ d ≠ 'm' := by
  have hmem : d ∈ upperChar c := hd ▸ List.mem_cons_self
  constructor
  · refine not_lowLines ?_ ?_
    · rintro rfl
      rcases upperChar_of_isAscii hmem (by decide) with hupper | ⟨rfl, -⟩
      · contradiction
      · exact absurd hc (by decide)
    · rcases upperChar_cases hc with hkept | ⟨-, hname⟩
      · exact .inl ((List.cons.inj (hd.symm.trans hkept)).1 ▸ hc)
      · rw [hd, isIdentifier, Bool.and_eq_true] at hname
        exact .inr hname.1
  · rintro rfl
    rcases upperChar_of_isAscii hmem (by decide) with hupper | ⟨rfl, hlower⟩
    · contradiction
    · exact hlower (by decide)

theorem pascalCase_plain {s : String} (h : pascalCase s ≠ "") : Plain (pascalCase s) := by
  have htext :
      (pascalCase s).toList = (pieces (!isLetterOrNumeral ·) s.toList).flatMap capitalise := by
    rw [pascalCase, onChars, String.toList_ofList, pascalChars]
  cases hpieces : pieces (!isLetterOrNumeral ·) s.toList with
  | nil =>
    rw [hpieces] at htext
    exact absurd (String.toList_eq_nil_iff.mp htext) h
  | cons piece more =>
    have hpiece : piece ∈ pieces (!isLetterOrNumeral ·) s.toList := hpieces ▸ List.mem_cons_self
    obtain ⟨hsplit, hsome⟩ := List.mem_filter.mp hpiece
    obtain ⟨c, rest, rfl⟩ := List.exists_cons_of_ne_nil (show piece ≠ [] by simpa using hsome)
    have hc : isLetterOrNumeral c := by
      simpa using not_separator_of_mem_splitWhere hsplit (c := c) List.mem_cons_self
    obtain ⟨d, image, himage⟩ := List.exists_cons_of_ne_nil (upperChar_ne_nil c)
    refine ⟨d, image ++ rest ++ more.flatMap capitalise, ?_, upperChar_plain hc himage⟩
    rw [htext, hpieces, List.flatMap_cons, capitalise, himage]
    rfl

theorem withStem_plain {stem name : String} (hstem : Plain stem) (hname : Plain name) :
    Plain (withStem stem name) := by
  obtain ⟨c, rest, htext, -⟩ := id hname
  have hstart : Plain (if isDigit c then stem ++ name else name) := by
    split
    · exact hstem.append name
    · exact hname
  rw [withStem, htext]
  dsimp only
  generalize (if isDigit c then stem ++ name else name) = start at hstart ⊢
  split
  · exact hstart.append "_"
  · exact hstart

/-- A stem in front of a digit, or in the place of nothing, keeps words plain. -/
theorem pascalName_plain {stem : String} (hstem : Plain stem) (s : String) :
    Plain (withStem stem (pascalCase s)) := by
  by_cases hempty : pascalCase s = ""
  · rw [hempty]
    exact hstem
  · exact withStem_plain hstem (pascalCase_plain hempty)

theorem className_plain (table : String) : Plain (className table) := by
  have hname :=
    pascalName_plain
      (show Plain "Table" from ⟨'T', ['a', 'b', 'l', 'e'], rfl, by decide, by decide⟩) table
  unfold className
  dsimp only
  split
  · exact hname.append "Entity"
  · exact hname

theorem enumClassName_plain (column table : String) (taken : List String) :
    Plain (enumClassName column (className table) taken) := by
  have hown :=
    pascalName_plain
      (show Plain "Enum" from ⟨'E', ['n', 'u', 'm'], rfl, by decide, by decide⟩) column
  unfold enumClassName
  extract_lets own name family
  have hname : Plain name := by
    unfold name
    split
    · exact (className_plain table).append own
    · exact hown
  split
  · exact hname.append _
  · exact hname

theorem memberName_plain (literal : String) : Plain (memberName literal) := by
  have hval : Plain "Val" := ⟨'V', ['a', 'l'], rfl, by decide, by decide⟩
  unfold memberName
  split
  · exact hval.append _
  · dsimp only
    split
    · exact ⟨'E', ['m', 'p', 't', 'y'], rfl, by decide, by decide⟩
    · exact pascalName_plain hval literal

theorem Named.plain {seen : Counters} {literals : List String} {members : List EnumMember}
    (h : Named seen literals members) : ∀ m ∈ members, Plain m.name := by
  induction h with
  | nil => simp
  | @cons seen counted literal given rest members hsearch _ ih =>
    intro m hm
    rcases List.mem_cons.mp hm with rfl | hm
    · rcases hsearch.is_numbered with hgiven | ⟨k, hgiven⟩
      · exact hgiven ▸ memberName_plain literal
      · have hbase := ((memberName_plain literal).append "_").append (Number.natText k)
        exact hgiven ▸ hbase
    · exact ih m hm

end CatalogEntities.Naming
