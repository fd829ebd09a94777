import CatalogEntities.Proofs.Catalog
import CatalogEntities.Proofs.Code.StoredName
import CatalogEntities.Proofs.Naming.ModuleNames
import CatalogEntities.Proofs.Outcome
import CatalogEntities.Storage.EnumClass

/-!
Classes of named values from pairs under different names. If all names are those of members, the
class has every value once, in the order of the pairs; so the class of an enumeration column lists
the literals of the catalog. A class that is written out as code needs more: its names must be
identifiers, and different ones in normal form.

Main results: `Storage.EnumClass.ofBody_eq_some_iff`, `Storage.enumMembers_kept`.
-/

namespace CatalogEntities.Storage

open Code Naming Text

theorem role_of_unmarked {name : String} (h : Unmarked name) (className : String) :
    NameRole.of className name = .member := by
  obtain ⟨c, rest, hname, hmark⟩ := h
  have hprefix (mark : List Char) : ('_' :: mark).isPrefixOf (c :: rest) = false := by
    have hne : ('_' == c) = false := by simpa using Ne.symm hmark
    rw [List.isPrefixOf_cons_cons, hne, Bool.false_and]
  simp only [NameRole.of, hname, isPrivate, isMarked, hprefix, Bool.false_and,
    Bool.false_eq_true, ↓reduceIte]

namespace EnumClass

variable {α : Type}

theorem declare_new {className : String} {declared : Assoc String α} {pair : String × α}
    (hrole : NameRole.of className pair.1 = .member) (hnew : pair.1 ∉ declared.keys) :
    declare className declared pair = .ok (declared ++ [pair]) := by
  simp only [declare, hrole, Assoc.get?_eq_none_iff.mpr hnew]

theorem declare_known {className : String} {declared : Assoc String α} {pair : String × α}
    (hrole : NameRole.of className pair.1 = .member) (hknown : pair.1 ∈ declared.keys) :
    ∃ fault, declare className declared pair = .error fault := by
  obtain ⟨earlier, hearlier⟩ :=
    Option.ne_none_iff_exists'.mp (mt Assoc.get?_eq_none_iff.mp (not_not.mpr hknown))
  exact ⟨.repeated pair.1 earlier, by simp only [declare, hrole, hearlier]⟩

/-- Members are all declared exactly if their names are different. -/
theorem declare_all_iff {className : String} {declared pairs result : Assoc String α}
    (hrole : ∀ pair ∈ pairs, NameRole.of className pair.1 = .member)
    (hdeclared : declared.keys.Nodup) :
    pairs.foldlM (declare className) declared = .ok result ↔
      (Assoc.keys (declared ++ pairs)).Nodup ∧ result = declared ++ pairs := by
  induction pairs generalizing declared with
  | nil =>
    rw [List.append_nil, and_iff_right hdeclared]
    exact ⟨fun h => (Except.ok.inj h).symm, fun h => h ▸ rfl⟩
  | cons pair rest ih =>
    rw [List.foldlM_cons]
    by_cases hknown : pair.1 ∈ declared.keys
    · obtain ⟨fault, hfault⟩ := declare_known (hrole pair List.mem_cons_self) hknown
      rw [hfault]
      refine iff_of_false (fun h => by contradiction) fun h => ?_
      rw [Assoc.keys, List.map_append, List.map_cons] at h
      exact (List.nodup_append.mp h.1).2.2 _ hknown _ List.mem_cons_self rfl
    · have hnodup : (Assoc.keys (declared ++ [pair])).Nodup := by
        rw [Assoc.keys, List.map_append, List.nodup_append]
        refine ⟨hdeclared, List.nodup_singleton _, fun name hname last hlast => ?_⟩
        obtain rfl : last = pair.1 := List.mem_singleton.mp hlast
        rintro rfl
        exact hknown hname
      have hrest := ih (fun later hlater => hrole later (List.mem_cons_of_mem pair hlater)) hnodup
      rw [declare_new (hrole pair List.mem_cons_self) hknown]
      show rest.foldlM (declare className) (declared ++ [pair]) = _ ↔ _
      rw [hrest, List.append_assoc, List.singleton_append]

theorem ofPairs_eq_ok_iff [BEq α] {className : String} {pairs : List (String × α)} {c : EnumClass α}
    (hnames : ∀ pair ∈ pairs, Unmarked pair.1) : ofPairs className pairs = .ok c ↔
      (pairs.map (·.1)).Nodup ∧ "mro" ∉ pairs.map (·.1) ∧ c = ⟨pairs.eraseDupsBy (·.2 == ·.2)⟩ := by
  have hdeclared (result : Assoc String α) : pairs.foldlM (declare className) [] = .ok result ↔
      (Assoc.keys pairs).Nodup ∧ result = pairs :=
    declare_all_iff
      (fun pair hpair => role_of_unmarked (hnames pair hpair) className) List.nodup_nil
  have hempty : "" ∉ pairs.map (·.1) := by
    intro hmem
    obtain ⟨pair, hpair, hname⟩ := List.mem_map.mp hmem
    obtain ⟨first, rest, htext, -⟩ := hnames pair hpair
    rw [hname] at htext
    contradiction
  have hrefused : ((Assoc.keys pairs).filter unusableNames.contains).isEmpty ↔
      "mro" ∉ pairs.map (·.1) := by
    rw [List.isEmpty_iff, List.filter_eq_nil_iff]
    constructor
    · exact fun hall hmro => hall "mro" hmro (by decide)
    · intro hmro name hname hunusable
      rcases List.mem_pair.mp (List.contains_iff_mem.mp hunusable) with rfl | rfl
      · exact hmro hname
      · exact hempty hname
  rw [ofPairs, Outcome.bind_ok_iff]
  simp only [hdeclared]
  constructor
  · rintro ⟨declared, ⟨hnodup, rfl⟩, hmade⟩
    split at hmade
    · rename_i hnone
      exact ⟨hnodup, hrefused.mp hnone, (Except.ok.inj hmade).symm⟩
    · contradiction
  · rintro ⟨hnodup, hmro, rfl⟩
    refine ⟨pairs, ⟨hnodup, rfl⟩, ?_⟩
    rw [if_pos (hrefused.mpr hmro)]
    rfl

theorem ofPairs_of_plain [BEq α] (className : String) {pairs : List (String × α)}
    (hplain : ∀ pair ∈ pairs, Plain pair.1) (hnodup : (pairs.map (·.1)).Nodup) :
    ofPairs className pairs = .ok ⟨pairs.eraseDupsBy (·.2 == ·.2)⟩ := by
  refine (ofPairs_eq_ok_iff fun pair hpair => (hplain pair hpair).unmarked).mpr
    ⟨hnodup, fun hmro => ?_, rfl⟩
  obtain ⟨pair, hpair, hname⟩ := List.mem_map.mp hmro
  obtain ⟨first, rest, htext, -, hsmall⟩ := hplain pair hpair
  rw [hname] at htext
  exact hsmall (List.cons.inj htext).1.symm

end EnumClass

/-- Induction along the erasing of duplicates: behind a member, all that repeats it is gone. -/
theorem eraseDupsBy_induction {α : Type} {r : α → α → Bool} {motive : List α → Prop}
    (nil : motive [])
    (cons : ∀ x rest, motive (rest.filter fun b => r b x = false) → motive (x :: rest))
    (xs : List α) : motive xs := by
  induction hn : xs.length using Nat.strong_induction_on generalizing xs with
  | _ n ih =>
    cases xs with
    | nil => exact nil
    | cons x rest =>
      have hlength : (rest.filter fun b => r b x = false).length < n := by
        have hle := List.length_filter_le (fun b => decide (r b x = false)) rest
        rw [← hn, List.length_cons]
        omega
      exact cons x rest (ih _ hlength _ rfl)

theorem map_eraseDupsBy {α β : Type} [BEq β] (f : α → β) (xs : List α) :
    (xs.eraseDupsBy fun a b => f a == f b).map f = (xs.map f).eraseDups := by
  induction xs using eraseDupsBy_induction (r := fun a b => f a == f b) with
  | nil => rfl
  | cons x rest ih =>
    rw [List.eraseDupsBy_cons, List.map_cons, List.map_cons, List.eraseDups_cons, ih,
      List.filter_map]
    simp [Function.comp_def]

theorem eraseDupsBy_sublist {α : Type} (r : α → α → Bool) (xs : List α) :
    (xs.eraseDupsBy r).Sublist xs := by
  induction xs using eraseDupsBy_induction (r := r) with
  | nil => exact .slnil
  | cons x rest ih =>
    rw [List.eraseDupsBy_cons]
    exact (ih.trans List.filter_sublist).cons_cons x

/-- The first member with a value stays. -/
theorem mem_eraseDupsBy_of_find? {α β : Type} [BEq β] [LawfulBEq β] (f : α → β) {xs : List α}
    {v : β} {x : α}
    (h : xs.find? (f · == v) = some x) : x ∈ xs.eraseDupsBy fun a b => f a == f b := by
  induction xs using eraseDupsBy_induction (r := fun a b => f a == f b) with
  | nil => contradiction
  | cons y rest ih =>
    rw [List.eraseDupsBy_cons, List.mem_cons]
    rw [List.find?_cons] at h
    split at h
    · exact .inl (Option.some.inj h).symm
    · rename_i hy
      refine .inr (ih ?_)
      -- what has the value does not repeat the member in front
      rw [List.find?_filter, ← h]
      congr 1
      funext b
      by_cases hb : f b == v
      · have hne : f b ≠ f y := by
          intro heq
          rw [← heq, hb] at hy
          contradiction
        simp [hb, hne]
      · simp [hb]

theorem eraseDups_of_nodup {α : Type} [BEq α] [LawfulBEq α] {xs : List α} (h : xs.Nodup) :
    xs.eraseDups = xs := by
  induction xs with
  | nil => rfl
  | cons x rest ih =>
    obtain ⟨hx, hrest⟩ := List.nodup_cons.mp h
    have hkept : rest.filter (fun b => !b == x) = rest := by
      rw [List.filter_eq_self]
      intro b hb
      simpa using ne_of_mem_of_not_mem hb hx
    rw [List.eraseDups_cons, hkept, ih hrest]

/-! ### Classes that are written out -/

namespace EnumClass

variable {α : Type}

/-- Pairs under the normal forms of their names. -/
def normalForms (pairs : List (String × α)) : List (String × α) :=
  pairs.map fun pair => (nfkc pair.1, pair.2)

theorem normalForms_names (pairs : List (String × α)) :
    (normalForms pairs).map (·.1) = pairs.map (nfkc ·.1) := by
  rw [normalForms, List.map_map]
  rfl

theorem normalForms_values (pairs : List (String × α)) :
    (normalForms pairs).map (·.2) = pairs.map (·.2) := by
  rw [normalForms, List.map_map]
  rfl

variable [BEq α] {className : String} {pairs : List (String × α)} {c : EnumClass α}

/-- A name that code may assign to; `__debug__` only looks like one. -/
def Assignable (name : String) : Prop := ValidName name ∧ nfkc name ≠ "__debug__"

instance (name : String) : Decidable (Assignable name) := inferInstanceAs (Decidable (_ ∧ _))

/-- The class of a body that has a line with the name and the value of each pair. Without a line, or
with a name that code may not assign to, there is none; else the class is made of the names that
those in the text stand for. -/
def ofBody (className : String) (pairs : List (String × α)) : Option (EnumClass α) :=
  if ValidName className ∧ !pairs.isEmpty ∧ ∀ pair ∈ pairs, Assignable pair.1 then
    (ofPairs (nfkc className)
      (pairs.map fun pair => (storedName className pair.1, pair.2))).toOption
  else none

theorem assignable_iff {name : String} (h : Plain name) : Assignable name ↔ ValidName name := by
  refine and_iff_left ?_
  intro hdebug
  obtain ⟨first, rest, htext, hne⟩ := h.unmarked_nfkc
  rw [hdebug] at htext
  exact hne (List.cons.inj htext).1.symm

/-- Plain names make a class exactly if they are valid and their normal forms are different and no
`mro`. -/
theorem ofBody_eq_some_iff (hplain : ∀ pair ∈ pairs, Plain pair.1) :
    ofBody className pairs = some c ↔
    (ValidName className ∧ pairs ≠ [] ∧ (∀ pair ∈ pairs, ValidName pair.1) ∧
      (pairs.map (nfkc ·.1)).Nodup ∧ "mro" ∉ pairs.map (nfkc ·.1)) ∧
    c = ⟨(normalForms pairs).eraseDupsBy (·.2 == ·.2)⟩ := by
  have hstored : (pairs.map fun pair => (storedName className pair.1, pair.2)) =
      normalForms pairs :=
    List.map_congr_left fun pair hpair => by rw [storedName_of_plain (hplain pair hpair)]
  have hunmarked : ∀ pair ∈ normalForms pairs, Unmarked pair.1 := by
    intro pair hpair
    obtain ⟨written, hwritten, rfl⟩ := List.mem_map.mp hpair
    exact (hplain written hwritten).unmarked_nfkc
  have hvalid : (∀ pair ∈ pairs, Assignable pair.1) ↔ ∀ pair ∈ pairs, ValidName pair.1 :=
    forall₂_congr fun pair hpair => assignable_iff (hplain pair hpair)
  have hsome : (!pairs.isEmpty) = true ↔ pairs ≠ [] := by
    rw [Bool.not_eq_true', List.isEmpty_eq_false_iff]
  rw [ofBody, hstored]
  split
  · rename_i hwritten
    rw [hvalid, hsome] at hwritten
    obtain ⟨hclass, hline, hall⟩ := hwritten
    rw [Outcome.toOption_eq_some_iff, ofPairs_eq_ok_iff hunmarked, normalForms_names]
    exact ⟨fun ⟨hnodup, hmro, hc⟩ => ⟨⟨hclass, hline, hall, hnodup, hmro⟩, hc⟩,
      fun ⟨⟨_, _, _, hnodup, hmro⟩, hc⟩ => ⟨hnodup, hmro, hc⟩⟩
  · rename_i hwritten
    rw [hvalid, hsome] at hwritten
    exact iff_of_false (fun h => by contradiction) fun h => hwritten ⟨h.1.1, h.1.2.1, h.1.2.2.1⟩

/-- The class has one member with the name of the first pair that has a value. -/
theorem filter_members [LawfulBEq α] (hplain : ∀ pair ∈ pairs, Plain pair.1)
    (h : ofBody className pairs = some c)
    {value : α} {pair : String × α} (hfirst : pairs.find? (·.2 == value) = some pair) :
    c.members.filter (·.1 == nfkc pair.1) = [(nfkc pair.1, value)] := by
  obtain ⟨⟨-, -, -, hnodup, -⟩, rfl⟩ := (ofBody_eq_some_iff hplain).mp h
  have hkey := List.find?_some hfirst
  have hvalue : pair.2 = value := eq_of_beq hkey
  have hstored : (normalForms pairs).find? (·.2 == value) = some (nfkc pair.1, value) := by
    have hsame : pairs.find? ((·.2 == value) ∘ fun pair => (nfkc pair.1, pair.2)) = some pair :=
      hfirst
    rw [normalForms, List.find?_map, hsame, Option.map_some, hvalue]
  have hkept := mem_eraseDupsBy_of_find? Prod.snd hstored
  rw [← normalForms_names] at hnodup
  have hmembers := hnodup.sublist ((eraseDupsBy_sublist (fun a b => a.2 == b.2) _).map Prod.fst)
  have hname : (nfkc pair.1, value).fst = nfkc pair.1 := rfl
  exact Catalog.filter_eq_singleton hmembers hkept hname

end EnumClass

/-! ### Classes of literals -/

/-- What the members of a class need to be written out in its body: there are some, and their names
are valid, and in normal form different from each other and from a name that classes have for
themselves. -/
structure WritesOut (members : List EnumMember) : Prop where
  some_line : members ≠ []
  valid : ∀ m ∈ members, ValidName m.name
  distinct : (members.map (nfkc ·.name)).Nodup
  usable : "mro" ∉ members.map (nfkc ·.name)

/-- A line for each member. -/
def lines (members : List EnumMember) : List (String × String) :=
  members.map fun m => (m.name, m.value)

theorem lines_plain {literals : List String} {members : List EnumMember}
    (h : Named [] literals members) :
    ∀ pair ∈ lines members, Plain pair.1 := by
  intro pair hpair
  obtain ⟨m, hm, rfl⟩ := List.mem_map.mp hpair
  exact h.plain m hm

theorem ofBody_lines_iff {literals : List String} {members : List EnumMember}
    (h : Named [] literals members) {className : String} {c : EnumClass String} :
    EnumClass.ofBody className (lines members) = some c ↔
      (ValidName className ∧ WritesOut members) ∧
        c = ⟨(EnumClass.normalForms (lines members)).eraseDupsBy (·.2 == ·.2)⟩ := by
  have hnames : (lines members).map (nfkc ·.1) = members.map (nfkc ·.name) := by
    rw [lines, List.map_map]
    rfl
  have hvalid : (∀ pair ∈ lines members, ValidName pair.1) ↔ ∀ m ∈ members, ValidName m.name := by
    rw [lines, List.forall_mem_map]
  have hsome : lines members ≠ [] ↔ members ≠ [] := by rw [lines, ne_eq, List.map_eq_nil_iff]
  rw [EnumClass.ofBody_eq_some_iff (lines_plain h), hnames, hvalid, hsome]
  refine and_congr_left fun _ => and_congr_right fun _ => ?_
  exact ⟨fun ⟨hline, hvalid, hnodup, hmro⟩ => ⟨hline, hvalid, hnodup, hmro⟩,
    fun h => ⟨h.some_line, h.valid, h.distinct, h.usable⟩⟩

theorem ofBody_lines_isSome_iff {literals : List String} {members : List EnumMember}
    (h : Named [] literals members) {className : String} :
    (EnumClass.ofBody className (lines members)).isSome ↔
      ValidName className ∧ WritesOut members := by
  rw [Option.isSome_iff_exists]
  constructor
  · rintro ⟨c, hc⟩
    exact ((ofBody_lines_iff h).mp hc).1
  · exact fun hwritten => ⟨_, (ofBody_lines_iff h).mpr ⟨hwritten, rfl⟩⟩

/-- The members of a class have every value of the pairs once, in their order. -/
theorem values_eraseDupsBy (pairs : List (String × String)) :
    EnumClass.values ⟨pairs.eraseDupsBy (·.2 == ·.2)⟩ = (pairs.map (·.2)).eraseDups :=
  map_eraseDupsBy Prod.snd pairs

/-- The naming of literals ends under all circumstances, with different names for all literals in
their order. A class that is made of these names has every literal once as a value, in that order.
So has the class that is written out under a valid name; but there is one only if the names can be
written out. -/
theorem enumMembers_kept (literals : List String) :
    (∀ members, Named [] literals members ↔ members = enumMembers literals) ∧
      ((enumMembers literals).map (·.name)).Nodup ∧
      (enumMembers literals).map (·.value) = literals ∧
      (∀ className, ∃ c, EnumClass.ofPairs className (lines (enumMembers literals)) = .ok c ∧
        c.values = literals.eraseDups ∧ (literals.Nodup → c.values = literals)) ∧
      ∀ className,
        ((EnumClass.ofBody className (lines (enumMembers literals))).isSome ↔
          ValidName className ∧ WritesOut (enumMembers literals)) ∧
        ∀ c, EnumClass.ofBody className (lines (enumMembers literals)) = some c →
          c.values = literals.eraseDups ∧ (literals.Nodup → c.values = literals) := by
  have hrun : Named [] literals (enumMembers literals) := named_iff.mpr rfl
  have hvalues : (lines (enumMembers literals)).map (·.2) = literals := by
    rw [lines, List.map_map]
    exact hrun.values_eq
  have hkept {c : EnumClass String} (hc : c.values = literals.eraseDups) :
      c.values = literals.eraseDups ∧ (literals.Nodup → c.values = literals) :=
    ⟨hc, fun hdistinct => hc.trans (eraseDups_of_nodup hdistinct)⟩
  refine ⟨fun _ => named_iff, hrun.nodup, hrun.values_eq, fun className => ?_,
    fun className => ⟨ofBody_lines_isSome_iff hrun, fun c hc => ?_⟩⟩
  · have hnodup : ((lines (enumMembers literals)).map (·.1)).Nodup := by
      rw [lines, List.map_map]
      exact hrun.nodup
    refine ⟨_, EnumClass.ofPairs_of_plain className (lines_plain hrun) hnodup, hkept ?_⟩
    rw [values_eraseDupsBy, hvalues]
  · obtain ⟨-, rfl⟩ := (ofBody_lines_iff hrun).mp hc
    refine hkept ?_
    rw [values_eraseDupsBy, EnumClass.normalForms_values, hvalues]

/-- A numbered name meets the name of a literal before it. -/
theorem collidingNames_kept : ["1.2", "1", "1 ", " 1", "", "-"].Nodup ∧
    (enumMembers ["1.2", "1", "1 ", " 1", "", "-"]).map (·.name) =
      ["Val1_2", "Val1", "Val1_3", "Val1_4", "Empty", "Empty_2"] ∧
    ∃ c, EnumClass.ofBody "Size" (lines (enumMembers ["1.2", "1", "1 ", " 1", "", "-"])) = some c ∧
      c.values = ["1.2", "1", "1 ", " 1", "", "-"] := by
  have hdistinct : ["1.2", "1", "1 ", " 1", "", "-"].Nodup := by decide
  have hnames : (enumMembers ["1.2", "1", "1 ", " 1", "", "-"]).map (·.name) =
      ["Val1_2", "Val1", "Val1_3", "Val1_4", "Empty", "Empty_2"] := by decide +kernel
  obtain ⟨hbody, hvalues⟩ := (enumMembers_kept ["1.2", "1", "1 ", " 1", "", "-"]).2.2.2.2 "Size"
  have hwritten : WritesOut (enumMembers ["1.2", "1", "1 ", " 1", "", "-"]) := by
    have hforms : (enumMembers ["1.2", "1", "1 ", " 1", "", "-"]).map (nfkc ·.name) =
        ["Val1_2", "Val1", "Val1_3", "Val1_4", "Empty", "Empty_2"] := by decide +kernel
    refine ⟨by decide +kernel, by decide +kernel, ?_, ?_⟩ <;> rw [hforms] <;> decide
  obtain ⟨c, hc⟩ := Option.isSome_iff_exists.mp (hbody.mpr ⟨by decide +kernel, hwritten⟩)
  exact ⟨hdistinct, hnames, c, hc, (hvalues c hc).2 hdistinct⟩

/-- A letter and the same letter in full width are different names for the naming, and one name in a
class. -/
theorem fullWidth_repeats : ["A", "Ａ"].Nodup ∧
    enumMembers ["A", "Ａ"] = [⟨"A", "A"⟩, ⟨"Ａ", "Ａ"⟩] ∧
    ∀ className, EnumClass.ofBody className (lines (enumMembers ["A", "Ａ"])) = none := by
  refine ⟨by decide, by decide +kernel, fun className => ?_⟩
  by_contra hsome
  obtain ⟨c, hc⟩ := Option.ne_none_iff_exists'.mp hsome
  have hdistinct := ((ofBody_lines_iff (named_iff.mpr rfl)).mp hc).1.2.distinct
  exact absurd hdistinct (by decide +kernel)

end CatalogEntities.Storage
