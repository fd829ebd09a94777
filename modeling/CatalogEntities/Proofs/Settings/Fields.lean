import CatalogEntities.Proofs.Outcome
import CatalogEntities.Proofs.Text.Span
import CatalogEntities.Settings.Basic

/-!
What the fields of a settings document are read as.

Main result: `Settings.ofFields_ok_iff`.
-/

namespace CatalogEntities.Settings

open Text Number

/-- A text, as itself or encoded. -/
inductive TextOf : Value → String → Prop
  | text (s : String) : TextOf (.text s) s
  | bytes {b : List UInt8} {cs : List Char} : Utf8.decode b = .ok cs →
    TextOf (.bytes b) (String.ofList cs)

/-- A truth value: the numbers zero and one, whatever their kind, and certain words. -/
inductive FlagOf : Value → Bool → Prop
  | number {v : Value} {b : Bool} : v.number? = some (if b then 1 else 0) → FlagOf v b
  | word {v : Value} {b : Bool} {s : String} : TextOf v s →
      onChars asciiLower s ∈ (if b then trueWords else falseWords) → FlagOf v b

/-- Null, or a list of texts that are not blank; these are taken without the blanks around them. -/
inductive TablesOf : Value → Option (List String) → Prop
  | null : TablesOf .null none
  | list {items : List String} : (∀ s ∈ items, onChars trim s ≠ "") →
      TablesOf (.list (items.map .text)) (some (items.map (onChars trim)))

/-- What a field has: the reading of its entry, or its default if there is no entry. -/
def FieldIs {α : Type} (reads : Value → α → Prop) (default : Option α) (entry : Option Value)
    (x : α) : Prop :=
  match entry with
  | some v => reads v x
  | none => default = some x

/-- Settings that come from entries by name. -/
structure FromEntries (entry : String → Option Value) (s : Settings) : Prop where
  databaseUrl : FieldIs TextOf none (entry "database_url") s.databaseUrl
  url : s.databaseUrl ≠ "" ∧ ∃ target, Connection.Target.parse s.databaseUrl = .ok target
  outputDirectory : FieldIs TextOf (some defaultDirectory) (entry "output_dir") s.outputDirectory
  directory : s.outputDirectory ≠ ""
  includedTables : FieldIs TablesOf (some none) (entry "include_tables") s.includedTables
  excludedTables : FieldIs TablesOf (some none) (entry "exclude_tables") s.excludedTables
  formatCode : FieldIs FlagOf (some true) (entry "format_code") s.formatCode

/-! ### Readers -/

theorem TextOf.readText {v : Value} {s : String} (h : TextOf v s) :
    readText v = if s.isEmpty then complain "String should have at least 1 character"
      else .ok s := by
  cases h with
  | text s => rfl
  | bytes hdecode =>
    simp only [Settings.readText, hdecode]
    rfl

theorem textOf_or (v : Value) : (∃ s, TextOf v s) ∨ ∃ complaint, readText v = .error complaint := by
  cases v with
  | text s => exact Or.inl ⟨s, .text s⟩
  | bytes b =>
    cases hdecode : Utf8.decode b with
    | ok cs => exact Or.inl ⟨_, .bytes hdecode⟩
    | error fault =>
      refine Or.inr ⟨⟨"", undecodableText⟩, ?_⟩
      simp only [readText, hdecode]
      rfl
  | _ => exact Or.inr ⟨_, rfl⟩

theorem readText_ok_iff {v : Value} {s : String} : readText v = .ok s ↔ TextOf v s ∧ s ≠ "" := by
  constructor
  · intro h
    rcases textOf_or v with ⟨text, hof⟩ | ⟨complaint, herror⟩
    · rw [hof.readText] at h
      split at h
      · cases h
      · rename_i hempty
        obtain rfl := Except.ok.inj h
        exact ⟨hof, fun he => hempty (by rw [he]; rfl)⟩
    · rw [herror] at h
      cases h
  · rintro ⟨hof, hempty⟩
    have hsome : ¬ s.isEmpty := by simpa using hempty
    rw [hof.readText, if_neg hsome]

theorem readUrl_ok_iff {v : Value} {s : String} :
    readUrl v = .ok s ↔ TextOf v s ∧ s ≠ "" ∧ ∃ target, Connection.Target.parse s = .ok target := by
  constructor
  · intro h
    obtain ⟨text, htext, h⟩ := Outcome.bind_ok_iff.mp h
    obtain ⟨hof, hempty⟩ := readText_ok_iff.mp htext
    split at h
    · rename_i target hparse
      obtain rfl := Except.ok.inj h
      exact ⟨hof, hempty, target, hparse⟩
    · cases h
    · cases h
  · rintro ⟨hof, hempty, target, hparse⟩
    refine Outcome.bind_ok_iff.mpr ⟨s, readText_ok_iff.mpr ⟨hof, hempty⟩, ?_⟩
    simp only [hparse]
    rfl

theorem readName_ok_iff {index : Nat} {v : Value} {name : String} :
    readName index v = .ok name ↔ ∃ s, v = .text s ∧ onChars trim s = name ∧ name ≠ "" := by
  have hempty (cs : List Char) : cs.isEmpty ↔ String.ofList cs = "" := by
    rw [List.isEmpty_iff, ← String.toList_inj, String.toList_ofList]
    rfl
  cases v with
  | text s =>
    simp only [readName, Value.text.injEq, exists_eq_left', onChars]
    split
    · rename_i hblank
      have hnone := (hempty _).mp hblank
      simp [complain, hnone, eq_comm]
    · rename_i hsome
      have hsome := mt (hempty _).mpr hsome
      simp only [Except.ok.injEq]
      exact ⟨fun h => ⟨h, h ▸ hsome⟩, And.left⟩
  | _ => simp [readName, complain]

theorem readNames_ok_iff {index : Nat} {vs : List Value} {names : List String} :
    readNames index vs = .ok names ↔
      ∃ items : List String, vs = items.map .text ∧ names = items.map (onChars trim) ∧
      ∀ s ∈ items, onChars trim s ≠ "" := by
  induction vs generalizing index names with
  | nil =>
    constructor
    · intro h
      obtain rfl := Except.ok.inj h
      exact ⟨[], rfl, rfl, List.forall_mem_nil _⟩
    · rintro ⟨items, hitems, rfl, -⟩
      rw [List.map_eq_nil_iff.mp hitems.symm]
      rfl
  | cons v rest ih =>
    constructor
    · intro h
      obtain ⟨name, hname, h⟩ := Outcome.bind_ok_iff.mp h
      obtain ⟨more, hmore, h⟩ := Outcome.bind_ok_iff.mp h
      obtain ⟨s, rfl, rfl, hs⟩ := readName_ok_iff.mp hname
      obtain ⟨items, rfl, rfl, hitems⟩ := ih.mp hmore
      obtain rfl := Except.ok.inj h
      exact ⟨s :: items, rfl, rfl, List.forall_mem_cons.mpr ⟨hs, hitems⟩⟩
    · rintro ⟨items, hitems, rfl, hnone⟩
      obtain ⟨s, items, rfl, rfl, rfl⟩ := List.map_eq_cons_iff.mp hitems.symm
      obtain ⟨hs, hnone⟩ := List.forall_mem_cons.mp hnone
      refine Outcome.bind_ok_iff.mpr ⟨_, readName_ok_iff.mpr ⟨s, rfl, rfl, hs⟩, ?_⟩
      exact Outcome.bind_ok_iff.mpr ⟨_, ih.mpr ⟨items, rfl, rfl, hnone⟩, rfl⟩

theorem readTables_ok_iff {v : Value} {tables : Option (List String)} :
    readTables v = .ok tables ↔ TablesOf v tables := by
  constructor
  · intro h
    cases v with
    | null =>
      obtain rfl := Except.ok.inj h
      exact .null
    | list vs =>
      obtain ⟨names, hnames, rfl⟩ := Outcome.map_ok_iff.mp h
      obtain ⟨items, rfl, rfl, hitems⟩ := readNames_ok_iff.mp hnames
      exact .list hitems
    | _ => cases h
  · intro h
    cases h with
    | null => rfl
    | list hitems =>
      exact Outcome.map_ok_iff.mpr ⟨_, readNames_ok_iff.mpr ⟨_, rfl, rfl, hitems⟩, rfl⟩

theorem readWord_ok_iff {s : String} {b : Bool} :
    readWord s = .ok b ↔ onChars asciiLower s ∈ (if b then trueWords else falseWords) := by
  have hapart : ∀ word ∈ trueWords, word ∉ falseWords := by decide
  simp only [readWord, List.contains_iff_mem]
  by_cases htrue : onChars asciiLower s ∈ trueWords
  · have hfalse := hapart _ htrue
    cases b <;> simp [htrue, hfalse]
  · by_cases hfalse : onChars asciiLower s ∈ falseWords <;> cases b <;>
      simp [htrue, hfalse, complain]

theorem readNumber_ok_iff {least n : Int} {b : Bool} :
    readNumber least n = .ok b ↔ n = if b then 1 else 0 := by
  unfold readNumber complain
  cases b <;> grind

theorem readFlag_ok_iff {v : Value} {b : Bool} : readFlag v = .ok b ↔ FlagOf v b := by
  constructor
  · intro h
    cases v with
    | bool b' =>
      obtain rfl := Except.ok.inj h
      exact .number rfl
    | text s => exact .word (.text s) (readWord_ok_iff.mp h)
    | bytes bs =>
      cases hdecode : Utf8.decode bs with
      | ok cs =>
        simp only [readFlag, hdecode] at h
        exact .word (.bytes hdecode) (readWord_ok_iff.mp h)
      | error fault =>
        simp only [readFlag, hdecode] at h
        cases h
    | int n => exact .number (congrArg some (readNumber_ok_iff.mp h))
    | float x =>
      cases hx : x.toInteger? with
      | some n =>
        simp only [readFlag, hx] at h
        exact .number (hx.trans (congrArg some (readNumber_ok_iff.mp h)))
      | none =>
        simp only [readFlag, hx] at h
        cases h
    | _ => cases h
  · intro h
    cases h with
    | number hnumber =>
      cases v with
      | bool b' => cases b <;> cases b' <;> first | rfl | simp [Value.number?] at hnumber
      | int n => exact readNumber_ok_iff.mpr (Option.some.inj hnumber)
      | float x =>
        have hx : x.toInteger? = some (if b then 1 else 0) := hnumber
        simp only [readFlag, hx]
        exact readNumber_ok_iff.mpr rfl
      | _ => cases hnumber
    | word hof hword =>
      cases hof with
      | text s => exact readWord_ok_iff.mpr hword
      | bytes hdecode =>
        simp only [readFlag, hdecode]
        exact readWord_ok_iff.mpr hword

/-! ### Settings -/

/-- A document's field has the value that its entry is read as. -/
theorem field_ok_iff {α : Type} {document : List (Value × Value)} {name : String}
    {read : Value → Except Complaint α} {default : Except Complaint α} {reads : Value → α → Prop}
    (hread : ∀ v x, read v = .ok x ↔ reads v x) {x : α} :
    field document name read default = .ok x ↔
      FieldIs reads default.toOption (Value.field? document name) x := by
  cases hentry : Value.field? document name with
  | some v => simp only [field, FieldIs, hentry, hread]
  | none => simp only [field, FieldIs, hentry, Outcome.toOption_eq_some_iff]

theorem fieldIs_and {α : Type} {reads : Value → α → Prop} {P : α → Prop} {default : Option α}
    {entry : Option Value} {x : α} (hdefault : default = some x → P x) :
    FieldIs (fun v x => reads v x ∧ P x) default entry x ↔ FieldIs reads default entry x ∧ P x := by
  cases entry with
  | some v => exact Iff.rfl
  | none => exact ⟨fun h => ⟨h, hdefault h⟩, And.left⟩

theorem ofFields_ok_iff {document : List (Value × Value)} {s : Settings} :
    ofFields document = .ok s ↔ FromEntries (Value.field? document) s := by
  have hurl :
      field document "database_url" readUrl (complain "Field required") = .ok s.databaseUrl ↔ _ :=
    (field_ok_iff fun _ _ => readUrl_ok_iff).trans (fieldIs_and nofun)
  have hdirectory :
      field document "output_dir" readText (.ok defaultDirectory) = .ok s.outputDirectory ↔ _ :=
    (field_ok_iff fun _ _ => readText_ok_iff).trans
      (fieldIs_and fun h => by rw [← Option.some.inj h]; decide)
  have hincluded :
      field document "include_tables" readTables (.ok none) = .ok s.includedTables ↔ _ :=
    field_ok_iff fun _ _ => readTables_ok_iff
  have hexcluded :
      field document "exclude_tables" readTables (.ok none) = .ok s.excludedTables ↔ _ :=
    field_ok_iff fun _ _ => readTables_ok_iff
  have hformat : field document "format_code" readFlag (.ok true) = .ok s.formatCode ↔ _ :=
    field_ok_iff fun _ _ => readFlag_ok_iff
  -- the fields are read one after the other, and all have to be read
  have hparts : ofFields document = .ok s ↔
      field document "database_url" readUrl (complain "Field required") = .ok s.databaseUrl ∧
      field document "output_dir" readText (.ok defaultDirectory) = .ok s.outputDirectory ∧
      field document "include_tables" readTables (.ok none) = .ok s.includedTables ∧
      field document "exclude_tables" readTables (.ok none) = .ok s.excludedTables ∧
      field document "format_code" readFlag (.ok true) = .ok s.formatCode := by
    obtain ⟨databaseUrl, outputDirectory, includedTables, excludedTables, formatCode⟩ := s
    simp only [ofFields]
    split
    · simp_all
    · rename_i hmissing
      refine ⟨nofun, fun ⟨hurl, hdirectory, hincluded, hexcluded, hformat⟩ => ?_⟩
      exact absurd hformat (hmissing _ _ _ _ _ hurl hdirectory hincluded hexcluded)
  rw [hparts, hurl, hdirectory, hincluded, hexcluded, hformat]
  constructor
  · rintro ⟨⟨hurl, hurl'⟩, ⟨hdirectory, hdirectory'⟩, hincluded, hexcluded, hformat⟩
    exact ⟨hurl, hurl', hdirectory, hdirectory', hincluded, hexcluded, hformat⟩
  · rintro ⟨hurl, hurl', hdirectory, hdirectory', hincluded, hexcluded, hformat⟩
    exact ⟨⟨hurl, hurl'⟩, ⟨hdirectory, hdirectory'⟩, hincluded, hexcluded, hformat⟩

end CatalogEntities.Settings
