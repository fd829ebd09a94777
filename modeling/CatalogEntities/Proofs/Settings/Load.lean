import CatalogEntities.Proofs.Assoc
import CatalogEntities.Proofs.Catalog
import CatalogEntities.Proofs.Graph.Forward
import CatalogEntities.Proofs.Settings.Fields
import CatalogEntities.Settings.Load

/-!
Loaded settings: what is given on the command line goes before the file, the file before the
defaults.

Main result: `Settings.load_precedence`.
-/

namespace CatalogEntities.Settings

open Files Text

/-- The document that a named file holds; without a file it is empty. -/
def Loads (t : Tree) (path : Option String) (document : List (Value × Value)) : Prop :=
  ∃ noted,
  ((path.filter (!·.isEmpty)).map (loadDocument t)).getD (.ok ([], [])) = .ok (noted, document)

/-- The value given under a name; null stands for none. -/
def givenValue? (given : Assoc String Value) (name : String) : Option Value :=
  match given.get? name with
  | some .null => none
  | found => found

/-- The value given under a name, or else the entry of a document. -/
def chosen (document : List (Value × Value)) (given : Assoc String Value) (name : String) :
    Option Value :=
  (givenValue? given name).or (Value.field? document name)

/-- Settings as loaded from entries by name: a working directory makes the output directory
absolute, and no table is both included and excluded. -/
structure LoadedFrom (entry : String → Option Value)
    (home : List String) (s : Settings) : Prop where
  directory : ∃ directory, FromEntries entry { s with outputDirectory := directory } ∧
    ¬ Tree.hasNul (.ofText directory) ∧
    s.outputDirectory = locationText ((FilePath.ofText directory).resolve home)
  apart : ∀ name ∈ s.includedTables.getD [], name ∉ s.excludedTables.getD []

/-! ### Given values over a document -/

theorem beq_text_iff {v : Value} {name : String} : (v == .text name) = true ↔ v = .text name := by
  cases v with
  | text s => simp [BEq.beq, Value.sameKey]
  | _ => simp [BEq.beq, Value.sameKey, Value.number?]

theorem text_beq_iff {v : Value} {name : String} : (.text name == v) = true ↔ v = .text name := by
  cases v with
  | text s => simp [BEq.beq, Value.sameKey, eq_comm]
  | _ => simp [BEq.beq, Value.sameKey, Value.number?]

theorem field?_put (document : List (Value × Value)) (key : String) (v : Value) (name : String) :
    Value.field? (Assoc.put document (.text key) v) name =
      if name == key then some v else Value.field? document name := by
  have hfound (k : Value) (w : Value) (rest : List (Value × Value)) :
      Value.field? ((k, w) :: rest) name =
      if .text name == k then some w else Value.field? rest name := by
    simp only [Value.field?, Assoc.get?, List.lookup_cons]
    cases Value.text name == k <;> rfl
  have hkey : (Value.text name == .text key) = (name == key) := rfl
  induction document with
  | nil =>
    rw [Assoc.put, hfound, hkey]
  | cons pair rest ih =>
    obtain ⟨k, w⟩ := pair
    unfold Assoc.put
    split
    · rename_i hk
      obtain rfl := beq_text_iff.mp hk
      rw [hfound, hfound, hkey]
      split <;> rfl
    · rename_i hk
      rw [hfound, hfound, ih]
      by_cases hname : (Value.text name == k) = true
      · obtain rfl := text_beq_iff.mp hname
        have hne : ¬ (name == key) = true :=
          fun he => hk (beq_text_iff.mpr (congrArg Value.text (eq_of_beq he)))
        simp [hne]
      · simp [hname]

/-- The last value under a name counts. -/
theorem field?_update (document : List (Value × Value)) (given : Assoc String Value)
    (name : String) :
    Value.field? (Assoc.update document (given.map fun (key, v) => (.text key, v))) name =
      (given.reverse.lookup name).or (Value.field? document name) := by
  induction given generalizing document with
  | nil => simp [Assoc.update]
  | cons pair rest ih =>
    obtain ⟨key, v⟩ := pair
    have hstep :
        Assoc.update document (((key, v) :: rest).map fun (key, v) => (Value.text key, v)) =
        Assoc.update (Assoc.put document (.text key) v) (rest.map fun (key, v) => (.text key, v)) :=
      rfl
    rw [hstep, ih, field?_put, List.reverse_cons, List.lookup_append, Option.or_assoc,
      List.lookup_cons, List.lookup_nil]
    by_cases hname : name == key <;> simp [hname]

theorem givenValue?_eq_some_iff {given : Assoc String Value} {name : String} {v : Value} :
    givenValue? given name = some v ↔ given.get? name = some v ∧ v ≠ .null := by
  unfold givenValue?
  split
  · rename_i hnull
    rw [hnull]
    exact ⟨nofun, fun ⟨h, hne⟩ => absurd (Option.some.inj h).symm hne⟩
  · rename_i hsome
    exact ⟨fun h => ⟨h, fun hnull => hsome (hnull ▸ h)⟩, And.left⟩

theorem field?_overridden {document : List (Value × Value)} {given : Assoc String Value}
    (h : given.keys.Nodup) {name : String} (hname : name ∈ fieldNames) :
    Value.field? (overridden document given) name = chosen document given name := by
  have hkept : (givenFields given).reverse.lookup name = givenValue? given name := by
    have hnodup : (Assoc.keys (givenFields given).reverse).Nodup := by
      rw [Assoc.keys, List.map_reverse, List.nodup_reverse]
      exact Assoc.keys_filter_nodup h _
    refine Option.ext fun v => ?_
    calc (givenFields given).reverse.lookup name = some v
      _ ↔ (name, v) ∈ givenFields given := (Assoc.get?_eq_some_iff hnodup).trans List.mem_reverse
      _ ↔ (name, v) ∈ given ∧ v ≠ .null := by cases v <;> simp [givenFields, hname]
      _ ↔ given.get? name = some v ∧ v ≠ .null := by rw [Assoc.get?_eq_some_iff h]
      _ ↔ givenValue? given name = some v := givenValue?_eq_some_iff.symm
  rw [overridden, field?_update, hkept, chosen]

/-! ### Checks -/

theorem require_ofFilters_iff {included excluded : Option (List String)}
    {validator : Option String} :
    (Findings.ofFilters included excluded).require validator = .ok () ↔
      ∀ name ∈ included.getD [], name ∉ excluded.getD [] := by
  simp only [Findings.ofFilters]
  generalize included.getD [] = wanted, excluded.getD [] = unwanted
  split
  · simp [*, Findings.require, Findings.empty]
  · simp [*, Findings.require, Findings.empty]
  · have hboth :
        (Catalog.sortNames (RelationGraph.distinct (wanted.filter unwanted.contains))).isEmpty ↔
        ∀ name ∈ wanted, name ∉ unwanted := by
      simp [List.isEmpty_iff, List.eq_nil_iff_forall_not_mem]
    rw [← hboth]
    split
    · rename_i hnone
      simp [hnone, Findings.require, Findings.empty, Findings.addWarning]
    · rename_i hsome
      simp [hsome, Findings.require, Findings.empty, Findings.addError]

theorem absoluteDirectory_ok_iff {t : Tree} {directory text : String} :
    absoluteDirectory t directory = .ok text ↔
    ¬ Tree.hasNul (.ofText directory) ∧
    text = locationText ((FilePath.ofText directory).resolve t.home) := by
  simp only [absoluteDirectory]
  split
  · simp [*]
  · simp [*, eq_comm]

theorem finish_ok_iff {t : Tree} {entries : List (Value × Value)} {s : Settings} :
    (finish t entries).2 = .ok s ↔ LoadedFrom (Value.field? entries) t.home s := by
  have hvalidate : validate (.map entries) = ofFields entries := rfl
  constructor
  · intro h
    cases hread : ofFields entries with
    | error failure => simp [finish, hvalidate, hread] at h
    | ok read =>
      simp only [finish, hvalidate, hread] at h
      obtain ⟨⟨⟩, hapart, h⟩ := Outcome.bind_ok_iff.mp h
      obtain ⟨absolute, habsolute, h⟩ := Outcome.bind_ok_iff.mp h
      obtain rfl := Except.ok.inj h
      exact ⟨⟨_, ofFields_ok_iff.mp hread, absoluteDirectory_ok_iff.mp habsolute⟩,
        require_ofFilters_iff.mp hapart⟩
  · rintro ⟨⟨directory, hfields, habsolute⟩, hapart⟩
    simp only [finish, hvalidate, ofFields_ok_iff.mpr hfields]
    refine Outcome.bind_ok_iff.mpr ⟨(), require_ofFilters_iff.mpr hapart, ?_⟩
    exact Outcome.bind_ok_iff.mpr ⟨_, absoluteDirectory_ok_iff.mpr habsolute, rfl⟩

theorem load_outcome {t : Tree} {path : Option String} {document : List (Value × Value)}
    (h : Loads t path document) (given : Assoc String Value) :
    (load t path given).2 = (finish t (overridden document given)).2 := by
  obtain ⟨noted, hdocument⟩ := h
  simp only [load, hdocument]

/-! ### Loaded settings -/

/-- Only the entries that count are read. -/
theorem finish_congr {t t' : Tree} {entries entries' : List (Value × Value)}
    (hhome : t'.home = t.home)
    (h : ∀ name ∈ fieldNames, Value.field? entries' name = Value.field? entries name) :
    finish t' entries' = finish t entries := by
  have hfields : ofFields entries' = ofFields entries := by
    simp only [fieldNames, List.forall_mem_cons] at h
    obtain ⟨hurl, hdirectory, hincluded, hexcluded, hformat, -⟩ := h
    simp only [ofFields, field, hurl, hdirectory, hincluded, hexcluded, hformat]
  have hdirectory : absoluteDirectory t' = absoluteDirectory t := by
    funext directory
    simp only [absoluteDirectory, hhome]
  simp only [finish, validate, hfields, hdirectory]

theorem locationText_isAbsolute (location : List String) :
    (FilePath.ofText (locationText location)).isAbsolute := by
  have hslash : (locationText location).toList = '/' :: (joinWith "/" location).toList := by
    rw [locationText, String.toList_append]
    rfl
  have hanchor (cs : List Char) : FilePath.anchorOf ('/' :: cs) ≠ "" := by
    unfold FilePath.anchorOf
    split <;> simp_all
  simpa [FilePath.isAbsolute, FilePath.ofText, hslash] using hanchor _

theorem LoadedFrom.congr {entry entry' : String → Option Value} {home : List String} {s : Settings}
    (h : ∀ name ∈ fieldNames, entry name = entry' name) (hfrom : LoadedFrom entry home s) :
    LoadedFrom entry' home s := by
  obtain ⟨⟨directory, hfields, habsolute⟩, hapart⟩ := hfrom
  simp only [fieldNames, List.forall_mem_cons] at h
  obtain ⟨hurl, hdirectory, hincluded, hexcluded, hformat, -⟩ := h
  have hfields' : FromEntries entry' { s with outputDirectory := directory } :=
    { hfields with
      databaseUrl := hurl ▸ hfields.databaseUrl
      outputDirectory := hdirectory ▸ hfields.outputDirectory
      includedTables := hincluded ▸ hfields.includedTables
      excludedTables := hexcluded ▸ hfields.excludedTables
      formatCode := hformat ▸ hfields.formatCode }
  exact ⟨⟨directory, hfields', habsolute⟩, hapart⟩

theorem FieldIs.stripped {entry : Option Value} {tables : Option (List String)}
    (h : FieldIs TablesOf (some none) entry tables) :
    ∀ name ∈ tables.getD [], name ≠ "" ∧ onChars trim name = name := by
  cases entry with
  | none =>
    obtain rfl := Option.some.inj h
    exact List.forall_mem_nil _
  | some v =>
    cases h with
    | null => exact List.forall_mem_nil _
    | list hitems =>
      intro name hname
      obtain ⟨s, hs, rfl⟩ := List.mem_map.mp hname
      refine ⟨hitems s hs, ?_⟩
      simp only [onChars, String.toList_ofList, trim_trim]

/-- A setting is the value given for it, or else the entry of the file, or else its default; entries
of the file for which a value is given count for nothing. -/
theorem load_precedence {t : Tree} {path : Option String} {document : List (Value × Value)}
    {given : Assoc String Value} (hloads : Loads t path document) (hgiven : given.keys.Nodup) :
    (∀ t' path' document', Loads t' path' document' → t'.home = t.home →
      (∀ name ∈ fieldNames, givenValue? given name = none →
        Value.field? document' name = Value.field? document name) →
      (load t' path' given).2 = (load t path given).2) ∧
    (∀ s, (load t path given).2 = .ok s ↔ LoadedFrom (chosen document given) t.home s) ∧
    ∀ s, (load t path given).2 = .ok s →
      (∃ target, Connection.Target.parse s.databaseUrl = .ok target) ∧
      (FilePath.ofText s.outputDirectory).isAbsolute ∧
      (∀ name ∈ s.includedTables.getD [] ++ s.excludedTables.getD [], name ≠ "" ∧
        onChars trim name = name) ∧
      ∀ name ∈ s.includedTables.getD [], name ∉ s.excludedTables.getD [] := by
  have hoverridden : ∀ name ∈ fieldNames,
      Value.field? (overridden document given) name = chosen document given name :=
    fun name hname => field?_overridden hgiven hname
  have hok (s : Settings) : (load t path given).2 = .ok s ↔
      LoadedFrom (chosen document given) t.home s := by
    rw [load_outcome hloads, finish_ok_iff]
    exact ⟨.congr hoverridden, .congr fun name hname => (hoverridden name hname).symm⟩
  refine ⟨fun t' path' document' hloads' hhome hsame => ?_, hok, fun s hs => ?_⟩
  · rw [load_outcome hloads, load_outcome hloads', finish_congr hhome fun name hname => ?_]
    rw [field?_overridden hgiven hname, field?_overridden hgiven hname, chosen, chosen]
    cases hvalue : givenValue? given name with
    | some v => rfl
    | none => rw [hsame name hname hvalue]
  · obtain ⟨⟨directory, hfields, -, habsolute⟩, hapart⟩ := (hok s).mp hs
    refine ⟨hfields.url.2, habsolute ▸ locationText_isAbsolute _, ?_, hapart⟩
    exact List.forall_mem_append.mpr
      ⟨hfields.includedTables.stripped, hfields.excludedTables.stripped⟩

/-- The content of a settings file with a directory that is none and a list of tables. -/
def shopContent : List UInt8 :=
  Utf8.encode "database_url: mysql://root@db/shop\noutput_dir: 7\nexclude_tables: [' log ', job]".toList

def shopTree : Tree where
  home := ["work"]
  entries := [(["work"], .directory), (["work", "shop.yaml"], .file shopContent)]
  refusal := none

def shopDocument : List (Value × Value) := [
  (.text "database_url", .text "mysql://root@db/shop"),
  (.text "output_dir", .int 7),
  (.text "exclude_tables", .list [.text " log ", .text "job"])]

/-- The entries of a document that is of the kind of `shopDocument`. -/
def shopEntries? :
    List (Value × Value) → Option ((String × String) × (String × Int) × (String × List String))
  | [(.text first, .text text), (.text second, .int number),
    (.text third, .list [.text one, .text two])] =>
    some ((first, text), (second, number), (third, [one, two]))
  | _ => none

theorem eq_shopDocument {document : List (Value × Value)}
    (h : shopEntries? document = shopEntries? shopDocument) :
    document = shopDocument := by
  have hentries :
      shopEntries? shopDocument = some (("database_url", "mysql://root@db/shop"), ("output_dir", 7),
      ("exclude_tables", [" log ", "job"])) := rfl
  rw [hentries] at h
  unfold shopEntries? at h
  split at h
  · cases h
    rfl
  · cases h

theorem shopTree_loads : Loads shopTree (some "shop.yaml") shopDocument := by
  have hpath : FilePath.ofText "shop.yaml" = ⟨"", ["shop.yaml"]⟩ := by decide +kernel
  have hfile : fileContent shopTree "shop.yaml" = .ok shopContent := by
    have hlocate : shopTree.locate ⟨"", ["shop.yaml"]⟩ = .ok ["work", "shop.yaml"] := by rfl
    have hentry : shopTree.entry? ["work", "shop.yaml"] = some (.file shopContent) := by rfl
    simp [fileContent, Tree.query?, Tree.status, hpath, Tree.hasNul, hlocate, hentry]
  have hread : (documentOf "shop.yaml" shopContent).toOption.map (shopEntries? ·.2) =
      some (shopEntries? shopDocument) := by
    decide +kernel
  obtain ⟨⟨noted, document⟩, hdocument, hentries⟩ := Option.map_eq_some_iff.mp hread
  obtain rfl := eq_shopDocument hentries
  have hnamed : (some "shop.yaml").filter (!·.isEmpty) = some "shop.yaml" := by decide
  refine ⟨noted, ?_⟩
  simp only [hnamed, Option.map_some, Option.getD_some, loadDocument, hfile, bind, Except.bind]
  exact Outcome.toOption_eq_some_iff.mp hdocument

/-- The directory given takes the place of the one in the file, which would have been refused. -/
theorem shopTree_precedence : ∃ given : Assoc String Value, given.keys.Nodup ∧
    Loads shopTree (some "shop.yaml") shopDocument ∧
    (load shopTree (some "shop.yaml") given).2 =
      .ok ⟨"mysql://root@db/shop", "/work/out", some ["item"], some ["log", "job"], true⟩ := by
  refine ⟨[("output_dir", .text "./out"), ("include_tables", .list [.text "item "]),
    ("format_code", .null)], by decide, shopTree_loads, ?_⟩
  refine ((load_precedence shopTree_loads (by decide)).2.1 _).mpr ⟨⟨"./out", ?_, ?_, ?_⟩, by decide⟩
  · exact {
      databaseUrl := .text _
      url := by
        have hread : (Connection.Target.parse "mysql://root@db/shop").toOption.isSome = true := by
          decide +kernel
        obtain ⟨target, htarget⟩ := Option.isSome_iff_exists.mp hread
        exact ⟨by decide, target, Outcome.toOption_eq_some_iff.mp htarget⟩
      outputDirectory := .text "./out"
      directory := by decide
      includedTables := @TablesOf.list ["item "] (by decide +kernel)
      excludedTables := @TablesOf.list [" log ", "job"] (by decide +kernel)
      formatCode := rfl }
  · have hpath : FilePath.ofText "./out" = ⟨"", ["out"]⟩ := by decide +kernel
    simp [hpath, Tree.hasNul]
  · decide +kernel

end CatalogEntities.Settings
