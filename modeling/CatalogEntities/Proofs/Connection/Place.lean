import CatalogEntities.Proofs.Connection.Password

/-!
The texts that name a place: a host, a port or none, a database, and a query or none. Reading a
place succeeds on just these texts and returns their parts.

Main results: `Target.place?_eq_some_iff`, `Target.place?_query`.
-/

namespace CatalogEntities.Connection.Target

open Text

/-- A port as it stands behind a host. -/
inductive PortText : Option (List Char) → List Char → Prop
  | none : PortText none []
  | digits {ds : List Char} : ds ≠ [] → (∀ c ∈ ds, isDecimal c) → PortText (some ds) (':' :: ds)

/-- A query as it stands behind a database. -/
inductive QueryText : List Char → List Char → Prop
  | none : QueryText [] []
  | line {query : List Char} : '\n' ∉ query → QueryText query ('?' :: query)

/-- The parts of a place, and its text. -/
inductive PlaceText : Parts → List Char → Prop
  | mk {host database portText queryText query : List Char} {port : Option (List Char)} :
      host ≠ [] → (∀ c ∈ host, isHostChar c) → PortText port portText →
      database ≠ [] → (∀ c ∈ database, isDatabaseChar c) → QueryText query queryText →
      PlaceText { scheme := [], user := [], password := none, host, port, database, query }
        (host ++ (portText ++ '/' :: (database ++ queryText)))

theorem PortText.splitPort? {port : Option (List Char)} {text : List Char} (h : PortText port text)
    (path : List Char) : splitPort? (text ++ '/' :: path) = some (port, path) := by
  cases h with
  | none => rfl
  | @digits ds hne hds =>
    obtain ⟨d, rest, rfl⟩ := List.exists_cons_of_ne_nil hne
    rw [List.cons_append, Target.splitPort?, takeWhile_append_cons hds (by decide),
      dropWhile_append_cons hds (by decide)]
    rfl

theorem exists_portText {cs path : List Char} {port : Option (List Char)}
    (h : splitPort? cs = some (port, path)) :
    ∃ text, PortText port text ∧ cs = text ++ '/' :: path := by
  unfold splitPort? at h
  split at h
  · rename_i rest
    split at h
    · rename_i d ds tail htake hdrop
      obtain ⟨rfl, rfl⟩ : some (d :: ds) = port ∧ tail = path := by simpa using h
      have hds : ∀ c ∈ d :: ds, isDecimal c := by
        rw [← htake]
        exact fun c hc => List.mem_takeWhile_imp hc
      refine ⟨':' :: d :: ds, .digits (List.cons_ne_nil _ _) hds, ?_⟩
      rw [List.cons_append, ← htake, ← hdrop, List.takeWhile_append_dropWhile]
    · cases h
  · obtain ⟨rfl, rfl⟩ : none = port ∧ _ = path := by simpa using h
    exact ⟨[], .none, rfl⟩
  · cases h

theorem QueryText.splitPath? {database query text : List Char} (h : QueryText query text)
    (hne : database ≠ []) (hchars : ∀ c ∈ database, isDatabaseChar c) :
    splitPath? (database ++ text) = some (database, query) := by
  have hsome : database.isEmpty = false := by simpa using hne
  cases h with
  | none =>
    have htake : database.takeWhile isDatabaseChar = database :=
      List.takeWhile_eq_self_iff.mpr hchars
    have hdrop : database.dropWhile isDatabaseChar = [] := List.dropWhile_eq_nil_iff.mpr hchars
    rw [List.append_nil, Target.splitPath?, htake, hdrop]
    simp only [hsome, Bool.false_eq_true, ↓reduceIte]
  | line hline =>
    have hline : query.contains '\n' = false := by simpa using hline
    rw [Target.splitPath?, takeWhile_append_cons hchars (by decide),
      dropWhile_append_cons hchars (by decide)]
    simp only [hsome, hline, Bool.or_self, Bool.false_eq_true, ↓reduceIte]

theorem exists_queryText {cs database query : List Char}
    (h : splitPath? cs = some (database, query)) :
    ∃ text, QueryText query text ∧ cs = database ++ text ∧ database ≠ [] ∧
      ∀ c ∈ database, isDatabaseChar c := by
  have hchars : ∀ c ∈ cs.takeWhile isDatabaseChar, isDatabaseChar c :=
    fun c hc => List.mem_takeWhile_imp hc
  have hcs : cs.takeWhile isDatabaseChar ++ cs.dropWhile isDatabaseChar = cs :=
    List.takeWhile_append_dropWhile
  unfold splitPath? at h
  dsimp only at h
  split at h
  · rename_i hdrop
    split at h
    · cases h
    · rename_i hne
      obtain ⟨rfl, rfl⟩ : cs.takeWhile isDatabaseChar = database ∧ [] = query := by simpa using h
      exact ⟨[], .none, by rw [← hdrop, hcs], by simpa using hne, hchars⟩
  · rename_i rest hdrop
    split at h
    · cases h
    · rename_i hguard
      obtain ⟨rfl, rfl⟩ : cs.takeWhile isDatabaseChar = database ∧ rest = query := by simpa using h
      simp only [Bool.or_eq_true, not_or] at hguard
      refine ⟨'?' :: rest, .line (by simpa using hguard.2),
        by rw [← hdrop, hcs], by simpa using hguard.1, hchars⟩
  · cases h

theorem place?_eq_some_iff {cs : List Char} {place : Parts} :
    place? cs = some place ↔ PlaceText place cs := by
  constructor
  · intro h
    have hchars : ∀ c ∈ cs.takeWhile isHostChar, isHostChar c :=
      fun c hc => List.mem_takeWhile_imp hc
    have hcs : cs.takeWhile isHostChar ++ cs.dropWhile isHostChar = cs :=
      List.takeWhile_append_dropWhile
    simp only [place?, location?, Option.bind_eq_bind, Option.pure_def] at h
    split at h
    · cases h
    · rename_i hne
      obtain ⟨⟨port, path⟩, hport, h⟩ := Option.bind_eq_some_iff.mp h
      obtain ⟨⟨database, query⟩, hpath, h⟩ := Option.bind_eq_some_iff.mp h
      obtain rfl := Option.some.inj h
      obtain ⟨portText, hportText, hdrop⟩ := exists_portText hport
      obtain ⟨queryText, hqueryText, rfl, hdatabase, hdatabaseChars⟩ := exists_queryText hpath
      have htext :=
        PlaceText.mk (by simpa using hne) hchars hportText hdatabase hdatabaseChars hqueryText
      rwa [← hdrop, hcs] at htext
  · rintro ⟨hne, hhost, hport, hdatabase, hdatabaseChars, hquery⟩
    rename_i host database portText queryText query port
    have hsome : host.isEmpty = false := by simpa using hne
    -- the host ends at the colon of a port or at the slash behind it
    have hstop : ∃ sep tail, ¬ isHostChar sep ∧
        portText ++ '/' :: (database ++ queryText) = sep :: tail := by
      cases hport with
      | none => exact ⟨'/', _, by decide, rfl⟩
      | digits => exact ⟨':', _, by decide, rfl⟩
    have hread := hport.splitPort? (database ++ queryText)
    obtain ⟨sep, tail, hsep, htail⟩ := hstop
    rw [htail] at hread ⊢
    rw [place?, location?]
    simp only [takeWhile_append_cons hhost hsep, dropWhile_append_cons hhost hsep, hread,
      hquery.splitPath? hdatabase hdatabaseChars, hsome, Option.bind_eq_bind, Option.bind_some,
      Option.pure_def, Bool.false_eq_true, ↓reduceIte]

/-! ### A query behind a text without one -/

theorem splitPort?_query (cs query : List Char) : splitPort? (cs ++ '?' :: query) =
    (splitPort? cs).map fun (port, path) => (port, path ++ '?' :: query) := by
  have hmark : ¬ isDecimal '?' := by decide
  fun_cases splitPort? cs with
  | case1 rest d ds path hdrop htake =>
    rw [List.cons_append, splitPort?, takeWhile_separated hmark, dropWhile_separated hmark,
      htake, hdrop]
    rfl
  | case2 rest hnone =>
    rw [List.cons_append, splitPort?, takeWhile_separated hmark, dropWhile_separated hmark]
    split
    · rename_i d ds path htake hdrop
      cases hrest : rest.dropWhile isDecimal with
      | nil =>
        rw [hrest] at hdrop
        simp at hdrop
      | cons c tail =>
        rw [hrest] at hdrop
        obtain ⟨rfl, -⟩ := List.cons.inj hdrop
        exact (hnone d ds tail htake hrest).elim
    · rfl
  | case3 path => rfl
  | case4 cs hcolon hslash =>
    rw [Option.map_none]
    cases cs with
    | nil => rfl
    | cons c rest =>
      rw [List.cons_append, splitPort?.eq_def]
      split
      · rename_i heq
        obtain ⟨rfl, -⟩ := List.cons.inj heq
        exact (hcolon rest rfl).elim
      · rename_i heq
        obtain ⟨rfl, -⟩ := List.cons.inj heq
        exact (hslash rest rfl).elim
      · rfl

theorem splitPath?_query {cs query : List Char} (hmark : '?' ∉ cs) (hline : '\n' ∉ query) :
    splitPath? (cs ++ '?' :: query) =
      (splitPath? cs).map fun (database, _) => (database, query) := by
  have hsep : ¬ isDatabaseChar '?' := by decide
  have hunmarked : ∀ rest, cs.dropWhile isDatabaseChar ≠ '?' :: rest := by
    intro rest hdrop
    have hmem : '?' ∈ cs.dropWhile isDatabaseChar := hdrop ▸ List.mem_cons_self
    exact hmark ((List.dropWhile_sublist _).mem hmem)
  rw [splitPath?, splitPath?, takeWhile_separated hsep, dropWhile_separated hsep]
  cases hdrop : cs.dropWhile isDatabaseChar with
  | nil =>
    by_cases hempty : (cs.takeWhile isDatabaseChar).isEmpty
    · simp [hempty]
    · simp [hempty, hline]
  | cons c tail =>
    have hc : c ≠ '?' := by
      rintro rfl
      exact hunmarked tail hdrop
    simp only [List.cons_append]
    split
    · contradiction
    · rename_i heq
      exact absurd (List.cons.inj heq).1 hc
    · split
      · contradiction
      · rename_i heq
        exact absurd (List.cons.inj heq).1 hc
      · rfl

/-- A query is part of no place before it, and changes none. -/
theorem place?_query {cs query : List Char} (hmark : '?' ∉ cs) (hline : '\n' ∉ query) :
    place? (cs ++ '?' :: query) = (place? cs).map ({ · with query }) := by
  have hsep : ¬ isHostChar '?' := by decide
  simp only [place?, location?, Option.bind_eq_bind, Option.pure_def, takeWhile_separated hsep,
    dropWhile_separated hsep, splitPort?_query]
  split
  · rfl
  · cases hport : splitPort? (cs.dropWhile isHostChar) with
    | none => rfl
    | some read =>
      have hpath : '?' ∉ read.2 := by
        obtain ⟨text, -, hdrop⟩ := exists_portText (show _ = some (read.1, read.2) from hport)
        intro hmem
        have hin : '?' ∈ cs.dropWhile isHostChar := by
          rw [hdrop]
          exact List.mem_append_right _ (List.mem_cons_of_mem _ hmem)
        exact hmark ((List.dropWhile_sublist _).mem hin)
      simp only [Option.map_some, Option.bind_some, splitPath?_query hpath hline]
      cases splitPath? read.2 <;> rfl

end CatalogEntities.Connection.Target
