import CatalogEntities.Proofs.Connection.Place
import CatalogEntities.Proofs.Outcome
import CatalogEntities.Proofs.Text.Percent

/-!
A query behind a connection string. It leaves the target alone unless a colon stands right behind
the user: all that follows on the same line is then searched for an at sign with a place behind it,
the query included, and what is found there is taken for the place, and all before it for the
password.

Main result: `Target.query_moves_nothing_iff`.
-/

namespace CatalogEntities.Connection.Target

open Text

theorem location?_query {cs query : List Char} (hmark : '?' ∉ cs) (hline : '\n' ∉ query)
    (scheme user : List Char) (password : Option (List Char)) :
    location? scheme user password (cs ++ '?' :: query) =
      (location? scheme user password cs).map ({ · with query }) := by
  rw [location?_eq, location?_eq, place?_query hmark hline]
  cases place? cs <;> rfl

/-- Cuts that lie before the query find what they find without it. -/
theorem findSome?_query {found : List (List Char × List Char)} {query : List Char}
    (hmark : ∀ cut ∈ found, '?' ∉ cut.2) (hline : '\n' ∉ query) (scheme user : List Char) :
    (found.map fun cut => (cut.1, cut.2 ++ '?' :: query)).findSome?
        (fun cut => location? scheme user (some cut.1) cut.2) =
      (found.findSome? fun cut => location? scheme user (some cut.1) cut.2).map
        ({ · with query }) := by
  induction found with
  | nil => rfl
  | cons cut rest ih =>
    have hlocation := location?_query (hmark cut List.mem_cons_self) hline scheme user (some cut.1)
    rw [List.map_cons, List.findSome?_cons, List.findSome?_cons, hlocation]
    cases location? scheme user (some cut.1) cut.2 with
    | some parts => rfl
    | none => exact ih fun later hlater => hmark later (List.mem_cons_of_mem cut hlater)

theorem cuts_query (secret query : List Char) : cuts (secret ++ '?' :: query) =
    (if '\n' ∈ secret then [] else (cuts query).map fun cut => (secret ++ '?' :: cut.1, cut.2)) ++
      (cuts secret).map fun cut => (cut.1, cut.2 ++ '?' :: query) := by
  rw [cuts_append]
  simp [cuts, Function.comp_def]

theorem afterUser?_query {scheme user tail query : List Char} {c : Char} (hmark : '?' ∉ tail)
    (hline : '\n' ∉ query)
    (hkept : c = ':' → '\n' ∉ tail → ∀ cut ∈ cuts query, place? cut.2 = none)
    (hc : ¬ isUserChar c) :
    afterUser? scheme user (c :: (tail ++ '?' :: query)) =
      (afterUser? scheme user (c :: tail)).map ({ · with query }) := by
  rcases eq_of_not_isUserChar hc with rfl | rfl | rfl
  · -- no at sign in the query has a place behind it, so it ends no password
    have hlater : ((if '\n' ∈ tail then [] else
        (cuts query).map fun cut => (tail ++ '?' :: cut.1, cut.2)).findSome? fun cut =>
        location? scheme user (some cut.1) cut.2) = none := by
      split
      · rfl
      · rename_i hin
        rw [List.findSome?_eq_none_iff]
        intro cut hcut
        obtain ⟨later, hlater, rfl⟩ := List.mem_map.mp hcut
        rw [location?_eq, hkept rfl hin later hlater, Option.map_none]
    have hbefore : ∀ cut ∈ cuts tail, '?' ∉ cut.2 := by
      intro cut hcut hmem
      obtain ⟨htext, -⟩ := exists_of_mem_cuts hcut
      rw [htext] at hmark
      exact hmark (List.mem_append_right _ (List.mem_cons_of_mem _ hmem))
    rw [afterUser?, cuts_query, List.findSome?_append, hlater, Option.none_or,
      findSome?_query hbefore hline]
    rfl
  · exact location?_query hmark hline scheme user none
  · rfl

/-! ### A query that is only a query -/

theorem split?_query {scheme user tail query : List Char} {c : Char} (hs : IsScheme scheme)
    (huser : ∀ x ∈ user, isUserChar x) (hc : ¬ isUserChar c) (hmark : '?' ∉ user ++ c :: tail)
    (hline : '\n' ∉ query)
    (hkept : c = ':' → '\n' ∉ tail → ∀ cut ∈ cuts query, place? cut.2 = none) :
    split? (scheme ++ ':' :: '/' :: '/' :: (user ++ c :: (tail ++ '?' :: query))) =
      (split? (scheme ++ ':' :: '/' :: '/' :: (user ++ c :: tail))).map ({ · with query }) := by
  have htail : '?' ∉ tail := fun h => hmark (List.mem_append_right _ (List.mem_cons_of_mem _ h))
  have hrest := location?_query hmark hline scheme [] none
  rw [List.append_assoc, List.cons_append] at hrest
  rw [split?_user hs huser hc, split?_user hs huser hc, hrest,
    afterUser?_query htail hline hkept hc, Option.map_or]

/-- The query is looked at for the parameters only. -/
theorem ofParts_query (parts : Parts) (query : List Char) : ofParts { parts with query } =
    (ofParts parts).map ({ · with parameters := .ofPairs (Percent.queryPairs true query) }) := by
  simp only [ofParts]
  split
  · rfl
  · cases portOf parts.port <;> rfl

/-! ### A query that is taken for a place -/

theorem exists_password_of_place {scheme user secret query : List Char} (hs : IsScheme scheme)
    (huser : ∀ x ∈ user, isUserChar x) (hin : '\n' ∉ secret) {cut : List Char × List Char}
    (hcut : cut ∈ cuts query) (hplace : place? cut.2 ≠ none) : ∃ parts before,
    split? (scheme ++ ':' :: '/' :: '/' :: (user ++ ':' :: (secret ++ '?' :: query))) = some parts ∧
      parts.password = some (secret ++ '?' :: before) := by
  have hfound : (((cuts query).map fun cut => (secret ++ '?' :: cut.1, cut.2)).findSome? fun cut =>
      location? scheme user (some cut.1) cut.2) ≠ none := by
    intro hnone
    have hlocation := List.findSome?_eq_none_iff.mp hnone _ (List.mem_map.mpr ⟨cut, hcut, rfl⟩)
    rw [location?_eq, Option.map_eq_none_iff] at hlocation
    exact hplace hlocation
  obtain ⟨parts, hparts⟩ := Option.ne_none_iff_exists'.mp hfound
  obtain ⟨read, hread, hlocation⟩ := List.exists_of_findSome?_eq_some hparts
  obtain ⟨later, -, rfl⟩ := List.mem_map.mp hread
  rw [location?_eq] at hlocation
  obtain ⟨place, -, rfl⟩ := Option.map_eq_some_iff.mp hlocation
  have hsplit :
      split? (scheme ++ ':' :: '/' :: '/' :: (user ++ ':' :: (secret ++ '?' :: query))) = _ :=
    split?_user hs huser (by decide)
  rw [afterUser?, cuts_query, if_neg hin, List.findSome?_append, hparts, Option.some_or,
    Option.some_or] at hsplit
  exact ⟨_, later.1, hsplit, rfl⟩

theorem password_of_split? {scheme user secret : List Char} {parts : Parts} (hs : IsScheme scheme)
    (huser : ∀ x ∈ user, isUserChar x)
    (h : split? (scheme ++ ':' :: '/' :: '/' :: (user ++ ':' :: secret)) = some parts) :
    parts.password = none ∨ ∃ password after, parts.password = some password ∧
      secret = password ++ '@' :: after := by
  rw [split?_user hs huser (by decide), Option.or_eq_some_iff] at h
  rcases h with h | ⟨-, h⟩
  · obtain ⟨⟨password, after⟩, hcut, hlocation⟩ := List.exists_of_findSome?_eq_some h
    dsimp only at hlocation
    rw [location?_eq] at hlocation
    obtain ⟨place, -, rfl⟩ := Option.map_eq_some_iff.mp hlocation
    exact .inr ⟨password, after, rfl, (exists_of_mem_cuts hcut).1⟩
  · rw [location?_eq] at h
    obtain ⟨place, -, rfl⟩ := Option.map_eq_some_iff.mp h
    exact .inl rfl

/-! ### Connection strings -/

/-- Somewhere behind the scheme, what may be a user ends: a place has a slash. -/
theorem exists_user {cs : List Char} {parts : Parts} (h : split? cs = some parts) :
    ∃ scheme user c tail, cs = scheme ++ ':' :: '/' :: '/' :: (user ++ c :: tail) ∧
    IsScheme scheme ∧
      (∀ x ∈ user, isUserChar x) ∧ ¬ isUserChar c := by
  obtain ⟨⟨scheme, rest⟩, hsplit, hread⟩ := Option.bind_eq_some_iff.mp h
  obtain ⟨hscheme, rfl⟩ := exists_scheme hsplit
  have huser : ∀ x ∈ rest.takeWhile isUserChar, isUserChar x :=
    fun x hx => List.mem_takeWhile_imp hx
  have hrest : rest.takeWhile isUserChar ++ rest.dropWhile isUserChar = rest :=
    List.takeWhile_append_dropWhile
  have hstop := List.head?_dropWhile_not isUserChar rest
  cases hdrop : rest.dropWhile isUserChar with
  | nil =>
    dsimp only at hread
    rw [hdrop] at hread
    dsimp only at hread
    rw [location?_eq] at hread
    obtain ⟨place, hplace, -⟩ := Option.map_eq_some_iff.mp hread
    have hslash : '/' ∈ rest := by
      cases place?_eq_some_iff.mp hplace
      simp
    rw [List.dropWhile_eq_nil_iff] at hdrop
    exact absurd (hdrop '/' hslash) (by decide)
  | cons c tail =>
    rw [hdrop] at hrest hstop
    exact ⟨scheme, _, c, tail, by rw [hrest], hscheme, huser, by simpa using hstop⟩

/-- A colon stands right behind the user of the connection string, and what follows is on
one line. -/
def OpensSecret (base : List Char) : Prop :=
  ∃ scheme user secret, base = scheme ++ ':' :: '/' :: '/' :: (user ++ ':' :: secret) ∧
    IsScheme scheme ∧ (∀ c ∈ user, isUserChar c) ∧ '\n' ∉ secret

/-- The query has an at sign with a place behind it. -/
def HoldsPlace (query : List Char) : Prop :=
  ∃ before after place, query = before ++ '@' :: after ∧ PlaceText place after

theorem holdsPlace_iff {query : List Char} (hline : '\n' ∉ query) :
    HoldsPlace query ↔ ∃ cut ∈ cuts query, place? cut.2 ≠ none := by
  constructor
  · rintro ⟨before, after, place, rfl, hplace⟩
    have hbefore : '\n' ∉ before := fun hmem => hline (List.mem_append_left _ hmem)
    obtain ⟨shorter, hcuts⟩ := cuts_append_at hbefore after
    refine ⟨(before, after), ?_, ?_⟩
    · rw [hcuts]
      exact List.mem_append_right _ List.mem_cons_self
    · rw [place?_eq_some_iff.mpr hplace]
      exact Option.some_ne_none place
  · rintro ⟨cut, hcut, hsome⟩
    obtain ⟨place, hplace⟩ := Option.ne_none_iff_exists'.mp hsome
    exact ⟨cut.1, cut.2, place, (exists_of_mem_cuts hcut).1, place?_eq_some_iff.mp hplace⟩

/-- Behind this connection string, the query is not taken for a query. -/
structure Redirects (base query : String) : Prop where
  opens : OpensSecret base.toList
  holds : HoldsPlace (trimEnd isBlank query.toList)

/-- With a query behind the connection string, blanks are cut off behind the query only. -/
theorem trim_query {base : String} {scheme rest : List Char} (hscheme : IsScheme scheme)
    (hbase : base.toList = scheme ++ rest) (query : String) :
    trim (base ++ "?" ++ query).toList = base.toList ++ '?' :: trimEnd isBlank query.toList := by
  obtain ⟨first, more, hfirst, hletter⟩ := hscheme.starts
  have htext : (base ++ "?" ++ query).toList = base.toList ++ '?' :: query.toList := by simp
  have hstart : trimStart isBlank (base.toList ++ '?' :: query.toList) =
      base.toList ++ '?' :: query.toList := by
    rw [hbase, hfirst, List.cons_append, List.cons_append, trimStart,
      List.dropWhile_cons_of_neg (not_isBlank_of_isAsciiLetter hletter)]
  rw [htext, trim, hstart, trimEnd_append_cons (by decide)]

/-- A query that redirects is not read as a query. -/
theorem split?_redirected {base query : List Char} {parts : Parts} (hopens : OpensSecret base)
    (hholds : HoldsPlace query) (hline : '\n' ∉ query) (h : split? base = some parts) :
    ∃ redirected, split? (base ++ '?' :: query) = some redirected ∧
      redirected.password.map Percent.decode ≠ parts.password.map Percent.decode := by
  obtain ⟨scheme, user, secret, rfl, hscheme, huser, hin⟩ := hopens
  obtain ⟨cut, hcut, hsome⟩ := (holdsPlace_iff hline).mp hholds
  obtain ⟨redirected, front, hsplit, hpassword⟩ :=
    exists_password_of_place hscheme huser hin hcut hsome
  refine ⟨redirected, by simpa using hsplit, ?_⟩
  rw [hpassword]
  rcases password_of_split? hscheme huser h with hnone | ⟨password, behind, hread, rfl⟩
  · rw [hnone]
    exact Option.some_ne_none _
  · -- the longer password has the shorter one's at sign in it, and decoding keeps that
    have hat : Percent.Separates '@' := ⟨by decide, by decide, by decide⟩
    rw [hread, List.append_assoc, List.cons_append, Option.map_some, Option.map_some,
      Percent.decode_separator hat]
    intro heq
    have hlength := congrArg List.length (Option.some.inj heq)
    rw [List.length_append, List.length_cons] at hlength
    omega

theorem password_of_ofParts {parts : Parts} {t : Target} (h : ofParts parts = .ok t) :
    t.password = (parts.password.map Percent.decode).map String.ofList := by
  have hsame : ofParts parts = (ofParts parts).map _ := ofParts_password parts parts.password
  rw [h] at hsame
  have hpassword := congrArg Target.password (Except.ok.inj hsame)
  rw [hpassword, Option.map_map]
  rfl

section

variable {base query : String} {t : Target} (h : parse base = .ok t)
    (hblank : trim base.toList = base.toList)
  (hline : '\n' ∉ query.toList)
include h hblank hline

theorem parse_query (hmark : '?' ∉ base.toList) (hstays : ¬ Redirects base query) :
    parse (base ++ "?" ++ query) =
    .ok { t with parameters := .ofPairs (Percent.queryPairs true
      (trimEnd isBlank query.toList)) } := by
  obtain ⟨parts, hsplit, hparts⟩ := exists_split? h
  rw [hblank] at hsplit
  obtain ⟨scheme, user, c, tail, hbase, hscheme, huser, hc⟩ := exists_user hsplit
  have hline : '\n' ∉ trimEnd isBlank query.toList := fun hmem => hline (mem_of_mem_trimEnd hmem)
  have hlater :
      c = ':' → '\n' ∉ tail → ∀ cut ∈ cuts (trimEnd isBlank query.toList), place? cut.2 = none := by
    rintro rfl hin cut hcut
    by_contra hsome
    exact hstays ⟨⟨scheme, user, tail, hbase, hscheme, huser, hin⟩,
      (holdsPlace_iff hline).mpr ⟨cut, hcut, hsome⟩⟩
  have hnomark : '?' ∉ user ++ c :: tail := by
    rw [hbase] at hmark
    intro hmem
    exact hmark (List.mem_append_right _ (by simpa using hmem))
  have hread := split?_query hscheme huser hc hnomark hline hlater
  rw [← hbase, hsplit, Option.map_some] at hread
  have hwhole : split? (trim (base ++ "?" ++ query).toList) =
      some { parts with query := trimEnd isBlank query.toList } := by
    rw [trim_query hscheme hbase, hbase, ← hread]
    simp
  rw [parse_of_split? hwhole, ofParts_query, hparts]
  rfl

theorem password_of_redirects (hredirects : Redirects base query) {t' : Target}
    (h' : parse (base ++ "?" ++ query) = .ok t') : t'.password ≠ t.password := by
  obtain ⟨parts, hsplit, hparts⟩ := exists_split? h
  rw [hblank] at hsplit
  obtain ⟨scheme, user, c, tail, hbase, hscheme, -⟩ := exists_user hsplit
  have hline : '\n' ∉ trimEnd isBlank query.toList := fun hmem => hline (mem_of_mem_trimEnd hmem)
  obtain ⟨redirected, hredirected, hpassword⟩ :=
    split?_redirected hredirects.opens hredirects.holds hline hsplit
  rw [← trim_query hscheme hbase] at hredirected
  rw [parse_of_split? hredirected] at h'
  rw [password_of_ofParts h', password_of_ofParts hparts]
  intro heq
  exact hpassword (Option.map_injective (fun _ _ => String.ofList_injective) heq)

end

/-- A query leaves the target of a connection string alone exactly if it does not redirect, and then
it sets the parameters. -/
theorem query_moves_nothing_iff {base query : String} {t : Target} (h : parse base = .ok t)
    (hmark : '?' ∉ base.toList) (hblank : trim base.toList = base.toList)
    (hline : '\n' ∉ query.toList) :
    ((∃ t', parse (base ++ "?" ++ query) = .ok t' ∧ { t' with parameters := t.parameters } = t) ↔
        ¬ Redirects base query) ∧
      (¬ Redirects base query → parse (base ++ "?" ++ query) =
        .ok { t with parameters := .ofPairs (Percent.queryPairs true
          (trimEnd isBlank query.toList)) }) := by
  have hkept := parse_query h hblank hline hmark
  refine ⟨⟨?_, fun hstays => ⟨_, hkept hstays, rfl⟩⟩, hkept⟩
  rintro ⟨t', hparse, hsame⟩ hredirects
  have hpassword : t'.password = t.password := by rw [← hsame]
  exact password_of_redirects h hblank hline hredirects hparse hpassword

theorem atSign_in_query_kept : ∃ t, parse "mysql://root:pw@db.local/shop" = .ok t ∧
    '?' ∉ "mysql://root:pw@db.local/shop".toList ∧
    trim "mysql://root:pw@db.local/shop".toList = "mysql://root:pw@db.local/shop".toList ∧
    '\n' ∉ "note=a@b/".toList ∧ ¬ Redirects "mysql://root:pw@db.local/shop" "note=a@b/" ∧
    parse ("mysql://root:pw@db.local/shop" ++ "?" ++ "note=a@b/") =
      .ok { t with parameters := [("note", "a@b/")] } := by
  have hparse : parse "mysql://root:pw@db.local/shop" =
      .ok ⟨some "root", some "pw", "db.local", 3306, "shop", []⟩ :=
    Outcome.toOption_eq_some_iff.mp (by decide +kernel)
  have hblank :
      trim "mysql://root:pw@db.local/shop".toList = "mysql://root:pw@db.local/shop".toList := by
    decide +kernel
  have hstays : ¬ Redirects "mysql://root:pw@db.local/shop" "note=a@b/" := by
    rintro ⟨-, hholds⟩
    have hnone : ∀ cut ∈ cuts (trimEnd isBlank "note=a@b/".toList), place? cut.2 = none := by
      decide +kernel
    obtain ⟨cut, hcut, hsome⟩ := (holdsPlace_iff (by decide +kernel)).mp hholds
    exact hsome (hnone cut hcut)
  have hread := (query_moves_nothing_iff hparse (by decide) hblank (by decide)).2 hstays
  have hpairs : Assoc.ofPairs (Percent.queryPairs true (trimEnd isBlank "note=a@b/".toList)) =
      [("note", "a@b/")] := by
    decide +kernel
  rw [hpairs] at hread
  exact ⟨_, hparse, by decide, hblank, by decide, hstays, hread⟩

/-- The colon of the port stands right behind what may be a user, and the query has a place: the
host and the port become user and password. -/
theorem query_read_as_place :
    '?' ∉ "mysql://db.local:3306/shop".toList ∧
    trim "mysql://db.local:3306/shop".toList = "mysql://db.local:3306/shop".toList ∧
    '\n' ∉ "note=@other.local/copy".toList ∧
    parse "mysql://db.local:3306/shop" = .ok ⟨none, none, "db.local", 3306, "shop", []⟩ ∧
    parse ("mysql://db.local:3306/shop" ++ "?" ++ "note=@other.local/copy") =
      .ok ⟨some "db.local", some "3306/shop?note=", "other.local", 3306, "copy", []⟩ :=
  ⟨by decide, by decide +kernel, by decide, Outcome.toOption_eq_some_iff.mp (by decide +kernel),
    Outcome.toOption_eq_some_iff.mp (by decide +kernel)⟩

end CatalogEntities.Connection.Target
