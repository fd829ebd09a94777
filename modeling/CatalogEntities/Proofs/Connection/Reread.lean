import CatalogEntities.Proofs.Connection.QueryValues
import CatalogEntities.Proofs.Connection.UrlSections
import CatalogEntities.Proofs.Number.Spelling

/-!
A URL that was read, rendered and read again. It stays the same but for the order of its query,
unless its host looks like one between brackets, which it then loses.

Main results: `Url.regular_of_parse`, `Url.Regular.reread`.
-/

namespace CatalogEntities.Connection.Url

open Text Number

/-! ### URLs that were read -/

/-- What holds of every URL that was read. -/
structure Regular (u : Url) : Prop where
  driver_ne : u.driver ≠ ""
  driver_chars : ∀ c ∈ u.driver.toList, isDriverChar c
  password : u.password ≠ none → u.user ≠ none
  host : ∀ host ∈ u.host, host ≠ "" ∧ ∀ c ∈ host.toList, isPlaceChar c
  marked : u.password = none → ∀ host ∈ u.host, '@' ∉ host.toList
  port : ∀ n ∈ u.port, (natText n.natAbs).length ≤ digitLimit
  query : Valued u.query

theorem mem_takeWhile_of_imp {p q : Char → Bool} (h : ∀ c, p c → q c) {cs : List Char} {c : Char}
    (hc : c ∈ cs.takeWhile p) : c ∈ cs.takeWhile q := by
  induction cs with
  | nil => exact hc
  | cons d rest ih =>
    by_cases hd : p d
    · rw [List.takeWhile_cons_of_pos hd] at hc
      rw [List.takeWhile_cons_of_pos (h d hd)]
      rcases List.mem_cons.mp hc with rfl | hc
      · exact List.mem_cons_self
      · exact List.mem_cons_of_mem _ (ih hc)
    · rw [List.takeWhile_cons_of_neg hd] at hc
      cases hc

/-- A host stands before a path or query. -/
theorem splitHost_host {cs host : List Char} (h : (splitHost cs).1 = some host) :
    host ≠ [] ∧ ∀ c ∈ host, c ∈ cs.takeWhile isPlaceChar := by
  unfold splitHost at h
  split at h
  · rename_i found rest hbracket
    obtain rfl := Option.some.inj h
    unfold bracketedHost? at hbracket
    split at hbracket
    · rename_i cs
      dsimp only at hbracket
      split at hbracket
      · rename_i found after hcut
        split at hbracket
        · cases hbracket
        · rename_i hsome
          obtain ⟨rfl, -⟩ := Prod.mk.inj (Option.some.inj hbracket)
          refine ⟨fun he => hsome (List.isEmpty_iff.mpr he), fun c hc => ?_⟩
          have hrun : c ∈ cs.takeWhile isPlaceChar := by
            have hparts := (cutLast?_eq_some_iff.mp hcut).1
            exact hparts ▸ List.mem_append_left _ hc
          exact List.mem_cons_of_mem '[' hrun
      · cases hbracket
    · cases hbracket
  · dsimp only at h
    split at h
    · cases h
    · rename_i hsome
      obtain rfl := Option.some.inj h
      refine ⟨fun he => hsome (List.isEmpty_iff.mpr he),
        fun c hc => mem_takeWhile_of_imp (fun d hd => ?_) hc⟩
      simp only [Bool.and_eq_true] at hd
      simp [isPlaceChar, hd.1.1, hd.2]

theorem portOf_fits {digits : Option (List Char)} {port : Option Int}
    (h : portOf digits = .ok port) :
    ∀ n ∈ port, (natText n.natAbs).length ≤ digitLimit := by
  unfold portOf at h
  split at h
  · obtain rfl := Except.ok.inj h
    exact nofun
  · cases h
  · obtain ⟨found, hfound, rfl⟩ := Outcome.map_ok_iff.mp (Outcome.mapError_ok_iff.mp h)
    intro n hn
    obtain rfl := Option.some.inj hn
    exact natText_fits hfound

theorem regular_of_parse {s : String} {u : Url} (h : Url.parse s = .ok u) : Regular u := by
  obtain ⟨driver, rest, hdriven⟩ := exists_driven h
  rw [hdriven.parse, Outcome.map_ok_iff] at h
  obtain ⟨place, hplace, rfl⟩ := h
  obtain ⟨port, hport, rfl⟩ := Outcome.map_ok_iff.mp hplace
  obtain ⟨hpassword, hmarked⟩ := splitUser_regular rest
  have hhost : ∀ host ∈ ((splitHost (splitUser rest).2.2).1.map String.ofList), host ≠ "" ∧
      ∀ c ∈ host.toList, c ∈ (splitUser rest).2.2.takeWhile isPlaceChar := by
    intro host hhost
    obtain ⟨cs, hcs, rfl⟩ := Option.map_eq_some_iff.mp hhost
    obtain ⟨hne, hin⟩ := splitHost_host hcs
    exact ⟨by simpa using hne, by simpa using hin⟩
  exact {
    driver_ne := by simpa using hdriven.driver_ne
    driver_chars := by simpa using hdriven.driver_chars
    password := by simpa using hpassword
    host := fun host hin =>
      ⟨(hhost host hin).1, fun c hc => List.mem_takeWhile_imp ((hhost host hin).2 c hc)⟩
    marked := fun hnone host hin hat => hmarked (by simpa using hnone) ((hhost host hin).2 _ hat)
    port := portOf_fits hport
    query := valued_queryOf _ }

theorem Regular.withDriver {u : Url} (h : Regular u) : Regular u.withDriver := by
  unfold Url.withDriver
  split
  · have hne : mysqlDriver ≠ "" := by decide
    have hchars : mysqlDriver.toList.all isDriverChar := by decide +kernel
    exact { h with driver_ne := hne, driver_chars := List.all_eq_true.mp hchars }
  · exact h

/-! ### Rendered URLs -/

def secretText (s : String) : List Char := Percent.encode [' ', '+'] s.toList

def userText (u : Url) : List Char :=
  match u.user, u.password with
  | none, _ => []
  | some user, none => secretText user ++ ['@']
  | some user, some password => secretText user ++ ':' :: (secretText password ++ ['@'])

def hostText (u : Url) : List Char := ((u.host.map shownHost).getD "").toList

def portText (u : Url) : List Char := (u.port.map fun n => ':' :: (integerText n).toList).getD []

def databaseText (u : Url) : List Char :=
  (u.database.map fun name => '/' :: Percent.encode [' ', '+', '/'] name.toList).getD []

/-- What stands behind the host. -/
def behindHostText (u : Url) : List Char :=
  portText u ++ (databaseText u ++ (queryText u.query).toList)

theorem render_toList (u : Url) : (u.render false).toList =
    u.driver.toList ++ ':' :: '/' :: '/' :: (userText u ++ (hostText u ++ behindHostText u)) := by
  have huser : (userInfo false u).toList = userText u := by
    unfold userInfo userText
    cases u.user <;> cases u.password <;> simp [encodeSecret, onChars, secretText]
  have hport : ((u.port.map fun n => ":" ++ integerText n).getD "").toList = portText u := by
    unfold portText
    cases u.port <;> simp
  have hdatabase :
      ((u.database.map fun name =>
        "/" ++ onChars (Percent.encode [' ', '+', '/']) name).getD "").toList =
      databaseText u := by
    unfold databaseText
    cases u.database <;> simp [onChars]
  simp only [render, String.toList_append, huser, hport, hdatabase, hostText, behindHostText,
    List.append_assoc]
  rfl

theorem integerText_chars {n : Int} {c : Char} (h : c ∈ (integerText n).toList) :
    c = '-' ∨ isAsciiDigit c := by
  unfold integerText at h
  split at h
  · rw [String.toList_append] at h
    rcases List.mem_append.mp h with h | h
    · exact .inl (List.mem_singleton.mp h)
    · exact .inr (isAsciiDigit_of_mem_natText h)
  · exact .inr (isAsciiDigit_of_mem_natText h)

theorem not_mem_integerText {n : Int} {c : Char} (hsign : c ≠ '-')
    (hdigit : isAsciiDigit c = false) :
    c ∉ (integerText n).toList := by
  intro h
  rcases integerText_chars h with h | h
  · exact hsign h
  · rw [hdigit] at h
    contradiction

theorem decoded_secretText (s : String) : decoded (secretText s) = s := by
  have hsafe : Percent.IsSafe [' ', '+'] := Percent.isSafe_of_all (by decide)
  rw [decoded, secretText, Percent.decode_encode hsafe, String.ofList_toList]

theorem isRunChar_secretText (s : String) : ∀ c ∈ secretText s, isRunChar c := by
  intro c hc
  have hcolon : c ≠ ':' :=
    ne_of_mem_of_not_mem hc (Percent.not_mem_encode (by decide) (by decide) (by decide) _)
  have hslash : c ≠ '/' :=
    ne_of_mem_of_not_mem hc (Percent.not_mem_encode (by decide) (by decide) (by decide) _)
  simp [isRunChar, hcolon, hslash]

theorem at_not_mem_behindHostText (u : Url) : '@' ∉ behindHostText u := by
  have hport : '@' ∉ portText u := by
    unfold portText
    cases u.port with
    | none => exact List.not_mem_nil
    | some n => simpa using not_mem_integerText (by decide) (by decide)
  have hdatabase : '@' ∉ databaseText u := by
    unfold databaseText
    cases u.database with
    | none => exact List.not_mem_nil
    | some name => simpa using Percent.not_mem_encode (by decide) (by decide) (by decide) _
  have hquery := not_mem_queryText (c := '@') (by decide) (by decide) u.query
  simpa [behindHostText] using ⟨hport, hdatabase, hquery⟩

theorem portPart (u : Url) :
    PortPart (u.port.map fun n => (integerText n).toList) (portText u) := by
  unfold portText
  cases u.port with
  | none => exact .none
  | some n =>
    refine .digits fun c hc => ?_
    have hslash : c ≠ '/' := ne_of_mem_of_not_mem hc (not_mem_integerText (by decide) (by decide))
    have hquestion : c ≠ '?' :=
      ne_of_mem_of_not_mem hc (not_mem_integerText (by decide) (by decide))
    simp [isPlaceChar, hslash, hquestion]

theorem databasePart (u : Url) :
    DatabasePart (u.database.map fun name => Percent.encode [' ', '+', '/'] name.toList)
      (databaseText u) := by
  unfold databaseText
  cases u.database with
  | none => exact .none
  | some name => exact .name (Percent.not_mem_encode (by decide) (by decide) (by decide) _)

theorem queryPart (u : Url) : QueryPart (queryText u.query).toList := by
  by_cases hquery : u.query = []
  · rw [hquery]
    exact nofun
  · rw [queryText_toList hquery]
    intro c hc
    exact (Option.some.inj hc).symm

theorem behindHost (u : Url) : BehindHost (behindHostText u) := by
  refine (portPart u).behindHost ?_ ((databasePart u).head (queryPart u))
  unfold portText
  cases u.port with
  | none => exact List.not_mem_nil
  | some n => simpa using not_mem_integerText (by decide) (by decide)

theorem Regular.splitUser {u : Url} (h : Regular u) :
    Url.splitUser (userText u ++ (hostText u ++ behindHostText u)) =
    (u.user.map secretText, u.password.map secretText, hostText u ++ behindHostText u) := by
  cases hpassword : u.password with
  | none =>
    have hhost : '@' ∉ hostText u := by
      unfold hostText
      cases hhost : u.host with
      | none => exact List.not_mem_nil
      | some host =>
        have hat := h.marked hpassword host hhost
        simp only [Option.map_some, Option.getD_some, shownHost]
        split <;> simp [hat]
    have hfree : AtFree (hostText u ++ behindHostText u) :=
      atFree_of_not_mem (by simpa using ⟨hhost, at_not_mem_behindHostText u⟩)
    cases huser : u.user with
    | none => simpa [userText, huser] using splitUser_none hfree
    | some user =>
      simpa [userText, huser, hpassword] using splitUser_at (isRunChar_secretText user) hfree
  | some password =>
    obtain ⟨user, huser⟩ := Option.ne_none_iff_exists'.mp (h.password (by simp [hpassword]))
    have hat : '@' ∉ secretText password :=
      Percent.not_mem_encode (by decide) (by decide) (by decide) _
    simpa [userText, huser, hpassword] using splitUser_secret (isRunChar_secretText user) hat _

/-- A host that looks like one between brackets. -/
def Bracketed (host : List Char) : Prop := ∃ c rest, host = '[' :: c :: rest ∧ ']' ∈ rest

theorem Regular.splitHost {u : Url} (h : Regular u) :
    Url.splitHost (hostText u ++ behindHostText u) = (u.host.map String.toList, behindHostText u) ∨
      ∃ host shorter, u.host = some host ∧ Bracketed host.toList ∧
        (Url.splitHost (hostText u ++ behindHostText u)).1 = some shorter ∧
        shorter.length < host.toList.length := by
  have hbehind := behindHost u
  cases hhost : u.host with
  | none =>
    have htext : hostText u = [] := by simp [hostText, hhost]
    have hnone : Url.splitHost ([] ++ behindHostText u) = (none, behindHostText u) :=
      splitHost_of_not_bracketed hbehind (List.forall_mem_nil _) (bracketedHost?_behind hbehind)
    exact .inl (by rw [htext]; exact hnone)
  | some host =>
    obtain ⟨hne, hchars⟩ := h.host host hhost
    have hne : host.toList ≠ [] := by simpa using hne
    -- only a host with a colon is shown between brackets
    by_cases hcolon : ':' ∈ host.toList
    · have htext : hostText u = '[' :: (host.toList ++ [']']) := by
        simp [hostText, hhost, shownHost, hcolon]
      have hshown := splitHost_shown hbehind hne hchars
      exact .inl (by rw [htext]; simpa using hshown)
    · have htext : hostText u = host.toList := by simp [hostText, hhost, shownHost, hcolon]
      rw [htext]
      by_cases hbracketed : Bracketed host.toList
      · -- brackets that belong to the host are taken for those around it
        obtain ⟨c, rest, hsplit, hin⟩ := id hbracketed
        rw [hsplit] at hchars
        obtain ⟨shorter, behind, hread, hlength⟩ :=
          splitHost_bracketed hbehind (List.forall_mem_cons.mp hchars).2 hin
        rw [← hsplit] at hread
        exact .inr ⟨host, shorter, rfl, hbracketed, by rw [hread], hsplit ▸ hlength⟩
      · have hplain : ∀ c ∈ host.toList, ¬ isHostStop c := by
          intro c hc hstop
          simp only [isHostStop, Bool.or_eq_true, beq_iff_eq] at hstop
          rcases hstop with (rfl | rfl) | rfl
          · exact absurd (hchars '/' hc) (by decide)
          · exact hcolon hc
          · exact absurd (hchars '?' hc) (by decide)
        exact .inl (splitHost_plain hbehind hne hplain fun c rest hsplit hin =>
          hbracketed ⟨c, rest, hsplit, hin⟩)

/-! ### Reading again -/

/-- Two URLs that differ at most in the order of their queries. -/
structure SameAs (u v : Url) : Prop where
  driver : u.driver = v.driver
  user : u.user = v.user
  password : u.password = v.password
  host : u.host = v.host
  port : u.port = v.port
  database : u.database = v.database
  query : ∀ key, u.query.get? key = v.query.get? key

theorem portOf_some {cs : List Char} (h : cs ≠ []) :
    portOf (some cs) = ((integerOfText (String.ofList cs)).map some).mapError .port := by
  obtain ⟨c, rest, rfl⟩ := List.exists_cons_of_ne_nil h
  rfl

theorem Regular.portOf {u : Url} (h : Regular u) :
    Url.portOf (u.port.map fun n => (integerText n).toList) = .ok u.port := by
  cases hport : u.port with
  | none => rfl
  | some n =>
    have hcanonical := canonical_integerText (h.port n hport)
    have hread : integerOfText (integerText n) = .ok n := integerOfText_ok_iff.mpr hcanonical.spells
    have hne : (integerText n).toList ≠ [] := by
      intro hnil
      rw [String.toList_eq_nil_iff.mp hnil] at hread
      cases hread
    rw [Option.map_some, portOf_some hne, String.ofList_toList, hread]
    rfl

theorem decoded_databaseText (name : String) :
    decoded (Percent.encode [' ', '+', '/'] name.toList) = name := by
  have hsafe : Percent.IsSafe [' ', '+', '/'] := Percent.isSafe_of_all (by decide)
  rw [decoded, Percent.decode_encode hsafe, String.ofList_toList]

/-- A URL that was read is read again from its text, unless its host looks like one between
brackets: that loses them. -/
theorem Regular.reread {u : Url} (h : Regular u) :
    (∃ u', Url.parse (u.render false) = .ok u' ∧ SameAs u' u) ∨
    ∃ host, u.host = some host ∧ Bracketed host.toList ∧ ∀ u', Url.parse (u.render false) = .ok u' →
      u'.driver = u.driver ∧ u'.user = u.user ∧ u'.password = u.password ∧
        ∃ shorter, u'.host = some shorter ∧ shorter.toList.length < host.toList.length := by
  have hdriven :
      Driven (u.render false) u.driver.toList (userText u ++ (hostText u ++ behindHostText u)) :=
    ⟨render_toList u, by simpa using h.driver_ne, h.driver_chars⟩
  have huser : (u.user.map secretText).map decoded = u.user := by
    cases u.user <;> simp [decoded_secretText]
  have hpassword : (u.password.map secretText).map decoded = u.password := by
    cases u.password <;> simp [decoded_secretText]
  have hparse := hdriven.parse
  rw [h.splitUser] at hparse
  dsimp only at hparse
  rw [huser, hpassword, String.ofList_toList] at hparse
  rcases h.splitHost with hhost | ⟨host, shorter, hhost, hbracketed, hshorter, hlength⟩
  · left
    have hplace := readPlace_parts hhost (portPart u) (databasePart u) (queryPart u)
    rw [h.portOf] at hplace
    rw [hplace] at hparse
    refine ⟨_, hparse, rfl, rfl, rfl, ?_, rfl, ?_, queryOf_queryText h.query⟩
    · cases u.host <;> simp
    · cases hdatabase : u.database <;> simp [decoded_databaseText]
  · right
    refine ⟨host, hhost, hbracketed, fun u' hu' => ?_⟩
    rw [hparse, Outcome.map_ok_iff] at hu'
    obtain ⟨place, hplace, rfl⟩ := hu'
    have hread := host_of_readPlace hplace
    rw [hshorter, Option.map_some] at hread
    exact ⟨rfl, rfl, rfl, String.ofList shorter, hread, by simpa using hlength⟩

end CatalogEntities.Connection.Url
