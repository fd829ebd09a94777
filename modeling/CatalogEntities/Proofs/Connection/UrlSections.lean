import CatalogEntities.Connection.Url
import CatalogEntities.Proofs.Outcome
import CatalogEntities.Proofs.Text.Span

/-!
How a URL's text is cut: user information, host, port, database. Each cut is described by the texts
that it leaves whole.

Main results: `Url.splitUser_regular`, `Url.splitHost_plain`, `Url.readPlace_parts`,
`Url.Driven.parse`.
-/

namespace CatalogEntities.Connection.Url

open Text

/-! ### User information -/

/-- Characters of a user, and of what may be one. -/
def isRunChar (c : Char) : Bool := c != ':' && c != '/'

/-- No at sign would end user information in this text. -/
structure AtFree (cs : List Char) : Prop where
  run : '@' ∉ cs.takeWhile isRunChar
  secret : ∀ rest, cs.dropWhile isRunChar = ':' :: rest → '@' ∉ rest

theorem atFree_of_not_mem {cs : List Char} (h : '@' ∉ cs) : AtFree cs := by
  refine ⟨fun hin => h ((List.takeWhile_sublist _).mem hin), fun rest hrest hin => h ?_⟩
  exact (List.dropWhile_sublist isRunChar).mem (hrest ▸ List.mem_cons_of_mem _ hin)

/-- Without an at sign behind a colon, the last one before a colon or slash ends the user. -/
theorem splitUser_run {cs : List Char}
    (h : ∀ rest, cs.dropWhile isRunChar = ':' :: rest → '@' ∉ rest) :
    splitUser cs = match cutLast? '@' (cs.takeWhile isRunChar) with
      | some (user, before) => (some user, none, before ++ cs.dropWhile isRunChar)
      | none => (none, none, cs) := by
  unfold splitUser
  dsimp only
  split
  · rename_i rest hrest
    have hnone : cut? '@' rest = none := cut?_of_not_mem (h rest hrest)
    rw [hnone]
    rfl
  · rfl

theorem splitUser_none {cs : List Char} (h : AtFree cs) : splitUser cs = (none, none, cs) := by
  rw [splitUser_run h.secret, cutLast?_eq_none_iff.mpr h.run]

theorem splitUser_at {user cs : List Char} (huser : ∀ c ∈ user, isRunChar c) (h : AtFree cs) :
    splitUser (user ++ '@' :: cs) = (some user, none, cs) := by
  have hfront : ∀ c ∈ user ++ ['@'], isRunChar c :=
    List.forall_mem_append.mpr ⟨huser, List.forall_mem_singleton.mpr (by decide)⟩
  have hsplit : user ++ '@' :: cs = user ++ ['@'] ++ cs := by simp
  have htake : (user ++ '@' :: cs).takeWhile isRunChar = user ++ '@' :: cs.takeWhile isRunChar := by
    rw [hsplit, List.takeWhile_append_of_pos hfront, List.append_assoc, List.singleton_append]
  have hdrop : (user ++ '@' :: cs).dropWhile isRunChar = cs.dropWhile isRunChar := by
    rw [hsplit, List.dropWhile_append_of_pos hfront]
  rw [splitUser_run (hdrop ▸ h.secret), htake, hdrop, cutLast?_eq_some_iff.mpr ⟨rfl, h.run⟩]
  simp only [List.takeWhile_append_dropWhile]

theorem splitUser_secret {user password : List Char} (huser : ∀ c ∈ user, isRunChar c)
    (hpassword : '@' ∉ password) (cs : List Char) :
    splitUser (user ++ ':' :: (password ++ '@' :: cs)) = (some user, some password, cs) := by
  have htake := takeWhile_append_cons (c := ':') huser (by decide) (password ++ '@' :: cs)
  have hdrop := dropWhile_append_cons (c := ':') huser (by decide) (password ++ '@' :: cs)
  have hrun : isRunChar = fun c => c != ':' && c != '/' := rfl
  rw [hrun] at htake hdrop
  simp only [splitUser, htake, hdrop, cut?_append hpassword]

/-- An at sign behind a colon ends a password. -/
theorem splitUser_password {run rest : List Char} (hrun : ∀ c ∈ run, isRunChar c)
    (hat : '@' ∈ rest) :
    (splitUser (run ++ ':' :: rest)).2.1 ≠ none := by
  obtain ⟨password, cs, rfl, hpassword⟩ := List.eq_append_cons_of_mem hat
  rw [splitUser_secret hrun hpassword cs]
  exact Option.some_ne_none _

/-- Characters before a path or query. -/
def isPlaceChar (c : Char) : Bool := c != '/' && c != '?'

/-- A password comes with a user; without one, no at sign is left before a path or query. -/
theorem splitUser_regular (cs : List Char) : ((splitUser cs).2.1 ≠ none → (splitUser cs).1 ≠ none) ∧
    ((splitUser cs).2.1 = none → '@' ∉ (splitUser cs).2.2.takeWhile isPlaceChar) := by
  -- a password is read where a colon ends the first run and an at sign comes later
  by_cases hsecret : ∀ rest, cs.dropWhile isRunChar = ':' :: rest → '@' ∉ rest
  · have hleft {before : List Char} (hbefore : '@' ∉ before) :
        '@' ∉ (before ++ cs.dropWhile isRunChar).takeWhile isPlaceChar := by
      cases hdrop : cs.dropWhile isRunChar with
      | nil =>
        rw [List.append_nil]
        exact fun hin => hbefore ((List.takeWhile_sublist _).mem hin)
      | cons c rest =>
        have hc : c = ':' ∨ c = '/' := by
          have hhead := List.head?_dropWhile_not isRunChar cs
          simpa [hdrop, isRunChar, or_iff_not_imp_left] using hhead
        rcases hc with rfl | rfl
        · intro hin
          rcases List.mem_append.mp ((List.takeWhile_sublist _).mem hin) with hin | hin
          · exact hbefore hin
          · exact hsecret rest hdrop (by simpa using hin)
        · rw [takeWhile_separated (by decide)]
          exact fun hin => hbefore ((List.takeWhile_sublist _).mem hin)
    rw [splitUser_run hsecret]
    split
    · rename_i user before hcut
      exact ⟨fun h => absurd rfl h, fun _ => hleft (cutLast?_eq_some_iff.mp hcut).2⟩
    · rename_i hcut
      have hwhole := hleft (cutLast?_eq_none_iff.mp hcut)
      rw [List.takeWhile_append_dropWhile] at hwhole
      exact ⟨fun h => absurd rfl h, fun _ => hwhole⟩
  · obtain ⟨rest, hdrop, hat⟩ : ∃ rest, cs.dropWhile isRunChar = ':' :: rest ∧ '@' ∈ rest := by
      simpa using hsecret
    have hrun : ∀ c ∈ cs.takeWhile isRunChar, isRunChar c := fun c hc => List.mem_takeWhile_imp hc
    obtain ⟨password, tail, rfl, hpassword⟩ := List.eq_append_cons_of_mem hat
    have hsplit := splitUser_secret hrun hpassword tail
    rw [← hdrop, List.takeWhile_append_dropWhile] at hsplit
    rw [hsplit]
    exact ⟨fun _ => Option.some_ne_none _, nofun⟩

/-! ### Host -/

def isHostStop (c : Char) : Bool := c == '/' || c == ':' || c == '?'

/-- What may stand behind a host. -/
structure BehindHost (tail : List Char) : Prop where
  starts : ∀ c ∈ tail.head?, isHostStop c
  bracket : ']' ∉ tail.takeWhile isPlaceChar

theorem bracketedHost?_append {cs : List Char} (hcs : ∀ c ∈ cs, isPlaceChar c) (tail : List Char) :
    bracketedHost? ('[' :: (cs ++ tail)) =
      match cutLast? ']' (cs ++ tail.takeWhile isPlaceChar) with
      | some (host, after) =>
        if host.isEmpty then none else some (host, after ++ tail.dropWhile isPlaceChar)
      | none => none := by
  rw [← List.takeWhile_append_of_pos hcs, ← List.dropWhile_append_of_pos hcs]
  rfl

section

variable {tail : List Char} (htail : BehindHost tail)
include htail

theorem bracketedHost?_closed (host : List Char) {after : List Char}
    (hhost : ∀ c ∈ host ++ ']' :: after, isPlaceChar c)
    (hafter : ']' ∉ after) : bracketedHost? ('[' :: (host ++ ']' :: after ++ tail)) =
      if host.isEmpty then none else some (host, after ++ tail) := by
  have hlast : ']' ∉ after ++ tail.takeWhile isPlaceChar := by simpa using ⟨hafter, htail.bracket⟩
  have hcut : cutLast? ']' (host ++ ']' :: after ++ tail.takeWhile isPlaceChar) =
      some (host, after ++ tail.takeWhile isPlaceChar) := cutLast?_eq_some_iff.mpr ⟨by simp, hlast⟩
  rw [bracketedHost?_append hhost, hcut]
  simp only [List.append_assoc, List.takeWhile_append_dropWhile]

theorem bracketedHost?_open {cs : List Char} (hcs : ∀ c ∈ cs, isPlaceChar c) (hopen : ']' ∉ cs) :
    bracketedHost? ('[' :: (cs ++ tail)) = none := by
  have hnone : ']' ∉ cs ++ tail.takeWhile isPlaceChar := by simpa using ⟨hopen, htail.bracket⟩
  rw [bracketedHost?_append hcs, cutLast?_eq_none_iff.mpr hnone]

theorem bracketedHost?_behind : bracketedHost? tail = none := by
  cases tail with
  | nil => rfl
  | cons c rest =>
    have hc : c ≠ '[' := by
      rintro rfl
      exact absurd (htail.starts '[' rfl) (by decide)
    simp [bracketedHost?, hc]

theorem splitHost_of_not_bracketed {host : List Char} (hhost : ∀ c ∈ host, ¬ isHostStop c)
    (hbracket : bracketedHost? (host ++ tail) = none) :
    splitHost (host ++ tail) = (if host.isEmpty then none else some host, tail) := by
  have hkept : ∀ c ∈ host, (c != '/' && c != ':' && c != '?') = true := by
    intro c hc
    simpa [isHostStop, not_or, and_assoc] using hhost c hc
  have hends : tail.takeWhile (fun c => c != '/' && c != ':' && c != '?') = [] ∧
      tail.dropWhile (fun c => c != '/' && c != ':' && c != '?') = tail := by
    cases tail with
    | nil => exact ⟨rfl, rfl⟩
    | cons c rest =>
      have hc : ¬ (c != '/' && c != ':' && c != '?') = true := by
        have hstop := htail.starts c rfl
        simp only [isHostStop, Bool.or_eq_true, beq_iff_eq] at hstop
        rcases hstop with (rfl | rfl) | rfl <;> decide
      exact ⟨List.takeWhile_cons_of_neg hc, List.dropWhile_cons_of_neg hc⟩
  simp only [splitHost, hbracket, List.takeWhile_append_of_pos hkept,
    List.dropWhile_append_of_pos hkept, hends.1, hends.2, List.append_nil]

/-- A host of these characters is cut off as it is, unless it looks like one between brackets. -/
theorem splitHost_plain {host : List Char} (hne : host ≠ []) (hhost : ∀ c ∈ host, ¬ isHostStop c)
    (hbracket : ∀ c rest, host = '[' :: c :: rest → ']' ∉ rest) :
    splitHost (host ++ tail) = (some host, tail) := by
  have hsome : host.isEmpty = false := by simpa using hne
  have hplace : ∀ c ∈ host, isPlaceChar c := by
    intro c hc
    have hstop := hhost c hc
    simp only [isHostStop, Bool.or_eq_true, beq_iff_eq, not_or] at hstop
    simp [isPlaceChar, hstop.1.1, hstop.2]
  have hnone : bracketedHost? (host ++ tail) = none := by
    cases host with
    | nil => contradiction
    | cons first cs =>
      by_cases hfirst : first = '['
      · subst hfirst
        have hcs := (List.forall_mem_cons.mp hplace).2
        by_cases hin : ']' ∈ cs
        · -- a closing bracket right behind the opening one has no host before it
          obtain ⟨c, rest, rfl⟩ := List.exists_cons_of_ne_nil (List.ne_nil_of_mem hin)
          have hrest := hbracket c rest rfl
          obtain rfl : ']' = c := by simpa [hrest] using hin
          have hclosed := bracketedHost?_closed htail [] hcs hrest
          simpa using hclosed
        · exact bracketedHost?_open htail hcs hin
      · simp [bracketedHost?, hfirst]
  rw [splitHost_of_not_bracketed htail hhost hnone, hsome]
  rfl

/-- What looks like a host between brackets loses them. -/
theorem splitHost_bracketed {c : Char} {rest : List Char} (hrest : ∀ d ∈ c :: rest, isPlaceChar d)
    (hin : ']' ∈ rest) :
    ∃ host behind, splitHost ('[' :: c :: rest ++ tail) = (some host, behind) ∧
    host.length < rest.length + 2 := by
  obtain ⟨before, after, hcut⟩ : ∃ before after, cutLast? ']' rest = some (before, after) := by
    cases hcut : cutLast? ']' rest with
    | none => exact absurd hin (cutLast?_eq_none_iff.mp hcut)
    | some cut => exact ⟨cut.1, cut.2, rfl⟩
  obtain ⟨rfl, hafter⟩ := cutLast?_eq_some_iff.mp hcut
  have hclosed := bracketedHost?_closed htail (c :: before) hrest hafter
  refine ⟨c :: before, after ++ tail, ?_, ?_⟩
  · rw [List.isEmpty_cons, if_neg Bool.false_ne_true] at hclosed
    rw [splitHost, List.cons_append, List.cons_append]
    rw [List.cons_append, List.cons_append] at hclosed
    rw [hclosed]
  · simp only [List.length_cons, List.length_append]
    omega

theorem splitHost_shown {host : List Char} (hne : host ≠ []) (hhost : ∀ c ∈ host, isPlaceChar c) :
    splitHost ('[' :: (host ++ ']' :: tail)) = (some host, tail) := by
  have hclosed : ∀ c ∈ host ++ [']'], isPlaceChar c :=
    List.forall_mem_append.mpr ⟨hhost, List.forall_mem_singleton.mpr (by decide)⟩
  have hbracket := bracketedHost?_closed htail host hclosed List.not_mem_nil
  have hsome : host.isEmpty = false := by simpa using hne
  simp only [List.append_assoc, List.singleton_append, List.nil_append, hsome, Bool.false_eq_true,
    ↓reduceIte] at hbracket
  rw [splitHost, hbracket]

end

/-! ### Port and database -/

/-- A port as it stands behind a host. -/
inductive PortPart : Option (List Char) → List Char → Prop
  | none : PortPart none []
  | digits {ds : List Char} : (∀ c ∈ ds, isPlaceChar c) → PortPart (some ds) (':' :: ds)

/-- A database as it stands behind a host and port. -/
inductive DatabasePart : Option (List Char) → List Char → Prop
  | none : DatabasePart none []
  | name {cs : List Char} : '?' ∉ cs → DatabasePart (some cs) ('/' :: cs)

/-- A query and whatever is behind it. -/
def QueryPart (cs : List Char) : Prop := ∀ c ∈ cs.head?, c = '?'

theorem PortPart.splitPort {port : Option (List Char)} {text tail : List Char}
    (h : PortPart port text)
    (htail : ∀ c ∈ tail.head?, ¬ isPlaceChar c) : splitPort (text ++ tail) = (port, tail) := by
  have hends : tail.takeWhile isPlaceChar = [] ∧ tail.dropWhile isPlaceChar = tail := by
    cases tail with
    | nil => exact ⟨rfl, rfl⟩
    | cons c rest =>
      exact ⟨List.takeWhile_cons_of_neg (htail c rfl), List.dropWhile_cons_of_neg (htail c rfl)⟩
  cases h with
  | none =>
    cases tail with
    | nil => rfl
    | cons c rest =>
      have hc : c ≠ ':' := by
        rintro rfl
        exact htail ':' rfl (by decide)
      simp [Url.splitPort, hc]
  | @digits ds hds =>
    have htake : (ds ++ tail).takeWhile isPlaceChar = ds := by
      rw [List.takeWhile_append_of_pos hds, hends.1, List.append_nil]
    have hdrop : (ds ++ tail).dropWhile isPlaceChar = tail := by
      rw [List.dropWhile_append_of_pos hds, hends.2]
    rw [List.cons_append, Url.splitPort]
    exact Prod.ext (congrArg some htake) hdrop

theorem DatabasePart.splitDatabase {name : Option (List Char)} {text tail : List Char}
    (h : DatabasePart name text)
    (htail : QueryPart tail) : splitDatabase (text ++ tail) = (name, tail) := by
  cases h with
  | none =>
    cases tail with
    | nil => rfl
    | cons c rest =>
      have hc : c ≠ '/' := by
        rintro rfl
        exact absurd (htail '/' rfl) (by decide)
      simp [Url.splitDatabase, hc]
  | @name cs hcs =>
    have hkept : ∀ c ∈ cs, (c != '?') = true :=
      fun c hc => by simpa using ne_of_mem_of_not_mem hc hcs
    rw [List.cons_append, Url.splitDatabase, List.takeWhile_append_of_pos hkept,
      List.dropWhile_append_of_pos hkept]
    cases tail with
    | nil => simp
    | cons c rest =>
      obtain rfl := htail c rfl
      simp

theorem DatabasePart.head {name : Option (List Char)} {text tail : List Char}
    (h : DatabasePart name text)
    (htail : QueryPart tail) : ∀ c ∈ (text ++ tail).head?, ¬ isPlaceChar c := by
  intro c hc
  cases h with
  | none => exact htail c hc ▸ by decide
  | name =>
    obtain rfl : '/' = c := by simpa using hc
    decide

theorem PortPart.behindHost {port : Option (List Char)} {text tail : List Char}
    (h : PortPart port text) (hbracket : ']' ∉ text) (htail : ∀ c ∈ tail.head?, ¬ isPlaceChar c) :
    BehindHost (text ++ tail) := by
  have hends : tail.takeWhile isPlaceChar = [] := by
    cases tail with
    | nil => rfl
    | cons c rest => exact List.takeWhile_cons_of_neg (htail c rfl)
  cases h with
  | none =>
    refine ⟨fun c hc => ?_, by rw [List.nil_append, hends]; exact List.not_mem_nil⟩
    have hstop := htail c hc
    simp only [isPlaceChar, Bool.and_eq_true, bne_iff_ne, not_and_or, not_not] at hstop
    rcases hstop with rfl | rfl <;> decide
  | @digits ds hds =>
    have hall : ∀ c ∈ ':' :: ds, isPlaceChar c := List.forall_mem_cons.mpr ⟨by decide, hds⟩
    refine ⟨fun c hc => ?_, ?_⟩
    · obtain rfl : ':' = c := by simpa using hc
      decide
    · rwa [List.takeWhile_append_of_pos hall, hends, List.append_nil]

def decoded (cs : List Char) : String := String.ofList (Percent.decode cs)

/-- What stands behind the user information. -/
def readPlace (cs : List Char) : Except Fault Url :=
  let (host, rest) := splitHost cs
  let (digits, rest) := splitPort rest
  let (database, rest) := splitDatabase rest
  (portOf digits).map fun port =>
    { driver := "", user := none, password := none
      host := host.map String.ofList
      port := port
      database := database.map decoded
      query := queryOf rest }

/-- A place whose host is cut off whole is read part by part. -/
theorem readPlace_parts {cs portText databaseText query : List Char}
    {host port database : Option (List Char)}
    (hhost : splitHost cs = (host, portText ++ (databaseText ++ query)))
    (hport : PortPart port portText)
    (hdatabase : DatabasePart database databaseText) (hquery : QueryPart query) :
    readPlace cs = (portOf port).map fun port =>
      { driver := "", user := none, password := none
        host := host.map String.ofList
        port := port
        database := database.map decoded
        query := queryOf query } := by
  simp only [readPlace, hhost, hport.splitPort (hdatabase.head hquery),
    hdatabase.splitDatabase hquery]

theorem host_of_readPlace {cs : List Char} {u : Url} (h : readPlace cs = .ok u) :
    u.host = (splitHost cs).1.map String.ofList := by
  obtain ⟨port, -, rfl⟩ := Outcome.map_ok_iff.mp h
  rfl

/-! ### The whole text -/

def isDriverChar (c : Char) : Bool := isWordChar c || c == '+'

/-- The text of a URL has a driver. -/
structure Driven (s : String) (driver rest : List Char) : Prop where
  text : s.toList = driver ++ ':' :: '/' :: '/' :: rest
  driver_ne : driver ≠ []
  driver_chars : ∀ c ∈ driver, isDriverChar c

theorem Driven.parse {s : String} {driver rest : List Char} (h : Driven s driver rest) :
    Url.parse s = (readPlace (splitUser rest).2.2).map ({ · with
      driver := String.ofList driver
      user := (splitUser rest).1.map decoded
      password := (splitUser rest).2.1.map decoded }) := by
  have htake := takeWhile_append_cons (c := ':') h.driver_chars (by decide) ('/' :: '/' :: rest)
  have hdrop := dropWhile_append_cons (c := ':') h.driver_chars (by decide) ('/' :: '/' :: rest)
  have hsome : driver.isEmpty = false := by simpa using h.driver_ne
  have hchars : isDriverChar = fun c => isWordChar c || c == '+' := rfl
  rw [hchars] at htake hdrop
  simp only [Url.parse, h.text, htake, hdrop, hsome, Bool.false_eq_true, ↓reduceIte, readPlace]
  cases portOf (splitPort (splitHost (splitUser rest).2.2).2).1 <;> rfl

theorem exists_driven {s : String} {u : Url} (h : Url.parse s = .ok u) :
    ∃ driver rest, Driven s driver rest := by
  have htext : s.toList.takeWhile isDriverChar ++ s.toList.dropWhile isDriverChar = s.toList :=
    List.takeWhile_append_dropWhile
  unfold Url.parse at h
  dsimp only at h
  split at h
  · rename_i rest hdrop
    split at h
    · cases h
    · rename_i hsome
      refine ⟨s.toList.takeWhile isDriverChar, rest, ?_, fun he => hsome ?_,
        fun c hc => List.mem_takeWhile_imp hc⟩
      · exact htext.symm.trans (congrArg (s.toList.takeWhile isDriverChar ++ ·) hdrop)
      · exact List.isEmpty_iff.mpr he
  · cases h

end CatalogEntities.Connection.Url
