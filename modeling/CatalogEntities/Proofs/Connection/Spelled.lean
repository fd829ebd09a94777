import CatalogEntities.Proofs.Connection.Query
import CatalogEntities.Proofs.Connection.Reread
import CatalogEntities.Proofs.Text.Case
import CatalogEntities.Proofs.Text.Digits

/-!
The text of a connection string, put together from its parts, and what becomes of these where it is
read as the URL of an engine.

Main results: `Target.exists_spelled`, `Target.UserText.alike`, `Target.Spelled.readPlace`.
-/

namespace CatalogEntities.Connection.Target

open Text

/-! ### The text and its parts -/

/-- User information as it stands before a place. -/
inductive UserText : List Char → Option (List Char) → List Char → Prop
  | anonymous : UserText [] none []
  | user {user : List Char} : (∀ c ∈ user, isUserChar c) → UserText user none (user ++ ['@'])
  | secret {user password : List Char} : (∀ c ∈ user, isUserChar c) → '\n' ∉ password →
      UserText user (some password) (user ++ ':' :: (password ++ ['@']))

/-- What stands behind the user information. -/
def locationText (p : Parts) (portText queryText : List Char) : List Char :=
  p.host ++ (portText ++ '/' :: (p.database ++ queryText))

/-- A connection string and the texts of its parts. -/
structure Spelled (cs : List Char) (p : Parts)
    (userText portText queryText : List Char) : Prop where
  text : cs = p.scheme ++ ':' :: '/' :: '/' :: (userText ++ locationText p portText queryText)
  scheme : IsScheme p.scheme
  user : UserText p.user p.password userText
  host_ne : p.host ≠ []
  host : ∀ c ∈ p.host, isHostChar c
  port : PortText p.port portText
  database_ne : p.database ≠ []
  database : ∀ c ∈ p.database, isDatabaseChar c
  query : QueryText p.query queryText

theorem PlaceText.spelled {place : Parts} {text : List Char} (h : PlaceText place text)
    {scheme user userText : List Char} {password : Option (List Char)} (hscheme : IsScheme scheme)
    (huser : UserText user password userText) :
    ∃ portText queryText, Spelled (scheme ++ ':' :: '/' :: '/' :: (userText ++ text))
      { place with scheme, user, password } userText portText queryText := by
  obtain ⟨hne, hhost, hport, hdatabase, hchars, hquery⟩ := h
  exact ⟨_, _, rfl, hscheme, huser, hne, hhost, hport, hdatabase, hchars, hquery⟩

theorem exists_spelled {cs : List Char} {p : Parts} (h : split? cs = some p) :
    ∃ userText portText queryText, Spelled cs p userText portText queryText := by
  cases hpassword : p.password with
  | some password =>
    obtain ⟨after, place, rfl, hscheme, huser, hline, hlocated, hparts⟩ :=
      exists_located h hpassword
    have hspelled := (place?_eq_some_iff.mp hlocated.here).spelled hscheme (.secret huser hline)
    rw [hparts]
    exact ⟨_, by simpa using hspelled⟩
  | none =>
    obtain ⟨scheme, user, c, tail, rfl, hscheme, huser, hc⟩ := exists_user h
    rw [split?_user hscheme huser hc, Option.or_eq_some_iff] at h
    -- a place is looked for behind the user first, and then from the start
    rcases h with h | ⟨-, h⟩
    · rcases eq_of_not_isUserChar hc with rfl | rfl | rfl
      · obtain ⟨cut, -, hlocation⟩ := List.exists_of_findSome?_eq_some h
        dsimp only at hlocation
        rw [location?_eq] at hlocation
        obtain ⟨place, -, rfl⟩ := Option.map_eq_some_iff.mp hlocation
        cases hpassword
      · rw [afterUser?, location?_eq] at h
        obtain ⟨place, hplace, rfl⟩ := Option.map_eq_some_iff.mp h
        have hspelled := (place?_eq_some_iff.mp hplace).spelled hscheme (.user huser)
        exact ⟨_, by simpa using hspelled⟩
      · cases h
    · rw [location?_eq] at h
      obtain ⟨place, hplace, rfl⟩ := Option.map_eq_some_iff.mp h
      exact ⟨[], (place?_eq_some_iff.mp hplace).spelled hscheme .anonymous⟩

theorem exists_port_of_ofParts {p : Parts} {t : Target} (h : ofParts p = .ok t) :
    asciiLower p.scheme = Target.scheme.toList ∧ ∃ port, portOf p.port = .ok port ∧ t =
      { user := if p.user.isEmpty then none else some (Url.decoded p.user)
        password := p.password.map Url.decoded
        host := String.ofList p.host
        port := port
        database := Url.decoded p.database
        parameters := .ofPairs (Percent.queryPairs true p.query) } := by
  unfold ofParts at h
  dsimp only at h
  split at h
  · cases h
  · rename_i hscheme
    obtain ⟨port, hport, rfl⟩ := Outcome.map_ok_iff.mp h
    exact ⟨by simpa using hscheme, port, hport, rfl⟩

theorem QueryText.at_mem_iff {query text : List Char} (h : QueryText query text) :
    '@' ∈ text ↔ '@' ∈ query := by
  cases h <;> simp

/-! ### User information -/

/-- User information that a URL shares. -/
structure UserAlike (user : List Char) (password : Option (List Char))
    (userText place : List Char) : Prop where
  named : userText = [] ∨ user ≠ []
  secret : ∀ q ∈ password, '@' ∉ q
  place : password = none → Url.AtFree place

theorem isRunChar_of_isUserChar {c : Char} (h : isUserChar c) : Url.isRunChar c := by
  simp only [isUserChar, Bool.and_eq_true] at h
  simp [Url.isRunChar, h.1.1, h.2]

theorem isRunChar_of_isHostChar {c : Char} (h : isHostChar c) : Url.isRunChar c := by
  simp only [isHostChar, Bool.and_eq_true] at h
  simp [Url.isRunChar, h.1.1.1, h.1.1.2]

section

variable {user userText place : List Char} {password : Option (List Char)}
    (h : UserText user password userText)
include h

theorem UserText.run : ∀ c ∈ user, Url.isRunChar c := by
  cases h with
  | anonymous => exact List.forall_mem_nil _
  | user hchars => exact fun c hc => isRunChar_of_isUserChar (hchars c hc)
  | secret hchars => exact fun c hc => isRunChar_of_isUserChar (hchars c hc)

theorem UserText.splitUser (halike : UserAlike user password userText place) :
    Url.splitUser (userText ++ place) =
      (if user.isEmpty then none else some user, password, place) := by
  have hrun := h.run
  cases h with
  | anonymous => exact Url.splitUser_none (halike.place rfl)
  | user =>
    have hne := halike.named.resolve_left (by simp)
    simpa [hne] using Url.splitUser_at hrun (halike.place rfl)
  | @secret _ password =>
    have hne := halike.named.resolve_left (by simp)
    simpa [hne] using Url.splitUser_secret hrun (halike.secret password rfl) place

/-- Where a URL has the same user and the same password, no mark in them or behind them was in the
way. -/
theorem UserText.alike (hplace : '@' ∉ place.takeWhile Url.isRunChar)
    (huser : (Url.splitUser (userText ++ place)).1.map Url.decoded =
      if user.isEmpty then none else some (Url.decoded user))
    (hpassword : (Url.splitUser (userText ++ place)).2.1.map Url.decoded =
      password.map Url.decoded) :
    UserAlike user password userText place := by
  have hrun := h.run
  have hfree : password = none → Url.AtFree place := by
    -- an at sign left behind a colon would end a password where there is none
    rintro rfl
    refine ⟨hplace, fun rest hrest hat => ?_⟩
    have hbefore : ∀ c ∈ place.takeWhile Url.isRunChar, Url.isRunChar c :=
      fun c hc => List.mem_takeWhile_imp hc
    have hfront : ∀ c ∈ userText, Url.isRunChar c := by
      cases h with
      | anonymous => exact hrun
      | user => exact List.forall_mem_append.mpr ⟨hrun, List.forall_mem_singleton.mpr (by decide)⟩
    rw [← List.takeWhile_append_dropWhile (p := Url.isRunChar) (l := place), hrest,
      ← List.append_assoc] at hpassword
    have hsome := Url.splitUser_password (List.forall_mem_append.mpr ⟨hfront, hbefore⟩) hat
    exact hsome (by simpa using hpassword)
  cases h with
  | anonymous => exact ⟨.inl rfl, nofun, hfree⟩
  | user =>
    refine ⟨.inr ?_, nofun, hfree⟩
    rintro rfl
    have hsplit := Url.splitUser_at hrun (hfree rfl)
    rw [List.append_assoc, List.singleton_append, hsplit] at huser
    cases huser
  | @secret _ password =>
    have hwhole : '@' ∉ password := by
      -- the password up to its first at sign decodes to a shorter one
      intro hat
      obtain ⟨first, rest, rfl, hfirst⟩ := List.eq_append_cons_of_mem hat
      have hsplit := Url.splitUser_secret hrun hfirst (rest ++ '@' :: place)
      have htext : user ++ ':' :: (first ++ '@' :: rest ++ ['@']) ++ place =
          user ++ ':' :: (first ++ '@' :: (rest ++ '@' :: place)) := by simp
      rw [htext, hsplit, Option.map_some, Option.map_some, Url.decoded, Url.decoded,
        Percent.decode_separator ⟨by decide, by decide, by decide⟩] at hpassword
      have hlength := congrArg List.length (String.ofList_injective (Option.some.inj hpassword))
      rw [List.length_append, List.length_cons] at hlength
      omega
    refine ⟨.inr ?_, fun q hq => Option.some.inj hq ▸ hwhole, hfree⟩
    rintro rfl
    have hsplit := Url.splitUser_secret hrun hwhole place
    rw [List.append_assoc, List.cons_append, List.append_assoc, List.singleton_append,
      hsplit] at huser
    cases huser

end

/-! ### Place -/

theorem PortText.portPart {port : Option (List Char)} {text : List Char} (h : PortText port text) :
    Url.PortPart port text ∧ ']' ∉ text ∧ '@' ∉ text := by
  cases h with
  | none => exact ⟨.none, List.not_mem_nil, List.not_mem_nil⟩
  | @digits ds hne hds =>
    have hmark {c : Char} (hc : ¬ isDecimal c) : c ∉ ds := fun hin => hc (hds c hin)
    refine ⟨.digits fun c hc => ?_, ?_, ?_⟩
    · have hslash : c ≠ '/' := ne_of_mem_of_not_mem hc (hmark (by decide))
      have hquestion : c ≠ '?' := ne_of_mem_of_not_mem hc (hmark (by decide))
      simp [Url.isPlaceChar, hslash, hquestion]
    · simpa using hmark (c := ']') (by decide)
    · simpa using hmark (c := '@') (by decide)

/-- Both readings take a port for the same number. -/
theorem PortText.portOf {port : Option (List Char)} {text : List Char}
    (h : PortText port text) {n : Nat} (hport : Target.portOf port = .ok n) :
    ∃ shown, Url.portOf port = .ok shown ∧ shown.getD defaultPort = n := by
  cases h with
  | none =>
    obtain rfl := Except.ok.inj hport
    exact ⟨Option.none, rfl, rfl⟩
  | @digits ds hne hds =>
    rw [Target.portOf] at hport
    split at hport
    · cases hport
    · rename_i value hvalue
      split at hport
      · rename_i hrange
        obtain rfl := Except.ok.inj hport
        simp only [Bool.and_eq_true, decide_eq_true_eq] at hrange
        refine ⟨some value, by rw [Url.portOf_some hne, hvalue]; rfl, ?_⟩
        rw [Option.getD_some]
        omega
      · cases hport

/-- Up to a port or database, there is nothing that a URL takes for user information. -/
theorem PortText.exists_stop {port : Option (List Char)} {text : List Char} (h : PortText port text)
    (path : List Char) : ∃ stop rest, text ++ '/' :: path = stop :: rest ∧ ¬ Url.isRunChar stop ∧
      ((stop = ':' → '@' ∉ rest) ↔ (port ≠ Option.none → '@' ∉ path)) := by
  cases h with
  | none => exact ⟨'/', path, rfl, by decide, by simp⟩
  | @digits ds hne hds =>
    have hdigits := (PortText.digits hne hds).portPart.2.2
    exact ⟨':', _, rfl, by decide, by simp_all⟩

/-- Blanks behind a connection string that are part of no name and no value. -/
def IdleBlanks (cs tail query : List Char) : Prop :=
  tail = [] ∨ (∃ front, cs = front ++ '?' :: query) ∧
    (tail.head? = some '\n' ∨ query = [] ∨ query.getLast? = some '&')

theorem decoded_blanks {cs tail : List Char} (htail : ∀ c ∈ tail, isBlank c) :
    Url.decoded (cs ++ tail) = Url.decoded cs ↔ tail = [] := by
  constructor
  · intro h
    cases tail with
    | nil => rfl
    | cons c rest =>
      rw [Url.decoded, Url.decoded, Percent.decode_blank (htail c List.mem_cons_self)] at h
      have hlength := congrArg List.length (String.ofList_injective h)
      rw [List.length_append, List.length_cons] at hlength
      omega
  · rintro rfl
    rw [List.append_nil]

/-- The database and the query behind which blanks stand, as a URL takes them. -/
theorem QueryText.exists_path {query text : List Char} (h : QueryText query text)
    (front : List Char)
    {database tail : List Char} (hne : database ≠ []) (hchars : ∀ c ∈ database, isDatabaseChar c)
    (htail : ∀ c ∈ tail, isBlank c) :
    ∃ name rest, '?' ∉ name ∧ Url.QueryPart rest ∧ database ++ (text ++ tail) = name ++ rest ∧
      ((Url.decoded name = Url.decoded database ∧ ∀ key, (Url.queryOf rest).get? key =
        ((Assoc.ofPairs (Percent.queryPairs true query)).get? key).map ([·])) ↔
          IdleBlanks (front ++ (database ++ text)) tail query ∧
          Url.BlankUntilLast (Percent.queryPairs true query)) := by
  have hdatabase : '?' ∉ database := fun hin => absurd (hchars '?' hin) (by decide)
  have hblank {c : Char} (hc : ¬ isBlank c) : c ∉ tail := fun hin => hc (htail c hin)
  cases h with
  | none =>
    -- without a query the blanks belong to the name of the database
    refine ⟨database ++ tail, [],
      by simpa using ⟨hdatabase, hblank (by decide)⟩, nofun, by simp, ?_⟩
    have hidle : IdleBlanks (front ++ (database ++ [])) tail [] ↔ tail = [] := by
      refine or_iff_left ?_
      rintro ⟨⟨before, htext⟩, -⟩
      have hlast := congrArg List.getLast? htext
      rw [List.append_nil, List.getLast?_append_of_ne_nil _ hne, List.getLast?_append_cons] at hlast
      exact hdatabase (List.mem_of_getLast? hlast)
    have hpairs : Percent.queryPairs true [] = [] := rfl
    rw [decoded_blanks htail, hidle, hpairs]
    exact and_congr_right fun _ => iff_of_true (fun _ => rfl) trivial
  | line hline =>
    -- with a query the blanks belong to it, up to the end of the line
    have hends : ∀ c ∈ tail.takeWhile (· != '\n'), isBlank c :=
      fun c hc => htail c ((List.takeWhile_sublist _).mem hc)
    have hkept : ∀ c ∈ query, (c != '\n') = true :=
      fun c hc => by simpa using ne_of_mem_of_not_mem hc hline
    have hread : Url.queryOf ('?' :: (query ++ tail)) =
        Url.collect (Percent.queryPairs false (query ++ tail.takeWhile (· != '\n'))) := by
      rw [Url.queryOf, List.takeWhile_append_of_pos hkept]
    have hfront : ∃ before, front ++ (database ++ '?' :: query) = before ++ '?' :: query :=
      ⟨front ++ database, (List.append_assoc _ _ _).symm⟩
    have hline : tail.takeWhile (· != '\n') = [] ↔ tail = [] ∨ tail.head? = some '\n' := by
      cases tail <;> simp [List.takeWhile_cons]
    refine ⟨database, '?' :: (query ++ tail), hdatabase,
      fun c hc => (Option.some.inj hc).symm, rfl, ?_⟩
    rw [hread, and_iff_right rfl, Url.collect_tail_iff hends, hline, IdleBlanks,
      and_iff_right hfront, or_assoc]

section

variable {cs tail userText portText queryText : List Char} {p : Parts}
  (h : Spelled cs p userText portText queryText) (htail : ∀ c ∈ tail, isBlank c)
include h

theorem Spelled.driven (hscheme : asciiLower p.scheme = Target.scheme.toList) {s : String}
    (hs : s.toList = cs ++ tail) :
    Url.Driven s p.scheme (userText ++ locationText p portText (queryText ++ tail)) := by
  obtain ⟨first, more, hfirst, -⟩ := h.scheme.starts
  refine ⟨?_, by simp [hfirst], fun c hc => ?_⟩
  · rw [hs, h.text]
    simp [locationText]
  · have hletter := isAsciiLetter_of_asciiLower hscheme (by decide) hc
    simp [Url.isDriverChar, isWordChar, isLetterOrNumeral, isLetter,
      isAscii_of_isAsciiLetter hletter, hletter]

theorem Spelled.not_mem_host {c : Char} (hc : ¬ isHostChar c) :
    c ∉ p.host := fun hin => hc (h.host c hin)

theorem Spelled.takeWhile_place (more : List Char) :
    (locationText p portText more).takeWhile Url.isRunChar = p.host ∧
    (locationText p portText more).dropWhile Url.isRunChar =
      portText ++ '/' :: (p.database ++ more) := by
  have hrun : ∀ c ∈ p.host, Url.isRunChar c := fun c hc => isRunChar_of_isHostChar (h.host c hc)
  obtain ⟨stop, rest, htext, hstop, -⟩ := h.port.exists_stop (p.database ++ more)
  rw [locationText, htext]
  exact ⟨takeWhile_append_cons hrun hstop rest, dropWhile_append_cons hrun hstop rest⟩

theorem Spelled.behindHost (more : List Char) :
    Url.BehindHost (portText ++ '/' :: (p.database ++ more)) := by
  obtain ⟨hpart, hbracket, -⟩ := h.port.portPart
  refine hpart.behindHost hbracket fun c hc => ?_
  obtain rfl := Option.some.inj hc
  decide

/-- Unless its host looks like one between brackets, a place is read part by part. -/
theorem Spelled.readPlace (hbracket : ¬ Url.Bracketed p.host) {more name query : List Char}
    (hname : '?' ∉ name)
    (hquery : Url.QueryPart query) (hmore : p.database ++ more = name ++ query) :
    Url.readPlace (locationText p portText more) = (Url.portOf p.port).map fun port =>
      { driver := "", user := none, password := none
        host := some (String.ofList p.host)
        port := port
        database := some (Url.decoded name)
        query := Url.queryOf query } := by
  have hplain : ∀ c ∈ p.host, ¬ Url.isHostStop c := by
    intro c hc hstop
    simp only [Url.isHostStop, Bool.or_eq_true, beq_iff_eq] at hstop
    rcases hstop with (rfl | rfl) | rfl <;> exact h.not_mem_host (by decide) hc
  have hhost := Url.splitHost_plain (h.behindHost more) h.host_ne hplain
    fun c rest hsplit hin => hbracket ⟨c, rest, hsplit, hin⟩
  rw [hmore, ← List.cons_append] at hhost
  have hpart : Url.DatabasePart (some name) ('/' :: name) := .name hname
  rw [locationText, hmore, ← List.cons_append,
    Url.readPlace_parts hhost h.port.portPart.1 hpart hquery]
  rfl

/-- A host that looks like one between brackets is read without them. -/
theorem Spelled.host_of_bracketed (hbracket : Url.Bracketed p.host) (more : List Char) : ∃ shorter,
    (Url.splitHost (locationText p portText more)).1 = some shorter ∧
    shorter.length < p.host.length := by
  obtain ⟨c, rest, hhost, hin⟩ := hbracket
  have hplace : ∀ d ∈ c :: rest, Url.isPlaceChar d := by
    intro d hd
    have hchar := h.host d (hhost ▸ List.mem_cons_of_mem _ hd)
    simp only [isHostChar, Bool.and_eq_true] at hchar
    simp [Url.isPlaceChar, hchar.1.1.2, hchar.1.2]
  obtain ⟨shorter, behind, hread, hlength⟩ := Url.splitHost_bracketed (h.behindHost more) hplace hin
  refine ⟨shorter, ?_, hhost ▸ hlength⟩
  rw [locationText, hhost, hread]

include htail

theorem Spelled.atFree_iff : Url.AtFree (locationText p portText (queryText ++ tail)) ↔
    (p.port ≠ none → '@' ∉ p.database ∧ '@' ∉ p.query) := by
  obtain ⟨htake, hdrop⟩ := h.takeWhile_place (queryText ++ tail)
  have hhost : '@' ∉ p.host := h.not_mem_host (by decide)
  have hblank : '@' ∉ tail := fun hin => absurd (htail '@' hin) (by decide)
  have hpath : '@' ∉ p.database ++ (queryText ++ tail) ↔ '@' ∉ p.database ∧ '@' ∉ p.query := by
    rw [List.mem_append, List.mem_append, h.query.at_mem_iff]
    simp [hblank]
  obtain ⟨stop, rest, htext, -, hfree⟩ := h.port.exists_stop (p.database ++ (queryText ++ tail))
  rw [← hpath, ← hfree]
  constructor
  · rintro ⟨-, hsecret⟩ rfl
    exact hsecret rest (hdrop.trans htext)
  · refine fun hrest => ⟨htake ▸ hhost, fun rest' hrest' => ?_⟩
    rw [hdrop, htext] at hrest'
    obtain ⟨rfl, rfl⟩ := List.cons.inj hrest'
    exact hrest rfl

theorem Spelled.exists_path : ∃ name rest, '?' ∉ name ∧ Url.QueryPart rest ∧
    p.database ++ (queryText ++ tail) = name ++ rest ∧
      ((Url.decoded name = Url.decoded p.database ∧ ∀ key, (Url.queryOf rest).get? key =
        ((Assoc.ofPairs (Percent.queryPairs true p.query)).get? key).map ([·])) ↔
          IdleBlanks cs tail p.query ∧ Url.BlankUntilLast (Percent.queryPairs true p.query)) := by
  have hpath := h.query.exists_path
    (p.scheme ++ ':' :: '/' :: '/' :: (userText ++ (p.host ++ (portText ++ ['/'])))) h.database_ne
      h.database htail
  have htext : p.scheme ++ ':' :: '/' :: '/' :: (userText ++ (p.host ++ (portText ++ ['/']))) ++
      (p.database ++ queryText) = cs := by
    rw [h.text]
    simp [locationText]
  rwa [htext] at hpath

end

end CatalogEntities.Connection.Target
