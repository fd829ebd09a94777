import CatalogEntities.Proofs.Assoc
import CatalogEntities.Proofs.Connection.Place
import CatalogEntities.Proofs.Number.Integer
import CatalogEntities.Proofs.Text.Case
import CatalogEntities.Proofs.Text.Percent

/-!
Writing a connection string. User, password, database, keys and values are percent-encoded, so none
of the characters that divide a connection string occurs in them; then only one way to read it is
left, and it gives back what was written.

Main result: `Target.parse_written`.
-/

namespace CatalogEntities.Connection.Target

open Text

/-! ### Writing -/

def encoded (s : String) : List Char := Percent.encode [] s.toList

/-- What stands in front of the host. -/
def credentialsText : Option String → Option String → List Char
  | none, none => []
  | some user, none => encoded user ++ ['@']
  | user, some password => encoded (user.getD "") ++ ':' :: (encoded password ++ ['@'])

def queryText : List (String × String) → List Char
  | [] => []
  | pairs => '?' :: Percent.pairsText pairs

/-- What stands behind the user information. -/
def placeText (t : Target) : List Char :=
  t.host.toList ++ ':' :: ((Number.natText t.port).toList ++
    '/' :: (encoded t.database ++ queryText t.parameters))

/-- The target as a connection string, for a spelling of the scheme. -/
def written (t : Target) (spelling : String) : String :=
  String.ofList
    (spelling.toList ++ ':' :: '/' :: '/' :: (credentialsText t.user t.password ++ t.placeText))

/-- The targets that a connection string can name. The host is written as it is. -/
structure Writable (t : Target) : Prop where
  user : t.user ≠ some ""
  host : t.host ≠ ""
  host_chars : ∀ c ∈ t.host.toList, isHostChar c
  port_pos : 1 ≤ t.port
  port_le : t.port ≤ 65535
  database : t.database ≠ ""
  keys : t.parameters.keys.Nodup

theorem not_mem_encoded {c : Char} (hreserved : Percent.isUnreserved c = false) (hpercent : c ≠ '%')
    (s : String) : c ∉ encoded s :=
  Percent.not_mem_encode hreserved List.not_mem_nil hpercent s.toList

theorem encoded_ne_nil {s : String} (h : s ≠ "") : encoded s ≠ [] :=
  Percent.encode_ne_nil [] (by simpa using h)

theorem decode_encoded (s : String) : String.ofList (Percent.decode (encoded s)) = s := by
  rw [encoded, Percent.decode_encode (List.forall_mem_nil _), String.ofList_toList]

/-- A character that is neither unreserved nor one of the marks is in no query. -/
theorem not_mem_queryText {c : Char} (hreserved : Percent.isUnreserved c = false)
    (hmark : c ∉ ['%', '?', '=', '&']) (pairs : List (String × String)) : c ∉ queryText pairs := by
  simp only [List.mem_cons, List.not_mem_nil, or_false, not_or] at hmark
  obtain ⟨hpercent, hquestion, hequals, hand⟩ := hmark
  have hpair : ∀ pair : String × String, c ∉ Percent.pairText pair := by
    intro pair h
    rcases List.mem_append.mp h with h | h
    · exact Percent.not_mem_encode hreserved List.not_mem_nil hpercent _ h
    · rcases List.mem_cons.mp h with h | h
      · exact hequals h
      · exact Percent.not_mem_encode hreserved List.not_mem_nil hpercent _ h
  have hpairs : c ∉ Percent.pairsText pairs := by
    fun_induction Percent.pairsText pairs with
    | case1 => exact List.not_mem_nil
    | case2 pair => exact hpair pair
    | case3 pair rest _ ih =>
      intro h
      rcases List.mem_append.mp h with h | h
      · exact hpair pair h
      · rcases List.mem_cons.mp h with h | h
        · exact hand h
        · exact ih h
  cases pairs with
  | nil => exact List.not_mem_nil
  | cons pair rest =>
    intro h
    rcases List.mem_cons.mp h with h | h
    · exact hquestion h
    · exact hpairs h

/-! ### Reading what was written -/

theorem queryText_spells (pairs : List (String × String)) :
    QueryText (Percent.pairsText pairs) (queryText pairs) := by
  cases pairs with
  | nil => exact .none
  | cons pair rest =>
    have hquery : '\n' ∉ queryText (pair :: rest) := not_mem_queryText (by decide) (by decide) _
    exact .line fun hmem => hquery (List.mem_cons_of_mem _ hmem)

section

variable {t : Target} (h : t.Writable)
include h

theorem Writable.place?_placeText : place? t.placeText = some
    { scheme := [], user := [], password := none, host := t.host.toList
      port := some (Number.natText t.port).toList, database := encoded t.database
      query := Percent.pairsText t.parameters } := by
  have hhost : t.host.toList ≠ [] := by simpa using h.host
  have hport :
      PortText (some (Number.natText t.port).toList) (':' :: (Number.natText t.port).toList) :=
    .digits (Number.natText_ne_nil t.port) fun c hc =>
      isDecimal_of_isAsciiDigit (Number.isAsciiDigit_of_mem_natText hc)
  have hdatabase : ∀ c ∈ encoded t.database, isDatabaseChar c := by
    intro c hc
    have hquestion : c ≠ '?' := ne_of_mem_of_not_mem hc (not_mem_encoded (by decide) (by decide) _)
    have hslash : c ≠ '/' := ne_of_mem_of_not_mem hc (not_mem_encoded (by decide) (by decide) _)
    simp [isDatabaseChar, hquestion, hslash]
  exact place?_eq_some_iff.mpr
    (.mk hhost h.host_chars hport (encoded_ne_nil h.database) hdatabase
      (queryText_spells t.parameters))

theorem Writable.at_not_mem_placeText : '@' ∉ t.placeText := by
  intro hat
  rcases List.mem_append.mp hat with hat | hat
  · exact absurd (h.host_chars _ hat) (by decide)
  rcases List.mem_cons.mp hat with hat | hat
  · contradiction
  rcases List.mem_append.mp hat with hat | hat
  · exact absurd (Number.isAsciiDigit_of_mem_natText hat) (by decide)
  rcases List.mem_cons.mp hat with hat | hat
  · contradiction
  rcases List.mem_append.mp hat with hat | hat
  · exact not_mem_encoded (by decide) (by decide) _ hat
  · exact not_mem_queryText (by decide) (by decide) _ hat

end

theorem cuts_of_not_mem {cs : List Char} (h : '@' ∉ cs) : cuts cs = [] := by
  rw [List.eq_nil_iff_forall_not_mem]
  intro cut hcut
  obtain ⟨rfl, -⟩ := exists_of_mem_cuts hcut
  exact h (List.mem_append_right _ List.mem_cons_self)

theorem isUserChar_of_mem_encoded {s : String} {c : Char} (hc : c ∈ encoded s) : isUserChar c := by
  have hcolon : c ≠ ':' := ne_of_mem_of_not_mem hc (not_mem_encoded (by decide) (by decide) _)
  have hat : c ≠ '@' := ne_of_mem_of_not_mem hc (not_mem_encoded (by decide) (by decide) _)
  have hslash : c ≠ '/' := ne_of_mem_of_not_mem hc (not_mem_encoded (by decide) (by decide) _)
  simp [isUserChar, hcolon, hat, hslash]

/-- The parts of a written target. -/
def writtenParts (t : Target) (scheme : List Char) : Parts :=
  { scheme
    user := encoded (t.user.getD "")
    password := t.password.map encoded
    host := t.host.toList
    port := some (Number.natText t.port).toList
    database := encoded t.database
    query := Percent.pairsText t.parameters }

theorem Writable.split?_written {t : Target} (h : t.Writable) {scheme : List Char}
    (hs : IsScheme scheme) :
    split? (scheme ++ ':' :: '/' :: '/' :: (credentialsText t.user t.password ++ t.placeText)) =
      some (t.writtenParts scheme) := by
  have hplace := h.place?_placeText
  have hcuts := cuts_of_not_mem h.at_not_mem_placeText
  cases hpassword : t.password with
  | some password =>
    have huser : ∀ c ∈ encoded (t.user.getD ""), isUserChar c := fun c => isUserChar_of_mem_encoded
    have hline : '\n' ∉ encoded password := not_mem_encoded (by decide) (by decide) _
    have hlocated : Located t.placeText _ := ⟨hplace, by simp [hcuts]⟩
    have hsplit := split?_of_located hs huser hlocated hline
    have htext : credentialsText t.user (some password) ++ t.placeText =
        encoded (t.user.getD "") ++ ':' :: (encoded password ++ '@' :: t.placeText) := by
      cases t.user <;> simp [credentialsText]
    rw [htext, hsplit, writtenParts, hpassword]
    rfl
  | none =>
    cases huser : t.user with
    | some user =>
      -- an at sign right behind the user: there is no password to look for
      have hchars : ∀ c ∈ encoded user, isUserChar c := fun c => isUserChar_of_mem_encoded
      have htext :
          credentialsText (some user) none ++ t.placeText = encoded user ++ '@' :: t.placeText := by
        simp [credentialsText]
      rw [htext, split?_user hs hchars (by decide), afterUser?, location?_eq, hplace,
        Option.map_some, Option.some_or, writtenParts, huser, hpassword]
      rfl
    | none =>
      -- what stands behind the colon is searched for a password, and has no at sign
      have hchars : ∀ c ∈ t.host.toList, isUserChar c := by
        intro c hc
        have hchar := h.host_chars c hc
        simp only [isHostChar, isUserChar, Bool.and_eq_true] at hchar ⊢
        exact ⟨⟨hchar.1.1.1, hchar.2⟩, hchar.1.1.2⟩
      have hsecret : cuts ((Number.natText t.port).toList ++
          '/' :: (encoded t.database ++ queryText t.parameters)) = [] := by
        refine cuts_of_not_mem fun hat => h.at_not_mem_placeText ?_
        exact List.mem_append_right _ (List.mem_cons_of_mem _ hat)
      rw [placeText] at hplace
      rw [credentialsText, List.nil_append, placeText, split?_user hs hchars (by decide),
        afterUser?, hsecret,
        List.findSome?_nil, Option.none_or, location?_eq, hplace, Option.map_some, writtenParts,
        huser, hpassword]
      rfl

theorem Writable.portOf_written {t : Target} (h : t.Writable) :
    portOf (some (Number.natText t.port).toList) = .ok t.port := by
  have hlimit : (Number.natText t.port).length ≤ Number.digitLimit := by
    have hlength : (Nat.toDigits 10 t.port).length ≤ 5 :=
      (Nat.length_toDigits_le_iff (by decide) (by decide)).mpr (by have := h.port_le; omega)
    rw [Number.natText, String.length_ofList, Number.digitLimit]
    omega
  have hpos : (1 : Int) ≤ t.port := Int.ofNat_le.mpr h.port_pos
  have hle : (t.port : Int) ≤ 65535 := Int.ofNat_le.mpr h.port_le
  simp only [portOf, String.ofList_toList, Number.integerOfText_natText hlimit, hpos, hle,
    decide_true, Bool.and_self, ↓reduceIte, Int.toNat_natCast]

theorem Writable.ofParts_written {t : Target} (h : t.Writable) {scheme : List Char}
    (hs : asciiLower scheme = Target.scheme.toList) : ofParts (t.writtenParts scheme) = .ok t := by
  have hscheme : ¬ (asciiLower scheme != Target.scheme.toList) := by simp [hs]
  have huser :
      (if (encoded (t.user.getD "")).isEmpty then none else some (t.user.getD "")) = t.user := by
    cases hu : t.user with
    | none => rfl
    | some user =>
      have hne : user ≠ "" := fun he => h.user (by rw [hu, he])
      have hsome : ¬ (encoded user).isEmpty := by simpa using encoded_ne_nil hne
      exact if_neg hsome
  have hpassword :
      (t.password.map encoded).map (fun cs => String.ofList (Percent.decode cs)) = t.password := by
    cases t.password <;> simp [decode_encoded]
  have hparameters :
      Assoc.ofPairs (Percent.queryPairs true (Percent.pairsText t.parameters)) = t.parameters := by
    rw [Percent.queryPairs_pairsText, Assoc.ofPairs_of_nodup h.keys]
  rw [ofParts, writtenParts]
  simp only [hscheme, Bool.false_eq_true, ↓reduceIte, h.portOf_written, Except.map, hpassword,
    hparameters, decode_encoded, huser, String.ofList_toList]

/-- A written connection string does not end in blanks. -/
theorem not_isBlank_of_mem_end {t : Target} {c : Char}
    (hc : c ∈ encoded t.database ++ queryText t.parameters) : ¬ isBlank c := by
  intro hblank
  have hreserved := Percent.isUnreserved_of_isBlank hblank
  have hmark : c ∉ ['%', '?', '=', '&'] := by
    intro hmem
    have hmarks : ['%', '?', '=', '&'].all fun d => !isBlank d := by decide
    simpa [hblank] using List.all_eq_true.mp hmarks c hmem
  rcases List.mem_append.mp hc with hc | hc
  · exact not_mem_encoded hreserved (fun he => hmark (by simp [he])) _ hc
  · exact not_mem_queryText hreserved hmark _ hc

/-- Reading a written connection string gives the target back, for every spelling of the scheme. -/
theorem parse_written {t : Target} (h : t.Writable) {spelling : String}
    (hs : asciiLower spelling.toList = Target.scheme.toList) :
    parse (t.written spelling) = .ok t := by
  have hletters : ∀ c ∈ spelling.toList, isAsciiLetter c := fun c =>
    isAsciiLetter_of_asciiLower hs (by decide)
  obtain ⟨first, more, hspelling⟩ : ∃ first more, spelling.toList = first :: more := by
    refine List.exists_cons_of_ne_nil fun hnil => ?_
    rw [hnil] at hs
    contradiction
  have hfirst : isAsciiLetter first := hletters first (by simp [hspelling])
  have hscheme : IsScheme spelling.toList :=
    ⟨⟨first, more, hspelling, hfirst⟩, fun c hc => by simp [isSchemeChar, hletters c hc]⟩
  have htrim : trim (t.written spelling).toList = (t.written spelling).toList := by
    have htext : (t.written spelling).toList = first :: (more ++ ':' :: '/' :: '/' ::
        (credentialsText t.user t.password ++
          (t.host.toList ++ ':' :: (Number.natText t.port).toList))) ++
        '/' :: (encoded t.database ++ queryText t.parameters) := by
      simp [written, placeText, hspelling]
    rw [htext]
    exact trim_of_ends (not_isBlank_of_isAsciiLetter hfirst) (by decide) _
      fun c => not_isBlank_of_mem_end
  have hsplit :
      split? (trim (t.written spelling).toList) = some (t.writtenParts spelling.toList) := by
    rw [htrim, written, String.toList_ofList, h.split?_written hscheme]
  exact (parse_of_split? hsplit).trans (h.ofParts_written hs)

/-- A target whose texts hold the characters that divide a connection string. -/
def markedTarget : Target :=
  { user := some "a@b:c", password := some "", host := "db 1", port := 65535, database := "s/é?",
    parameters := [("", "1&2=3"), ("k+ %", "")] }

theorem markedTarget_parses :
    asciiLower "MySQL".toList = Target.scheme.toList ∧ markedTarget.Writable ∧
    markedTarget.written "MySQL" =
      "MySQL://a%40b%3Ac:@db 1:65535/s%2F%C3%A9%3F?=1%262%3D3&k%2B%20%25=" ∧
    parse (markedTarget.written "MySQL") = .ok markedTarget := by
  have hspelling : asciiLower "MySQL".toList = Target.scheme.toList := by decide +kernel
  have hhost : markedTarget.host.toList.all isHostChar := by decide +kernel
  have hwritable : markedTarget.Writable :=
    { user := by decide, host := by decide, host_chars := List.all_eq_true.mp hhost,
      port_pos := by decide, port_le := by decide, database := by decide, keys := by decide }
  exact ⟨hspelling, hwritable, by decide +kernel, parse_written hwritable hspelling⟩

end CatalogEntities.Connection.Target
