import CatalogEntities.Connection.Target
import CatalogEntities.Proofs.Text.CharClass
import CatalogEntities.Proofs.Text.Span

/-!
Where a connection string has its password. The password reaches to the last at sign behind which
a location follows, so it may be exchanged for any other text on one line: that is read again, as
the password of the same place.

Main results: `Target.split?_of_located`, `Target.exists_located`.
-/

namespace CatalogEntities.Connection.Target

open Text

/-- What may stand before `://`. -/
structure IsScheme (scheme : List Char) : Prop where
  starts : ∃ first more, scheme = first :: more ∧ isAsciiLetter first
  chars : ∀ c ∈ scheme, isSchemeChar c

theorem splitScheme?_append {scheme : List Char} (hs : IsScheme scheme) (rest : List Char) :
    splitScheme? (scheme ++ ':' :: '/' :: '/' :: rest) = some (scheme, rest) := by
  have htake := takeWhile_append_cons (c := ':') hs.chars (by decide) ('/' :: '/' :: rest)
  have hdrop := dropWhile_append_cons (c := ':') hs.chars (by decide) ('/' :: '/' :: rest)
  obtain ⟨first, more, hfirst, hletter⟩ := hs.starts
  have hhead : (scheme ++ ':' :: '/' :: '/' :: rest).head? = some first := by simp [hfirst]
  simp only [splitScheme?, hhead, hdrop, htake, hletter, ↓reduceIte]

theorem exists_scheme {cs scheme rest : List Char} (h : splitScheme? cs = some (scheme, rest)) :
    IsScheme scheme ∧ cs = scheme ++ ':' :: '/' :: '/' :: rest := by
  unfold splitScheme? at h
  split at h
  · rename_i first tail hfirst hdrop
    split at h
    · rename_i hletter
      obtain ⟨rfl, rfl⟩ : cs.takeWhile isSchemeChar = scheme ∧ tail = rest := by simpa using h
      obtain ⟨more, rfl⟩ : ∃ more, cs = first :: more := by
        cases cs <;> simp_all
      have hchar : isSchemeChar first := by simp [isSchemeChar, hletter]
      refine ⟨⟨⟨first, more.takeWhile isSchemeChar, ?_, hletter⟩, ?_⟩, ?_⟩
      · rw [List.takeWhile_cons_of_pos hchar]
      · exact fun c hc => List.mem_takeWhile_imp hc
      · rw [← hdrop, List.takeWhile_append_dropWhile]
    · cases h
  · cases h

/-- The location at which a text starts. -/
def place? (cs : List Char) : Option Parts := location? [] [] none cs

/-- Where a location is does not depend on what stands before it. -/
theorem location?_eq (scheme user : List Char) (password : Option (List Char)) (cs : List Char) :
    location? scheme user password cs = (place? cs).map ({ · with scheme, user, password }) := by
  simp only [place?, location?, Option.bind_eq_bind, Option.pure_def]
  split
  · rfl
  · cases hport : splitPort? (cs.dropWhile isHostChar) with
    | none => rfl
    | some port => cases hpath : splitPath? port.2 <;> simp [hpath]

/-- What a text is read as by what stands behind its user. -/
def afterUser? (scheme user : List Char) : List Char → Option Parts
  | ':' :: secret =>
    (cuts secret).findSome? fun (password, after) => location? scheme user (some password) after
  | '@' :: after => location? scheme user none after
  | _ => none

theorem eq_of_not_isUserChar {c : Char} (h : ¬ isUserChar c) : c = ':' ∨ c = '@' ∨ c = '/' := by
  simp only [isUserChar, Bool.and_eq_true, bne_iff_ne, not_and_or, not_not, or_assoc] at h
  exact h

theorem split?_user {scheme user tail : List Char} {c : Char} (hs : IsScheme scheme)
    (huser : ∀ x ∈ user, isUserChar x) (hc : ¬ isUserChar c) :
    split? (scheme ++ ':' :: '/' :: '/' :: (user ++ c :: tail)) =
      (afterUser? scheme user (c :: tail)).or (location? scheme [] none (user ++ c :: tail)) := by
  simp only [split?, splitScheme?_append hs, Option.bind_eq_bind, Option.bind_some,
    takeWhile_append_cons huser hc, dropWhile_append_cons huser hc]
  rcases eq_of_not_isUserChar hc with rfl | rfl | rfl
  case inr.inr => rfl
  all_goals
    simp only [afterUser?]
    split
    · rename_i hparts
      rw [hparts, Option.some_or]
    · rename_i hnone
      rw [hnone, Option.none_or]

theorem exists_of_mem_cuts {cs : List Char} {cut : List Char × List Char} (h : cut ∈ cuts cs) :
    cs = cut.1 ++ '@' :: cut.2 ∧ '\n' ∉ cut.1 := by
  induction cs generalizing cut with
  | nil => cases h
  | cons c rest ih =>
    have hlater : cut ∈ (cuts rest).map (fun later => (c :: later.1, later.2)) → c ≠ '\n' →
        c :: rest = cut.1 ++ '@' :: cut.2 ∧ '\n' ∉ cut.1 := by
      intro hmem hline
      obtain ⟨later, hlater, rfl⟩ := List.mem_map.mp hmem
      obtain ⟨hrest, hnone⟩ := ih hlater
      exact ⟨by rw [hrest]; rfl, by simpa using ⟨Ne.symm hline, hnone⟩⟩
    simp only [cuts] at h
    split at h
    · cases h
    · rename_i hline
      have hline : c ≠ '\n' := by simpa using hline
      split at h
      · rename_i hat
        rcases List.mem_append.mp h with h | h
        · exact hlater h hline
        · obtain rfl : cut = ([], rest) := by simpa using h
          exact ⟨by simpa using hat, by simp⟩
      · exact hlater h hline

/-- The cuts behind a text come before those in it; a line end leaves none behind it. -/
theorem cuts_append (xs ys : List Char) : cuts (xs ++ ys) =
    (if '\n' ∈ xs then [] else (cuts ys).map fun cut => (xs ++ cut.1, cut.2)) ++
      (cuts xs).map fun cut => (cut.1, cut.2 ++ ys) := by
  induction xs with
  | nil => simp [cuts]
  | cons c xs ih =>
    by_cases hline : c = '\n'
    · simp [cuts, hline]
    · have hmem : '\n' ∈ c :: xs ↔ '\n' ∈ xs := by simp [Ne.symm hline]
      simp only [List.cons_append, cuts, ih, hmem, beq_iff_eq, hline, ↓reduceIte]
      by_cases hat : c = '@' <;> by_cases hin : '\n' ∈ xs <;> simp [hat, hin, Function.comp_def]

/-- Before an at sign, a text on one line is a cut behind which only later ones come. -/
theorem cuts_append_at {p : List Char} (hp : '\n' ∉ p) (after : List Char) : ∃ shorter,
    cuts (p ++ '@' :: after) =
      (cuts after).map (fun cut => (p ++ '@' :: cut.1, cut.2)) ++ (p, after) :: shorter := by
  refine ⟨(cuts p).map fun cut => (cut.1, cut.2 ++ '@' :: after), ?_⟩
  rw [cuts_append, if_neg hp]
  simp [cuts, Function.comp_def]

/-- A text that follows a password's at sign: it starts with a location, and no at sign in it is
followed by one. -/
structure Located (after : List Char) (place : Parts) : Prop where
  here : place? after = some place
  nowhere_later : ∀ cut ∈ cuts after, place? cut.2 = none

/-- Before a location, every text on one line is read as the password. -/
theorem split?_of_located {scheme user after password : List Char} {place : Parts}
    (hscheme : IsScheme scheme) (huser : ∀ c ∈ user, isUserChar c) (hafter : Located after place)
    (hline : '\n' ∉ password) :
    split? (scheme ++ ':' :: '/' :: '/' :: (user ++ ':' :: (password ++ '@' :: after))) =
      some { place with scheme, user, password } := by
  have htake := takeWhile_append_cons (c := ':') huser (by decide) (password ++ '@' :: after)
  have hdrop := dropWhile_append_cons (c := ':') huser (by decide) (password ++ '@' :: after)
  have hfind : ((cuts (password ++ '@' :: after)).findSome? fun cut =>
      location? scheme user (some cut.1) cut.2) = some { place with scheme, user, password } := by
    obtain ⟨shorter, hcuts⟩ := cuts_append_at hline after
    have hlater :
        (((cuts after).map fun cut => (password ++ '@' :: cut.1, cut.2)).findSome? fun cut =>
        location? scheme user (some cut.1) cut.2) = none := by
      rw [List.findSome?_eq_none_iff]
      intro cut hcut
      obtain ⟨later, hlater, rfl⟩ := List.mem_map.mp hcut
      rw [location?_eq, hafter.nowhere_later later hlater, Option.map_none]
    rw [hcuts, List.findSome?_append, hlater, Option.none_or, List.findSome?_cons, location?_eq,
      hafter.here, Option.map_some]
  simp only [split?, splitScheme?_append hscheme, Option.bind_eq_bind, Option.bind_some,
    htake, hdrop, hfind]

/-- What the longest password that a location follows tells of the text behind the user's colon. -/
theorem exists_located_secret {scheme user secret password : List Char} {parts : Parts}
    (h : ((cuts secret).findSome? fun cut => location? scheme user (some cut.1) cut.2) = some parts)
    (hpassword : parts.password = some password) :
    ∃ after place, secret = password ++ '@' :: after ∧
      '\n' ∉ password ∧ Located after place ∧ parts = { place with scheme, user, password } := by
  obtain ⟨⟨read, after⟩, hmem, hlocation⟩ := List.exists_of_findSome?_eq_some h
  rw [location?_eq] at hlocation
  obtain ⟨place, hplace, rfl⟩ := Option.map_eq_some_iff.mp hlocation
  obtain rfl : read = password := by simpa using hpassword
  obtain ⟨rfl, hline⟩ := exists_of_mem_cuts hmem
  refine ⟨after, place, rfl, hline, ⟨hplace, fun cut hcut => ?_⟩, rfl⟩
  -- a location behind a later at sign would have given a longer password
  by_contra hsome
  obtain ⟨elsewhere, helsewhere⟩ := Option.ne_none_iff_exists'.mp hsome
  obtain ⟨shorter, hcuts⟩ := cuts_append_at hline after
  rw [hcuts, List.findSome?_append] at h
  cases hlater : ((cuts after).map fun cut => (read ++ '@' :: cut.1, cut.2)).findSome? fun cut =>
      location? scheme user (some cut.1) cut.2 with
  | none =>
    have hnone := List.findSome?_eq_none_iff.mp hlater _ (List.mem_map.mpr ⟨cut, hcut, rfl⟩)
    rw [location?_eq, helsewhere] at hnone
    cases hnone
  | some longer =>
    rw [hlater, Option.some_or] at h
    obtain rfl := Option.some.inj h
    obtain ⟨_, hmem, hlonger⟩ := List.exists_of_findSome?_eq_some hlater
    obtain ⟨later, -, rfl⟩ := List.mem_map.mp hmem
    rw [location?_eq] at hlonger
    obtain ⟨place, -, heq⟩ := Option.map_eq_some_iff.mp hlonger
    have hself : read ++ '@' :: later.1 = read := by simpa using congrArg Parts.password heq
    simp at hself

/-- A connection string with a password: the password and what follows it. -/
theorem exists_located {cs password : List Char} {parts : Parts} (h : split? cs = some parts)
    (hpassword : parts.password = some password) : ∃ after place,
      cs = parts.scheme ++ ':' :: '/' :: '/' :: (parts.user ++ ':' :: (password ++ '@' :: after)) ∧
      IsScheme parts.scheme ∧ (∀ c ∈ parts.user, isUserChar c) ∧ '\n' ∉ password ∧
      Located after place ∧
      parts = { place with scheme := parts.scheme, user := parts.user, password } := by
  unfold split? at h
  obtain ⟨⟨scheme, rest⟩, hsplit, hread⟩ := Option.bind_eq_some_iff.mp h
  obtain ⟨hscheme, rfl⟩ := exists_scheme hsplit
  have huser : ∀ c ∈ rest.takeWhile isUserChar, isUserChar c :=
    fun c hc => List.mem_takeWhile_imp hc
  have hrest : rest.takeWhile isUserChar ++ rest.dropWhile isUserChar = rest :=
    List.takeWhile_append_dropWhile
  clear h
  dsimp only at hread
  generalize rest.takeWhile isUserChar = user at *
  -- only the reading with a colon behind the user has a password
  have hnone : ∀ {user after : List Char}, location? scheme user none after ≠ some parts := by
    intro user after hlocation
    rw [location?_eq] at hlocation
    obtain ⟨place, -, rfl⟩ := Option.map_eq_some_iff.mp hlocation
    cases hpassword
  split at hread
  · rename_i found hknown
    obtain rfl : found = parts := by simpa using hread
    split at hknown
    · rename_i secret hdrop
      obtain ⟨after, place, rfl, hline, hafter, rfl⟩ := exists_located_secret hknown hpassword
      exact ⟨after, place, by rw [← hdrop, hrest], hscheme, huser, hline, hafter, rfl⟩
    · exact (hnone hknown).elim
    · cases hknown
  · exact (hnone hread).elim

theorem parse_of_split? {s : String} {parts : Parts} (h : split? (trim s.toList) = some parts) :
    parse s = ofParts parts := by
  have hsome : s.isEmpty = false := by
    refine Bool.not_eq_true _ ▸ fun hempty => ?_
    obtain rfl := String.isEmpty_iff.mp hempty
    contradiction
  simp only [parse, hsome, h, Bool.false_eq_true, ↓reduceIte]

theorem exists_split? {s : String} {t : Target} (h : parse s = .ok t) :
    ∃ parts, split? (trim s.toList) = some parts ∧ ofParts parts = .ok t := by
  unfold parse at h
  split at h
  · contradiction
  · cases hsplit : split? (trim s.toList) with
    | none =>
      rw [hsplit] at h
      contradiction
    | some parts =>
      rw [hsplit] at h
      exact ⟨parts, rfl, h⟩

/-- The password is not looked at. -/
theorem ofParts_password (parts : Parts) (password : Option (List Char)) :
    ofParts { parts with password } = (ofParts parts).map
      ({ · with password := password.map fun cs => String.ofList (Percent.decode cs) }) := by
  simp only [ofParts]
  split
  · rfl
  · cases portOf parts.port <;> rfl

/-- The password of a connection string as it is written. -/
def passwordText? (s : String) : Option (List Char) := (split? (trim s.toList)).bind (·.password)

end CatalogEntities.Connection.Target
