import CatalogEntities.Text.Span

/-!
Hiding the password of a database URL in messages.
-/

namespace CatalogEntities.Connection

open Text

/-- Characters that may stand in the user part of a masked URL. -/
def isUserChar (c : Char) : Bool := c != ':' && c != '/' && c != '@'

/-- The user and what follows the credentials, for a text that starts with a non-empty user, a
colon, a non-empty password and an at sign. The password ends at the first at sign. -/
def credentials? (cs : List Char) : Option (List Char × List Char) :=
  let user := cs.takeWhile isUserChar
  match cs.dropWhile isUserChar with
  | ':' :: secret =>
    match secret.dropWhile (· != '@') with
    | '@' :: after =>
      if user.isEmpty || (secret.takeWhile (· != '@')).isEmpty then none else some (user, after)
    | _ => none
  | _ => none

theorem length_dropWhile_le (p : Char → Bool) (cs : List Char) :
    (cs.dropWhile p).length ≤ cs.length :=
  (List.dropWhile_sublist p).length_le

theorem length_of_credentials {cs user after : List Char}
    (h : credentials? cs = some (user, after)) : after.length < cs.length := by
  unfold credentials? at h
  have first := length_dropWhile_le isUserChar cs
  split at h
  · rename_i secret heq
    dsimp only at h
    have second := length_dropWhile_le (· != '@') secret
    split at h
    · rename_i rest heq'
      split at h
      · simp at h
      · simp only [Option.some.injEq, Prod.mk.injEq] at h
        rw [heq] at first
        rw [heq'] at second
        simp only [List.length_cons] at first second
        rw [← h.2]
        omega
    · simp at h
  · simp at h

/-- Every password after `://` replaced by three asterisks. -/
def maskChars : List Char → List Char
  | ':' :: '/' :: '/' :: rest =>
    match _h : credentials? rest with
    | some (user, after) => "://".toList ++ user ++ ":***@".toList ++ maskChars after
    | none => ':' :: maskChars ('/' :: '/' :: rest)
  | c :: rest => c :: maskChars rest
  | [] => []
termination_by cs => cs.length
decreasing_by
  all_goals simp_wf
  · have := length_of_credentials _h
    omega

def mask (url : String) : String := onChars maskChars url

end CatalogEntities.Connection
