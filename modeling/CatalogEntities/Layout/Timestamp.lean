import CatalogEntities.Number.Integer

/-!
The time of a run as the header of a module shows it.
-/

namespace CatalogEntities.Layout

structure Timestamp where
  year : Nat
  month : Nat
  day : Nat
  hour : Nat
  minute : Nat
  second : Nat
  deriving DecidableEq, Repr, Inhabited

namespace Timestamp

def weekdays : List String := ["Sun", "Mon", "Tue", "Wed", "Thu", "Fri", "Sat"]

def months : List String :=
  ["Jan", "Feb", "Mar", "Apr", "May", "Jun", "Jul", "Aug", "Sep", "Oct", "Nov", "Dec"]

/-- Day of the week of the Gregorian calendar, Sunday being 0. January and February count as the
end of the year before. -/
def weekday (t : Timestamp) : Nat :=
  let shifts := [0, 3, 2, 5, 0, 3, 5, 1, 4, 6, 2, 4]
  let y := if t.month < 3 then t.year - 1 else t.year
  (y + y / 4 - y / 100 + y / 400 + (shifts[t.month - 1]?).getD 0 + t.day) % 7

def twoDigits (n : Nat) : String :=
  if n < 10 then "0" ++ Number.natText n else Number.natText n

/-- `Sat Jan 01 2022 12:00:00`. -/
def text (t : Timestamp) : String :=
  let day := (weekdays[t.weekday]?).getD ""
  let month := (months[t.month - 1]?).getD ""
  s!"{day} {month} {twoDigits t.day} {Number.natText t.year} " ++
    s!"{twoDigits t.hour}:{twoDigits t.minute}:{twoDigits t.second}"

end Timestamp

end CatalogEntities.Layout
