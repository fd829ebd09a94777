import CatalogEntities.Failure

/-!
How entity attributes that need it are carried to the database and back: truth values as zero and
one, 64-bit integers as texts on the side of the program.
-/

namespace CatalogEntities.Storage

open Number

/-- Null is carried as null. -/
def unlessNull (f : Value → Except Failure Value) : Value → Except Failure Value
  | .null => .ok .null
  | v => f v

def readInteger (v : Value) : Except Failure Int := v.toInteger.mapError .integer

/-- A truth value on its way to the database. -/
def bindBool : Value → Except Failure Value :=
  unlessNull fun v => .ok (.int (if v.truth then 1 else 0))

/-- A truth value on its way back. -/
def loadBool : Value → Except Failure Value :=
  unlessNull fun v => (readInteger v).map fun n => .bool (n != 0)

/-- A large integer on its way to the database. -/
def bindBigInt : Value → Except Failure Value :=
  unlessNull fun v => (readInteger v).map .int

/-- A large integer on its way back. -/
def loadBigInt : Value → Except Failure Value :=
  unlessNull fun v =>
    match v with
    | .int n => ((writeInteger n).map .text).mapError .ofIntegerFault
    | v => .ok (.text v.display)

end CatalogEntities.Storage
