import CatalogEntities.Text.Case
import CatalogEntities.Text.Span

/-!
Log records and the marks in front of messages of note.
-/

namespace CatalogEntities.Log

open Text

inductive Level
  | debug
  | info
  | warning
  | error
  | critical
  deriving DecidableEq, Repr

def Level.name : Level → String
  | .debug => "DEBUG"
  | .info => "INFO"
  | .warning => "WARNING"
  | .error => "ERROR"
  | .critical => "CRITICAL"

def Level.rank : Level → Nat
  | .debug => 10
  | .info => 20
  | .warning => 30
  | .error => 40
  | .critical => 50

/-- `traced` tells that the place of an error is printed after its message. -/
structure Record where
  level : Level
  message : String
  traced : Bool := false
  deriving DecidableEq, Repr

def debug (message : String) : Record := ⟨.debug, message, false⟩

def info (message : String) : Record := ⟨.info, message, false⟩

def warning (message : String) : Record := ⟨.warning, message, false⟩

def error (message : String) : Record := ⟨.error, message, false⟩

def success (message : String) : Record := info ("✓ " ++ message)

def progress (message : String) : Record := info ("→ " ++ message)

def highlight (message : String) : Record := info ("• " ++ message)

def sectionRule : String := String.ofList (List.replicate 60 '=')

/-- A heading in capitals between two rules. -/
def heading (name : String) : List Record :=
  [info sectionRule, info ("  " ++ onChars upper name), info sectionRule]

end CatalogEntities.Log
