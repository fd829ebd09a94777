import CatalogEntities.Assoc
import CatalogEntities.Text.Utf8
import CatalogEntities.Yaml.Scalar

/-!
YAML texts as tokens. Indentation is turned into tokens that open and close block collections. A
value mark may turn what stands before it on the line into a key: such candidates are kept, at most
one for each level of flow collections, and the key's token is put in front of them later.

Main definition: `tokenize`.
-/

namespace CatalogEntities.Yaml

open Text

inductive Directive
  | version (major : Nat)
  | tag (handle namePrefix : String)
  | other
  deriving DecidableEq, Repr

inductive Token
  | directive (d : Directive)
  | documentStart
  | documentEnd
  | blockSequenceStart
  | blockMappingStart
  | blockEnd
  | flowSequenceStart
  | flowSequenceEnd
  | flowMappingStart
  | flowMappingEnd
  | blockEntry
  | flowEntry
  | key
  | value
  | alias (name : String)
  | anchor (name : String)
  | tag (handle : Option String) (suffix : String)
  | scalar (isPlain : Bool) (text : String)
  | streamEnd
  deriving DecidableEq, Repr

/-- What may turn out to be a key: the number of its first token, its place, and whether it has to
be one. -/
structure Candidate where
  token : Nat
  required : Bool
  index : Nat
  line : Nat
  column : Nat
  deriving DecidableEq, Repr

/-- The state between two tokens. Tokens are kept in reverse; `flow` is the number of open flow
collections, `indents` are the enclosing columns, and `keyAllowed` tells whether a key may begin
here. A column of none is the margin left of the text. -/
structure Scanner where
  cursor : Cursor
  tokens : List Token
  flow : Nat
  indent : Option Nat
  indents : List (Option Nat)
  keyAllowed : Bool
  candidates : Assoc Nat Candidate

namespace Scanner

def start (cs : List Char) : Scanner := ⟨.ofText cs, [], 0, none, [], true, []⟩

def push (s : Scanner) (t : Token) : Scanner := { s with tokens := t :: s.tokens }

/-- Puts tokens in front of the token with the given number. -/
def insert (s : Scanner) (number : Nat) (inOrder : List Token) : Scanner :=
  let after := s.tokens.length - number
  { s with tokens := s.tokens.take after ++ inOrder.reverse ++ s.tokens.drop after }

def advance (s : Scanner) (n : Nat) : Scanner := { s with cursor := s.cursor.skip n }

/-- How far a key may be from its value mark. -/
def keyLimit : Nat := 1024

/-- Candidates on other lines, or too far away, are none any more. -/
def dropStale (s : Scanner) : Except Fault Scanner :=
  let isStale (k : Candidate) : Bool :=
    k.line != s.cursor.line || s.cursor.index - k.index > keyLimit
  if s.candidates.any fun (_, k) => isStale k && k.required then .error .malformed
  else .ok { s with candidates := s.candidates.filter fun (_, k) => !isStale k }

/-- The candidate of the current level is given up; if it had to be a key that is a fault. -/
def dropCandidate (s : Scanner) : Except Fault Scanner :=
  match s.candidates.get? s.flow with
  | none => .ok s
  | some k =>
    if k.required then .error .malformed
    else .ok { s with candidates := s.candidates.filter (·.1 != s.flow) }

/-- The token to come is a candidate, if a key may begin here. -/
def saveCandidate (s : Scanner) : Except Fault Scanner :=
  if s.keyAllowed then
    s.dropCandidate.map fun s =>
      let k : Candidate :=
        { token := s.tokens.length
          required := s.flow == 0 && s.indent == some s.cursor.column
          index := s.cursor.index
          line := s.cursor.line
          column := s.cursor.column }
      { s with candidates := s.candidates.put s.flow k }
  else .ok s

def isDeeper (indent : Option Nat) (column : Option Nat) : Bool :=
  match indent, column with
  | none, _ => false
  | some _, none => true
  | some i, some c => c < i

/-- Closes the block collections that are deeper than a column. -/
def unwindFrom (column : Option Nat) : List (Option Nat) → Scanner → Scanner
  | [], s => s
  | outer :: more, s =>
    if isDeeper s.indent column then
      unwindFrom column more
        { s with indent := outer, indents := more, tokens := .blockEnd :: s.tokens }
    else s

/-- Within flow collections, columns do not count. -/
def unwind (s : Scanner) (column : Option Nat) : Scanner :=
  if s.flow == 0 then unwindFrom column s.indents s else s

/-- The scanner at a column; tells whether the column opens a block collection. -/
def openIndent (s : Scanner) (column : Nat) : Bool × Scanner :=
  if isDeeper (some column) s.indent then
    (true, { s with indents := s.indent :: s.indents, indent := some column })
  else (false, s)

/-! Names, tags and directives -/

def isNameChar (c : Char) : Bool := isAsciiLetter c || isAsciiDigit c || c == '-' || c == '_'

def isUriChar (c : Char) : Bool :=
  isAsciiLetter c || isAsciiDigit c || "-;/?:@&=+$,_.!~*'()[]".toList.contains c

/-- The name of an anchor or of an alias, after its mark. -/
def name (c : Cursor) : Except Fault (String × Cursor) :=
  let (cs, after) := c.next.run isNameChar
  let ends := Cursor.endsWord after.peek || after.peek.any ("?:,]\x7d%@`".toList.contains ·)
  if cs.isEmpty || !ends then .error .malformed else .ok (String.ofList cs, after)

/-- Bytes that are written as escapes. -/
def uriBytes : Nat → Cursor → Except Fault (List UInt8 × Cursor)
  | 0, c => .ok ([], c)
  | fuel + 1, c =>
    match c.rest with
    | '%' :: a :: b :: _ =>
      match Literal.readHex? [a, b] with
      | none => .error .malformed
      | some n => (uriBytes fuel (c.skip 3)).map fun (more, c) => (n.toUInt8 :: more, c)
    | '%' :: _ => .error .malformed
    | _ => .ok ([], c)

def uriFrom : Nat → Cursor → Except Fault Scanned
  | 0, c => .ok ([], c)
  | fuel + 1, c =>
    let (part, c) := c.run isUriChar
    if c.peek == some '%' then
      match uriBytes c.rest.length c with
      | .error fault => .error fault
      | .ok (bytes, c) =>
        match Utf8.decode bytes with
        | .error _ => .error .malformed
        | .ok cs => (uriFrom fuel c).map fun (more, c) => (part ++ cs ++ more, c)
    else .ok (part, c)

/-- The suffix of a tag, or the prefix that a directive gives to a handle. -/
def uri (c : Cursor) : Except Fault (String × Cursor) :=
  match uriFrom (c.rest.length + 1) c with
  | .error fault => .error fault
  | .ok (cs, after) =>
    if after.index == c.index then .error .malformed else .ok (String.ofList cs, after)

/-- A handle: one exclamation mark, two, or a name between two. -/
def handle (c : Cursor) : Except Fault (String × Cursor) :=
  if c.peek != some '!' then .error .malformed
  else if c.second == some ' ' then .ok ("!", c.next)
  else
    let (cs, after) := c.next.run isNameChar
    if after.peek == some '!' then .ok ("!" ++ String.ofList cs ++ "!", after.next)
    else .error .malformed

def spaceOrEnd (c : Option Char) : Bool := c.all fun ch => ch == ' ' || isBreak ch

/-- Whether a further exclamation mark stands in the word, so that the tag begins with a handle. -/
def hasHandle (c : Cursor) : Bool :=
  (c.next.rest.takeWhile fun ch => !spaceOrEnd (some ch)).contains '!'

/-- A tag: verbatim between angle brackets, the lone mark, or a suffix behind a handle. -/
def scanTag (c : Cursor) : Except Fault (Token × Cursor) := do
  let (token, c) ←
    if c.second == some '<' then do
      let (suffix, c) ← uri (c.skip 2)
      if c.peek != some '>' then .error .malformed
      else .ok (Token.tag none suffix, c.next)
    else if Cursor.endsWord c.second then .ok (Token.tag none "!", c.next)
    else do
      let (mark, c) ← if hasHandle c then handle c else .ok ("!", c.next)
      let (suffix, c) ← uri c
      .ok (Token.tag (some mark) suffix, c)
  if spaceOrEnd c.peek then return (token, c) else .error .malformed

def number (c : Cursor) : Except Fault (Nat × Cursor) :=
  let (digits, c) := c.run isAsciiDigit
  if digits.isEmpty then .error .malformed
  else .ok (digits.foldl (fun n d => 10 * n + (d.toNat - '0'.toNat)) 0, c)

def directive (c : Cursor) : Except Fault (Token × Cursor) := do
  let (word, c) := c.next.run isNameChar
  if word.isEmpty || !spaceOrEnd c.peek then .error .malformed
  let (d, c) ←
    if word == "YAML".toList then do
      let (major, c) ← number c.skipSpaces
      if c.peek != some '.' then .error .malformed
      let (_, c) ← number c.next
      if spaceOrEnd c.peek then .ok (Directive.version major, c) else .error .malformed
    else if word == "TAG".toList then do
      let (mark, c) ← handle c.skipSpaces
      if c.peek != some ' ' then .error .malformed
      let (namePrefix, c) ← uri c.skipSpaces
      if spaceOrEnd c.peek then .ok (Directive.tag mark namePrefix, c) else .error .malformed
    else .ok (Directive.other, c.skipRun fun ch => !isBreak ch)
  let c ← c.finishLine
  return (.directive d, c)

/-! The next token -/

/-- Blanks, comments and line ends before a token. After a line end a key may begin, unless a flow
collection is open. -/
def skipBlank : Nat → Scanner → Scanner
  | 0, s => s
  | fuel + 1, s =>
    let c := s.cursor.skipSpaces
    let c := if c.peek == some '#' then c.skipRun fun ch => !isBreak ch else c
    match c.lineEnd? with
    | none => { s with cursor := c }
    | some (_, after) =>
      skipBlank fuel { s with cursor := after, keyAllowed := s.keyAllowed || s.flow == 0 }

def fetchEnd (s : Scanner) : Except Fault Scanner :=
  (s.unwind none).dropCandidate.map fun s => s.push .streamEnd

def fetchDirective (s : Scanner) : Except Fault Scanner := do
  let s ← (s.unwind none).dropCandidate
  let (token, cursor) ← directive s.cursor
  return { s.push token with cursor, keyAllowed := false }

def fetchDocumentMark (s : Scanner) (token : Token) : Except Fault Scanner := do
  let s ← (s.unwind none).dropCandidate
  return { (s.advance 3).push token with keyAllowed := false }

def fetchFlowStart (s : Scanner) (token : Token) : Except Fault Scanner := do
  let s ← s.saveCandidate
  return { (s.advance 1).push token with flow := s.flow + 1, keyAllowed := true }

def fetchFlowEnd (s : Scanner) (token : Token) : Except Fault Scanner := do
  let s ← s.dropCandidate
  if s.flow == 0 then .error .malformed
  else return { (s.advance 1).push token with flow := s.flow - 1, keyAllowed := false }

def fetchFlowEntry (s : Scanner) : Except Fault Scanner := do
  let s ← s.dropCandidate
  return { (s.advance 1).push .flowEntry with keyAllowed := true }

/-- Outside flow collections, a mark may open a block collection at its column. -/
def openBlock (s : Scanner) (opening : Token) : Except Fault Scanner :=
  if s.flow != 0 then .ok s
  else if !s.keyAllowed then .error .malformed
  else
    let (opened, s) := s.openIndent s.cursor.column
    .ok (if opened then s.push opening else s)

def fetchBlockEntry (s : Scanner) : Except Fault Scanner := do
  let s ← s.openBlock .blockSequenceStart
  let s ← s.dropCandidate
  return { (s.advance 1).push .blockEntry with keyAllowed := true }

def fetchKey (s : Scanner) : Except Fault Scanner := do
  let s ← s.openBlock .blockMappingStart
  let s ← s.dropCandidate
  return { (s.advance 1).push .key with keyAllowed := s.flow == 0 }

/-- A value mark. With a candidate before it the candidate is the key, else the key is missing. -/
def fetchValue (s : Scanner) : Except Fault Scanner := do
  match s.candidates.get? s.flow with
  | some k =>
    let s := { s with candidates := s.candidates.filter (·.1 != s.flow), keyAllowed := false }
    let (opened, s) := if s.flow == 0 then s.openIndent k.column else (false, s)
    let s := s.insert k.token (if opened then [.blockMappingStart, .key] else [.key])
    return (s.advance 1).push .value
  | none =>
    let s ← s.openBlock .blockMappingStart
    let s ← s.dropCandidate
    return { (s.advance 1).push .value with keyAllowed := s.flow == 0 }

def fetchAnchor (s : Scanner) (token : String → Token) : Except Fault Scanner := do
  let s ← s.saveCandidate
  let (word, cursor) ← name s.cursor
  return { s.push (token word) with cursor, keyAllowed := false }

def fetchTag (s : Scanner) : Except Fault Scanner := do
  let s ← s.saveCandidate
  let (token, cursor) ← scanTag s.cursor
  return { s.push token with cursor, keyAllowed := false }

def fetchBlockScalar (s : Scanner) (folded : Bool) : Except Fault Scanner := do
  let s ← s.dropCandidate
  let least := match s.indent with
    | some i => i + 1
    | none => 1
  let (cs, cursor) ← block folded least s.cursor.next
  return { s.push (.scalar false (String.ofList cs)) with cursor, keyAllowed := true }

def fetchQuoted (s : Scanner) (double : Bool) : Except Fault Scanner := do
  let s ← s.saveCandidate
  let (cs, cursor) ← quoted double (s.cursor.rest.length + 1) s.cursor.next
  return { s.push (.scalar false (String.ofList cs)) with cursor, keyAllowed := false }

def fetchPlain (s : Scanner) : Except Fault Scanner := do
  let s ← s.saveCandidate
  let indent := match s.indent with
    | some i => i + 1
    | none => 0
  let (cs, broken, cursor) :=
    plain (s.flow != 0) indent (s.cursor.rest.length + 1) [] false s.cursor
  return { s.push (.scalar true (String.ofList cs)) with cursor, keyAllowed := broken }

/-- Marks that cannot begin a plain scalar. -/
def isMark (c : Char) : Bool := "-?:,[]\x7b\x7d#&*!|>'\"%@`".toList.contains c

def startsPlain (s : Scanner) (ch : Char) : Bool :=
  !(isSpace ch || isBreak ch || isMark ch) ||
    (!Cursor.endsWord s.cursor.second && (ch == '-' || (s.flow == 0 && (ch == '?' || ch == ':'))))

/-- One token more, with those that indentation puts before it. The cursor is at a character. -/
def fetchAt (s : Scanner) (ch : Char) : Except Fault Scanner :=
  let c := s.cursor
  let wordEnds := Cursor.endsWord c.second
  if ch == '%' && c.column == 0 then s.fetchDirective
  else if c.column == 0 && c.atMark '-' then s.fetchDocumentMark .documentStart
  else if c.column == 0 && c.atMark '.' then s.fetchDocumentMark .documentEnd
  else if ch == '[' then s.fetchFlowStart .flowSequenceStart
  else if ch == '\x7b' then s.fetchFlowStart .flowMappingStart
  else if ch == ']' then s.fetchFlowEnd .flowSequenceEnd
  else if ch == '\x7d' then s.fetchFlowEnd .flowMappingEnd
  else if ch == ',' then s.fetchFlowEntry
  else if ch == '-' && wordEnds then s.fetchBlockEntry
  else if ch == '?' && (s.flow != 0 || wordEnds) then s.fetchKey
  else if ch == ':' && (s.flow != 0 || wordEnds) then s.fetchValue
  else if ch == '*' then s.fetchAnchor .alias
  else if ch == '&' then s.fetchAnchor .anchor
  else if ch == '!' then s.fetchTag
  else if ch == '|' && s.flow == 0 then s.fetchBlockScalar false
  else if ch == '>' && s.flow == 0 then s.fetchBlockScalar true
  else if ch == '\'' then s.fetchQuoted false
  else if ch == '"' then s.fetchQuoted true
  else if s.startsPlain ch then s.fetchPlain
  else .error .malformed

/-- The tokens from here on, or those before a fault and the fault. -/
def all : Nat → Scanner → List Token × Option Fault
  | 0, s => (s.tokens.reverse, some .malformed)
  | fuel + 1, s =>
    let s := skipBlank (s.cursor.rest.length + 1) s
    match s.dropStale with
    | .error fault => (s.tokens.reverse, some fault)
    | .ok s =>
      let s := s.unwind (some s.cursor.column)
      match s.cursor.peek with
      | none =>
        match s.fetchEnd with
        | .error fault => (s.tokens.reverse, some fault)
        | .ok s => (s.tokens.reverse, none)
      | some ch =>
        match s.fetchAt ch with
        | .error fault => (s.tokens.reverse, some fault)
        | .ok s => all fuel s

end Scanner

/-- The tokens of a text; after a fault those before it, and the fault. -/
def tokenize (cs : List Char) : List Token × Option Fault :=
  if !cs.all isAllowed then ([], some .malformed)
  else
    let s := Scanner.start cs
    let s := if s.cursor.peek == some byteOrderMark then s.advance 1 else s
    s.all (cs.length + 2)

end CatalogEntities.Yaml
