import CatalogEntities.Yaml.Tag
import CatalogEntities.Yaml.Token

/-!
The node that a YAML text consists of: tokens are read by recursive descent, tags are completed and
aliases replaced by what they stand for.

Main definition: `compose`.
-/

namespace CatalogEntities.Yaml

inductive Node
  | scalar (tag : String) (text : String)
  | sequence (tag : String) (items : List Node)
  | mapping (tag : String) (pairs : List (Node × Node))
  deriving Inhabited

/-- What is left of the tokens, the fault behind the last of them, the nodes that have names, and
the meaning of tag handles. -/
structure Reading where
  tokens : List Token
  ending : Option Fault
  anchors : Assoc String Node
  handles : Assoc String String

namespace Reading

def fail {α : Type} (r : Reading) : Except Fault α :=
  .error (if r.tokens.isEmpty then r.ending.getD .malformed else .malformed)

def drop (r : Reading) : Reading := { r with tokens := r.tokens.tail }

/-- Whether the next token is one of the given ones. -/
def at_ (r : Reading) (tokens : List Token) : Bool :=
  match r.tokens with
  | t :: _ => tokens.contains t
  | [] => false

/-- A token that must come next. -/
def expect (r : Reading) (t : Token) : Except Fault Reading :=
  if r.at_ [t] then .ok r.drop else r.fail

/-- A node that is not written. -/
def blank : Node := .scalar (standard "null") ""

/-- Name and tag of a node, in either order. -/
def properties (r : Reading) : Option String × Option (Option String × String) × Reading :=
  match r.tokens with
  | .anchor name :: .tag h s :: rest => (some name, some (h, s), { r with tokens := rest })
  | .anchor name :: rest => (some name, none, { r with tokens := rest })
  | .tag h s :: .anchor name :: rest => (some name, some (h, s), { r with tokens := rest })
  | .tag h s :: rest => (none, some (h, s), { r with tokens := rest })
  | _ => (none, none, r)

/-- The full tag; none for the lone mark, which leaves the tag to the form of the node. -/
def fullTag (r : Reading) (tag : Option (Option String × String)) : Except Fault (Option String) :=
  match tag with
  | none => .ok none
  | some (none, suffix) => .ok (if suffix == "!" then none else some suffix)
  | some (some mark, suffix) =>
    match r.handles.get? mark with
    | some namePrefix => .ok (some (namePrefix ++ suffix))
    | none => .error .malformed

/-- Gives a name to a node; no two nodes may have the same. -/
def register (r : Reading) (anchor : Option String) (node : Node) : Except Fault Reading :=
  match anchor with
  | none => .ok r
  | some name =>
    if r.anchors.has name then .error .malformed
    else .ok { r with anchors := r.anchors.put name node }

def rename (r : Reading) (anchor : Option String) (node : Node) : Reading :=
  match anchor with
  | none => r
  | some name => { r with anchors := r.anchors.put name node }

def scalarNode (tag : Option String) (tagged isPlain : Bool) (text : String) : Node :=
  match tag with
  | some tag => .scalar tag text
  | none => .scalar (if isPlain || tagged then scalarTag text else standard "str") text

/-- Where a node stands: in a flow collection, in a block, or as the value of a block mapping, whose
sequences need no indentation. -/
inductive Place
  | flow
  | block
  | mappingPart
  deriving DecidableEq, Repr

mutual

/-- A node. A collection that refers to itself is cut where it does. -/
def node : Nat → Place → Reading → Except Fault (Node × Reading)
  | 0, _, r => r.fail
  | fuel + 1, place, r =>
    match r.tokens with
    | .alias name :: _ =>
      match r.anchors.get? name with
      | some found => .ok (found, r.drop)
      | none => .error .malformed
    | _ => do
      let (anchor, written, r) := r.properties
      let tag ← r.fullTag written
      let sequenceTag := tag.getD (standard "seq")
      let mappingTag := tag.getD (standard "map")
      match r.tokens with
      | .scalar isPlain text :: _ =>
        let found := scalarNode tag written.isSome isPlain text
        let r ← r.drop.register anchor found
        .ok (found, r)
      | .blockEntry :: _ =>
        if place != .mappingPart then missing anchor tag written.isSome r
        else
          let r ← r.register anchor (.sequence sequenceTag [])
          let (items, r) ← plainEntries fuel r
          let found := Node.sequence sequenceTag items
          .ok (found, r.rename anchor found)
      | .flowSequenceStart :: _ =>
        let r ← r.drop.register anchor (.sequence sequenceTag [])
        let (items, r) ← flowItems fuel true r
        let found := Node.sequence sequenceTag items
        .ok (found, r.rename anchor found)
      | .flowMappingStart :: _ =>
        let r ← r.drop.register anchor (.mapping mappingTag [])
        let (pairs, r) ← flowPairs fuel true r
        let found := Node.mapping mappingTag pairs
        .ok (found, r.rename anchor found)
      | .blockSequenceStart :: _ =>
        if place == .flow then missing anchor tag written.isSome r
        else
          let r ← r.drop.register anchor (.sequence sequenceTag [])
          let (items, r) ← blockEntries fuel r
          let found := Node.sequence sequenceTag items
          .ok (found, r.rename anchor found)
      | .blockMappingStart :: _ =>
        if place == .flow then missing anchor tag written.isSome r
        else
          let r ← r.drop.register anchor (.mapping mappingTag [])
          let (pairs, r) ← blockPairs fuel r
          let found := Node.mapping mappingTag pairs
          .ok (found, r.rename anchor found)
      | _ => missing anchor tag written.isSome r

/-- A node of which only name or tag are written. -/
def missing (anchor tag : Option String) (tagged : Bool) (r : Reading) :
    Except Fault (Node × Reading) :=
  if anchor.isNone && !tagged then r.fail
  else do
    let found := scalarNode tag tagged true ""
    let r ← r.register anchor found
    .ok (found, r)

/-- A node, or none before one of the given tokens. -/
def nodeUnless (fuel : Nat) (ends : List Token) (place : Place) (r : Reading) :
    Except Fault (Node × Reading) :=
  match fuel with
  | 0 => r.fail
  | fuel + 1 => if r.at_ ends then .ok (blank, r) else node fuel place r

def blockEntries : Nat → Reading → Except Fault (List Node × Reading)
  | 0, r => r.fail
  | fuel + 1, r =>
    if r.at_ [.blockEntry] then do
      let (item, r) ← nodeUnless fuel [.blockEntry, .blockEnd] .block r.drop
      let (more, r) ← blockEntries fuel r
      .ok (item :: more, r)
    else (r.expect .blockEnd).map fun r => ([], r)

/-- The entries of a sequence at the column of the key before it. -/
def plainEntries : Nat → Reading → Except Fault (List Node × Reading)
  | 0, r => r.fail
  | fuel + 1, r =>
    if r.at_ [.blockEntry] then do
      let (item, r) ← nodeUnless fuel [.blockEntry, .key, .value, .blockEnd] .block r.drop
      let (more, r) ← plainEntries fuel r
      .ok (item :: more, r)
    else .ok ([], r)

def blockPairs : Nat → Reading → Except Fault (List (Node × Node) × Reading)
  | 0, r => r.fail
  | fuel + 1, r =>
    if r.at_ [.key] then do
      let ends : List Token := [.key, .value, .blockEnd]
      let (key, r) ← nodeUnless fuel ends .mappingPart r.drop
      let (value, r) ← valueUnless fuel ends .mappingPart r
      let (more, r) ← blockPairs fuel r
      .ok ((key, value) :: more, r)
    else (r.expect .blockEnd).map fun r => ([], r)

/-- The value of a pair; none without a value mark. -/
def valueUnless (fuel : Nat) (ends : List Token) (place : Place) (r : Reading) :
    Except Fault (Node × Reading) :=
  match fuel with
  | 0 => r.fail
  | fuel + 1 => if r.at_ [.value] then nodeUnless fuel ends place r.drop else .ok (blank, r)

/-- A pair of a flow collection that begins with a key mark. -/
def flowPair (fuel : Nat) (ending : Token) (r : Reading) : Except Fault ((Node × Node) × Reading) :=
  match fuel with
  | 0 => r.fail
  | fuel + 1 => do
    let (key, r) ← nodeUnless fuel [.value, .flowEntry, ending] .flow r
    let (value, r) ← valueUnless fuel [.flowEntry, ending] .flow r
    .ok ((key, value), r)

/-- The items of a flow sequence; a pair among them is a mapping of its own. -/
def flowItems : Nat → (first : Bool) → Reading → Except Fault (List Node × Reading)
  | 0, _, r => r.fail
  | fuel + 1, first, r =>
    if r.at_ [.flowSequenceEnd] then .ok ([], r.drop)
    else do
      let r ← if first then .ok r else r.expect .flowEntry
      if r.at_ [.flowSequenceEnd] then .ok ([], r.drop)
      else if r.at_ [.key] then
        let (pair, r) ← flowPair fuel .flowSequenceEnd r.drop
        let (more, r) ← flowItems fuel false r
        .ok (.mapping (standard "map") [pair] :: more, r)
      else
        let (item, r) ← node fuel .flow r
        let (more, r) ← flowItems fuel false r
        .ok (item :: more, r)

def flowPairs : Nat → (first : Bool) → Reading → Except Fault (List (Node × Node) × Reading)
  | 0, _, r => r.fail
  | fuel + 1, first, r =>
    if r.at_ [.flowMappingEnd] then .ok ([], r.drop)
    else do
      let r ← if first then .ok r else r.expect .flowEntry
      if r.at_ [.flowMappingEnd] then .ok ([], r.drop)
      else if r.at_ [.key] then
        let (pair, r) ← flowPair fuel .flowMappingEnd r.drop
        let (more, r) ← flowPairs fuel false r
        .ok (pair :: more, r)
      else
        let (key, r) ← node fuel .flow r
        let (more, r) ← flowPairs fuel false r
        .ok ((key, blank) :: more, r)

end

def defaultHandles : Assoc String String := [("!", "!"), ("!!", standardPrefix)]

/-- Directives before a document: at most one version, which must be 1, and no handle twice. -/
def directives (r : Reading) : (versioned : Bool) → (handles : Assoc String String) → List Token →
    Except Fault Reading
  | versioned, handles, .directive d :: rest =>
    match d with
    | .version major =>
      if versioned || major != 1 then .error .malformed else directives r true handles rest
    | .tag mark namePrefix =>
      if handles.has mark then .error .malformed
      else directives r versioned (handles.put mark namePrefix) rest
    | .other => directives r versioned handles rest
  | _, handles, tokens =>
    let added := defaultHandles.filter fun (mark, _) => !handles.has mark
    .ok { r with tokens := tokens, handles := handles ++ added }

def dropDocumentEnds (r : Reading) : Reading :=
  { r with tokens := r.tokens.dropWhile (· == .documentEnd) }

def startsDocument : Option Token → Bool
  | some (.directive _) => true
  | some .documentStart => true
  | some .streamEnd => true
  | _ => false

def isDocumentBound : Option Token → Bool
  | some .documentEnd => true
  | token => startsDocument token

/-- A document that begins with its mark; none at the end of the stream. -/
def markedDocument (fuel : Nat) (r : Reading) : Except Fault (Option Node × Reading) := do
  let r := r.dropDocumentEnds
  if r.at_ [.streamEnd] then .ok (none, r)
  else
    let r ← directives r false [] r.tokens
    let r ← r.expect .documentStart
    if isDocumentBound r.tokens.head? then .ok (some blank, r)
    else (node fuel .block r).map fun (found, r) => (some found, r)

/-- The only document of a stream; none if there is nothing in it. -/
def document (fuel : Nat) (r : Reading) : Except Fault (Option Node) := do
  let (found, r) ←
    if startsDocument r.tokens.head? then markedDocument fuel r
    else
      (node fuel .block { r with handles := defaultHandles }).map fun pair => (some pair.1, pair.2)
  let r := r.dropDocumentEnds
  match r.tokens with
  | [.streamEnd] => .ok found
  | _ => r.fail

end Reading

/-- The node of a text; none if the text has no document. -/
def compose (cs : List Char) : Except Fault (Option Node) :=
  let (tokens, ending) := tokenize cs
  Reading.document (3 * tokens.length + 6) ⟨tokens, ending, [], []⟩

end CatalogEntities.Yaml
