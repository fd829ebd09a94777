import CatalogEntities.Format.Item

/-!
Statements as items. Values of assignments, annotations, conditions and imported names stand
between optional parentheses; parentheses that are redundant there become optional.

Main definition: `statements?`.
-/

namespace CatalogEntities.Format

/-- The items inside redundant parentheses. -/
def withoutParentheses : Nat → List Item → List Item
  | 0, items => items
  | depth + 1, items =>
    match items with
    | [.group _ .parentheses body] =>
      if body.isEmpty || 0 < commaCount body then items else withoutParentheses depth body
    | items => items

def spacedHead : List Item → List Item
  | .group _ kind body :: rest => .group true kind body :: rest
  | .token _ t :: rest => .token true t :: rest
  | items => items

/-- The items between optional parentheses; a tuple keeps its own. -/
def optional (items : List Item) : List Item :=
  match withoutParentheses 100 items with
  | [.group _ .parentheses body] => [.group true .parentheses body]
  | inner => .open true :: inner ++ [.close]

def spaced (t : Token) : Item := .token true t

def glued (t : Token) : Item := .token false t

/-- Names with points between them. -/
def dottedName? (space : Bool) : List Token → Option (List Item × List Token)
  | name :: dot :: rest =>
    if !(name.kind == .name && isOperandName name.text) then none
    else if dot.isOperator "." then
      (dottedName? false rest).map fun (items, after) =>
        (.token space name :: glued dot :: items, after)
    else some ([.token space name], dot :: rest)
  | [name] =>
    if name.kind == .name && isOperandName name.text then some ([.token space name], []) else none
  | [] => none

/-- An alias, if there is one. -/
def alias? : List Token → Option (List Item × List Token)
  | word :: rest =>
    if word.isWord "as" then
      match rest with
      | name :: rest =>
        if name.kind == .name && !Naming.keywords.contains name.text then
          some ([spaced word, spaced name], rest)
        else none
      | [] => none
    else some ([], word :: rest)
  | [] => some ([], [])

/-- Imported modules or names, each perhaps with an alias. -/
def importedNames? : Nat → Bool → List Token → Option (List Item × List Token)
  | 0, _, _ => none
  | fuel + 1, space, tokens => do
    let (name, rest) ← dottedName? space tokens
    let (renamed, rest) ← alias? rest
    match rest with
    | comma :: rest =>
      if comma.isOperator "," then
        match rest with
        | [] => some (name ++ renamed ++ [glued comma], [])
        | t :: _ =>
          if t.isOperator ")" then some (name ++ renamed ++ [glued comma], rest)
          else do
            let (more, after) ← importedNames? fuel true rest
            some (name ++ renamed ++ glued comma :: more, after)
      else some (name ++ renamed, comma :: rest)
    | [] => some (name ++ renamed, [])

/-- Points in front of a module that is given relative to its package. -/
def leadingDots (space : Bool) : List Token → List Item × List Token
  | t :: rest =>
    if t.isOperator "." then
      let (dots, after) := leadingDots false rest
      (.token space t :: dots, after)
    else ([], t :: rest)
  | [] => ([], [])

/-- Imports of names from a module; what follows is returned. -/
def importFrom? (word : Token) (tokens : List Token) : Option (List Item × List Token) := do
  let (dots, rest) := leadingDots true tokens
  let (module, rest) ← match rest with
    | t :: _ =>
      if t.isWord "import" then (if dots.isEmpty then none else some ([], rest))
      else dottedName? dots.isEmpty rest
    | [] => none
  match rest with
  | imported :: t :: rest =>
    if !imported.isWord "import" then none
    else
      let head := glued word :: dots ++ module ++ [spaced imported]
      if t.isOperator "*" then some (head ++ [spaced t], rest)
      else if t.isOperator "(" then do
        let (names, after) ← importedNames? (rest.length + 1) false rest
        match after with
        | closer :: after =>
          if closer.isOperator ")" then some (head ++ .open true :: names ++ [.close], after)
          else none
        | [] => none
      else do
        let (names, after) ← importedNames? (rest.length + 2) false (t :: rest)
        if (names.getLast?.map Item.isComma).getD false then none
        else some (head ++ .open true :: names ++ [.close], after)
  | _ => none

/-- Values behind equals signs. -/
def assigned? : Nat → List Token → Option (List Item × List Token)
  | 0, _ => none
  | fuel + 1, tokens =>
    match tokens with
    | eq :: rest =>
      if eq.isOperator "=" then do
        let (value, rest) ← arrange true rest
        let (more, after) ← assigned? fuel rest
        some (spaced eq :: optional value ++ more, after)
      else some ([], tokens)
    | [] => some ([], [])

def augmentedOperators : List String := [
  "+=", "-=", "*=", "/=", "//=", "%=", "**=", "&=", "|=", "^=", "<<=", ">>=", "@="]

def bareStatements : List String := ["pass", "break", "continue"]

/-- A statement without a block, and the tokens after it. -/
def simpleStatement? (tokens : List Token) : Option (List Item × List Token) :=
  match tokens with
  | [] => none
  | word :: rest =>
    if bareStatements.any word.isWord then some ([glued word], rest)
    else if word.isWord "import" then
      (importedNames? (rest.length + 1) true rest).map fun (items, after) =>
        (glued word :: items, after)
    else if word.isWord "from" then importFrom? word rest
    else do
      let (target, rest) ← arrange true tokens
      match rest with
      | [] => some (target, [])
      | op :: more =>
        if op.isOperator ":" then do
          let (annotated, rest) ← arrange true more
          let (value, rest) ← assigned? 2 rest
          some (target ++ glued op :: optional annotated ++ value, rest)
        else if op.kind == .operator && augmentedOperators.contains op.text then do
          let (value, rest) ← arrange true more
          some (target ++ spaced op :: optional value, rest)
        else do
          let (value, rest) ← assigned? (rest.length + 1) rest
          some (target ++ value, rest)

/-- The head of a statement with a block, up to its colon, and the tokens after that. -/
def blockHead? (tokens : List Token) : Option (List Item × List Token) :=
  match tokens with
  | word :: rest =>
    if word.isWord "class" then
      match rest with
      | name :: rest =>
        if name.kind == .name && !Naming.keywords.contains name.text then do
          let (bases, rest) ← match rest with
            | t :: more =>
              if t.isOperator "(" then do
                let (arguments, rest) ← arrangeArguments more
                some (if arguments.isEmpty then [] else [Item.group false .bases arguments], rest)
              else some ([], t :: more)
            | [] => none
          closed (glued word :: spaced name :: bases) rest
        else none
      | [] => none
    else if word.isWord "if" || word.isWord "elif" then do
      let (condition, rest) ← arrange true rest
      closed (glued word :: optional condition) rest
    else if word.isWord "else" then closed [glued word] rest
    else none
  | [] => none
where
  closed (items : List Item) : List Token → Option (List Item × List Token)
    | colon :: rest => if colon.isOperator ":" then some (items ++ [glued colon], rest) else none
    | [] => none

/-- Statements without blocks, with semicolons between them. -/
def simpleStatements? : Nat → List Token → Option (List (List Item))
  | 0, _ => none
  | fuel + 1, tokens => do
    let (first, rest) ← simpleStatement? tokens
    match rest with
    | [] => some [first]
    | t :: rest =>
      if !t.isOperator ";" then none
      else if rest.isEmpty then some [first]
      else (simpleStatements? fuel rest).map (first :: ·)

/-- The statements of a logical line: the head of a block if there is one, and the statements
without blocks. -/
def statements? (tokens : List Token) : Option (Option (List Item) × List (List Item)) :=
  match blockHead? tokens with
  | some (head, []) => some (some head, [])
  | some (head, rest) =>
    (simpleStatements? (rest.length + 1) rest).map fun inner => (some head, inner)
  | none => (simpleStatements? (tokens.length + 1) tokens).map fun all => (none, all)

end CatalogEntities.Format
