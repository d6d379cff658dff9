import LunConsole.Yaml.Token
/-!
# Documents of YAML

A document is a tree of scalars, sequences and mappings. A node may carry an anchor, and an alias
stands for the node that carries it. A text holds at most one document.
-/

set_option autoImplicit false

namespace LunConsole.Yaml

/-! ## 1. Nodes -/

/-- A node of a document. An alias names its target by a number. -/
inductive Node where
  | scalar (text : List Char) (style : Style) (tag : Option (List Char))
  | sequence (items : List Node) (tag : Option (List Char))
  | mapping (pairs : List (Node × Node)) (tag : Option (List Char))
  | alias (number : Nat)
  deriving Repr

/-- The node that stands where nothing is written. -/
def Node.empty : Node := .scalar [] .plain none

/-- A document: its outermost node and the nodes that carry anchors, in the order in which they
begin. -/
structure Document where
  root : Node
  anchored : List (Nat × Node)
  deriving Repr

/-- The node that an alias with that number stands for: the last one that begins. -/
def Document.target (d : Document) (number : Nat) : Node :=
  match d.anchored.reverse.find? fun a => a.1 = number with
  | some a => a.2
  | none => .empty

/-! ## 2. Reading tokens -/

/-- The tokens that are left and what is known of the document so far. -/
structure Progress where
  tokens : List Token
  /-- The handles of tags and what they stand for. -/
  handles : List (List Char × List Char)
  /-- The anchors so far and their numbers, the last one first. -/
  anchors : List (List Char × Nat)
  /-- The nodes that carry them, in the order in which they begin. -/
  anchored : List (Nat × Node)

/-- A step of reading. -/
abbrev Reading := StateT Progress (Except Fault)

namespace Reading

/-- The token that comes next. -/
def peek : Reading (Option Token) := do return (← get).tokens.head?

/-- Moves past a token. -/
def advance : Reading Unit := modify fun p => { p with tokens := p.tokens.tail }

/-- Moves past that token if it comes next, and tells if it did. -/
def accept (t : Token) : Reading Bool := do
  if (← peek) == some t then
    advance
    return true
  else return false

/-- Whether one of those tokens comes next. -/
def seesOneOf (ts : List Token) : Reading Bool := do
  return (← peek).any ts.contains

/-- Remembers the place of a node with an anchor. Its number is the number of different names
before it. -/
def openAnchor (name : Option (List Char)) : Reading (Option Nat) := do
  let p ← get
  match name with
  | none => return none
  | some name =>
      let number := (p.anchors.map Prod.fst).eraseDups.length
      set { p with
        anchors := (name, number) :: p.anchors, anchored := p.anchored ++ [(number, Node.empty)] }
      return some p.anchored.length

/-- Fills the place of a node with an anchor. -/
def closeAnchor (place : Option Nat) (n : Node) : Reading Node := do
  match place with
  | some k => modify fun p => { p with anchored := p.anchored.modify k fun a => (a.1, n) }
  | none => pure ()
  return n

/-- The number of the last anchor of that name. -/
def anchorNumber (name : List Char) : Reading Nat := do
  match (← get).anchors.lookup name with
  | some number => return number
  | none => throw .unknownAnchor

/-- The tag that a written tag stands for. -/
def resolveTag (t : TagName) : Reading (List Char) := do
  if t.handle.isEmpty then return t.suffix
  else match (← get).handles.lookup t.handle with
    | some stem => return stem ++ t.suffix
    | none => throw .undefinedTagHandle

/-- Reads an anchor and a tag, in either order and each perhaps absent. -/
def properties : Reading (Option (List Char) × Option TagName) := do
  match ← peek with
  | some (.anchor name) =>
      advance
      match ← peek with
      | some (.tag t) => do
          advance
          return (some name, some t)
      | _ => return (some name, none)
  | some (.tag t) =>
      advance
      match ← peek with
      | some (.anchor name) => do
          advance
          return (some name, some t)
      | _ => return (none, some t)
  | _ => return (none, none)

/-! ## 3. Nodes from tokens -/

mutual

/-- Reads a node: an alias, or an anchor, a tag and what they belong to. -/
def node (inBlock inMapping : Bool) : Nat → Reading Node
  | 0 => throw .expectedNode
  | fuel + 1 => do
      match ← peek with
      | some (.alias name) =>
          advance
          return .alias (← anchorNumber name)
      | _ =>
          let (anchor, written) ← properties
          let tag ← written.mapM resolveTag
          let place ← openAnchor anchor
          let n ← content inBlock inMapping (anchor.isSome || tag.isSome) tag fuel
          closeAnchor place n

/-- Reads what a node holds. In a block, collections by layout may stand; in a mapping, also a
sequence whose hyphens stand at the column of the keys. Behind an anchor or a tag nothing need
stand. -/
def content (inBlock inMapping hasProperties : Bool) (tag : Option (List Char)) :
    Nat → Reading Node
  | 0 => throw .expectedNode
  | fuel + 1 => do
      let next ← peek
      if inMapping && next == some .blockEntry then
        return .sequence (← alignedItems fuel []) tag
      else if inBlock && next == some .blockSequenceStart then
        advance
        return .sequence (← blockItems fuel []) tag
      else if inBlock && next == some .blockMappingStart then
        advance
        return .mapping (← blockPairs fuel []) tag
      else match next with
        | some (.scalar text style) =>
            advance
            return .scalar text style tag
        | some .flowSequenceStart =>
            advance
            return .sequence (← flowItems fuel true []) tag
        | some .flowMappingStart =>
            advance
            return .mapping (← flowPairs fuel true []) tag
        | _ =>
            if hasProperties then return .scalar [] .plain tag
            else throw .expectedNode

/-- Reads the entries of a block sequence and its end. -/
def blockItems : Nat → List Node → Reading (List Node)
  | 0, _ => throw .expectedSequenceEntry
  | fuel + 1, items => do
      if ← accept .blockEntry then
        let item ← if ← seesOneOf [.blockEntry, .blockEnd] then pure .empty
          else node true false fuel
        blockItems fuel (item :: items)
      else if ← accept .blockEnd then return items.reverse
      else throw .expectedSequenceEntry

/-- Reads the entries of a sequence whose hyphens stand at the column of the keys around it. -/
def alignedItems : Nat → List Node → Reading (List Node)
  | 0, _ => throw .expectedSequenceEntry
  | fuel + 1, items => do
      if ← accept .blockEntry then
        let item ← if ← seesOneOf [.blockEntry, .key, .value, .blockEnd] then pure .empty
          else node true false fuel
        alignedItems fuel (item :: items)
      else return items.reverse

/-- Reads the pairs of a block mapping and its end. -/
def blockPairs : Nat → List (Node × Node) → Reading (List (Node × Node))
  | 0, _ => throw .expectedKey
  | fuel + 1, pairs => do
      if ← accept .key then
        let key ← if ← seesOneOf [.key, .value, .blockEnd] then pure .empty
          else node true true fuel
        let value ← if ← accept .value then
            if ← seesOneOf [.key, .value, .blockEnd] then pure .empty else node true true fuel
          else pure .empty
        blockPairs fuel ((key, value) :: pairs)
      else if ← accept .blockEnd then return pairs.reverse
      else throw .expectedKey

/-- Reads the entries of a sequence in brackets and its end. An entry with a colon is a mapping of
one pair. -/
def flowItems : Nat → Bool → List Node → Reading (List Node)
  | 0, _, _ => throw .expectedCommaOrBracket
  | fuel + 1, isFirst, items => do
      if ← accept .flowSequenceEnd then return items.reverse
      unless isFirst do
        if !(← accept .flowEntry) then throw .expectedCommaOrBracket
      if ← accept .flowSequenceEnd then return items.reverse
      if ← accept .key then
        let key ← if ← seesOneOf [.value, .flowEntry, .flowSequenceEnd] then do
            -- the token after an empty key is passed over
            advance
            pure .empty
          else node false false fuel
        let value ← if ← accept .value then
            if ← seesOneOf [.flowEntry, .flowSequenceEnd] then pure .empty
            else node false false fuel
          else pure .empty
        flowItems fuel false (.mapping [(key, value)] none :: items)
      else flowItems fuel false ((← node false false fuel) :: items)

/-- Reads the pairs of a mapping in braces and its end. -/
def flowPairs : Nat → Bool → List (Node × Node) → Reading (List (Node × Node))
  | 0, _, _ => throw .expectedCommaOrBrace
  | fuel + 1, isFirst, pairs => do
      if ← accept .flowMappingEnd then return pairs.reverse
      unless isFirst do
        if !(← accept .flowEntry) then throw .expectedCommaOrBrace
      if ← accept .flowMappingEnd then return pairs.reverse
      if ← accept .key then
        let key ← if ← seesOneOf [.value, .flowEntry, .flowMappingEnd] then pure .empty
          else node false false fuel
        let value ← if ← accept .value then
            if ← seesOneOf [.flowEntry, .flowMappingEnd] then pure .empty
            else node false false fuel
          else pure .empty
        flowPairs fuel false ((key, value) :: pairs)
      else flowPairs fuel false ((← node false false fuel, .empty) :: pairs)

end

/-! ## 4. Documents from tokens -/

/-- The handles that need no definition. -/
def standardHandles : List (List Char × List Char) :=
  [("!".toList, "!".toList), ("!!".toList, "tag:yaml.org,2002:".toList)]

/-- Reads the directives of a document: at most one version, and each handle at most once. -/
def directives : Nat → Bool → List (List Char × List Char) → Reading Unit
  | 0, _, _ => throw .expectedDocumentStart
  | fuel + 1, hasVersion, handles => do
      match ← peek with
      | some (.versionDirective major minor) =>
          advance
          if hasVersion then throw .repeatedDirective
          if !(major = 1 && (minor = 1 || minor = 2)) then throw .unsupportedVersion
          directives fuel true handles
      | some (.tagDirective handle stem) =>
          advance
          if (handles.lookup handle).isSome then throw .repeatedDirective
          directives fuel hasVersion (handles ++ [(handle, stem)])
      | _ => modify fun p => { p with handles := handles ++ standardHandles }

/-- Whether a token opens a document or the directives before it. -/
def opensDocument : Token → Bool
  | .documentStart | .versionDirective .. | .tagDirective .. => true
  | _ => false

/-- Moves past the marks at which documents end. -/
def skipEnds : Reading Unit :=
  modify fun p => { p with tokens := p.tokens.dropWhile (· == .documentEnd) }

/-- Reads the documents of a text. The first one may stand without a mark at its beginning. -/
def documents : Nat → Bool → List Document → Reading (List Document)
  | 0, _, _ => throw .expectedDocumentStart
  | fuel + 1, isFirst, found => do
      if !isFirst then skipEnds
      let size := 4 * (← get).tokens.length + 8
      modify fun p => { p with handles := standardHandles, anchors := [], anchored := [] }
      match ← peek with
      | none => return found.reverse
      | some token =>
          let root ← if isFirst && !opensDocument token then node true false size
            else do
              directives size false []
              if !(← accept .documentStart) then throw .expectedDocumentStart
              match ← peek with
              | some token =>
                  if opensDocument token || token == .documentEnd then pure .empty
                  else node true false size
              | none => pure .empty
          documents fuel false (⟨root, (← get).anchored⟩ :: found)

end Reading

/-- The document of a text, if it has one. -/
def Document.read (text : String) : Except Fault (Option Document) := do
  let tokens ← Token.readAll text.toList
  let (found, _) ← Reading.documents (tokens.length + 1) true [] |>.run ⟨tokens, [], [], []⟩
  match found with
  | [] => return none
  | [d] => return some d
  | _ => throw .severalDocuments

end LunConsole.Yaml
