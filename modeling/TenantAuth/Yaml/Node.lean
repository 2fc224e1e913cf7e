import TenantAuth.Yaml.Scan

/-!
# YAML nodes

The tree of a document. Anchored nodes are numbered and an alias holds the number of the node it
stands for; `Document.find?` looks it up. `Document.parse?` reads a stream of at most one document.
-/
namespace TenantAuth.Yaml

/-- A node of a document, with the number of its anchor and its tag, if it has them. -/
inductive Node where
  | scalar (anchor : Option Nat) (tag : Option String) (style : ScalarStyle) (text : String)
  | sequence (anchor : Option Nat) (tag : Option String) (items : List Node)
  | mapping (anchor : Option Nat) (tag : Option String) (entries : List (Node × Node))
  | alias (anchor : Nat)

/-- A node of which nothing is written. -/
def Node.blank : Node := .scalar none none .plain ""

/-- What composing has to know: the tokens ahead, the tag handles, and the anchors so far. -/
structure Composer where
  ahead : List Token
  handles : List (String × String)
  anchors : List (String × Nat)

/-- A step of composing. -/
abbrev Compose (α : Type) := StateT Composer (Except Fault) α

namespace Compose

/-- The next token. -/
def peek : Compose (Option Token) := do return (← get).ahead.head?

/-- Passes over a token. -/
def skip : Compose Unit := modify fun s => { s with ahead := s.ahead.tail }

/-- The next token is one of `ts`, or there is none. -/
def atOneOf (ts : List Token) : Compose Bool := do
  match ← peek with
  | some t => return decide (t ∈ ts)
  | none => return true

/-- The next token is `t`. -/
def at? (t : Token) : Compose Bool := do return decide ((← peek) = some t)

/-- The number of an anchor. A name that was given before gets a new number, which is the count of
the names. -/
def register (name : String) : Compose Nat := do
  let s ← get
  let id := s.anchors.length
  set { s with anchors := (s.anchors.filter fun (a : String × Nat) => a.1 ≠ name) ++ [(name, id)] }
  return id

/-- A tag in full. -/
def fullTag (handle suffix : String) : Compose String := do
  if handle.isEmpty then return suffix
  match (← get).handles.lookup handle with
  | some leader => return leader ++ suffix
  | none => throw .undefinedTagHandle

/-- The anchor and the tag before a node, in either order. -/
def properties : Compose (Option String × Option String) := do
  match ← peek with
  | some (.anchor name) =>
    skip
    match ← peek with
    | some (.tag handle suffix) =>
      skip
      return (some name, some (← fullTag handle suffix))
    | _ => return (some name, none)
  | some (.tag handle suffix) =>
    skip
    match ← peek with
    | some (.anchor name) =>
      skip
      return (some name, some (← fullTag handle suffix))
    | _ => return (none, some (← fullTag handle suffix))
  | _ => return (none, none)

/-- The tag of a scalar that is written; a lone exclamation mark is none. -/
def scalarTag (tag : Option String) : Option String := if tag = some "!" then none else tag

mutual

/-- A node. In a block context it may be a block collection, and as a value of a mapping also a
sequence that is not indented. -/
def node (block unindented : Bool) : Nat → Compose Node
  | 0 => throw .missingNode
  | steps + 1 => do
    match ← peek with
    | some (.alias name) =>
      skip
      match (← get).anchors.lookup name with
      | some id => return .alias id
      | none => throw .undefinedAlias
    | _ =>
      let (name, tag) ← properties
      let register : Compose (Option Nat) := match name with
        | some n => some <$> register n
        | none => return none
      match ← peek with
      | some (.scalar style text) =>
        let anchor ← register
        skip
        return .scalar anchor (scalarTag tag) style text
      | some .flowSequenceStart =>
        let anchor ← register
        skip
        return .sequence anchor tag (← flowItems true steps)
      | some .flowMappingStart =>
        let anchor ← register
        skip
        return .mapping anchor tag (← flowEntries true steps)
      | t =>
        if unindented && t = some .blockEntry then do
          let anchor ← register
          return .sequence anchor tag (← unindentedItems steps)
        else if block && t = some .blockSequenceStart then do
          let anchor ← register
          skip
          return .sequence anchor tag (← blockItems steps)
        else if block && t = some .blockMappingStart then do
          let anchor ← register
          skip
          return .mapping anchor tag (← blockEntries steps)
        else if name.isSome || tag.isSome then do
          let anchor ← register
          return .scalar anchor tag .plain ""
        else throw .missingNode

/-- A node, or nothing if one of `ends` comes next. -/
def nodeOrBlank (block unindented : Bool) (ends : List Token) : Nat → Compose Node
  | 0 => throw .missingNode
  | steps + 1 => do
    if ← atOneOf ends then return .blank else node block unindented steps

/-- The entries of an indented block sequence, to its end. -/
def blockItems : Nat → Compose (List Node)
  | 0 => throw .missingEntry
  | steps + 1 => do
    match ← peek with
    | some .blockEntry =>
      skip
      let item ← nodeOrBlank true false [.blockEntry, .blockEnd] steps
      return item :: (← blockItems steps)
    | some .blockEnd =>
      skip
      return []
    | _ => throw .missingEntry

/-- The entries of a block sequence that is not indented. -/
def unindentedItems : Nat → Compose (List Node)
  | 0 => throw .missingEntry
  | steps + 1 => do
    match ← peek with
    | some .blockEntry =>
      skip
      let item ← nodeOrBlank true false [.blockEntry, .key, .value, .blockEnd] steps
      return item :: (← unindentedItems steps)
    | _ => return []

/-- The entries of a block mapping, to its end. -/
def blockEntries : Nat → Compose (List (Node × Node))
  | 0 => throw .missingKey
  | steps + 1 => do
    match ← peek with
    | some .blockEnd =>
      skip
      return []
    | some .key =>
      skip
      let name ← nodeOrBlank true true [.key, .value, .blockEnd] steps
      let value ← if ← at? .value then do
          skip
          nodeOrBlank true true [.key, .value, .blockEnd] steps
        else pure .blank
      return (name, value) :: (← blockEntries steps)
    | _ => throw .missingKey

/-- The items of a flow sequence, to its bracket. -/
def flowItems (first : Bool) : Nat → Compose (List Node)
  | 0 => throw .missingEntry
  | steps + 1 => do
    if ← at? .flowSequenceEnd then
      skip
      return []
    unless first do
      unless ← at? .flowEntry do throw .missingEntry
      skip
    match ← peek with
    | some .key =>
      skip
      let pair ← flowPair steps
      return pair :: (← flowItems false steps)
    | some .flowSequenceEnd =>
      skip
      return []
    | _ =>
      let item ← node false false steps
      return item :: (← flowItems false steps)

/-- A mapping of one entry inside a flow sequence, after its key mark. -/
def flowPair : Nat → Compose Node
  | 0 => throw .missingNode
  | steps + 1 => do
    let ends := [Token.flowEntry, .flowSequenceEnd]
    let name ← if ← atOneOf (.value :: ends) then do
        skip
        pure Node.blank
      else node false false steps
    let value ← if ← at? .value then do
        skip
        nodeOrBlank false false ends steps
      else pure .blank
    return .mapping none none [(name, value)]

/-- The entries of a flow mapping, to its brace. -/
def flowEntries (first : Bool) : Nat → Compose (List (Node × Node))
  | 0 => throw .missingEntry
  | steps + 1 => do
    if ← at? .flowMappingEnd then
      skip
      return []
    unless first do
      unless ← at? .flowEntry do throw .missingEntry
      skip
    let ends := [Token.flowEntry, .flowMappingEnd]
    match ← peek with
    | some .key =>
      skip
      let name ← nodeOrBlank false false (.value :: ends) steps
      let value ← if ← at? .value then do
          skip
          nodeOrBlank false false ends steps
        else pure .blank
      return (name, value) :: (← flowEntries false steps)
    | some .flowMappingEnd =>
      skip
      return []
    | _ =>
      let name ← node false false steps
      return (name, .blank) :: (← flowEntries false steps)

end

/-- The directives before a document: at most one version, which has to be 1.1 or 1.2, and each
handle once. -/
def directives : Nat → (version : Bool) → List (String × String) → Compose (List (String × String))
  | 0, _, handles => return handles
  | steps + 1, version, handles => do
    match ← peek with
    | some (.versionDirective major minor) =>
      skip
      if version then throw .duplicateDirective
      if major ≠ 1 || (minor ≠ 1 && minor ≠ 2) then throw .incompatibleVersion
      directives steps true handles
    | some (.tagDirective handle leader) =>
      skip
      if (handles.lookup handle).isSome then throw .duplicateDirective
      directives steps version ((handle, leader) :: handles)
    | _ => return handles

/-- The handles that need no directive. -/
def defaultHandles : List (String × String) := [("!", "!"), ("!!", "tag:yaml.org,2002:")]

/-- Passes over the marks of a document's end. -/
def documentEnds : Nat → Compose Unit
  | 0 => return
  | steps + 1 => do
    if ← at? .documentEnd then
      skip
      documentEnds steps

/-- The root of the document, and the end of the stream; a stream may hold no document. -/
def document : Compose (Option Node) := do
  let steps := 4 * (← get).ahead.length + 4
  match ← peek with
  | none => return none
  | some t =>
    let isDirective := match t with
      | .versionDirective .. | .tagDirective .. => true
      | _ => false
    let root ← if isDirective || t = .documentStart then do
        let handles ← directives steps false []
        modify fun s => { s with handles := handles ++ defaultHandles }
        unless ← at? .documentStart do throw .missingDocumentStart
        skip
        match ← peek with
        | some (.versionDirective ..) | some (.tagDirective ..) | some .documentStart
        | some .documentEnd | none => pure Node.blank
        | _ => node true false steps
      else node true false steps
    documentEnds steps
    if (← peek).isSome then throw .moreThanOneDocument
    return some root

end Compose

/-- A document: its root, and the anchored nodes in it with their numbers. -/
structure Document where
  root : Node
  anchored : List (Nat × Node)

/-- Adds a node that has an anchor. -/
def Node.mark (anchor : Option Nat) (n : Node) (found : List (Nat × Node)) : List (Nat × Node) :=
  match anchor with
  | some id => (id, n) :: found
  | none => found

mutual

/-- The anchored nodes in a tree with their numbers, the last one first. -/
def Node.anchored (found : List (Nat × Node)) : Node → List (Nat × Node)
  | .scalar anchor tag style text => Node.mark anchor (.scalar anchor tag style text) found
  | .sequence anchor tag items =>
    Node.anchoredItems (Node.mark anchor (.sequence anchor tag items) found) items
  | .mapping anchor tag entries =>
    Node.anchoredEntries (Node.mark anchor (.mapping anchor tag entries) found) entries
  | .alias _ => found

/-- The anchored nodes in a list of trees. -/
def Node.anchoredItems (found : List (Nat × Node)) : List Node → List (Nat × Node)
  | [] => found
  | n :: rest => Node.anchoredItems (n.anchored found) rest

/-- The anchored nodes in a list of pairs. -/
def Node.anchoredEntries (found : List (Nat × Node)) : List (Node × Node) → List (Nat × Node)
  | [] => found
  | (k, v) :: rest => Node.anchoredEntries (v.anchored (k.anchored found)) rest

end

namespace Document

/-- The document with a root. -/
def ofRoot (root : Node) : Document := ⟨root, root.anchored []⟩

/-- The node that an alias stands for; of two with one number, the later. -/
def find? (d : Document) (id : Nat) : Option Node := d.anchored.lookup id

/-- A node, an alias of it followed. -/
def resolve (d : Document) : Node → Option Node
  | .alias id => d.find? id
  | n => some n

/-- The document of a stream; a stream without one has a blank root. -/
def parse (text : String) : Except Fault Document := do
  let tokens ← tokenize text
  let (root, _) ← Compose.document.run ⟨tokens, Compose.defaultHandles, []⟩
  return ofRoot (root.getD .blank)

end Document

end TenantAuth.Yaml
