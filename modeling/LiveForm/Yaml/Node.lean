import LiveForm.Yaml.Token

/-!
# Documents of a YAML text

A document has a root, and the scalars that its anchors name. Nodes are read off the tokens by
descent; a node that is left out is an empty plain scalar. `Document.all?` gives every document of
a text, or `none` where the text is refused at any place.

An anchor has a number: that of the names known before it. Where a name is given twice, numbers
repeat, and the later node with a number is meant by all aliases to it, also by those before.
-/

namespace LiveForm.Yaml

/-- A scalar, and its tag with the handle resolved. -/
structure Scalar where
  text : String := ""
  style : Style := .plain
  tag : Option String := none
deriving DecidableEq

/-- A node of a document. The tags of collections are not kept. -/
inductive Node where
  | scalar (s : Scalar)
  | sequence (items : List Node)
  | mapping (members : List (Node × Node))
  /-- The node that the anchor with a number names. -/
  | alias (number : Nat)

/-- A document: its root, and what its anchors name, the last one first. Collections are `none`. -/
structure Document where
  root : Node
  anchored : List (Nat × Option Scalar)

namespace Document

/-- The scalar that a node is or names. -/
def scalar? (d : Document) : Node → Option Scalar
  | .scalar s => some s
  | .alias number => (d.anchored.lookup number).join
  | .sequence _ | .mapping _ => none

end Document

/-! ## Reading -/

/-- What is read while a document is. -/
structure Descent where
  tokens : List Token
  /-- What the handles of tags stand for. -/
  handles : List (String × String) := []
  /-- The numbers of the anchors, the last one first. -/
  numbers : List (String × Nat) := []
  anchored : List (Nat × Option Scalar) := []

/-- A step of reading. It fails where the text is refused. -/
abbrev Reader := StateT Descent Option

namespace Reader

/-- The token here. -/
def peek : Reader (Option Token) := do return (← get).tokens.head?

/-- Go past a token. -/
def advance : Reader Unit := modify fun d => { d with tokens := d.tokens.drop 1 }

/-- Go past a given token, if it stands here. -/
def skipIf (t : Token) : Reader Bool := do
  if (← peek) = some t then advance; return true else return false

/-- Go past a given token. -/
def expect (t : Token) : Reader Unit := do
  if ← skipIf t then return else failure

/-- The anchor and the tag in front of a node. -/
structure Properties where
  anchor : Option String := none
  tag : Option String := none

/-- A tag with its handle resolved. A handle that nothing was said about is refused. -/
def resolveTag (handle suffix : String) : Reader String := do
  if handle = "" then return suffix
  match (← get).handles.lookup handle with
  | some meaning => return meaning ++ suffix
  | none => failure

def anchorHere : Reader (Option String) := do
  match ← peek with
  | some (.anchor name) => advance; return some name
  | _ => return none

def tagHere : Reader (Option String) := do
  match ← peek with
  | some (.tag handle suffix) => advance; return some (← resolveTag handle suffix)
  | _ => return none

/-- The properties of a node, in either order. -/
def properties : Reader Properties := do
  match ← anchorHere with
  | some name => return ⟨some name, ← tagHere⟩
  | none =>
    match ← tagHere with
    | some tag => return ⟨← anchorHere, some tag⟩
    | none => return {}

/-- Let an anchor, if there is one, name a node. -/
def name (anchor : Option String) (named : Option Scalar) : Reader Unit :=
  match anchor with
  | none => return
  | some name => modify fun d =>
    let number := (d.numbers.map Prod.fst).eraseDups.length
    { d with numbers := (name, number) :: d.numbers, anchored := (number, named) :: d.anchored }

/-- A scalar with properties. -/
def scalar (p : Properties) (text : String) (style : Style) : Reader Node := do
  let s : Scalar := ⟨text, style, p.tag⟩
  name p.anchor (some s)
  return .scalar s

/-- A node that is left out. -/
def empty : Node := .scalar {}

/-- Where a node stands. -/
inductive Place where
  /-- Inside brackets. -/
  | flow
  | block
  /-- Behind a key of a block, where the items of a sequence need not be indented. -/
  | member
deriving DecidableEq

/-- The tokens that end an item of a block. -/
def itemEnds : List Token := [.blockEntry, .blockEnd]

/-- The tokens that end an item that is not indented. -/
def looseItemEnds : List Token := [.blockEntry, .key, .value, .blockEnd]

/-- The tokens that end a key or a value of a block. -/
def memberEnds : List Token := [.key, .value, .blockEnd]

mutual

/-- Read a node. -/
def node : Nat → Place → Reader Node
  | 0, _ => failure
  | fuel + 1, place => do
    match ← peek with
    | some (.alias name) =>
      advance
      match (← get).numbers.lookup name with
      | some number => return .alias number
      | none => failure
    | _ =>
      let p ← properties
      match ← peek with
      | some (.scalar text style) => advance; scalar p text style
      | some .flowSequenceStart => advance; name p.anchor none; flowItems fuel true []
      | some .flowMappingStart => advance; name p.anchor none; flowMembers fuel true []
      | some .blockSequenceStart =>
        if place = .flow then absent p
        else advance; name p.anchor none; blockItems fuel []
      | some .blockMappingStart =>
        if place = .flow then absent p
        else advance; name p.anchor none; blockMembers fuel []
      | some .blockEntry =>
        if place = .member then name p.anchor none; looseItems fuel [] else absent p
      | _ => absent p
where
  /-- A node of which only properties are there. -/
  absent (p : Properties) : Reader Node :=
    if p.anchor.isSome || p.tag.isSome then scalar p "" .plain else failure

/-- Read a node unless it is left out in front of one of some tokens. -/
def nodeUnless : Nat → Place → List Token → Reader Node
  | 0, _, _ => failure
  | fuel + 1, place, ends => do
    if (← peek).any ends.contains then return empty else node fuel place

/-- Read the items of a block. -/
def blockItems : Nat → List Node → Reader Node
  | 0, _ => failure
  | fuel + 1, items => do
    if ← skipIf .blockEntry then
      let item ← nodeUnless fuel .block itemEnds
      blockItems fuel (item :: items)
    else
      expect .blockEnd
      return .sequence items.reverse

/-- Read items that are not indented. -/
def looseItems : Nat → List Node → Reader Node
  | 0, _ => failure
  | fuel + 1, items => do
    if ← skipIf .blockEntry then
      let item ← nodeUnless fuel .block looseItemEnds
      looseItems fuel (item :: items)
    else return .sequence items.reverse

/-- Read the members of a block. -/
def blockMembers : Nat → List (Node × Node) → Reader Node
  | 0, _ => failure
  | fuel + 1, members => do
    if ← skipIf .key then
      let key ← nodeUnless fuel .member memberEnds
      if ← skipIf .value then
        let value ← nodeUnless fuel .member memberEnds
        blockMembers fuel ((key, value) :: members)
      else blockMembers fuel ((key, empty) :: members)
    else
      expect .blockEnd
      return .mapping members.reverse

/-- Read items inside brackets. An item may be a mapping with a single key. -/
def flowItems : Nat → Bool → List Node → Reader Node
  | 0, _, _ => failure
  | fuel + 1, first, items => do
    if ← skipIf .flowSequenceEnd then return .sequence items.reverse
    if !first then expect .flowEntry
    if ← skipIf .flowSequenceEnd then return .sequence items.reverse
    if ← skipIf .key then
      let member ← flowMember fuel .flowSequenceEnd
      flowItems fuel false (.mapping [member] :: items)
    else
      let item ← node fuel .flow
      flowItems fuel false (item :: items)

/-- Read members inside brackets. A key without a colon has an empty value. -/
def flowMembers : Nat → Bool → List (Node × Node) → Reader Node
  | 0, _, _ => failure
  | fuel + 1, first, members => do
    if ← skipIf .flowMappingEnd then return .mapping members.reverse
    if !first then expect .flowEntry
    if ← skipIf .flowMappingEnd then return .mapping members.reverse
    if ← skipIf .key then
      let member ← flowMember fuel .flowMappingEnd
      flowMembers fuel false (member :: members)
    else
      let key ← node fuel .flow
      flowMembers fuel false ((key, empty) :: members)

/-- Read a key and a value inside brackets. -/
def flowMember : Nat → Token → Reader (Node × Node)
  | 0, _ => failure
  | fuel + 1, closing => do
    let key ← nodeUnless fuel .flow [.value, .flowEntry, closing]
    if ← skipIf .value then
      return (key, ← nodeUnless fuel .flow [.flowEntry, closing])
    else return (key, empty)

end

/-- The tokens that start or end a document. -/
def isBoundary : Token → Bool
  | .version _ _ | .handle _ _ | .documentStart | .documentEnd => true
  | _ => false

/-- The handles that every document has. -/
def standardHandles : List (String × String) := [("!", "!"), ("!!", "tag:yaml.org,2002:")]

/-- Read the directives in front of a document. Only versions 1.1 and 1.2 are known, and nothing
may be told twice. Whether there are any is given back. -/
def directives : Nat → (told version : Bool) → Reader Bool
  | 0, _, _ => failure
  | fuel + 1, told, version => do
    match ← peek with
    | some (.version major minor) =>
      if version || major ≠ 1 || (minor ≠ 1 && minor ≠ 2) then failure
      advance
      directives fuel true true
    | some (.handle name meaning) =>
      if ((← get).handles.map Prod.fst).contains name then failure
      modify fun d => { d with handles := (name, meaning) :: d.handles }
      advance
      directives fuel true version
    | _ => return told

/-- Read a document. Only the first one of a text may do without a start. -/
def document (first : Bool) : Reader Document := do
  let size := (← get).tokens.length
  modify fun d => { d with handles := [], numbers := [], anchored := [] }
  let told ← directives (size + 1) false false
  modify fun d => { d with handles := d.handles ++ standardHandles }
  let root ←
    if ← skipIf .documentStart then
      if (← peek).all isBoundary then pure empty else node (4 * size + 4) .block
    else if first && !told then node (4 * size + 4) .block
    else failure
  let _ ← skipIf .documentEnd
  return ⟨root, (← get).anchored⟩

/-- Read documents to the end. -/
def documents : Nat → List Document → Reader (List Document)
  | 0, _ => failure
  | fuel + 1, done => do
    if !done.isEmpty then
      modify fun d => { d with tokens := d.tokens.dropWhile (· == .documentEnd) }
    if (← peek).isNone then return done.reverse
    else documents fuel ((← document done.isEmpty) :: done)

end Reader

/-- The documents of a text, unless the text is refused. -/
def Document.all? (text : String) : Option (List Document) := do
  let tokens ← Token.ofText? text
  (Reader.documents (tokens.length + 1) []).run' { tokens := tokens }

end LiveForm.Yaml
