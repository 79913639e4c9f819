import NamedLock.Keyed
import NamedLock.Yaml.Token
import NamedLock.Yaml.Value

/-!
# Node — values out of tokens

A node is a scalar, a collection, or a reference to an earlier node that has a name. Where a node is missing,
nothing stands in its place.
-/

namespace NamedLock

namespace Yaml

/-- What has been learnt about a document. -/
structure Notes where
  /-- What handles in front of tags stand for. -/
  spaces : Keyed String String := []
  /-- The number of the node that has a name. -/
  names : Keyed String Nat := []
  /-- The nodes with names that are complete. -/
  nodes : Keyed Nat Value := []
  /-- How many nodes have had names. -/
  count : Nat := 0

/-- What stands in front of a node. -/
structure Properties where
  number : Option Nat := none
  /-- The name space of the tag, and its name. -/
  tag : Option (String × String) := none

namespace Notes

/-- Gives the next node a name. -/
def name (n : Notes) (s : String) : Nat × Notes :=
  (n.count + 1, { n with names := n.names.set s (n.count + 1), count := n.count + 1 })

/-- Keeps a node that has a name. -/
def keep (n : Notes) (p : Properties) (v : Value) : Notes :=
  match p.number with
  | some i => { n with nodes := n.nodes.set i v }
  | none => n

/-- The node that a name refers to; a node inside which it is named is not complete. -/
def node? (n : Notes) (s : String) : Option Value :=
  (n.names.get? s).map fun i => (n.nodes.get? i).getD .faulty

/-- The name space of a tag; a handle with a name must have been declared. -/
def space? (n : Notes) (handle : String) : Option String :=
  if handle = "!!" then some ((n.spaces.get? "!!").getD Value.coreTags)
  else
    match n.spaces.get? handle with
    | some s => some s
    | none => if 2 ≤ handle.length && handle.toList.getLast? = some '!' then none else some handle

end Notes

/-- A reader takes a value off the front of the tokens. -/
abbrev TokenReader (α : Type) := Notes → List Token → Option (α × Notes × List Token)

/-- Takes a tag and a name off the front, in any order. -/
def properties : TokenReader Properties := fun n ts =>
  let tagged (n : Notes) (handle name : String) (p : Properties) (ts : List Token) :=
    (n.space? handle).map fun space => ({ p with tag := some (space, name) }, n, ts)
  match ts with
  | .anchor s :: .tag handle name :: ts =>
    let (i, n) := n.name s
    tagged n handle name { number := some i } ts
  | .anchor s :: ts =>
    let (i, n) := n.name s
    some ({ number := some i }, n, ts)
  | .tag handle name :: .anchor s :: ts => do
    let _ ← n.space? handle
    let (i, n) := n.name s
    tagged n handle name { number := some i } ts
  | .tag handle name :: ts => tagged n handle name {} ts
  | ts => some ({}, n, ts)

/-- What a scalar stands for. -/
def Properties.scalar (p : Properties) (isPlain : Bool) (s : String) : Value :=
  if !isPlain then .text s
  else
    match p.tag with
    | some (space, name) => .ofTagged space name s
    | none => .ofPlain s

/-- Whether a text without characters stands for a node here: it must have a name or a tag. -/
def Properties.isNode (p : Properties) : Bool := p.number.isSome || p.tag.isSome

/-- Whether no node stands in front of this token, in a collection of lines. -/
def endsNode : Token → Bool
  | .key => true
  | .value => true
  | .blockEnd => true
  | _ => false

/-- Whether no node stands in front of this token, in brackets that this token closes. -/
def endsFlowNode (closing t : Token) : Bool := t == .comma || t == closing

mutual

/-- Reads a node. `inBlock` says whether it may be a collection of lines, and `indentless` whether it may be a
sequence that is indented no further than its key. `fuel` bounds the number of steps, here and below. -/
def node : Nat → (inBlock indentless : Bool) → TokenReader Value
  | 0, _, _, _, _ => none
  | fuel + 1, inBlock, indentless, n, ts =>
    match ts with
    | .reference s :: ts => (n.node? s).map fun v => (v, n, ts)
    | ts => do
      let (p, n, ts) ← properties n ts
      let (v, n, ts) ← content fuel inBlock indentless p n ts
      some (v, n.keep p v, ts)

/-- Reads a node behind its tag and its name. -/
def content : Nat → (inBlock indentless : Bool) → Properties → TokenReader Value
  | 0, _, _, _, _, _ => none
  | fuel + 1, inBlock, indentless, p, n, ts => do
    let empty := if p.isNode then some (p.scalar true "", n, ts) else none
    match ts with
    | .scalar isPlain s :: ts => some (p.scalar isPlain s, n, ts)
    | .flowSequenceStart :: ts =>
      let (vs, n, ts) ← flowItems fuel true n ts
      some (.sequence vs, n, ts)
    | .flowMappingStart :: ts =>
      let (vs, n, ts) ← flowPairs fuel true n ts
      some (← Value.ofPairs? vs, n, ts)
    | .entry :: _ =>
      if indentless then
        let (vs, n, ts) ← indentlessItems fuel n ts
        some (.sequence vs, n, ts)
      else empty
    | .sequenceStart :: ts =>
      if inBlock then
        let (vs, n, ts) ← blockItems fuel n ts
        some (.sequence vs, n, ts)
      else empty
    | .mappingStart :: ts =>
      if inBlock then
        let (vs, n, ts) ← blockPairs fuel n ts
        some (← Value.ofPairs? vs, n, ts)
      else empty
    | _ => empty

/-- Reads the entries of a sequence of lines, up to its end. -/
def blockItems : Nat → TokenReader (List Value)
  | 0, _, _ => none
  | fuel + 1, n, ts => do
    match ts with
    | .blockEnd :: ts => some ([], n, ts)
    | .entry :: ts =>
      let (v, n, ts) ←
        match ts with
        | .entry :: _ => some (.nothing, n, ts)
        | .blockEnd :: _ => some (.nothing, n, ts)
        | _ => node fuel true false n ts
      let (vs, n, ts) ← blockItems fuel n ts
      some (v :: vs, n, ts)
    | _ => none

/-- Reads the entries of a sequence that is indented no further than its key. -/
def indentlessItems : Nat → TokenReader (List Value)
  | 0, _, _ => none
  | fuel + 1, n, ts => do
    match ts with
    | .entry :: ts =>
      let (v, n, ts) ←
        if ts.head?.any fun t => t == .entry || endsNode t then some (.nothing, n, ts) else node fuel true false n ts
      let (vs, n, ts) ← indentlessItems fuel n ts
      some (v :: vs, n, ts)
    | _ => some ([], n, ts)

/-- Reads the keys and values of a mapping of lines by turns, up to its end. -/
def blockPairs : Nat → TokenReader (List Value)
  | 0, _, _ => none
  | fuel + 1, n, ts => do
    match ts with
    | .blockEnd :: ts => some ([], n, ts)
    | .key :: ts =>
      let (k, n, ts) ← if ts.head?.any endsNode then some (.nothing, n, ts) else node fuel true true n ts
      let (v, n, ts) ← blockValue fuel n ts
      let (vs, n, ts) ← blockPairs fuel n ts
      some (k :: v :: vs, n, ts)
    | .value :: _ =>
      let (v, n, ts) ← blockValue fuel n ts
      let (vs, n, ts) ← blockPairs fuel n ts
      some (.nothing :: v :: vs, n, ts)
    | _ => none

/-- Reads the value of a key, in a mapping of lines. -/
def blockValue : Nat → TokenReader Value
  | 0, _, _ => none
  | fuel + 1, n, ts =>
    match ts with
    | .value :: ts => if ts.head?.any endsNode then some (.nothing, n, ts) else node fuel true true n ts
    | _ => some (.nothing, n, ts)

/-- Reads the items between brackets, up to the closing one. -/
def flowItems : Nat → (isFirst : Bool) → TokenReader (List Value)
  | 0, _, _, _ => none
  | fuel + 1, isFirst, n, ts => do
    match ts with
    | .flowSequenceEnd :: ts => some ([], n, ts)
    | _ =>
      let ts ← if isFirst then some ts else if ts.head? = some .comma then some (ts.drop 1) else none
      match ts with
      | .flowSequenceEnd :: ts => some ([], n, ts)
      | .key :: ts =>
        let (k, n, ts) ←
          if ts.head?.any fun t => t == .value || endsFlowNode .flowSequenceEnd t then
            some (.nothing, n, ts.drop 1)
          else node fuel false false n ts
        let (v, n, ts) ← flowValue fuel .flowSequenceEnd n ts
        let pair ← Value.ofPairs? [k, v]
        let (vs, n, ts) ← flowItems fuel false n ts
        some (pair :: vs, n, ts)
      | _ =>
        let (v, n, ts) ← node fuel false false n ts
        let (vs, n, ts) ← flowItems fuel false n ts
        some (v :: vs, n, ts)

/-- Reads the keys and values between braces by turns, up to the closing one. -/
def flowPairs : Nat → (isFirst : Bool) → TokenReader (List Value)
  | 0, _, _, _ => none
  | fuel + 1, isFirst, n, ts => do
    match ts with
    | .flowMappingEnd :: ts => some ([], n, ts)
    | _ =>
      let ts ← if isFirst then some ts else if ts.head? = some .comma then some (ts.drop 1) else none
      match ts with
      | .flowMappingEnd :: ts => some ([], n, ts)
      | .key :: ts =>
        let (k, n, ts) ←
          if ts.head?.any fun t => t == .value || endsFlowNode .flowMappingEnd t then some (.nothing, n, ts)
          else node fuel false false n ts
        let (v, n, ts) ← flowValue fuel .flowMappingEnd n ts
        let (vs, n, ts) ← flowPairs fuel false n ts
        some (k :: v :: vs, n, ts)
      | .value :: _ =>
        let (v, n, ts) ← flowValue fuel .flowMappingEnd n ts
        let (vs, n, ts) ← flowPairs fuel false n ts
        some (.nothing :: v :: vs, n, ts)
      | _ =>
        let (k, n, ts) ← node fuel false false n ts
        let (vs, n, ts) ← flowPairs fuel false n ts
        some (k :: .nothing :: vs, n, ts)

/-- Reads the value of a key, in brackets that `closing` closes. -/
def flowValue : Nat → (closing : Token) → TokenReader Value
  | 0, _, _, _ => none
  | fuel + 1, closing, n, ts =>
    match ts with
    | .value :: ts =>
      if ts.head?.any (endsFlowNode closing) then some (.nothing, n, ts) else node fuel false false n ts
    | _ => some (.nothing, n, ts)

end

/-! ## Documents -/

/-- Takes directives off the front: at most one tells the version, and the last one that tells a name space counts. -/
def directives? (hasVersion : Bool) (n : Notes) : List Token → Option (Notes × List Token)
  | .version :: ts => if hasVersion then none else directives? true { n with spaces := [] } ts
  | .tagSpace h s :: ts => directives? hasVersion { n with spaces := [(h, s)] } ts
  | ts => some (n, ts)

/-- Whether a token belongs to no node. -/
def isBetweenDocuments : Token → Bool
  | .version => true
  | .tagSpace _ _ => true
  | .documentStart => true
  | .documentEnd => true
  | _ => false

/-- Whether a token is a directive. -/
def isDirective : Token → Bool
  | .version => true
  | .tagSpace _ _ => true
  | _ => false

/-- Reads one document after the other. `isBare` says whether the next one may do without a line that starts it;
`fuel` bounds their number. -/
def documents? : Nat → (isBare : Bool) → List Token → Option (List Value)
  | 0, _, _ => none
  | fuel + 1, isBare, ts =>
    match ts.dropWhile (· == .documentEnd) with
    | [] => some []
    | t :: ts => do
      let steps := 3 * (ts.length + 2)
      let (v, _, ts) ←
        if isBare && !isDirective t && t != .documentStart then node steps true false {} (t :: ts)
        else do
          let (n, ts) ← directives? false {} (t :: ts)
          match ts with
          | .documentStart :: ts =>
            if ts.head?.all isBetweenDocuments then some (.nothing, n, ts) else node steps true false n ts
          | _ => none
      let vs ←
        match ts with
        | .documentEnd :: ts => documents? fuel true ts
        | ts => if ts.head?.any isDirective then none else documents? fuel false ts
      some (v :: vs)

/-- The documents of a text. -/
def parse? (s : String) : Option (List Value) := do
  let ts ← tokens? s
  documents? (ts.length + 1) true ts

end Yaml

end NamedLock
