import FedLoad.Yaml.Token
/-!
# Nodes of a YAML text

A text is one node: a scalar, a sequence of nodes, or a mapping of nodes to nodes. What is left out
is an empty scalar, and so is a text without any content. A node may be given a name, and stand
again wherever the name does; a name that is given again means its latest node from there on. A
node cannot be read as part of itself.
-/
namespace FedLoad.Yaml

inductive Node where
  | scalar (tag : Option String) (style : Style) (text : String)
  | sequence (items : List Node)
  | mapping (pairs : List (Node × Node))
  /-- A node that stands again where its name does. -/
  | repeated (node : Node)
  /-- A node that would be part of itself. -/
  | endless
  /-- A sequence or a mapping with a tag of its own. -/
  | tagged (tag : String) (node : Node)

namespace Node

/-- What is left out. -/
def blank : Node := .scalar none .plain ""

/-! ## Reading -/

/-- The reading of a node, between two tokens. -/
structure Reading where
  tokens : List Token
  /-- What handles of tags stand for. -/
  handles : List (String × String)
  /-- The places of names, the latest first. -/
  names : List (String × Nat)
  /-- The nodes at the places that are complete. -/
  nodes : List (Nat × Node)
  /-- The number of places. -/
  places : Nat

namespace Reading

def skip (r : Reading) : Reading := { r with tokens := r.tokens.tail }

/-- The node of a name; a node that is not complete yet would be part of itself. -/
def named? (r : Reading) (name : String) : Option Node :=
  (r.names.lookup name).map fun place => ((r.nodes.lookup place).map .repeated).getD .endless

/-- Gives a name to the node that begins. -/
def reserve (r : Reading) : Option String → Reading
  | none => r
  | some name => { r with names := (name, r.places) :: r.names, places := r.places + 1 }

/-- Puts a complete node at the place of its name. -/
def complete (r : Reading) (place : Nat) (n : Node) : Option String → Reading
  | none => r
  | some _ => { r with nodes := (place, n) :: r.nodes }

/-- The tag that a handle and a suffix amount to. -/
def tag? (r : Reading) (handle suffix : String) : Option String :=
  if handle.isEmpty then some suffix else (r.handles.lookup handle).map (· ++ suffix)

/-- The name and the tag before a node, in either order. -/
def properties? (r : Reading) : Option (Option String × Option String × Reading) :=
  match r.tokens with
  | .anchor name :: .tag h t :: rest | .tag h t :: .anchor name :: rest =>
    (r.tag? h t).map fun tag => (some name, some tag, { r with tokens := rest })
  | .anchor name :: rest => some (some name, none, { r with tokens := rest })
  | .tag h t :: rest =>
    (r.tag? h t).map fun tag => (none, some tag, { r with tokens := rest })
  | _ => some (none, none, r)

/-- Is the next token one of these? -/
def isAt (r : Reading) (ts : List Token) : Bool :=
  match r.tokens with
  | [] => false
  | t :: _ => ts.contains t

end Reading

/-- A sequence or mapping with its tag. -/
def withTag (n : Node) : Option String → Node
  | none => n
  | some tag => .tagged tag n

mutual

/-- A node. In a block it may be a block itself, and as a value of a mapping a sequence that is not
indented any further. -/
def node? (inBlock asValue : Bool) (r : Reading) : Nat → Option (Node × Reading)
  | 0 => none
  | fuel + 1 =>
    match r.tokens with
    | .alias name :: _ => (r.named? name).map fun n => (n, r.skip)
    | _ =>
      match r.properties? with
      | none => none
      | some (name, tag, inner) =>
        match content? inBlock asValue tag (name.isSome || tag.isSome) (inner.reserve name) fuel with
        | none => none
        | some (n, after) => some (n, after.complete inner.places n name)

/-- What follows the name and the tag of a node. -/
def content? (inBlock asValue : Bool) (tag : Option String) (mayBeBlank : Bool) (r : Reading) :
    Nat → Option (Node × Reading)
  | 0 => none
  | fuel + 1 =>
    match r.tokens with
    | .scalar style text :: _ =>
      some (.scalar (tag.filter (· != "!")) style text, r.skip)
    | .flowSequence :: _ =>
      (flowItems? true r.skip fuel).map fun (items, r) => ((Node.sequence items).withTag tag, r)
    | .flowMapping :: _ =>
      (flowPairs? true r.skip fuel).map fun (pairs, r) => ((Node.mapping pairs).withTag tag, r)
    | .entry :: _ =>
      if asValue then
        (looseItems? r fuel).map fun (items, r) => ((Node.sequence items).withTag tag, r)
      else if mayBeBlank then some (.scalar tag .plain "", r) else none
    | .blockSequence :: _ =>
      if inBlock then
        (blockItems? r.skip fuel).map fun (items, r) => ((Node.sequence items).withTag tag, r)
      else if mayBeBlank then some (.scalar tag .plain "", r) else none
    | .blockMapping :: _ =>
      if inBlock then
        (blockPairs? r.skip fuel).map fun (pairs, r) => ((Node.mapping pairs).withTag tag, r)
      else if mayBeBlank then some (.scalar tag .plain "", r) else none
    | _ => if mayBeBlank then some (.scalar tag .plain "", r) else none

/-- The items of a block sequence. -/
def blockItems? (r : Reading) : Nat → Option (List Node × Reading)
  | 0 => none
  | fuel + 1 =>
    match r.tokens with
    | .entry :: _ => do
      let (n, r) ← orBlank? true false [.entry, .blockEnd] r.skip fuel
      let (rest, r) ← blockItems? r fuel
      pure (n :: rest, r)
    | .blockEnd :: _ => some ([], r.skip)
    | _ => none

/-- The items of a sequence that is not indented further than the mapping around it. -/
def looseItems? (r : Reading) : Nat → Option (List Node × Reading)
  | 0 => none
  | fuel + 1 =>
    match r.tokens with
    | .entry :: _ => do
      let (n, r) ← orBlank? true false [.entry, .key, .value, .blockEnd] r.skip fuel
      let (rest, r) ← looseItems? r fuel
      pure (n :: rest, r)
    | _ => some ([], r)

/-- The pairs of a block mapping. -/
def blockPairs? (r : Reading) : Nat → Option (List (Node × Node) × Reading)
  | 0 => none
  | fuel + 1 =>
    match r.tokens with
    | .key :: _ => do
      let (k, r) ← orBlank? true true [.key, .value, .blockEnd] r.skip fuel
      let (v, r) ← pairValue? true true [.key, .value, .blockEnd] r fuel
      let (rest, r) ← blockPairs? r fuel
      pure ((k, v) :: rest, r)
    | .blockEnd :: _ => some ([], r.skip)
    | _ => none

/-- The items between square brackets; all but the first follow a comma. -/
def flowItems? (first : Bool) (r : Reading) : Nat → Option (List Node × Reading)
  | 0 => none
  | fuel + 1 =>
    if r.isAt [.flowSequenceEnd] then some ([], r.skip)
    else do
      let r ← if first then some r else if r.isAt [.flowEntry] then some r.skip else none
      if r.isAt [.flowSequenceEnd] then pure ([], r.skip)
      else
        let (n, r) ← if r.isAt [.key] then flowPair? r.skip fuel else node? false false r fuel
        let (rest, r) ← flowItems? false r fuel
        pure (n :: rest, r)

/-- A mapping of one pair between square brackets. -/
def flowPair? (r : Reading) : Nat → Option (Node × Reading)
  | 0 => none
  | fuel + 1 => do
    let (k, r) ←
      if r.isAt [.value, .flowEntry, .flowSequenceEnd] then some (blank, r.skip)
      else node? false false r fuel
    let (v, r) ← pairValue? false false [.flowEntry, .flowSequenceEnd] r fuel
    pure (.mapping [(k, v)], r)

/-- The pairs between braces; all but the first follow a comma. -/
def flowPairs? (first : Bool) (r : Reading) : Nat → Option (List (Node × Node) × Reading)
  | 0 => none
  | fuel + 1 =>
    if r.isAt [.flowMappingEnd] then some ([], r.skip)
    else do
      let r ← if first then some r else if r.isAt [.flowEntry] then some r.skip else none
      if r.isAt [.flowMappingEnd] then pure ([], r.skip)
      else
        let (pair, r) ←
          if r.isAt [.key] then do
            let (k, r) ← orBlank? false false [.value, .flowEntry, .flowMappingEnd] r.skip fuel
            let (v, r) ← pairValue? false false [.flowEntry, .flowMappingEnd] r fuel
            pure ((k, v), r)
          else do
            let (k, r) ← node? false false r fuel
            pure ((k, blank), r)
        let (rest, r) ← flowPairs? false r fuel
        pure (pair :: rest, r)

/-- What follows the colon of a value; nothing at all if there is no colon. -/
def pairValue? (inBlock asValue : Bool) (ends : List Token) (r : Reading) :
    Nat → Option (Node × Reading)
  | 0 => none
  | fuel + 1 =>
    if r.isAt [.value] then orBlank? inBlock asValue ends r.skip fuel else some (blank, r)

/-- A node, unless one of these tokens shows that it is left out. -/
def orBlank? (inBlock asValue : Bool) (ends : List Token) (r : Reading) :
    Nat → Option (Node × Reading)
  | 0 => none
  | fuel + 1 => if r.isAt ends then some (blank, r) else node? inBlock asValue r fuel

end

/-! ## Documents -/

/-- The handles that need no directive. -/
def standardHandles : List (String × String) := [("!", "!"), ("!!", "tag:yaml.org,2002:")]

/-- Reads the directives before a document: at most one version, and handles that differ. -/
def directives? (version : Bool) (handles : List (String × String)) :
    List Token → Option (List (String × String) × List Token)
  | .version major minor :: rest =>
    if version || major != 1 || (minor != 1 && minor != 2) then none
    else directives? true handles rest
  | .handle name meaning :: rest =>
    if (handles.lookup name).isSome then none
    else directives? version (handles ++ [(name, meaning)]) rest
  | rest => some (handles ++ standardHandles, rest)

/-- Is the content left out? -/
def isLeftOut : List Token → Bool
  | [] | .version .. :: _ | .handle .. :: _ | .documentStart :: _ | .documentEnd :: _ => true
  | _ => false

/-- Only the ends of a document may be left. -/
def endsDocument : List Token → Bool
  | [] => true
  | .documentEnd :: rest => endsDocument rest
  | _ => false

/-- The node of a document. -/
def document? (handles : List (String × String)) (tokens : List Token) : Option Node :=
  (node? true false ⟨tokens, handles, [], [], 0⟩ (4 * tokens.length + 4)).bind fun (n, r) =>
    if endsDocument r.tokens then some n else none

/-- The node of the only document of a text. -/
def ofTokens? (tokens : List Token) : Option Node :=
  match directives? false [] tokens with
  | none => none
  | some (handles, .documentStart :: rest) =>
    if isLeftOut rest then if endsDocument rest then some blank else none
    else document? handles rest
  | some (handles, rest) =>
    if rest.length < tokens.length then none
    else if rest.isEmpty then some blank
    else document? handles rest

/-- Reads a text. -/
def ofText? (s : String) : Option Node := (tokens? s).bind ofTokens?

end Node

end FedLoad.Yaml
