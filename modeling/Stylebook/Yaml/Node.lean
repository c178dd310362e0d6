import Stylebook.Yaml.Token

/-!
# YAML nodes

The tree of a document. A reference is replaced by the node that its anchor names, unless that node
is one of those around it; what is left out is an empty plain scalar.
-/

namespace Stylebook.Yaml

/-- A node of a document, with the tag that it was given. Sequences and mappings have numbers that
tell them apart. -/
inductive Node where
  | scalar (tag : Option String) (text : List Char) (plain : Bool)
  | sequence (id : Nat) (tag : Option String) (items : List Node)
  | mapping (id : Nat) (tag : Option String) (pairs : List (Node × Node))
  /-- The node of a number, inside that node. -/
  | reference (id : Nat)
  deriving Inhabited

/-- The node that stands where nothing is written. -/
def Node.empty : Node :=
  .scalar none [] true

namespace Node

/-- What has been met so far: the handles of tags and the anchored nodes. -/
structure Context where
  handles : List (String × String) := [("!", "!"), ("!!", "tag:yaml.org,2002:")]
  anchors : List (String × Node) := []

/-- What a reading gives: a result, the tokens that are left, and what has been met. -/
abbrev After (α : Type) := α × List Token × Context

/-- The properties that may stand before a node: an anchor and a tag, in either order. -/
structure Properties where
  anchor : Option String := none
  tag : Option (Option String × String) := none

/-- Reads the properties of a node. -/
def readProperties : List Token → Properties × List Token
  | .anchor a :: .tag h r :: ts => (⟨some a, some (h, r)⟩, ts)
  | .anchor a :: ts => (⟨some a, none⟩, ts)
  | .tag h r :: .anchor a :: ts => (⟨some a, some (h, r)⟩, ts)
  | .tag h r :: ts => (⟨none, some (h, r)⟩, ts)
  | ts => ({}, ts)

/-- The failure where a token stands that cannot stand there. -/
def unexpected {α : Type} : List Token → Except Failure α
  | .fault failure :: _ => .error failure
  | _ => .error .badYaml

/-- The full tag of a handle and the rest; the handle must be known. -/
def resolveTag (ctx : Context) : Option (Option String × String) → Except Failure (Option String)
  | none => .ok none
  | some (none, rest) => .ok (some rest)
  | some (some handle, rest) =>
    match ctx.handles.lookup handle with
    | some start => .ok (some (start ++ rest))
    | none => .error .badYaml

/-- Remember an anchored node, in place of what the anchor named before. -/
def remember (ctx : Context) (anchor : Option String) (n : Node) : Context :=
  match anchor with
  | none => ctx
  | some a => { ctx with anchors := (a, n) :: ctx.anchors }

/-- Remember an anchored node that is still to be read. An anchor is given once. -/
def announce (ctx : Context) (anchor : Option String) (id : Nat) : Except Failure Context :=
  if (anchor.bind fun a => ctx.anchors.lookup a).isSome then .error .badYaml
  else .ok (remember ctx anchor (.reference id))

/-- The node that an anchor names. -/
def anchored (ctx : Context) (name : String) : Except Failure Node :=
  match ctx.anchors.lookup name with
  | some n => .ok n
  | none => .error .badYaml

/-- Whether the value of an entry of a block is left out here. -/
def endsBlockValue : List Token → Bool
  | .key :: _ => true
  | .value :: _ => true
  | .blockEnd :: _ => true
  | _ => false

/-- Whether the entry of a sequence without a block of its own is left out here. -/
def endsLooseEntry : List Token → Bool
  | .blockEntry :: _ => true
  | ts => endsBlockValue ts

/-- Whether an entry of a block sequence is left out here. -/
def endsEntry : List Token → Bool
  | .blockEntry :: _ => true
  | .blockEnd :: _ => true
  | _ => false

/-- Whether a key or value inside brackets is left out here. -/
def endsFlowPart (close : Token) : List Token → Bool
  | .flowEntry :: _ => true
  | t :: _ => t == close
  | [] => true

mutual

/-- Reads a node. `block` says whether blocks may stand here, `loose` whether a sequence may stand
here that is not indented further than the map around it. Its number is the count of the tokens from
its start on. -/
def read (fuel : Nat) (block loose : Bool) (ts : List Token) (ctx : Context) :
    Except Failure (After Node) :=
  match fuel with
  | 0 => .error .badYaml
  | fuel + 1 =>
    match ts with
    | .reference name :: rest => do return (← anchored ctx name, rest, ctx)
    | _ => do
      let (props, ts) := readProperties ts
      let tag ← resolveTag ctx props.tag
      let ctx ← announce ctx props.anchor ts.length
      let (node, rest, ctx) ← readContent fuel block loose tag props ts ctx
      return (node, rest, remember ctx props.anchor node)

/-- Reads a node after its properties. -/
def readContent (fuel : Nat) (block loose : Bool) (tag : Option String) (props : Properties)
    (ts : List Token) (ctx : Context) : Except Failure (After Node) :=
  match fuel with
  | 0 => .error .badYaml
  | fuel + 1 =>
    match ts with
    | .scalar text plain :: rest =>
      .ok (.scalar tag text (plain && tag.isNone || tag == some "!"), rest, ctx)
    | .flowSequenceStart :: rest => do
      let (items, rest, ctx) ← readFlowItems fuel true rest ctx
      return (.sequence ts.length tag items, rest, ctx)
    | .flowMappingStart :: rest => do
      let (pairs, rest, ctx) ← readFlowPairs fuel true rest ctx
      return (.mapping ts.length tag pairs, rest, ctx)
    | .blockEntry :: _ =>
      if loose then do
        let (items, rest, ctx) ← readLooseItems fuel ts ctx
        return (.sequence ts.length tag items, rest, ctx)
      else emptyNode tag props ts ctx
    | .blockSequenceStart :: rest =>
      if block then do
        let (items, rest, ctx) ← readItems fuel rest ctx
        return (.sequence ts.length tag items, rest, ctx)
      else emptyNode tag props ts ctx
    | .blockMappingStart :: rest =>
      if block then do
        let (pairs, rest, ctx) ← readPairs fuel rest ctx
        return (.mapping ts.length tag pairs, rest, ctx)
      else emptyNode tag props ts ctx
    | _ => emptyNode tag props ts ctx

/-- A node of which only properties are written. -/
def emptyNode (tag : Option String) (props : Properties) (ts : List Token) (ctx : Context) :
    Except Failure (After Node) :=
  if props.anchor.isSome || props.tag.isSome then
    .ok (.scalar tag [] (tag.isNone || tag == some "!"), ts, ctx)
  else unexpected ts

/-- Reads the entries of a block sequence and its end. -/
def readItems (fuel : Nat) (ts : List Token) (ctx : Context) : Except Failure (After (List Node)) :=
  match fuel with
  | 0 => .error .badYaml
  | fuel + 1 =>
    match ts with
    | .blockEnd :: rest => .ok ([], rest, ctx)
    | .blockEntry :: rest => do
      let (n, rest, ctx) ←
        if endsEntry rest then .ok (Node.empty, rest, ctx) else read fuel true false rest ctx
      let (ns, rest, ctx) ← readItems fuel rest ctx
      return (n :: ns, rest, ctx)
    | _ => unexpected ts

/-- Reads the entries of a sequence without a block of its own. -/
def readLooseItems (fuel : Nat) (ts : List Token) (ctx : Context) : Except Failure (After (List Node)) :=
  match fuel with
  | 0 => .error .badYaml
  | fuel + 1 =>
    match ts with
    | .blockEntry :: rest => do
      let (n, rest, ctx) ←
        if endsLooseEntry rest then .ok (Node.empty, rest, ctx) else read fuel true false rest ctx
      let (ns, rest, ctx) ← readLooseItems fuel rest ctx
      return (n :: ns, rest, ctx)
    | _ => .ok ([], ts, ctx)

/-- Reads the entries of a block mapping and its end. -/
def readPairs (fuel : Nat) (ts : List Token) (ctx : Context) :
    Except Failure (After (List (Node × Node))) :=
  match fuel with
  | 0 => .error .badYaml
  | fuel + 1 =>
    match ts with
    | .blockEnd :: rest => .ok ([], rest, ctx)
    | .key :: rest => do
      let (k, rest, ctx) ←
        if endsBlockValue rest then .ok (Node.empty, rest, ctx) else read fuel true true rest ctx
      let (v, rest, ctx) ← match rest with
        | .value :: rest =>
          if endsBlockValue rest then .ok (Node.empty, rest, ctx) else read fuel true true rest ctx
        | rest => .ok (Node.empty, rest, ctx)
      let (more, rest, ctx) ← readPairs fuel rest ctx
      return ((k, v) :: more, rest, ctx)
    | _ => unexpected ts

/-- Reads the key and the value of an entry inside brackets, after the mark of its key. -/
def readFlowPair (fuel : Nat) (close : Token) (ts : List Token) (ctx : Context) :
    Except Failure (After (Node × Node)) :=
  match fuel with
  | 0 => .error .badYaml
  | fuel + 1 => do
    let (k, rest, ctx) ←
      if ts.head? == some .value || endsFlowPart close ts then .ok (Node.empty, ts, ctx)
      else read fuel false false ts ctx
    let (v, rest, ctx) ← match rest with
      | .value :: rest =>
        if endsFlowPart close rest then .ok (Node.empty, rest, ctx)
        else read fuel false false rest ctx
      | rest => .ok (Node.empty, rest, ctx)
    return ((k, v), rest, ctx)

/-- Reads the entries of a sequence in brackets and its end. An entry with a key is a map of its
own. -/
def readFlowItems (fuel : Nat) (first : Bool) (ts : List Token) (ctx : Context) :
    Except Failure (After (List Node)) :=
  match fuel with
  | 0 => .error .badYaml
  | fuel + 1 =>
    if ts.head? == some .flowSequenceEnd then .ok ([], ts.drop 1, ctx)
    else do
      let ts ← if first then .ok ts
        else if ts.head? == some .flowEntry then .ok (ts.drop 1) else unexpected ts
      match ts with
      | .flowSequenceEnd :: rest => return ([], rest, ctx)
      | .key :: rest => do
        let (p, rest, ctx) ← readFlowPair fuel .flowSequenceEnd rest ctx
        let (ns, rest, ctx) ← readFlowItems fuel false rest ctx
        return (.mapping ts.length none [p] :: ns, rest, ctx)
      | ts => do
        let (n, rest, ctx) ← read fuel false false ts ctx
        let (ns, rest, ctx) ← readFlowItems fuel false rest ctx
        return (n :: ns, rest, ctx)

/-- Reads the entries of a mapping in braces and its end. An entry without a value has an empty
one. -/
def readFlowPairs (fuel : Nat) (first : Bool) (ts : List Token) (ctx : Context) :
    Except Failure (After (List (Node × Node))) :=
  match fuel with
  | 0 => .error .badYaml
  | fuel + 1 =>
    if ts.head? == some .flowMappingEnd then .ok ([], ts.drop 1, ctx)
    else do
      let ts ← if first then .ok ts
        else if ts.head? == some .flowEntry then .ok (ts.drop 1) else unexpected ts
      match ts with
      | .flowMappingEnd :: rest => return ([], rest, ctx)
      | .key :: rest => do
        let (p, rest, ctx) ← readFlowPair fuel .flowMappingEnd rest ctx
        let (ps, rest, ctx) ← readFlowPairs fuel false rest ctx
        return (p :: ps, rest, ctx)
      | ts => do
        let (k, rest, ctx) ← read fuel false false ts ctx
        let (ps, rest, ctx) ← readFlowPairs fuel false rest ctx
        return ((k, Node.empty) :: ps, rest, ctx)

end

/-- Reads the directives of a document: a version, which must be 1, and handles of tags, each of
them once. -/
def readDirectives (version : Bool) (given : List String) (ctx : Context) :
    List Token → Except Failure (List Token × Context)
  | .yamlDirective major :: ts =>
    if version || major != 1 then .error .badYaml else readDirectives true given ctx ts
  | .tagDirective handle start :: ts =>
    if given.contains handle then .error .badYaml
    else readDirectives version (handle :: given)
      { ctx with handles := (handle, start) :: ctx.handles } ts
  | .otherDirective :: ts => readDirectives version given ctx ts
  | ts => .ok (ts, ctx)

/-- Whether a document starts with a directive or a mark, or the stream ends. -/
def startsExplicitly : List Token → Bool
  | .yamlDirective _ :: _ => true
  | .tagDirective _ _ :: _ => true
  | .otherDirective :: _ => true
  | .documentStart :: _ => true
  | .streamEnd :: _ => true
  | _ => false

/-- Whether a document has no content. -/
def isBareDocument : List Token → Bool
  | .documentEnd :: _ => true
  | ts => startsExplicitly ts

/-- Reads the only document of a stream; a stream without documents has none. -/
def readStream (ts : List Token) : Except Failure (Option Node) :=
  let fuel := 4 * ts.length + 4
  if ts.head? == some .streamEnd then .ok none
  else if startsExplicitly ts then do
    let (ts, ctx) ← readDirectives false [] {} ts
    match ts with
    | .documentStart :: ts =>
      if isBareDocument ts then finish Node.empty ts
      else do
        let (n, rest, _) ← read fuel true false ts ctx
        finish n rest
    | _ => unexpected ts
  else do
    let (n, rest, _) ← read fuel true false ts {}
    finish n rest
where
  /-- After the document only marks of its end may follow. -/
  finish (n : Node) (ts : List Token) : Except Failure (Option Node) :=
    let rest := ts.dropWhile (· == .documentEnd)
    if rest == [.streamEnd] then .ok (some n) else unexpected rest

/-! ### Looking at nodes -/

mutual

/-- The number of levels of a node. -/
def depth : Node → Nat
  | .scalar _ _ _ => 1
  | .sequence _ _ items => depthOfItems items + 1
  | .mapping _ _ pairs => depthOfPairs pairs + 1
  | .reference _ => 1

/-- The greatest number of levels of some nodes. -/
def depthOfItems : List Node → Nat
  | [] => 0
  | n :: ns => max (depth n) (depthOfItems ns)

/-- The greatest number of levels of keys and values. -/
def depthOfPairs : List (Node × Node) → Nat
  | [] => 0
  | (k, v) :: ps => max (max (depth k) (depth v)) (depthOfPairs ps)

end

mutual

/-- The node of a number inside another. -/
def find? (id : Nat) : Node → Option Node
  | .scalar _ _ _ => none
  | .reference _ => none
  | .sequence i tag items =>
    if i = id then some (.sequence i tag items) else findInItems? id items
  | .mapping i tag pairs =>
    if i = id then some (.mapping i tag pairs) else findInPairs? id pairs

/-- The node of a number inside some nodes. -/
def findInItems? (id : Nat) : List Node → Option Node
  | [] => none
  | n :: ns => (find? id n).orElse fun _ => findInItems? id ns

/-- The node of a number inside keys and values. -/
def findInPairs? (id : Nat) : List (Node × Node) → Option Node
  | [] => none
  | (k, v) :: ps =>
    ((find? id k).orElse fun _ => find? id v).orElse fun _ => findInPairs? id ps

end

/-- The node that a node stands for, inside `root`. -/
def target (root : Node) : Node → Node
  | .reference id => (root.find? id).getD Node.empty
  | n => n

end Node

/-! ### Levels -/

/-- The number of levels that tokens open, the most that are open at a time. -/
def openLevels (level most : Nat) : List Token → Nat
  | [] => most
  | t :: ts =>
    match t with
    | .flowSequenceStart | .flowMappingStart | .blockSequenceStart | .blockMappingStart =>
      openLevels (level + 1) (max most (level + 1)) ts
    | .flowSequenceEnd | .flowMappingEnd | .blockEnd => openLevels (level - 1) most ts
    | _ => openLevels level most ts

end Stylebook.Yaml
