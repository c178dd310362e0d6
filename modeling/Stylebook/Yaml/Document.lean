import Stylebook.Setting.Order
import Stylebook.Yaml.Node
import Stylebook.Yaml.Scalar

/-!
# YAML documents

The setting that a document writes. Plain scalars stand for truth values, numbers, null and dates
where they have their form, and tags give other types; maps can be merged into others. A stream
without a document is null. Of several failures the one of the outermost level counts, and of those
on one level the first.
-/

namespace Stylebook.Yaml

/-! ### Failures -/

/-- A failure, and the level at which it is met. -/
structure Fault where
  level : Nat
  failure : Failure

/-- Two results that are both needed. -/
def both {α β : Type} (a : Except Fault α) (b : Except Fault β) : Except Fault (α × β) :=
  match a, b with
  | .ok x, .ok y => .ok (x, y)
  | .error e, .error f => .error (if f.level < e.level then f else e)
  | .error e, .ok _ => .error e
  | .ok _, .error f => .error f

/-- Some results that are all needed. -/
def all {α : Type} : List (Except Fault α) → Except Fault (List α)
  | [] => .ok []
  | r :: rs => (both r (all rs)).map fun (x, xs) => x :: xs

/-! ### Types -/

/-- The tag of a standard type. -/
def standardTag (name : String) : String :=
  "tag:yaml.org,2002:" ++ name

/-- The types that a tag may give to a scalar. -/
def scalarTags : List (String × ScalarType) :=
  [("null", .null), ("bool", .bool), ("int", .int), ("float", .float), ("binary", .binary),
   ("timestamp", .timestamp), ("merge", .merge), ("value", .default), ("str", .text)]

/-- The type that a tag gives to a scalar. -/
def typeOfTag? (tag : String) : Option ScalarType :=
  (scalarTags.find? fun t => standardTag t.1 == tag).map (·.2)

/-- The type of a scalar, by its form if it is plain and else by its tag. -/
def scalarType? (tag : Option String) (text : List Char) (plain : Bool) : Option ScalarType :=
  if plain then some (Scalar.typeOf text) else tag.elim (some .text) typeOfTag?

/-- The types of nodes with parts. -/
inductive Shape where
  | list
  /-- A list of keys with a value each. -/
  | pairs
  | map
  | set
  deriving DecidableEq, Repr

/-- The types that a tag may give to a node with parts. -/
def shapeTags : List (String × Shape) :=
  [("seq", .list), ("omap", .pairs), ("pairs", .pairs), ("map", .map), ("set", .set)]

/-- The type of a node with parts: its own, if no tag gives another. -/
def shape? (own : Shape) (tag : Option String) : Option Shape :=
  match tag with
  | none => some own
  | some tag =>
    if tag == "!" then some own
    else (shapeTags.find? fun t => standardTag t.1 == tag).map (·.2)

/-! ### Merging -/

/-- Whether a key is a scalar of a type. -/
def isKeyOf (type : ScalarType) : Node → Bool
  | .scalar tag text plain => scalarType? tag text plain == some type
  | _ => false

/-- The keys and values of a map, with those that are merged into it in front. A map that is merged
into itself adds nothing but its own. Of a list of maps that are merged the first counts most. -/
def mergedPairs (fuel : Nat) (root : Node) (around : List Nat) (pairs : List (Node × Node)) :
    Option (List (Node × Node)) :=
  match fuel with
  | 0 => none
  | fuel + 1 =>
    let own := pairs.filter fun p => !isKeyOf .merge p.1
    let ofNode (n : Node) : Option (List (Node × Node)) :=
      match root.target n with
      | .mapping id _ ps =>
        if around.contains id then some (ps.filter fun p => !isKeyOf .merge p.1)
        else mergedPairs fuel root (id :: around) ps
      | _ => none
    let ofValue (n : Node) : Option (List (Node × Node)) :=
      match root.target n with
      | .sequence _ _ items => (items.mapM ofNode).map fun lists => lists.reverse.flatten
      | n => ofNode n
    let merging := pairs.filter fun p => isKeyOf .merge p.1
    (merging.mapM fun p => ofValue p.2).map fun lists => lists.flatten ++ own

/-! ### Settings -/

/-- The text of a node that is to be a scalar: its own, or that of the value of a map. -/
def scalarText? (fuel : Nat) (root : Node) (n : Node) : Option (List Char) :=
  match fuel with
  | 0 => none
  | fuel + 1 =>
    match root.target n with
    | .scalar _ text _ => some text
    | .mapping _ _ pairs =>
      (pairs.find? fun p => isKeyOf .default p.1).bind fun p => scalarText? fuel root p.2
    | _ => none

/-- The value of a map that a tag gives the type of a scalar. -/
def mapAsScalar (fuel : Nat) (root : Node) (n : Node) (type : ScalarType) :
    Except Failure Atom :=
  match type, scalarText? fuel root n with
  | .merge, _ => .error .badYaml
  | .default, _ => .error .badYaml
  | _, none => .error .badYaml
  | .timestamp, some _ => .error .bytesNotText
  | type, some text => Scalar.value type text

/-- A result that is a failure at a level. -/
def atLevel {α : Type} (level : Nat) (r : Except Failure α) : Except Fault α :=
  r.mapError fun failure => ⟨level, failure⟩

/-- What is refused as not being YAML, at a level. -/
def refused {α : Type} (level : Nat) : Except Fault α :=
  .error ⟨level, .badYaml⟩

/-- The key that a node makes, if it is a setting without parts. -/
def keyOf (level : Nat) (k : Node) (r : Except Fault Setting) : Except Fault Atom :=
  match k, r with
  | .scalar _ text _, r =>
    if isKeyOf .default k then .ok (.text (String.ofList text))
    else
      match r with
      | .ok (.atom a) => .ok a
      | .ok _ => refused level
      | .error e => .error { e with level := level }
  | _, .ok (.atom a) => .ok a
  | _, _ => refused level

/-- The setting that a node inside `root` makes, at a level. `around` are the numbers of the nodes
that it stands in, as far as it can be told that it is a part of itself; for `apart` levels each
part is seen as a setting of its own. -/
def settingOf (fuel : Nat) (root : Node) (level : Nat) (around : List Nat) (apart : Nat)
    (n : Node) : Except Fault Setting :=
  match fuel with
  | 0 => .error ⟨level, .tooDeep⟩
  | fuel + 1 =>
    let part (id : Nat) (n : Node) : Except Fault Setting :=
      if apart = 0 then settingOf fuel root (level + 1) (id :: around) 0 n
      else settingOf fuel root (level + 1) [] (apart - 1) n
    let entries (id : Nat) (pairs : List (Node × Node)) : Except Fault Settings :=
      match mergedPairs fuel root [id] pairs with
      | none => refused (level + 1)
      | some pairs =>
        (all (pairs.map fun (k, v) =>
          both (keyOf (level + 1) k (part id k)) (part id v))).map Settings.ofPairs
    match root.target n with
    | .reference _ => refused level
    | .scalar tag text plain =>
      match scalarType? tag text plain with
      | some type => (atLevel level (Scalar.value type text)).map .atom
      | none => refused (if (shape? .list tag).isSome then level + 1 else level)
    | .sequence id tag items =>
      if around.contains id then .ok (.cycle false)
      else
        match shape? .list tag with
        | some .list => (all (items.map (part id))).map .list
        | some .pairs => (all (items.map fun item =>
            match root.target item with
            | .mapping _ _ [(k, v)] =>
              (both (part id k) (part id v)).map fun (k, v) => .pair k v
            | _ => refused (level + 1))).map .list
        | some _ => refused (level + 1)
        | none => refused level
    | .mapping id tag pairs =>
      if around.contains id then .ok (.cycle true)
      else
        match shape? .map tag with
        | some .map => (entries id pairs).map .map
        | some .set => (entries id pairs).map fun es => .set (es.map (·.1))
        | some _ => refused (level + 1)
        | none =>
          match tag.bind typeOfTag? with
          | some type =>
            (atLevel level (mapAsScalar fuel root (.mapping id tag pairs) type)).map .atom
          | none => refused level

/-! ### Texts -/

/-- The greatest number of levels of a document. -/
def maxLevels : Nat :=
  489

/-- The number of levels of a document whose parts are settings of their own: that of the whole, and
that of each setting. -/
def apartLevels : Nat :=
  2

/-- The setting that the document of a text writes. -/
def read (text : List Char) : Except Failure Setting :=
  let tokens := Token.scan text
  if openLevels 0 0 tokens > maxLevels then .error .tooDeep
  else
    match Node.readStream tokens with
    | .error e => .error e
    | .ok none => .ok .null
    | .ok (some n) =>
      if n.depth > maxLevels then .error .tooDeep
      else (settingOf (8 * tokens.length + 16) n 0 [] apartLevels n).mapError Fault.failure

end Stylebook.Yaml
