import Stylebook.Diagnostic
import Stylebook.Log
import Stylebook.Store
import Stylebook.TypeName
import Stylebook.Url

/-!
# Linking

Once all items are in a store, aliases and requirements are recorded on the items that they name,
and the kinds of requirements are filled in. Only the items of the index take part. Names that no
item has, unknown types and bad addresses give diagnostics. A store is linked once.
-/

namespace Stylebook.Store

/-- A pass over a store: the changed store and the diagnostics. -/
abbrev Pass := Store → Store × List Diagnostic

/-- The pass that goes through some names in order. -/
def passOver (step : Store → String → Store × List Diagnostic) : List String → Pass
  | [], s => (s, [])
  | name :: names, s =>
    let (s₁, ds₁) := step s name
    let (s₂, ds₂) := passOver step names s₁
    (s₂, ds₁ ++ ds₂)

/-! ### Aliases -/

/-- Add an element that is not there yet. -/
def addNew {α : Type} [DecidableEq α] (xs : List α) (x : α) : List α :=
  if x ∈ xs then xs else xs ++ [x]

/-- Record the alias of an item on the item that it names. -/
def linkAlias (s : Store) (name : String) : Store × List Diagnostic :=
  match (s.get? name).bind Item.aliasOf with
  | none => (s, [])
  | some target =>
    if target.isEmpty then (s, [])
    else if (s.get? target).isNone then (s, [.unresolvedAlias name target])
    else (s.modify target fun t => { t with aliased := addNew t.aliased name }, [])

/-- Record all aliases. -/
def linkAliases : Pass := fun s =>
  passOver linkAlias s.names s

/-! ### Requirements -/

/-- A requirement with the kind of its target, unless it declares one itself. -/
def completeRequirement (s : Store) (r : Requirement) : Requirement :=
  match r.kind with
  | some _ => r
  | none => { r with kind := (s.get? r.target).bind Item.kind }

/-- Record on the target of a requirement without a kind that `usage` needs it. -/
def recordUsage (usage : Usage) (s : Store) (r : Requirement) : Store × List Diagnostic :=
  match r.kind with
  | some _ => (s, [])
  | none =>
    if (s.get? r.target).isNone then (s, [.unresolvedRequirement usage.name r.target])
    else (s.modify r.target fun t => { t with usedBy := addNew t.usedBy usage }, [])

/-- Record some requirements in order. -/
def recordUsages (usage : Usage) : List Requirement → Pass
  | [], s => (s, [])
  | r :: rs, s =>
    let (s₁, ds₁) := recordUsage usage s r
    let (s₂, ds₂) := recordUsages usage rs s₁
    (s₂, ds₁ ++ ds₂)

/-- Complete the requirements of an item and record them on their targets. -/
def linkRequirements (s : Store) (name : String) : Store × List Diagnostic :=
  match s.get? name with
  | none => (s, [])
  | some item =>
    recordUsages ⟨name, item.kind⟩ item.requires
      (s.modify name fun t => { t with requires := t.requires.map s.completeRequirement })

/-- Link all requirements. -/
def linkAllRequirements : Pass := fun s =>
  passOver linkRequirements s.names s

/-! ### Validation -/

/-- The diagnostics about the types and links of an item that is found under a name. Those about
types are filed under the item's own name. -/
def itemWarnings (name : String) (item : Item) : List Diagnostic :=
  item.parameters.flatMap (fun p =>
    (p.types.filter (!TypeName.isValid ·)).map
      (.invalidParameterType item.name name p.name))
  ++ (match item.returns with
    | none => []
    | some r => (r.types.filter (!TypeName.isValid ·)).map (.invalidReturnType item.name name))
  ++ (item.datatype.filter (!TypeName.isValid ·)).map (.invalidDatatype item.name name)
  ++ (item.links.filter (!Url.isValid ·.url.toList)).map fun l => .invalidLink name l.url

/-- The diagnostics about the types and links of all items of the index. -/
def warnings : Pass := fun s =>
  (s, s.names.flatMap fun name =>
    match s.get? name with
    | none => []
    | some item => itemWarnings name item)

/-! ### All passes -/

/-- Why a store cannot be linked: it has been linked before. -/
inductive LinkError where
  | alreadyResolved
  deriving DecidableEq, Repr

/-- The wording of a link error. -/
def LinkError.message : LinkError → String
  | .alreadyResolved => "cross references were already resolved for this store"

/-- One pass after another. -/
def Pass.andThen (p q : Pass) : Pass := fun s =>
  let (s₁, ds₁) := p s
  let (s₂, ds₂) := q s₁
  (s₂, ds₁ ++ ds₂)

/-- All passes; types and links are checked only if `validate` is set. -/
def linkPass (validate : Bool) : Pass :=
  (Pass.andThen linkAliases linkAllRequirements).andThen
    (if validate then warnings else fun s => (s, []))

/-- Link a store and mark it as linked. -/
def link (s : Store) (validate : Bool) : Store × List Diagnostic :=
  linkPass validate { s with resolved := true }

/-- Link a store that has not been linked before. -/
def resolve (s : Store) (validate : Bool) : Except LinkError (Store × List Diagnostic) :=
  if s.resolved then .error .alreadyResolved else .ok (s.link validate)

/-- What linking writes to the log. -/
def linkLog (diagnostics : List Diagnostic) : List Log.Entry :=
  diagnostics.map fun d => ⟨.warning, .linking, d.summary⟩

end Stylebook.Store
