import Stylebook.Item.Basic
import Stylebook.ParseError

/-!
# Reading an item

A passage is read from its start: blanks, slashes and stars are passed over, a tag (`@keyword`) is
read by the rule of its keyword, a dollar sign opens a variable declaration, and any other line
belongs to the description. A signature (`@function`, `@mixin`) is the last thing that is read.

Each reading takes the text that is left and gives what it has read with the text left after it.
-/

namespace Stylebook

open Text

/-- The tags of documentation comments. -/
inductive Tag where
  | access
  | since
  | aliasOf
  | author
  | deprecated
  | throws
  | todo
  | requires
  | ignore
  | param
  | link
  | returns
  | var
  | signature (kind : Kind)
  deriving DecidableEq, Repr

/-- The keywords of the tags. -/
def Tag.keywords : List (String × Tag) :=
  [("access", .access), ("since", .since), ("alias", .aliasOf), ("author", .author),
   ("deprecated", .deprecated), ("throws", .throws), ("exception", .throws), ("todo", .todo),
   ("requires", .requires), ("require", .requires), ("ignore", .ignore), ("param", .param),
   ("arg", .param), ("argument", .param), ("link", .link), ("return", .returns),
   ("returns", .returns), ("var", .var), ("function", .signature .function),
   ("mixin", .signature .mixin)]

/-- The tag of a keyword. -/
def Tag.ofKeyword? (keyword : List Char) : Option Tag :=
  Tag.keywords.lookup (String.ofList keyword)

/-- The kinds that a requirement may declare, by their words. -/
def Requirement.kinds : List (String × Kind) :=
  [("function", .function), ("mixin", .mixin), ("var", .var)]

namespace Item

/-! ### Parts of a line -/

/-- A captured text: its words, one space apart. -/
def captured (s : List Char) : String :=
  String.ofList (collapse s)

/-- The captured rest of the line. -/
def restOfLine (s : List Char) : String :=
  captured (line s)

/-- The tags of a group of types, which stand between bars with a blank on either side. -/
def splitTypes : List Char → List (List Char)
  | [] => [[]]
  | ' ' :: '|' :: ' ' :: s => [] :: splitTypes s
  | c :: s => extendFirst c (splitTypes s)

/-- Reads a group of types in braces. -/
def readTypes (s : List Char) : Except Fault (List String × List Char) :=
  match skipSpaces s with
  | '{' :: r =>
    match cutAt? (· == '}') r with
    | some (group, rest) => .ok ((splitTypes (collapse group)).map String.ofList, rest)
    | none => .error ⟨.unterminated ["\x7d"], r⟩
  | r => .error ⟨.unexpected "\x7b" r.head?, r⟩

/-- The text after a hyphen and the spaces behind it; a hyphen is not needed. -/
def skipHyphen : List Char → List Char
  | '-' :: s => skipSpaces s
  | s => s

/-- Reads the default value of a parameter, in parentheses, if there is one. -/
def readDefault : List Char → Except Fault (String × List Char)
  | '(' :: s =>
    match cutAt? (· == ')') s with
    | some (value, rest) => .ok (captured value, skipSpaces rest)
    | none => .error ⟨.unterminated [")"], s⟩
  | s => .ok ("", s)

/-- Where the name of a parameter ends. -/
def endsParameterName (c : Char) : Bool :=
  isWordEnd c || c == '('

/-- Reads a parameter: types, name, default value and description. -/
def readParameter (s : List Char) : Except Fault (Parameter × List Char) :=
  match readTypes s with
  | .error f => .error f
  | .ok (types, r) =>
    match skipSpaces r with
    | '$' :: r =>
      match readDefault (skipSpaces (fromStop endsParameterName r)) with
      | .error f => .error f
      | .ok (value, rest) =>
        let rest := skipHyphen rest
        .ok (⟨types, String.ofList (before endsParameterName r), value, restOfLine rest⟩,
          nextLine rest)
    | r => .error ⟨.unexpected "$" r.head?, r⟩

/-- Reads what a function returns: types and description. -/
def readReturned (s : List Char) : Except Fault (Returned × List Char) :=
  match readTypes s with
  | .error f => .error f
  | .ok (types, r) =>
    let r := skipHyphen (skipSpaces r)
    .ok (⟨types, restOfLine r⟩, nextLine r)

/-- Reads the kind of a requirement, in braces, if there is one. -/
def readRequiredKind : List Char → Except Fault (Option Kind × List Char)
  | '{' :: s =>
    match cutAt? (· == '}') s with
    | none => .error ⟨.unterminated ["\x7d"], s⟩
    | some (group, rest) =>
      match Requirement.kinds.lookup (captured group) with
      | some kind => .ok (some kind, skipSpaces rest)
      | none => .error ⟨.invalidRequirement (collapse group), rest⟩
  | s => .ok (none, s)

/-- Reads a requirement: its kind, if it has one, and its target. -/
def readRequirement (s : List Char) : Except Fault (Requirement × List Char) :=
  match readRequiredKind s with
  | .error f => .error f
  | .ok (kind, r) => .ok (⟨restOfLine r, kind⟩, nextLine r)

/-- Reads a link: its address and its label. -/
def readLink (s : List Char) : Link × List Char :=
  let r := skipSpaces (fromStop isWordEnd s)
  (.of (String.ofList (before isWordEnd s)) (restOfLine r), nextLine r)

/-! ### Variables -/

/-- A value without the flags that make its variable global. -/
def dropGlobalFlag : List Char → List Char
  | [] => []
  | '!' :: 'g' :: 'l' :: 'o' :: 'b' :: 'a' :: 'l' :: s => dropGlobalFlag s
  | c :: s => c :: dropGlobalFlag s

/-- Whether a value has a flag that makes its variable global. -/
def hasGlobalFlag : List Char → Bool
  | [] => false
  | '!' :: 'g' :: 'l' :: 'o' :: 'b' :: 'a' :: 'l' :: _ => true
  | _ :: s => hasGlobalFlag s

/-- Where the name of a variable ends. -/
def endsVariableName (c : Char) : Bool :=
  isWordEnd c || c == ':'

/-- The text after a colon and the spaces behind it; a colon is not needed. -/
def skipColon : List Char → List Char
  | ':' :: s => skipSpaces s
  | s => s

/-- Reads a variable declaration after its dollar sign. -/
def readVariable (item : Item) (s : List Char) : Except Fault (Item × List Char) :=
  let r := skipColon (skipSpaces (fromStop endsVariableName s))
  match cutAt? (· == ';') r with
  | none => .error ⟨.unterminated [";"], r⟩
  | some (value, rest) =>
    .ok
      ({ item with
          kind := item.kind <|> some .var
          name := String.ofList (before endsVariableName s)
          access := some (if hasGlobalFlag value then "global" else "scoped")
          value := some (captured (dropGlobalFlag value)) },
        nextLine rest)

/-! ### The whole item -/

/-- Add a line to the description. -/
def describe (item : Item) (text : String) : Item :=
  { item with
    description := some (match item.description with
      | none => text
      | some before => before ++ "\n" ++ text) }

/-- Where the name in a signature ends. -/
def endsSignatureName (c : Char) : Bool :=
  c == '(' || c == '{' || c == '\n'

/-- Reads the documentation of a variable: its types, and a description unless the declaration
follows on the same line. -/
def readVarTag (item : Item) (s : List Char) : Except Fault (Item × List Char) :=
  match readTypes s with
  | .error f => .error f
  | .ok (types, r) =>
    let item := { item with kind := some .var, datatype := types }
    match skipHyphen (skipSpaces r) with
    | '$' :: r => .ok (item, '$' :: r)
    | r =>
      let text := restOfLine r
      .ok (if text.isEmpty then item else item.describe text, nextLine r)

/-- Reads what follows a tag, after the spaces behind its keyword. -/
def readTag (item : Item) (tag : Tag) (s : List Char) : Except Fault (Item × List Char) :=
  match tag with
  | .access => .ok ({ item with access := some (restOfLine s) }, nextLine s)
  | .since => .ok ({ item with since := some (restOfLine s) }, nextLine s)
  | .aliasOf => .ok ({ item with aliasOf := some (restOfLine s) }, nextLine s)
  | .author => .ok ({ item with author := some (restOfLine s) }, nextLine s)
  | .deprecated =>
    -- A tag may follow on the same line.
    if s.head? = some '@' then .ok ({ item with deprecated := some "" }, s)
    else .ok ({ item with deprecated := some (restOfLine s) }, nextLine s)
  | .throws => .ok ({ item with throws := item.throws ++ [restOfLine s] }, nextLine s)
  | .todo => .ok ({ item with todo := item.todo ++ [restOfLine s] }, nextLine s)
  | .requires =>
    match readRequirement s with
    | .error f => .error f
    | .ok (r, rest) => .ok ({ item with requires := item.requires ++ [r] }, rest)
  | .ignore => .ok (item, nextLine s)
  | .param =>
    match readParameter s with
    | .error f => .error f
    | .ok (p, rest) => .ok ({ item with parameters := item.parameters ++ [p] }, rest)
  | .link =>
    let (l, rest) := readLink s
    .ok ({ item with links := item.links ++ [l] }, rest)
  | .returns =>
    match readReturned s with
    | .error f => .error f
    | .ok (r, rest) => .ok ({ item with returns := some r }, rest)
  | .var => readVarTag item s
  | .signature kind =>
    -- Nothing after a signature belongs to the documentation.
    .ok ({ item with kind := some kind, name := captured (before endsSignatureName s) }, [])

/-- Characters that are passed over between lines: blanks and what is left of comment marks. -/
def isPassedOver (c : Char) : Bool :=
  isWordEnd c || c == '/' || c == '*'

/-- Reads on from the character `c`, which `s` follows. -/
def step (item : Item) (c : Char) (s : List Char) : Except Fault (Item × List Char) :=
  if isPassedOver c then .ok (item, s)
  else if c = '@' then
    let keyword := before isWordEnd s
    match Tag.ofKeyword? keyword with
    | none => .error ⟨.unknownTag keyword, c :: s⟩
    | some tag => readTag item tag (skipSpaces (fromStop isWordEnd s))
  else if c = '$' then readVariable item s
  else .ok (item.describe (String.ofList (c :: line s)), nextLine s)

/-! ### Each reading leaves no more text than it was given -/

theorem length_skipHyphen_le (s : List Char) : (skipHyphen s).length ≤ s.length := by
  unfold skipHyphen
  split
  · exact Nat.le_succ_of_le (length_skipSpaces_le _)
  · exact Nat.le_refl _

theorem length_skipColon_le (s : List Char) : (skipColon s).length ≤ s.length := by
  unfold skipColon
  split
  · exact Nat.le_succ_of_le (length_skipSpaces_le _)
  · exact Nat.le_refl _

theorem length_le_of_readTypes {s rest : List Char} {types : List String}
    (h : readTypes s = .ok (types, rest)) : rest.length ≤ s.length := by
  have hs := length_skipSpaces_le s
  unfold readTypes at h
  split at h
  · rename_i r heq
    simp only [heq, List.length_cons] at hs
    split at h
    · rename_i hcut
      cases h
      have := length_lt_of_cutAt? hcut
      omega
    · cases h
  · cases h

theorem length_le_of_readDefault {s rest : List Char} {value : String}
    (h : readDefault s = .ok (value, rest)) : rest.length ≤ s.length := by
  unfold readDefault at h
  split at h
  · split at h
    · rename_i left hcut
      cases h
      have h₁ := length_lt_of_cutAt? hcut
      have h₂ := length_skipSpaces_le left
      simp only [List.length_cons]
      omega
    · cases h
  · cases h
    exact Nat.le_refl _

theorem length_le_of_readParameter {s rest : List Char} {p : Parameter}
    (h : readParameter s = .ok (p, rest)) : rest.length ≤ s.length := by
  unfold readParameter at h
  split at h
  · cases h
  · rename_i types r ht
    have h₁ := length_le_of_readTypes ht
    have h₂ := length_skipSpaces_le r
    split at h
    · rename_i r' heq
      simp only [heq, List.length_cons] at h₂
      split at h
      · cases h
      · rename_i value left hd
        cases h
        have h₃ := length_le_of_readDefault hd
        have h₄ := length_skipSpaces_le (fromStop endsParameterName r')
        have h₅ := length_fromStop_le endsParameterName r'
        have h₆ := length_nextLine_le (skipHyphen left)
        have h₇ := length_skipHyphen_le left
        omega
    · cases h

theorem length_le_of_readReturned {s rest : List Char} {r : Returned}
    (h : readReturned s = .ok (r, rest)) : rest.length ≤ s.length := by
  unfold readReturned at h
  split at h
  · cases h
  · rename_i types r ht
    cases h
    have h₁ := length_le_of_readTypes ht
    have h₂ := length_nextLine_le (skipHyphen (skipSpaces r))
    have h₃ := length_skipHyphen_le (skipSpaces r)
    have h₄ := length_skipSpaces_le r
    omega

theorem length_le_of_readRequirement {s rest : List Char} {r : Requirement}
    (h : readRequirement s = .ok (r, rest)) : rest.length ≤ s.length := by
  unfold readRequirement at h
  split at h
  · cases h
  · rename_i kind left hk
    cases h
    have h₁ := length_nextLine_le left
    unfold readRequiredKind at hk
    split at hk
    · split at hk
      · cases hk
      · rename_i hcut
        split at hk
        · cases hk
          have h₂ := length_lt_of_cutAt? hcut
          have h₃ := length_skipSpaces_le ‹List Char›
          simp only [List.length_cons]
          omega
        · cases hk
    · cases hk
      exact h₁

theorem length_readLink_le (s : List Char) : (readLink s).2.length ≤ s.length := by
  have h₁ := length_nextLine_le (skipSpaces (fromStop isWordEnd s))
  have h₂ := length_skipSpaces_le (fromStop isWordEnd s)
  have h₃ := length_fromStop_le isWordEnd s
  simp only [readLink]
  omega

theorem length_le_of_readVariable {item item' : Item} {s rest : List Char}
    (h : readVariable item s = .ok (item', rest)) : rest.length ≤ s.length := by
  unfold readVariable at h
  simp only at h
  split at h
  · cases h
  · rename_i value left hcut
    cases h
    have h₁ := length_lt_of_cutAt? hcut
    have h₂ := length_nextLine_le left
    have h₃ := length_skipColon_le (skipSpaces (fromStop endsVariableName s))
    have h₄ := length_skipSpaces_le (fromStop endsVariableName s)
    have h₅ := length_fromStop_le endsVariableName s
    omega

theorem length_le_of_readVarTag {item item' : Item} {s rest : List Char}
    (h : readVarTag item s = .ok (item', rest)) : rest.length ≤ s.length := by
  unfold readVarTag at h
  split at h
  · cases h
  · rename_i types r ht
    have h₁ := length_le_of_readTypes ht
    have h₂ := length_skipHyphen_le (skipSpaces r)
    have h₃ := length_skipSpaces_le r
    simp only at h
    split at h
    · rename_i heq
      cases h
      rw [← heq]
      omega
    · cases h
      have h₄ := length_nextLine_le (skipHyphen (skipSpaces r))
      omega

theorem length_le_of_readTag {item item' : Item} {tag : Tag} {s rest : List Char}
    (h : readTag item tag s = .ok (item', rest)) : rest.length ≤ s.length := by
  have hline := length_nextLine_le s
  cases tag <;> simp only [readTag] at h
  case deprecated =>
    split at h
    · cases h
      exact Nat.le_refl _
    · cases h
      exact hline
  case requires =>
    split at h
    · cases h
    · rename_i hr
      cases h
      exact length_le_of_readRequirement hr
  case param =>
    split at h
    · cases h
    · rename_i hr
      cases h
      exact length_le_of_readParameter hr
  case link =>
    cases h
    exact length_readLink_le s
  case returns =>
    split at h
    · cases h
    · rename_i hr
      cases h
      exact length_le_of_readReturned hr
  case var => exact length_le_of_readVarTag h
  case signature =>
    cases h
    exact Nat.zero_le _
  all_goals
    cases h
    exact hline

theorem length_le_of_step {item item' : Item} {c : Char} {s rest : List Char}
    (h : step item c s = .ok (item', rest)) : rest.length ≤ s.length := by
  unfold step at h
  split at h
  · cases h
    exact Nat.le_refl _
  · split at h
    · simp only at h
      split at h
      · cases h
      · have h₁ := length_le_of_readTag h
        have h₂ := length_skipSpaces_le (fromStop isWordEnd s)
        have h₃ := length_fromStop_le isWordEnd s
        omega
    · split at h
      · exact length_le_of_readVariable h
      · cases h
        exact length_nextLine_le s

/-- Reads on to the end of a passage. -/
def readOn (item : Item) : List Char → Except Fault Item
  | [] => .ok item
  | c :: s =>
    match _h : step item c s with
    | .error f => .error f
    | .ok (item', rest) => readOn item' rest
termination_by s => s.length
decreasing_by exact Nat.lt_succ_of_le (length_le_of_step _h)

/-- Reads the item of a passage. -/
def ofPassage (passage : List Char) : Except ParseError Item :=
  match readOn {} passage with
  | .ok item => .ok item
  | .error f => .error (.ofFault passage f)

end Item

end Stylebook
