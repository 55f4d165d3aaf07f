import SubjectRules.Yaml.Node
import SubjectRules.Yaml.Scalar

/-!
# Values of YAML nodes

A node stands for a value: aliases are followed, plain scalars are read, and tags are
applied.  Nesting and the number of aliases that are followed are limited, so a small
text cannot stand for a huge value.
-/

namespace SubjectRules.Yaml

def nestingLimit : Nat := 128

def Tree.aliasLimit (t : Tree) : Nat := 100 * t.root.weight

/-- A step that may follow aliases; the state counts how many may still be followed. -/
abbrev Read := StateT Nat (Except ReadError)

namespace Tree

def follow (t : Tree) : Node → Read Node
  | .alias number => do
      let left ← get
      if left = 0 then throw .tooManyAliases
      set (left - 1)
      match t.target? number with
      | some node => return node
      | none => throw .alias
  | node => return node

end Tree

/-! ## Scalars -/

def untaggedScalar (style : Style) (text : String) : Read Yaml :=
  if style = .plain then
    match ofPlain? text with
    | some value => return value
    | none => throw .number
  else return .str text

def coreTag (name : String) : String := "tag:yaml.org,2002:" ++ name

/-- The value of a scalar with a tag that is not one's own: the four that name a kind of
value need a text of that kind, and all others make strings. -/
def coreScalar (tag text : String) : Read Yaml :=
  if tag = coreTag "bool" then
    match boolOfText? text with
    | some b => return .bool b
    | none => throw .tag
  else if tag = coreTag "int" then
    match integerFit text.toList with
    | .fits n => return .num (.int n)
    | _ => throw .tag
  else if tag = coreTag "float" then
    match floatOfText? text with
    | some x => return .num (.float x)
    | none => throw .tag
  else if tag = coreTag "null" then
    if isNullText text then return .null else throw .tag
  else return .str text

def ownTag? (tag : Option String) : Option String :=
  match tag.map String.toList with
  | some ('!' :: name) => some (String.ofList name)
  | _ => none

def withTag (tag : Option String) (value : Yaml) : Read Yaml :=
  match ownTag? tag with
  | none => return value
  | some name => if name.isEmpty then throw .tag else return .tagged name value

def scalarValue (tag : Option String) (style : Style) (text : String) : Read Yaml := do
  match tag, ownTag? tag with
  | some tag, none => coreScalar tag text
  | tag, _ => withTag tag (← untaggedScalar style text)

/-! ## Collections -/

def addEntry (entries : Mapping) (key value : Yaml) : Read Mapping :=
  if entries.any fun entry => entry.1.same key then throw .repeatedKey
  else return entries ++ [(key, value)]

def entriesWith (read : Node → Read Yaml) (entries : List (Node × Node)) : Read Mapping :=
  entries.foldlM
    (fun found (key, node) => do
      let key ← read key
      let value ← read node
      addEntry found key value)
    []

namespace Tree

def value (t : Tree) : Nat → Node → Read Yaml
  | 0, node => do
      match ← t.follow node with
      | .scalar tag style text => scalarValue tag style text
      | _ => throw .tooDeep
  | depth + 1, node => do
      match ← t.follow node with
      | .scalar tag style text => scalarValue tag style text
      | .sequence tag items => do
          let items ← items.mapM (t.value depth)
          withTag tag (.seq items)
      | .mapping tag entries => do
          let entries ← entriesWith (t.value depth) entries
          withTag tag (.map entries)
      | .alias _ => throw .alias

end Tree

end SubjectRules.Yaml
