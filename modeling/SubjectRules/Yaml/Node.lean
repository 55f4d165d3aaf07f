import SubjectRules.Yaml.Lexer

/-!
# YAML nodes

A node is a scalar, a collection or an alias, with its tag but before it is known what
value it stands for.  Anchors are numbered by how many names were in use before them,
and an alias stands for the last node that began under the number of its name.
-/

namespace SubjectRules.Yaml

inductive Node where
  | scalar (tag : Option String) (style : Style) (text : String)
  | sequence (tag : Option String) (items : List Node)
  | mapping (tag : Option String) (entries : List (Node × Node))
  | alias (number : Nat)
  deriving Repr, Inhabited

namespace Node

def absent : Node := .scalar none .plain ""

mutual

/-- How many marks a node makes: one for a scalar or an alias, and two for a collection
beside those of its parts. -/
def weight : Node → Nat
  | .scalar .. => 1
  | .alias _ => 1
  | .sequence _ items => 2 + itemsWeight items
  | .mapping _ entries => 2 + entriesWeight entries

def itemsWeight : List Node → Nat
  | [] => 0
  | item :: rest => weight item + itemsWeight rest

def entriesWeight : List (Node × Node) → Nat
  | [] => 0
  | (key, value) :: rest => weight key + weight value + entriesWeight rest

end

end Node

structure Anchored where
  number : Nat
  order : Nat
  node : Node
  deriving Repr

structure Tree where
  root : Node
  anchored : List Anchored
  deriving Repr

namespace Tree

def target? (t : Tree) (number : Nat) : Option Node :=
  let candidates := t.anchored.filter (·.number = number)
  let latest := candidates.foldl
    (fun found a =>
      match found with
      | some (b : Anchored) => if b.order < a.order then some a else found
      | none => some a)
    none
  latest.map Anchored.node

end Tree

/-! ## Nodes of tokens -/

structure Composer where
  tokens : List Token
  handles : List (String × String) := []
  names : List (String × Nat) := []
  begun : Nat := 0
  anchored : List Anchored := []

abbrev Compose := StateT Composer (Except ReadError)

namespace Compose

def peek : Compose Token := do return (← get).tokens.headD .streamEnd

def skip : Compose Unit := modify fun s => { s with tokens := s.tokens.drop 1 }

def nextIn (tokens : List Token) : Compose Bool := do return tokens.contains (← peek)

/-! ### Properties -/

structure Properties where
  anchor : Option String := none
  tag : Option String := none

def tagOf (handle suffix : String) : Compose String := do
  if handle.isEmpty then return suffix
  match (← get).handles.lookup handle with
  | some start => return start ++ suffix
  | none => throw .tag

def takeProperties : Compose Properties := do
  match ← peek with
  | .anchor name => do
      skip
      match ← peek with
      | .tag handle suffix => do
          skip
          return { anchor := some name, tag := some (← tagOf handle suffix) }
      | _ => return { anchor := some name }
  | .tag handle suffix => do
      skip
      match ← peek with
      | .anchor name => do
          skip
          return { anchor := some name, tag := some (← tagOf handle suffix) }
      | _ => return { tag := some (← tagOf handle suffix) }
  | _ => return {}

/-- Numbers an anchor whose node begins.  Returns its number and its order. -/
def beginAnchor (name : String) : Compose (Nat × Nat) := do
  let s ← get
  let number := s.names.length
  let names :=
    if (s.names.lookup name).isSome then
      s.names.map fun entry => if entry.1 = name then (name, number) else entry
    else s.names ++ [(name, number)]
  set { s with names, begun := s.begun + 1 }
  return (number, s.begun)

def endAnchor (number order : Nat) (node : Node) : Compose Unit :=
  modify fun s => { s with anchored := ⟨number, order, node⟩ :: s.anchored }

/-! ### Nodes -/

mutual

/-- Takes a node.  `block` allows block collections, and `indentless` a sequence that is
not indented further than the mapping it stands in. -/
def node (block indentless : Bool) : Nat → Compose Node
  | 0 => throw .grammar
  | fuel + 1 => do
      match ← peek with
      | .alias name => do
          skip
          match (← get).names.lookup name with
          | some number => return .alias number
          | none => throw .alias
      | _ => do
          let properties ← takeProperties
          match properties.anchor with
          | none => content block indentless properties.tag properties.tag.isSome fuel
          | some name => do
              let (number, order) ← beginAnchor name
              let found ← content block indentless properties.tag true fuel
              endAnchor number order found
              return found

def content (block indentless : Bool) (tag : Option String) (optional : Bool) :
    Nat → Compose Node
  | 0 => throw .grammar
  | fuel + 1 => do
      match ← peek with
      | .scalar style text => do
          skip
          return .scalar (if tag = some "!" then none else tag) style text
      | .flowSequenceStart => do
          skip
          return .sequence tag (← flowItems true fuel)
      | .flowMappingStart => do
          skip
          return .mapping tag (← flowEntries true fuel)
      | token =>
          if indentless && token = .blockEntry then
            return .sequence tag (← indentlessItems fuel)
          else if block && token = .blockSequenceStart then do
            skip
            return .sequence tag (← blockItems fuel)
          else if block && token = .blockMappingStart then do
            skip
            return .mapping tag (← blockEntries fuel)
          else if optional then return .scalar tag .plain ""
          else throw .grammar

def nodeUnless (enders : List Token) (block indentless : Bool) : Nat → Compose Node
  | 0 => throw .grammar
  | fuel + 1 => do
      if ← nextIn enders then return Node.absent
      else node block indentless fuel

def blockItems : Nat → Compose (List Node)
  | 0 => throw .grammar
  | fuel + 1 => do
      match ← peek with
      | .blockEntry => do
          skip
          let item ← nodeUnless [.blockEntry, .blockEnd] true false fuel
          return item :: (← blockItems fuel)
      | .blockEnd => do
          skip
          return []
      | _ => throw .grammar

/-- Takes the items of a sequence that ends where its mapping goes on. -/
def indentlessItems : Nat → Compose (List Node)
  | 0 => throw .grammar
  | fuel + 1 => do
      match ← peek with
      | .blockEntry => do
          skip
          let item ← nodeUnless [.blockEntry, .key, .value, .blockEnd] true false fuel
          return item :: (← indentlessItems fuel)
      | _ => return []

def blockEntries : Nat → Compose (List (Node × Node))
  | 0 => throw .grammar
  | fuel + 1 => do
      match ← peek with
      | .key => do
          skip
          let key ← nodeUnless [.key, .value, .blockEnd] true true fuel
          let value ←
            if ← nextIn [.value] then do
              skip
              nodeUnless [.key, .value, .blockEnd] true true fuel
            else pure Node.absent
          return (key, value) :: (← blockEntries fuel)
      | .blockEnd => do
          skip
          return []
      | _ => throw .grammar

/-- Takes the items of a flow sequence; an item with a key is a mapping of one entry. -/
def flowItems (first : Bool) : Nat → Compose (List Node)
  | 0 => throw .grammar
  | fuel + 1 => do
      if ← nextIn [.flowSequenceEnd] then do
        skip
        return []
      if !first then
        if ← nextIn [.flowEntry] then skip else throw .grammar
      match ← peek with
      | .flowSequenceEnd => do
          skip
          return []
      | .key => do
          skip
          let pair ← flowPair fuel
          return .mapping none [pair] :: (← flowItems false fuel)
      | _ => do
          let item ← node false false fuel
          return item :: (← flowItems false fuel)

def flowPair : Nat → Compose (Node × Node)
  | 0 => throw .grammar
  | fuel + 1 => do
      let key ←
        if ← nextIn [.value, .flowEntry, .flowSequenceEnd] then do
          skip
          pure Node.absent
        else node false false fuel
      if ← nextIn [.value] then do
        skip
        return (key, ← nodeUnless [.flowEntry, .flowSequenceEnd] false false fuel)
      else return (key, Node.absent)

def flowEntries (first : Bool) : Nat → Compose (List (Node × Node))
  | 0 => throw .grammar
  | fuel + 1 => do
      if ← nextIn [.flowMappingEnd] then do
        skip
        return []
      if !first then
        if ← nextIn [.flowEntry] then skip else throw .grammar
      match ← peek with
      | .flowMappingEnd => do
          skip
          return []
      | .key => do
          skip
          let key ← nodeUnless [.value, .flowEntry, .flowMappingEnd] false false fuel
          let value ←
            if ← nextIn [.value] then do
              skip
              nodeUnless [.flowEntry, .flowMappingEnd] false false fuel
            else pure Node.absent
          return (key, value) :: (← flowEntries false fuel)
      | _ => do
          let key ← node false false fuel
          return (key, Node.absent) :: (← flowEntries false fuel)

end

/-! ### Documents -/

def standardHandles : List (String × String) := [("!", "!"), ("!!", "tag:yaml.org,2002:")]

/-- Takes the directives before a document: at most one version, which is 1.1 or 1.2,
and no handle twice. -/
def directives (versioned : Bool) : Nat → Compose Unit
  | 0 => throw .grammar
  | fuel + 1 => do
      match ← peek with
      | .version major minor => do
          if versioned || major ≠ 1 || (minor ≠ 1 && minor ≠ 2) then throw .directive
          skip
          directives true fuel
      | .tagDirective handle start => do
          let s ← get
          if (s.handles.lookup handle).isSome then throw .directive
          set { s with handles := s.handles ++ [(handle, start)] }
          skip
          directives versioned fuel
      | _ => return ()

def documentEnds : Nat → Compose Unit
  | 0 => throw .grammar
  | fuel + 1 => do
      match ← peek with
      | .documentEnd => do
          skip
          documentEnds fuel
      | .streamEnd => return ()
      | _ => throw .severalDocuments

def document (fuel : Nat) : Compose Node := do
  match ← peek with
  | .streamEnd => return Node.absent
  | _ => do
      let directed := (← peek).isDirective
      directives false fuel
      modify fun s => { s with handles := s.handles ++ standardHandles }
      let root ←
        match ← peek with
        | .documentStart => do
            skip
            let next ← peek
            if next.isDirective || next.isMark then pure Node.absent else node true false fuel
        | _ => if directed then throw .directive else node true false fuel
      documentEnds fuel
      return root

end Compose

def Tree.ofTokens? (tokens : List Token) : Except ReadError Tree := do
  let (root, s) ← (Compose.document (4 * tokens.length + 8)).run { tokens }
  return ⟨root, s.anchored⟩

end SubjectRules.Yaml
