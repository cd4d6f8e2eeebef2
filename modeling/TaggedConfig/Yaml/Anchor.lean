import TaggedConfig.Yaml.Node

/-! Anchors by number, and the nodes that aliases stand for.
An anchor takes the number of names that are in use before it. Where a name has been used again,
a later anchor can so take over a number, and with it the aliases.
-/

namespace TaggedConfig.Yaml

namespace Node

/-- The numbers that names of anchors stand for. -/
abbrev Numbering := List (String × Nat)

/-- The properties with a number for the name of their anchor. -/
def numberAnchor (properties : Properties String)
    : StateT Numbering Option (Properties Nat) := do
  match properties.anchor with
  | none => pure ⟨none, properties.tag⟩
  | some name =>
      let numbers ← get
      StateT.set ((name, numbers.length) :: numbers.filter (·.1 ≠ name))
      pure ⟨some numbers.length, properties.tag⟩

mutual

/-- The node with numbers for names, unless an alias has a name that no anchor before it has. -/
def numbered? : Node String → StateT Numbering Option (Node Nat)
  | .alias name => do
      match (← get).lookup name with
      | some number => pure (.alias number)
      | none => failure
  | .scalar properties text plain => do
      pure (.scalar (← numberAnchor properties) text plain)
  | .sequence properties items => do
      let properties ← numberAnchor properties
      pure (.sequence properties (← numberedItems? items))
  | .mapping properties entries => do
      let properties ← numberAnchor properties
      pure (.mapping properties (← numberedEntries? entries))

/-- The items of a sequence with numbers for names. -/
def numberedItems? : List (Node String) → StateT Numbering Option (List (Node Nat))
  | [] => pure []
  | item :: items => do
      let item ← numbered? item
      pure (item :: (← numberedItems? items))

/-- The entries of a mapping with numbers for names. -/
def numberedEntries?
    : List (Node String × Node String) → StateT Numbering Option (List (Node Nat × Node Nat))
  | [] => pure []
  | (key, value) :: entries => do
      let key ← numbered? key
      let value ← numbered? value
      pure ((key, value) :: (← numberedEntries? entries))

end

mutual

/-- The nodes with an anchor, in document order. -/
def anchored {α : Type} : Node α → List (α × Node α)
  | .alias _ => []
  | .scalar properties text plain =>
      properties.anchor.toList.map (·, .scalar properties text plain)
  | .sequence properties items =>
      properties.anchor.toList.map (·, .sequence properties items) ++ anchoredItems items
  | .mapping properties entries =>
      properties.anchor.toList.map (·, .mapping properties entries) ++ anchoredEntries entries

/-- The nodes with an anchor among the items of a sequence. -/
def anchoredItems {α : Type} : List (Node α) → List (α × Node α)
  | [] => []
  | item :: items => anchored item ++ anchoredItems items

/-- The nodes with an anchor among the entries of a mapping. -/
def anchoredEntries {α : Type} : List (Node α × Node α) → List (α × Node α)
  | [] => []
  | (key, value) :: entries => anchored key ++ anchored value ++ anchoredEntries entries

end

mutual

/-- The number of scalars and aliases and of starts and ends of containers. -/
def size {α : Type} : Node α → Nat
  | .alias _ | .scalar .. => 1
  | .sequence _ items => itemsSize items + 2
  | .mapping _ entries => entriesSize entries + 2

def itemsSize {α : Type} : List (Node α) → Nat
  | [] => 0
  | item :: items => size item + itemsSize items

def entriesSize {α : Type} : List (Node α × Node α) → Nat
  | [] => 0
  | (key, value) :: entries => size key + size value + entriesSize entries

end

end Node

end TaggedConfig.Yaml
