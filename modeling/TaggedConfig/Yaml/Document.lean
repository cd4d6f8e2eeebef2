import TaggedConfig.Yaml.Anchor
import TaggedConfig.Yaml.Scalar

/-! The values of YAML documents.
Aliases are followed as often as they occur, up to a limit.
-/

namespace TaggedConfig.Yaml

namespace Node

/-- What is left of the times that an alias may be followed. -/
abbrev Followed := StateT Nat Option

/-- The node that a node stands for. -/
def follow? (targets : List (Nat × Node Nat)) : Node Nat → Followed (Node Nat)
  | .alias number => do
      match ← get, targets.lookup number with
      | left + 1, some target =>
          StateT.set left
          pure target
      | _, _ => failure
  | node => pure node

/-- The name of a member that a key stands for, which is a scalar. -/
def key? (targets : List (Nat × Node Nat)) (key : Node Nat) : Followed String := do
  match ← follow? targets key with
  | .scalar _ text _ => pure text
  | _ => failure

def isApplicationTag (tag : Option String) : Bool := tag.any (·.startsWith "!")

def scalarValue? (tag : Option String) (text : String) (plain : Bool) : Option Json :=
  match tag with
  | some tag => tagged? tag text
  | none => if plain then plain? text else some (.string text)

/-- The value of a node with at most `room` containers within each other. -/
def value? (targets : List (Nat × Node Nat)) (room : Nat) (node : Node Nat) : Followed Json := do
  match room, ← follow? targets node with
  | _, .scalar properties text plain => scalarValue? properties.tag text plain
  | room + 1, .sequence properties items => do
      if isApplicationTag properties.tag then failure
      pure (.array (← items.mapM (value? targets room)))
  | room + 1, .mapping properties entries => do
      if isApplicationTag properties.tag then failure
      let members ← entries.mapM fun (key, value) => do
        let name ← key? targets key
        pure (name, ← value? targets room value)
      pure (.ofMembers members)
  | _, _ => failure

end Node

/-- The value of the document that a text holds. A text without a document is null. -/
def ofString? (text : String) : Option Json := do
  match ← Node.ofTokens? (← Token.ofText? text.toList) with
  | none => some .null
  | some node =>
      let (node, _) ← node.numbered?.run []
      let targets := node.anchored.reverse
      node.value? targets Node.depthLimit |>.run' (100 * node.size)

end TaggedConfig.Yaml
