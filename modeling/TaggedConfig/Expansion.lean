import TaggedConfig.Source.Chain
import TaggedConfig.Tag.Substitution
import TaggedConfig.Text.Utf8

/-! Recursive expansion of tags.
The content of a tag is expanded, what it names is looked up or loaded, and that is expanded
in turn before it takes the place of the tag. A ceiling bounds the depth.
-/

namespace TaggedConfig

/-- The depth up to which tags are expanded unless another ceiling is set. -/
def defaultCeiling : UInt64 := 4

/-- How tags are expanded. -/
structure Expander (m : Type → Type) where
  chain : Chain m
  context : Context := {}
  ceiling : UInt64 := defaultCeiling

/-- How many levels of expansion a ceiling leaves from a depth on: none above the ceiling. -/
def levels (ceiling depth : UInt64) : Nat := ceiling.toNat + 1 - depth.toNat

/-- The depth after another. Depths are words of 64 bits, and the greatest has none after it. -/
def deeper {m : Type → Type} [Monad m] (depth : UInt64) : Action m UInt64 :=
  if depth.toNat + 1 < UInt64.size then pure (depth + 1) else .fail .depthOverflow

/-- Expands a buffer at a depth from which a number of levels is left. The content of each tag
is expanded, resolved to what it stands for and that expanded too, both one level deeper.
-/
def expandWithin {m : Type → Type} [Monad m]
    (resolve : UInt64 → Tag.Kind → Bytes → Action m Bytes) (ceiling : UInt64)
    : Nat → UInt64 → Bytes → Action m Bytes
  | 0, _, _ => .fail (.tooManyLevels ceiling)
  | levels + 1, depth, data =>
      (Cursor.ofBytes data).substitute (fun offset => .ofFault (.unterminatedTag offset))
        fun kind raw => do
          let next ← deeper depth
          let content ← expandWithin resolve ceiling levels next raw
          let found ← resolve depth kind content
          expandWithin resolve ceiling levels next found

namespace Expander

variable {m : Type → Type} [Monad m] [Host m]

/-- The value of the variable that a tag names. A variable without text counts as missing,
as does a name that no variable can have.
-/
def lookup (name : String) : Action m Bytes := do
  if name.isEmpty ∨ name.toList.any (fun c => c = '=' ∨ c = '\x00') then
    .fail (.variableMissing name)
  else
    match ← ExceptT.lift (Host.lookup name) with
    | none => .fail (.variableMissing name)
    | some value =>
        if value.isEmpty ∨ (Utf8.decode? value).isNone then .fail (.variableMissing name)
        else pure value

/-- The log record that a tag is being resolved. -/
def announcement (kind : Tag.Kind) (shown : String) (depth : UInt64) : String :=
  s!"Expanding $\x7b{kind.keyword}:{shown}\x7d at depth {depth.toNat}"

/-- The bytes that a tag stands for, given its expanded content. -/
def resolve (expander : Expander m) (depth : UInt64) (kind : Tag.Kind) (content : Bytes)
    : Action m Bytes := do
  let text := Utf8.repair content
  match kind with
  | .source =>
      .log .trace (announcement kind (Descriptor.redact text) depth)
      expander.chain.load expander.context text
  | .variable =>
      .log .trace (announcement kind text depth)
      lookup text

/-- Expands a buffer at a depth. -/
def expand (expander : Expander m) (data : Bytes) (depth : UInt64 := 0) : Action m Bytes :=
  expandWithin expander.resolve expander.ceiling (levels expander.ceiling depth) depth data

end Expander

end TaggedConfig
