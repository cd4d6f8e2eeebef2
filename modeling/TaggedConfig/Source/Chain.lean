import TaggedConfig.Host
import TaggedConfig.Source.Descriptor

/-! Chains of source loaders.
A descriptor is offered to each loader in turn until one does not disown it, and what that
one says is final.
-/

namespace TaggedConfig

/-- What a loader makes of a descriptor: its bytes, or nothing since another scheme owns it. -/
inductive Probe where
  | loaded (bytes : Bytes)
  | wrongFormat
  deriving DecidableEq, Repr

/-- What the loads of one expansion have in common. -/
structure Context where
  /-- The directory of relative file paths; the working directory if there is none. -/
  baseDirectory : Option String := none
  patience : Patience := {}
  deriving DecidableEq, Repr

/-- A loader of sources. -/
structure SourceLoader (m : Type → Type) where
  name : String
  load : Context → String → Action m Probe

/-- Loaders in the order in which they are tried. -/
abbrev Chain (m : Type → Type) := List (SourceLoader m)

namespace Chain

variable {m : Type → Type} [Monad m] [Host m]

def names (chain : Chain m) : List String := chain.map (·.name)

/-- Offers a descriptor to each loader. The error of a load names its descriptor. -/
def offer (context : Context) (descriptor : String) : Chain m → Action m Bytes
  | [] => .fail (.internal s!"no loader accepts source '{Descriptor.redact descriptor}'")
  | loader :: others => do
      let probe ←
        (loader.load context descriptor).adapt (·.withSource (Descriptor.redact descriptor))
      match probe with
      | .wrongFormat => offer context descriptor others
      | .loaded bytes =>
          let shown := Descriptor.redact descriptor
          .log .debug s!"Loaded {bytes.length} bytes from '{shown}' ({loader.name} loader)"
          pure bytes

/-- Loads the bytes of a descriptor, unless loading has been cancelled. -/
def load (chain : Chain m) (context : Context) (descriptor : String) : Action m Bytes := do
  Action.checkCancelled
  chain.offer context descriptor

end Chain

end TaggedConfig
