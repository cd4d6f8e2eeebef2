import Mathlib.Data.List.Forall2
import TaggedConfig.Proofs.Relation
import TaggedConfig.Source.Builtin

/-! What holds of the effects of a host holds of chains of loaders.
The built-in loaders are composed of few effects: log records, the working directory, files and
requests. A chain is composed of its loaders.
-/

namespace TaggedConfig

variable {m : Type → Type} [Monad m] [Host m]

/-- Chains of loaders with the same names are related if their loaders are, pair by pair. By
induction on the chains.
-/
theorem Compositional.offer {m n : Type → Type} [Monad m] [Monad n] [Host m] [Host n]
    {Rel : ∀ {α : Type}, Action m α → Action n α → Prop} (compositional : Compositional @Rel)
    (adapted
      : ∀ {α : Type} {first : Action m α} {second : Action n α} (f : Error → Error),
          Rel first second → Rel (first.adapt f) (second.adapt f))
    (logged : ∀ level text, Rel (Action.log level text) (Action.log level text))
    {chain : Chain m} {chain' : Chain n} {context : Context} {descriptor : String}
    (paired
      : List.Forall₂
          (fun loader loader' =>
            loader.name = loader'.name
            ∧ Rel (loader.load context descriptor) (loader'.load context descriptor))
          chain chain')
    : Rel (chain.offer context descriptor) (chain'.offer context descriptor) := by
  induction paired with
  | nil => exact compositional.throw _
  | @cons loader loader' others others' both _ ih =>
      unfold Chain.offer
      rw [both.1]
      refine compositional.bind (adapted _ both.2) fun probe => ?_
      cases probe with
      | wrongFormat => exact ih
      | loaded bytes =>
          exact compositional.bind (logged _ _) fun _ => compositional.pure bytes

/-- A compositional relation that holds of the effects of the loaders that send requests. -/
structure CoversRequests (Rel : ∀ {α : Type}, Action m α → Action m α → Prop) : Prop where
  compositional : Compositional @Rel
  log (level : Level) (text : String) : Rel (Action.log level text) (Action.log level text)
  fetch (context : Context) (request : Request)
    : Rel (TaggedConfig.fetch context request) (TaggedConfig.fetch context request)

/-- Such a relation that holds of the effects of all built-in loaders and to which it makes no
difference what errors are turned into.
-/
structure Covers (Rel : ∀ {α : Type}, Action m α → Action m α → Prop) : Prop
    extends CoversRequests @Rel where
  workingDirectory
    : Rel (ExceptT.lift (Host.workingDirectory (m := m))) (ExceptT.lift Host.workingDirectory)
  readFile (path : String)
    : Rel (ExceptT.lift (Host.readFile (m := m) path)) (ExceptT.lift (Host.readFile path))
  adapt {α : Type} {first second : Action m α} (f : Error → Error)
    : Rel first second → Rel (first.adapt f) (second.adapt f)

variable {Rel : ∀ {α : Type}, Action m α → Action m α → Prop}

/-- Fetching is composed of asking the token, sending the request and a log record. -/
theorem Compositional.fetch (compositional : Compositional @Rel)
    (asked : Rel (ExceptT.lift Host.isCancelled) (ExceptT.lift Host.isCancelled))
    (sent
      : ∀ patience request,
          Rel (ExceptT.lift (Host.send patience request))
            (ExceptT.lift (Host.send patience request)))
    (logged : ∀ level text, Rel (Action.log level text) (Action.log level text))
    (context : Context) (request : Request)
    : Rel (TaggedConfig.fetch context request) (TaggedConfig.fetch context request) := by
  refine compositional.bind (compositional.checkCancelled asked) fun _ => ?_
  refine compositional.bind (sent _ request) fun exchange => ?_
  cases exchange with
  | answered status body => exact compositional.pure _
  | failed reason => exact compositional.throw _
  | abandoned => exact compositional.bind (logged _ _) fun _ => compositional.throw _
  | lost => exact compositional.throw _

namespace CoversRequests

theorem fetchDocument (covers : CoversRequests @Rel) (context : Context) (url : String)
    : Rel (TaggedConfig.fetchDocument context url) (TaggedConfig.fetchDocument context url) := by
  refine covers.compositional.bind (covers.fetch context _) fun (status, body) => ?_
  dsimp only
  split
  · exact covers.compositional.pure body
  · exact covers.compositional.throw _

theorem perform (covers : CoversRequests @Rel) (context : Context) (request : SecretRequest)
    : Rel (request.perform context) (request.perform context) := by
  refine covers.compositional.bind (covers.fetch context _) fun (status, body) => ?_
  dsimp only
  cases request.answerBytes status body with
  | ok bytes => exact covers.compositional.pure bytes
  | error fault => exact covers.compositional.throw _

theorem loadSecret (covers : CoversRequests @Rel) (context : Context) (address : String)
    : Rel (SecretRequest.load context address) (SecretRequest.load context address) := by
  refine covers.compositional.bind ?_ fun _ => ?_
  · refine covers.compositional.forIn (fun name _ => ?_) _ _
    exact covers.compositional.bind (covers.log _ _) fun _ => covers.compositional.pure _
  · cases SecretRequest.ofAddress address with
    | ok request => exact covers.perform context request
    | error fault => exact covers.compositional.throw _

theorem web (covers : CoversRequests @Rel) (context : Context) (descriptor : String)
    : Rel (SourceLoader.web.load context descriptor)
        (SourceLoader.web.load context descriptor) := by
  unfold SourceLoader.web
  dsimp only
  split
  · exact covers.compositional.map (covers.fetchDocument context descriptor) _
  · exact covers.compositional.pure _

theorem secretStore (covers : CoversRequests @Rel) (context : Context) (descriptor : String)
    : Rel (SourceLoader.secretStore.load context descriptor)
        (SourceLoader.secretStore.load context descriptor) := by
  unfold SourceLoader.secretStore
  dsimp only
  cases Descriptor.secretAddress? descriptor with
  | some address => exact covers.compositional.map (covers.loadSecret context address) _
  | none => exact covers.compositional.pure _

end CoversRequests

namespace Covers

theorem resolvePath (covers : Covers @Rel) (context : Context) (path : String)
    : Rel (context.resolvePath path) (context.resolvePath path) := by
  unfold Context.resolvePath
  split
  · exact covers.compositional.pure path
  · cases context.baseDirectory with
    | some directory => exact covers.compositional.pure _
    | none =>
        refine covers.compositional.bind covers.workingDirectory fun directory => ?_
        cases directory with
        | ok directory => exact covers.compositional.pure _
        | error fault => exact covers.compositional.throw _

theorem readFileSource (covers : Covers @Rel) (path : String)
    : Rel (TaggedConfig.readFileSource path) (TaggedConfig.readFileSource path) := by
  refine covers.compositional.bind (covers.readFile path) fun content => ?_
  match content with
  | .ok bytes => exact covers.compositional.pure bytes
  | .error fault => cases fault <;> exact covers.compositional.throw _

/-- What holds of the effects holds of every built-in loader. -/
theorem builtin (covers : Covers @Rel) (context : Context) (descriptor : String)
    : ∀ loader ∈ Chain.builtin,
        Rel (loader.load context descriptor) (loader.load context descriptor) := by
  rw [Chain.builtin]
  simp only [List.forall_mem_cons]
  refine ⟨covers.web context descriptor, covers.secretStore context descriptor, ?_, ?_, nofun⟩
  · unfold SourceLoader.inline
    dsimp only
    cases Descriptor.inline? descriptor <;> exact covers.compositional.pure _
  · refine covers.compositional.bind (covers.resolvePath context _) fun path => ?_
    exact covers.compositional.map (covers.readFileSource path) _

/-- What holds of the loaders of a chain holds of the chain. -/
theorem offer (covers : Covers @Rel) {chain : Chain m} {context : Context}
    {descriptor : String}
    (loaders
      : ∀ loader ∈ chain, Rel (loader.load context descriptor) (loader.load context descriptor))
    : Rel (chain.offer context descriptor) (chain.offer context descriptor) :=
  covers.compositional.offer covers.adapt covers.log
    (List.forall₂_same.mpr fun loader member => ⟨rfl, loaders loader member⟩)

end Covers

end TaggedConfig
