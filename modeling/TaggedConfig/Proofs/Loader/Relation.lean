import TaggedConfig.Loader
import TaggedConfig.Proofs.Expansion.Relation

/-! Related loads.
A source is found by looking up a variable and writing log records, and expanding it also loads
sources through the chain. What relates these relates the whole.
-/

namespace TaggedConfig.Compositional

variable {m n : Type → Type} [Monad m] [Monad n] [Host m] [Host n]
  {Rel : ∀ {α : Type}, Action m α → Action n α → Prop} {loader : Loader m} {loader' : Loader n}

theorem sourceOfEnvironment (compositional : Compositional @Rel)
    (options : loader.options = loader'.options)
    (looked : ∀ name, Rel (ExceptT.lift (Host.lookup name)) (ExceptT.lift (Host.lookup name)))
    (logged : ∀ level text, Rel (Action.log level text) (Action.log level text))
    : Rel loader.sourceOfEnvironment loader'.sourceOfEnvironment := by
  unfold Loader.sourceOfEnvironment
  rw [options]
  cases loader'.options.environmentVariable with
  | none => exact compositional.pure none
  | some name =>
      refine compositional.bind (looked name) fun value => ?_
      cases value.bind Utf8.decode? with
      | none => exact compositional.pure none
      | some source =>
          dsimp only
          split
          · exact compositional.pure none
          · exact compositional.bind (logged _ _) fun _ => compositional.pure _

theorem sourceOfArguments (compositional : Compositional @Rel)
    (options : loader.options = loader'.options) (arguments : loader.arguments = loader'.arguments)
    (logged : ∀ level text, Rel (Action.log level text) (Action.log level text))
    : Rel loader.sourceOfArguments loader'.sourceOfArguments := by
  unfold Loader.sourceOfArguments
  rw [options, arguments]
  dsimp only
  split
  · exact compositional.throw _
  · exact compositional.throw _
  · exact compositional.bind (logged _ _) fun _ => compositional.pure _

/-- Loaders with the same options and arguments look for a source in the same way. -/
theorem resolveSource (compositional : Compositional @Rel)
    (options : loader.options = loader'.options) (arguments : loader.arguments = loader'.arguments)
    (looked : ∀ name, Rel (ExceptT.lift (Host.lookup name)) (ExceptT.lift (Host.lookup name)))
    (logged : ∀ level text, Rel (Action.log level text) (Action.log level text))
    : Rel loader.resolveSource loader'.resolveSource := by
  unfold Loader.resolveSource
  rw [options]
  split
  · exact compositional.bind (logged _ _) fun _ => compositional.pure _
  · refine compositional.bind (compositional.sourceOfEnvironment options looked logged)
      fun source => ?_
    cases source with
    | none => exact compositional.sourceOfArguments options arguments logged
    | some source => exact compositional.pure source

/-- Without a callback a source is expanded by loads through the chain. -/
theorem expandSource {m : Type → Type} [Monad m] [Host m] [LawfulMonad m]
    {Rel : ∀ {α : Type}, Action m α → Action m α → Prop} {loader : Loader m}
    (compositional : Compositional @Rel) (chained : loader.callback = none)
    (loaded
      : ∀ descriptor,
          Rel (loader.chain.load loader.context descriptor)
            (loader.chain.load loader.context descriptor))
    (looked : ∀ name, Rel (ExceptT.lift (Host.lookup name)) (ExceptT.lift (Host.lookup name)))
    (logged : ∀ level text, Rel (Action.log level text) (Action.log level text))
    (source : String)
    : Rel (loader.expandSource source) (loader.expandSource source) := by
  have fetched : Rel (loader.fetchSource source) (loader.fetchSource source) := by
    unfold Loader.fetchSource
    rw [chained]
    exact loaded source
  refine compositional.bind fetched fun raw => ?_
  exact compositional.expandWithin_alike (compositional.resolve loaded looked logged) _ _ _ _

end TaggedConfig.Compositional
