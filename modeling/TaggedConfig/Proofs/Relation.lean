import TaggedConfig.Host
import TaggedConfig.Proofs.Run

/-! Relations between actions that composition respects.
What is composed of related actions in the same way is related. So one relation after another
is carried from the effects of a host through everything that is built on them.
-/

namespace TaggedConfig

open Run

/-- A relation between actions on two hosts that holds of results, failures and sequences. -/
structure Compositional {m n : Type → Type} [Monad m] [Monad n]
    (Rel : ∀ {α : Type}, Action m α → Action n α → Prop)
    : Prop where
  pure {α : Type} (a : α) : Rel (pure a) (pure a)
  throw {α : Type} (error : Error) : Rel (throw error : Action m α) (throw error)
  bind {α β : Type} {first : Action m α} {first' : Action n α} {second : α → Action m β}
      {second' : α → Action n β}
      : Rel first first' → (∀ a, Rel (second a) (second' a)) →
        Rel (first >>= second) (first' >>= second')

namespace Compositional

variable {m n : Type → Type} [Monad m] [Monad n]
  {Rel : ∀ {α : Type}, Action m α → Action n α → Prop} {α β : Type}

theorem map (compositional : Compositional @Rel) {first : Action m α} {second : Action n α}
    (related : Rel first second) (f : α → β)
    : Rel (f <$> first) (f <$> second) :=
  compositional.bind related fun a => compositional.pure (f a)

/-- Actions for the items of a list are related if those for each item are, by induction on
the list.
-/
theorem mapM [LawfulMonad m] [LawfulMonad n] (compositional : Compositional @Rel)
    {f : α → Action m β} {g : α → Action n β} (related : ∀ a, Rel (f a) (g a)) (items : List α)
    : Rel (items.mapM f) (items.mapM g) := by
  induction items with
  | nil => exact compositional.pure []
  | cons item items ih =>
      rw [List.mapM_cons, List.mapM_cons]
      refine compositional.bind (related item) fun first => ?_
      exact compositional.bind ih fun others => compositional.pure (first :: others)

/-- Loops over a list are related if their bodies are, by induction on the list. -/
theorem forIn (compositional : Compositional @Rel) {f : α → β → Action m (ForInStep β)}
    {g : α → β → Action n (ForInStep β)} (related : ∀ a b, Rel (f a b) (g a b))
    (items : List α) (b : β)
    : Rel (ForIn.forIn items b f) (ForIn.forIn items b g) := by
  induction items generalizing b with
  | nil => exact compositional.pure b
  | cons item items ih =>
      rw [List.forIn_cons, List.forIn_cons]
      refine compositional.bind (related item b) fun step => ?_
      cases step with
      | done b => exact compositional.pure b
      | yield b => exact ih b

/-- Checking the token is composed of asking it. -/
theorem checkCancelled [Host m] [Host n] (compositional : Compositional @Rel)
    (asked : Rel (ExceptT.lift Host.isCancelled) (ExceptT.lift Host.isCancelled))
    : Rel Action.checkCancelled Action.checkCancelled := by
  refine compositional.bind asked fun cancelled => ?_
  cases cancelled with
  | true => exact compositional.throw _
  | false => exact compositional.pure _

end Compositional

variable {σ τ α : Type}

-----------------------------------------------------------------------------------------
-- One action
-----------------------------------------------------------------------------------------

/-- What holds of results, failures and sequences of single actions is a relation of equals. -/
theorem compositional_same {m : Type → Type} [Monad m] {K : ∀ {α : Type}, Action m α → Prop}
    (pure : ∀ {α : Type} (a : α), K (pure a))
    (throw : ∀ {α : Type} (error : Error), K (throw error : Action m α))
    (bind
      : ∀ {α β : Type} {first : Action m α} {second : α → Action m β},
          K first → (∀ a, K (second a)) → K (first >>= second))
    : Compositional fun (first second : Action m _) => first = second ∧ K first where
  pure a := ⟨rfl, pure a⟩
  throw error := ⟨rfl, throw error⟩
  bind {_ _ first first' second second'} head tail := by
    have same : second = second' := funext fun a => (tail a).1
    exact ⟨by rw [head.1, same], bind head.2 fun a => (tail a).2⟩

theorem compositional_keeps (P : σ → Prop)
    : Compositional fun (first second : Action (StateM σ) _) =>
        first = second ∧ Keeps P first :=
  compositional_same .pure .throw .bind

-----------------------------------------------------------------------------------------
-- Two actions in step
-----------------------------------------------------------------------------------------

/-- The two results are the same or both are errors, in a relation. -/
inductive Alike (E : Error → Error → Prop) : Except Error α → Except Error α → Prop where
  | ok (a : α) : Alike E (.ok a) (.ok a)
  | error {error error' : Error} (related : E error error') : Alike E (.error error) (.error error')

theorem Alike.refl {E : Error → Error → Prop} (reflexive : ∀ error, E error error)
    (result : Except Error α)
    : Alike E result result := by
  cases result with
  | ok a => exact .ok a
  | error error => exact .error (reflexive error)

theorem Alike.eq {first second : Except Error α} (alike : Alike Eq first second)
    : first = second := by
  cases alike with
  | ok a => rfl
  | error same => rw [same]

/-- Run from related states, the actions come to the same but for the errors, and leave related
states.
-/
def Mirrors (R : σ → τ → Prop) (E : Error → Error → Prop) (first : Action (StateM σ) α)
    (second : Action (StateM τ) α)
    : Prop :=
  ∀ s t,
    R s t →
      Alike E (outcome first s).1 (outcome second t).1 ∧ R (outcome first s).2 (outcome second t).2

theorem compositional_mirrors (R : σ → τ → Prop) {E : Error → Error → Prop}
    (reflexive : ∀ error, E error error)
    : Compositional (fun first second => Mirrors R E first second) where
  pure a _ _ related := ⟨.ok a, related⟩
  throw error _ _ related := ⟨.error (reflexive error), related⟩
  bind {_ _ first first' second second'} mirrors mirrorsSecond s t related := by
    obtain ⟨alike, between⟩ := mirrors s t related
    rw [outcome_bind, outcome_bind]
    rcases known : outcome first s with ⟨x, s'⟩
    rcases known' : outcome first' t with ⟨y, t'⟩
    rw [known, known'] at alike between
    cases alike with
    | ok a => exact mirrorsSecond a s' t' between
    | error same => exact ⟨.error same, between⟩

/-- What becomes of the errors afterwards does not matter to actions that come to the same. -/
theorem Mirrors.adapt {R : σ → τ → Prop} {first : Action (StateM σ) α}
    {second : Action (StateM τ) α} (mirrors : Mirrors R Eq first second) (f : Error → Error)
    : Mirrors R Eq (first.adapt f) (second.adapt f) := by
  intro s t related
  obtain ⟨alike, after⟩ := mirrors s t related
  rw [outcome_adapt, outcome_adapt, alike.eq]
  exact ⟨.refl (fun _ => rfl) _, after⟩

end TaggedConfig
