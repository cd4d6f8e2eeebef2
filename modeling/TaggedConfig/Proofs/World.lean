import TaggedConfig.World

/-! Actions that succeed in a world, with what they give and the world they leave behind. -/

namespace TaggedConfig.World

variable {α β ε ε' : Type}

/-- Run in the first world, the action succeeds with a result and leaves the second world. -/
def Yields (action : ExceptT ε (StateM World) α) (world : World) (a : α) (after : World)
    : Prop :=
  action.run.run world = (.ok a, after)

/-- An action whose result is known leaves some world. -/
theorem yields_of_fst {action : ExceptT ε (StateM World) α} {world : World} {a : α}
    (h : (action.run.run world).1 = .ok a)
    : Yields action world a (action.run.run world).2 :=
  Prod.ext h rfl

theorem Yields.pure (world : World) (a : α)
    : Yields (pure a : ExceptT ε (StateM World) α) world a world := rfl

theorem Yields.log (world : World) (level : Level) (text : String)
    : Yields (Action.log level text) world () { world with log := world.log ++ [(level, text)] } :=
  rfl

theorem Yields.lookup (world : World) (name : String)
    : Yields (ExceptT.lift (Host.lookup name) : Action (StateM World) (Option Bytes)) world
        (world.environment.lookup name) world := rfl

/-- A sequence succeeds if its parts do, the second in the world that the first leaves. -/
theorem Yields.bind {first : ExceptT ε (StateM World) α} {second : α → ExceptT ε (StateM World) β}
    {world between after : World} {a : α} {b : β} (h : Yields first world a between)
    (h' : Yields (second a) between b after)
    : Yields (first >>= second) world b after := by
  simp only [Yields] at h h' ⊢
  rw [ExceptT.run_bind, StateT.run_bind, h]
  exact h'

theorem Yields.map {action : ExceptT ε (StateM World) α} {world after : World} {a : α}
    (h : Yields action world a after) (f : α → β)
    : Yields (f <$> action) world (f a) after := by
  simp only [Yields] at h ⊢
  rw [ExceptT.run_map, StateT.run_map, h]
  rfl

theorem Yields.adapt {action : ExceptT ε (StateM World) α} {world after : World} {a : α}
    (h : Yields action world a after) (f : ε → ε')
    : Yields (action.adapt f) world a after := by
  have run : (action.adapt f).run = Except.mapError f <$> action.run := rfl
  simp only [Yields] at h ⊢
  rw [run, StateT.run_map, h]
  rfl

end TaggedConfig.World
