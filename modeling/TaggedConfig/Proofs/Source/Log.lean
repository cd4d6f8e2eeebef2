import TaggedConfig.Proofs.Source.Builtin
import TaggedConfig.World

/-! Worlds that differ in their log.
Log records are written and never read, so they make no difference to the built-in loaders.
-/

namespace TaggedConfig

open Run

/-- The other world is the same but for its log. -/
def World.SameButLog (world other : World) : Prop := ∃ log, other = { world with log }

namespace World

variable {α : Type}

/-- What neither reads nor writes the log does the same whatever the log. -/
theorem mirrors_of_logFree {action : StateM World α}
    (free
      : ∀ world log,
          action.run { world with log }
            = ((action.run world).1, { (action.run world).2 with log }))
    : Mirrors SameButLog Eq (ExceptT.lift action) (ExceptT.lift action) := by
  rintro world _ ⟨log, rfl⟩
  rw [outcome_lift, outcome_lift, free world log]
  exact ⟨.ok _, log, rfl⟩

theorem mirrors_log (level level' : Level) (text text' : String)
    : Mirrors SameButLog Eq (Action.log level text) (Action.log level' text') := by
  rintro world _ ⟨log, rfl⟩
  exact ⟨.ok (), _, rfl⟩

theorem mirrors_checkCancelled
    : Mirrors SameButLog Eq Action.checkCancelled Action.checkCancelled :=
  (compositional_mirrors SameButLog (E := Eq) fun _ => rfl).checkCancelled
    (mirrors_of_logFree fun _ _ => rfl)

theorem covers_sameButLog
    : Covers (m := StateM World) (fun first second => Mirrors SameButLog Eq first second) where
  compositional := compositional_mirrors _ fun _ => rfl
  adapt f mirrors := mirrors.adapt f
  log level text := mirrors_log level level text text
  workingDirectory := mirrors_of_logFree fun _ _ => rfl
  readFile _ := mirrors_of_logFree fun _ _ => rfl
  fetch :=
    (compositional_mirrors SameButLog (E := Eq) fun _ => rfl).fetch
      (mirrors_of_logFree fun _ _ => rfl) (fun _ _ => mirrors_of_logFree fun _ _ => rfl)
      fun level text => mirrors_log level level text text

/-- The built-in loaders do not read the log. -/
theorem mirrors_load_builtin (context : Context) (descriptor : String)
    : Mirrors SameButLog Eq (Chain.builtin.load context descriptor)
        (Chain.builtin.load context descriptor) := by
  have compositional := compositional_mirrors SameButLog (E := Eq) fun _ => rfl
  refine compositional.bind mirrors_checkCancelled fun _ => ?_
  exact covers_sameButLog.offer (covers_sameButLog.builtin context descriptor)

end World

end TaggedConfig
