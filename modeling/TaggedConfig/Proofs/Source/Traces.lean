import TaggedConfig.Proofs.Expansion.Relation
import TaggedConfig.Proofs.Source.Builtin
import TaggedConfig.Proofs.Source.Sending

/-! The traces that loading leaves in a world.
Loading sends requests, writes log records and may be cancelled, but changes nothing else, and the
requests and records of earlier loads make no difference to it.
-/

namespace TaggedConfig

open Run

/-- What a run leaves behind: whether loading is cancelled afterwards, and the requests and log
records of the run.
-/
structure Traces where
  cancelled : Bool
  requests : List Request
  log : List (Level × String)
  deriving DecidableEq, Repr

/-- The traces of a run and those of the run after it. -/
def Traces.append (first second : Traces) : Traces where
  cancelled := second.cancelled
  requests := first.requests ++ second.requests
  log := first.log ++ second.log

namespace World

/-- A world in which the traces have been left. -/
def leaving (world : World) (traces : Traces) : World :=
  { world with
    cancelled := traces.cancelled
    requests := world.requests ++ traces.requests
    log := world.log ++ traces.log }

theorem leaving_leaving (world : World) (first second : Traces)
    : (world.leaving first).leaving second = world.leaving (first.append second) := by
  simp [leaving, Traces.append]

/-- The other world is the same but for earlier requests and log records. -/
def SameButTraces (world other : World) : Prop :=
  ∃ requests log, other = { world with requests, log }

theorem SameButTraces.refl (world : World) : world.SameButTraces world := ⟨_, _, rfl⟩

theorem SameButTraces.leaving {world other : World} (same : world.SameButTraces other)
    (traces : Traces)
    : (world.leaving traces).SameButTraces (other.leaving traces) := by
  obtain ⟨requests, log, rfl⟩ := same
  exact ⟨requests ++ traces.requests, log ++ traces.log, rfl⟩

/-- Traces that do not cancel loading make no difference afterwards. -/
theorem SameButTraces.after {world other : World} (same : world.SameButTraces other)
    {traces : Traces} (kept : traces.cancelled = world.cancelled)
    : world.SameButTraces (other.leaving traces) := by
  obtain ⟨requests, log, rfl⟩ := same
  exact ⟨requests ++ traces.requests, log ++ traces.log, by rw [World.leaving, kept]⟩

/-- With a new token the traces of a load make no difference afterwards, cancelled or not. -/
theorem SameButTraces.renewed {world other : World}
    (same : world.renewed.SameButTraces other.renewed) (traces : Traces)
    : world.renewed.SameButTraces (other.leaving traces).renewed := by
  obtain ⟨requests, log, known⟩ := same
  have left
      : (other.leaving traces).renewed
        = other.renewed.leaving { traces with cancelled := false } := rfl
  refine ⟨requests ++ traces.requests, log ++ traces.log, ?_⟩
  rw [left, known]
  rfl

end World

/-- What a run comes to and the traces it leaves do not depend on earlier traces. It changes nothing
else, and loading stays cancelled.
-/
def LeavesTraces {α : Type} (action : Action (StateM World) α) : Prop :=
  ∀ world : World,
    ∃ result traces,
      (world.cancelled = true → traces.cancelled = true)
      ∧ ∀ other, world.SameButTraces other → outcome action other = (result, other.leaving traces)

namespace LeavesTraces

variable {α β : Type}

/-- What looks at the surroundings only leaves no traces. -/
theorem of_reads {action : Action (StateM World) α} {result : World → Except Error α}
    (reads : ∀ world, outcome action world = (result world, world))
    (blind : ∀ world requests log, result { world with requests, log } = result world)
    : LeavesTraces action := by
  intro world
  refine ⟨result world, ⟨world.cancelled, [], []⟩, id, ?_⟩
  rintro _ ⟨requests, log, rfl⟩
  rw [reads, blind]
  simp [World.leaving]

theorem pure (a : α) : LeavesTraces (pure a : Action (StateM World) α) :=
  of_reads (fun _ => rfl) fun _ _ _ => rfl

theorem throw (error : Error) : LeavesTraces (throw error : Action (StateM World) α) :=
  of_reads (fun _ => rfl) fun _ _ _ => rfl

theorem bind {first : Action (StateM World) α} {second : α → Action (StateM World) β}
    (head : LeavesTraces first) (tail : ∀ a, LeavesTraces (second a))
    : LeavesTraces (first >>= second) := by
  intro world
  obtain ⟨result, traces, still, runs⟩ := head world
  cases result with
  | error error =>
      refine ⟨.error error, traces, still, fun other same => ?_⟩
      rw [outcome_bind, runs other same]
  | ok a =>
      obtain ⟨final, later, stillLater, runsLater⟩ := tail a (world.leaving traces)
      refine ⟨final, traces.append later, stillLater ∘ still, fun other same => ?_⟩
      rw [outcome_bind, runs other same]
      dsimp only
      rw [runsLater _ (same.leaving traces), World.leaving_leaving]

theorem adapt {action : Action (StateM World) α} (leaves : LeavesTraces action)
    (f : Error → Error)
    : LeavesTraces (action.adapt f) := by
  intro world
  obtain ⟨result, traces, still, runs⟩ := leaves world
  refine ⟨result.mapError f, traces, still, fun other same => ?_⟩
  rw [outcome_adapt, runs other same]

theorem log (level : Level) (text : String) : LeavesTraces (Action.log level text) := by
  intro world
  refine ⟨.ok (), ⟨world.cancelled, [], [(level, text)]⟩, id, ?_⟩
  rintro _ ⟨requests, log, rfl⟩
  simp only [World.leaving, List.append_nil]
  rfl

theorem lookup (name : String)
    : LeavesTraces (ExceptT.lift (Host.lookup name) : Action (StateM World) (Option Bytes)) :=
  of_reads (fun _ => rfl) fun _ _ _ => rfl

/-- A request leaves itself, if it reaches the network, and perhaps cancels loading. -/
theorem send (patience : Patience) (request : Request)
    : LeavesTraces
        (ExceptT.lift (Host.send patience request) : Action (StateM World) Exchange) := by
  intro world
  refine ⟨.ok (world.network.send request).1,
    ⟨world.cancelled || (world.network.send request).2.any world.network.cancels,
      (world.network.send request).2.toList, []⟩, fun cancelled => by simp [cancelled], ?_⟩
  rintro _ ⟨requests, log, rfl⟩
  simp only [World.leaving, List.append_nil]
  rfl

/-- Asking the token leaves no traces. -/
theorem asked : LeavesTraces (ExceptT.lift Host.isCancelled) :=
  of_reads (fun _ => rfl) fun _ _ _ => rfl

theorem compositional
    : Compositional fun (first second : Action (StateM World) _) =>
        first = second ∧ LeavesTraces first :=
  compositional_same pure throw bind

theorem covers
    : Covers (m := StateM World) fun first second => first = second ∧ LeavesTraces first where
  compositional := compositional
  adapt f leaves := ⟨by rw [leaves.1], leaves.2.adapt f⟩
  log level text := ⟨rfl, log level text⟩
  workingDirectory := ⟨rfl, of_reads (fun _ => rfl) fun _ _ _ => rfl⟩
  readFile _ := ⟨rfl, of_reads (fun _ => rfl) fun _ _ _ => rfl⟩
  fetch :=
    compositional.fetch ⟨rfl, asked⟩ (fun patience request => ⟨rfl, send patience request⟩)
      fun level text => ⟨rfl, log level text⟩

/-- The built-in loaders leave traces only. -/
theorem builtin (context : Context) (descriptor : String)
    : LeavesTraces (Chain.builtin.load context descriptor) :=
  (compositional.checkCancelled ⟨rfl, asked⟩).2.bind fun _ =>
    (covers.offer (covers.builtin context descriptor)).2

end LeavesTraces

end TaggedConfig
