import TaggedConfig.Proofs.Run
import TaggedConfig.Source.Fetch
import TaggedConfig.World

/-! Requests in a world.
A request is sent once, unless loading has been cancelled before, and what the network makes of it
is told as it is.
-/

namespace TaggedConfig

open Run

section

variable {σ : Type} [Host (StateM σ)]

/-- Whether loading has been cancelled when a state is asked for it, and the state afterwards. -/
def askToken (s : σ) : Bool × σ := (Host.isCancelled (m := StateM σ)).run s

theorem outcome_checkCancelled (s : σ)
    : outcome (Action.checkCancelled : Action (StateM σ) Unit) s
      = (if (askToken s).1 then .error (.ofFault .cancelled) else .ok (), (askToken s).2) := by
  have asked
      : outcome (ExceptT.lift Host.isCancelled : Action (StateM σ) Bool) s
        = (.ok (askToken s).1, (askToken s).2) := rfl
  rw [Action.checkCancelled, outcome_bind, asked]
  cases (askToken s).1 <;> rfl

/-- After a check nothing is done if loading has been cancelled. -/
theorem outcome_checked {α : Type} (action : Action (StateM σ) α) (s : σ)
    : outcome (do Action.checkCancelled; action) s
      = if (askToken s).1 then (.error (.ofFault .cancelled), (askToken s).2)
        else outcome action (askToken s).2 := by
  rw [outcome_bind, outcome_checkCancelled]
  cases (askToken s).1 <;> rfl

end

namespace World

/-- The answer to a request, or why there is none. -/
def exchangeResult (request : Request) : Exchange → Except Error (Nat × Bytes)
  | .answered status body => .ok (status, body)
  | .failed reason => .error (.ofSourceFault (.transport request.url reason))
  | .abandoned => .error (.ofFault .cancelled)
  | .lost => .error (.ofFault (.internal "HTTP worker exited without a result"))

/-- Once it is sent, a request leaves the traces of sending it and perhaps a log record. -/
theorem outcome_fetch (context : Context) (request : Request) (world : World)
    : ∃ log,
        outcome (TaggedConfig.fetch context request) world
        = if world.cancelled then (.error (.ofFault .cancelled), world)
          else
            (exchangeResult request (world.send request).1,
              { (world.send request).2 with log }) := by
  have sent
      : outcome (ExceptT.lift (Host.send context.patience request) : Action (StateM World) _) world
        = (.ok (world.send request).1, (world.send request).2) := rfl
  have asked : askToken world = (world.cancelled, world) := rfl
  rw [fetch, outcome_checked, asked]
  cases world.cancelled with
  | true => exact ⟨[], rfl⟩
  | false =>
      simp only [Bool.false_eq_true, if_false, outcome_bind, sent]
      cases (world.send request).1 with
      | answered status body => exact ⟨(world.send request).2.log, rfl⟩
      | failed reason => exact ⟨(world.send request).2.log, rfl⟩
      | lost => exact ⟨(world.send request).2.log, rfl⟩
      | abandoned => exact ⟨(world.send request).2.log ++ [(Level.debug, _)], rfl⟩

theorem requests_fetch {world : World} (running : world.cancelled = false) (context : Context)
    (request : Request)
    : (outcome (TaggedConfig.fetch context request) world).2.requests
      = world.requests ++ (world.network.send request).2.toList := by
  obtain ⟨log, fetched⟩ := outcome_fetch context request world
  rw [fetched, running]
  rfl

end World

end TaggedConfig
