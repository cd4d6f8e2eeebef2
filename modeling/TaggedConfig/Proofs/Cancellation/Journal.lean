import TaggedConfig.Proofs.Source.Builtin
import TaggedConfig.Proofs.Source.Sending

/-! A world with a journal of what cancellation is to prevent.
The journal tells in which order loading is cancelled, requests are sent and a callback is
called. Once loading is cancelled nothing but further cancellations may follow.
-/

namespace TaggedConfig

open Run

/-- What is entered in a journal. -/
inductive Deed where
  | cancelled
  | sent (request : Request)
  /-- The callback is called to fetch a source. -/
  | called (source : String)
  deriving DecidableEq, Repr

/-- A world and what has been done in it, first to last. -/
structure Journal where
  world : World
  deeds : List Deed := []

namespace Journal

/-- A world before anything is done, cancelled perhaps. -/
def start (world : World) : Journal where
  world
  deeds := if world.cancelled then [.cancelled] else []

/-- An action on the world about which there is nothing to enter. -/
def quiet {α : Type} (action : StateM World α) : StateM Journal α := fun journal =>
  ((action.run journal.world).1, { journal with world := (action.run journal.world).2 })

/-- What is entered of a request: that it is sent, and that loading is cancelled by then. -/
def exchangeDeeds (request : Request) (cancelled : Bool) : List Deed :=
  .sent request :: if cancelled then [.cancelled] else []

instance : Host (StateM Journal) where
  lookup name := quiet (Host.lookup name)
  workingDirectory := quiet Host.workingDirectory
  readFile path := quiet (Host.readFile path)
  writeFile path content := quiet (Host.writeFile path content)
  send _ request := fun journal =>
    let (exchange, world) := journal.world.send request
    (exchange, { world, deeds := journal.deeds ++ exchangeDeeds request world.cancelled })
  isCancelled := quiet Host.isCancelled
  cancel := fun journal =>
    ((), {
      world := { journal.world with cancelled := true }
      deeds := journal.deeds ++ [.cancelled]
    })
  log level text := quiet (Host.log level text)

def enter (deed : Deed) : StateM Journal Unit := fun journal =>
  ((), { journal with deeds := journal.deeds ++ [deed] })

/-- After a cancellation there are only further ones. -/
def Final (deeds : List Deed) : Prop :=
  deeds.Pairwise fun earlier later => earlier = .cancelled → later = .cancelled

/-- The journal tells of cancellation if and only if the world is cancelled, and nothing is done
after it.
-/
structure Sound (journal : Journal) : Prop where
  synced : journal.world.cancelled = true ↔ .cancelled ∈ journal.deeds
  final : Final journal.deeds

/-- The journal is sound and goes on from some deeds. -/
structure Onward (before : List Deed) (journal : Journal) : Prop where
  sound : journal.Sound
  continues : before <+: journal.deeds

-----------------------------------------------------------------------------------------
-- Sound journals
-----------------------------------------------------------------------------------------

theorem final_of_notMem {deeds : List Deed} (absent : .cancelled ∉ deeds) : Final deeds := by
  refine List.pairwise_iff_forall_sublist.mpr fun pair same => ?_
  exact absurd (pair.subset (same ▸ List.mem_cons_self)) absent

theorem Final.append_cancelled {deeds : List Deed} (final : Final deeds)
    : Final (deeds ++ [.cancelled]) := by
  refine List.pairwise_append.mpr ⟨final, List.pairwise_singleton _ _, ?_⟩
  intro _ _ later member _
  exact List.mem_singleton.mp member

theorem sound_start (world : World) : (start world).Sound := by
  cases cancelled : world.cancelled <;>
    exact ⟨by simp [start, cancelled], by simp [start, cancelled, Final]⟩

theorem Onward.refl {journal : Journal} (sound : journal.Sound) : Onward journal.deeds journal :=
  ⟨sound, List.prefix_rfl⟩

theorem Sound.notMem {journal : Journal} (sound : journal.Sound)
    (running : journal.world.cancelled = false)
    : .cancelled ∉ journal.deeds := by
  intro member
  rw [sound.synced.mpr member] at running
  contradiction

/-- While loading is not cancelled anything may be done that is not a cancellation. -/
theorem Onward.enter {before : List Deed} {journal : Journal} (onward : Onward before journal)
    (running : journal.world.cancelled = false) {deed : Deed} (other : .cancelled ≠ deed)
    {world : World} (still : world.cancelled = false)
    : Onward before { world, deeds := journal.deeds ++ [deed] } := by
  have absent : Deed.cancelled ∉ journal.deeds ++ [deed] := by
    rw [List.mem_append, List.mem_singleton, not_or]
    exact ⟨onward.sound.notMem running, other⟩
  refine ⟨⟨?_, final_of_notMem absent⟩, onward.continues.trans (List.prefix_append _ _)⟩
  simp only [still, absent, Bool.false_eq_true]

/-- Loading can be cancelled at any time. -/
theorem Onward.cancel {before : List Deed} {journal : Journal} (onward : Onward before journal)
    {world : World} (cancelled : world.cancelled = true)
    : Onward before { world, deeds := journal.deeds ++ [.cancelled] } := by
  refine ⟨⟨?_, onward.sound.final.append_cancelled⟩, ?_⟩
  · simp [cancelled]
  · exact onward.continues.trans (List.prefix_append _ _)

end Journal

-----------------------------------------------------------------------------------------
-- Actions that obey cancellation
-----------------------------------------------------------------------------------------

open Journal

variable {ε ε' α β : Type}

/-- Neither the token nor the deeds have changed. -/
structure Journal.Untouched (before journal : Journal) : Prop where
  token : journal.world.cancelled = before.world.cancelled
  deeds : journal.deeds = before.deeds

/-- The action has nothing to do with cancellation. -/
def Quiet (action : ExceptT ε (StateM Journal) α) : Prop :=
  ∀ before, Keeps (Untouched before) action

namespace Quiet

theorem pure (a : α) : Quiet (pure a : ExceptT ε (StateM Journal) α) := fun _ => .pure a

theorem throw (e : ε) : Quiet (throw e : ExceptT ε (StateM Journal) α) := fun _ => .throw e

theorem bind {first : ExceptT ε (StateM Journal) α} {second : α → ExceptT ε (StateM Journal) β}
    (head : Quiet first) (tail : ∀ a, Quiet (second a))
    : Quiet (first >>= second) :=
  fun before => (head before).bind fun a => tail a before

theorem lift {action : StateM World α}
    (same : ∀ world, (action.run world).2.cancelled = world.cancelled)
    : Quiet (ExceptT.lift (Journal.quiet action) : ExceptT ε (StateM Journal) α) :=
  fun _ journal untouched => ⟨(same journal.world).trans untouched.token, untouched.deeds⟩

theorem log (level : Level) (text : String)
    : Quiet (Action.log level text : Action (StateM Journal) Unit) :=
  lift fun _ => rfl

end Quiet

/-- The action only adds to a journal and keeps it sound: it does not undo a cancellation, and
it does nothing after one that is to be prevented.
-/
def Obedient (action : ExceptT ε (StateM Journal) α) : Prop :=
  ∀ before, Keeps (Onward before) action

namespace Obedient

theorem pure (a : α) : Obedient (pure a : ExceptT ε (StateM Journal) α) := fun _ => .pure a

theorem throw (e : ε) : Obedient (throw e : ExceptT ε (StateM Journal) α) := fun _ => .throw e

theorem bind {first : ExceptT ε (StateM Journal) α} {second : α → ExceptT ε (StateM Journal) β}
    (head : Obedient first) (tail : ∀ a, Obedient (second a))
    : Obedient (first >>= second) :=
  fun before => (head before).bind fun a => tail a before

theorem map {action : ExceptT ε (StateM Journal) α} (obedient : Obedient action) (f : α → β)
    : Obedient (f <$> action) :=
  fun before => (obedient before).map f

theorem adapt {action : ExceptT ε (StateM Journal) α} (obedient : Obedient action) (f : ε → ε')
    : Obedient (action.adapt f) :=
  fun before => (obedient before).adapt f

theorem compositional
    : Compositional fun (first second : Action (StateM Journal) _) =>
        first = second ∧ Obedient first :=
  compositional_same .pure .throw .bind

theorem of_quiet {action : ExceptT ε (StateM Journal) α} (quiet : Quiet action)
    : Obedient action := by
  intro before journal onward
  obtain ⟨sameToken, sameDeeds⟩ := quiet journal journal ⟨rfl, rfl⟩
  refine ⟨⟨?_, ?_⟩, ?_⟩
  · rw [sameToken, sameDeeds]
    exact onward.sound.synced
  · rw [sameDeeds]
    exact onward.sound.final
  · rw [sameDeeds]
    exact onward.continues

theorem cancel : Obedient (ExceptT.lift Host.cancel : ExceptT ε (StateM Journal) Unit) :=
  fun _ _ onward => onward.cancel rfl

theorem outcome_checkCancelled (journal : Journal)
    : outcome Action.checkCancelled journal
      = (if journal.world.cancelled then .error (.ofFault .cancelled) else .ok (), journal) :=
  TaggedConfig.outcome_checkCancelled journal

/-- After a check that loading is not cancelled an action may count on that. -/
theorem checked {action : Action (StateM Journal) α}
    (kept
      : ∀ before journal,
          Onward before journal →
            journal.world.cancelled = false → Onward before (outcome action journal).2)
    : Obedient (do Action.checkCancelled; action) := by
  intro before journal onward
  rw [outcome_bind, outcome_checkCancelled]
  cases running : journal.world.cancelled with
  | true => exact onward
  | false => exact kept before journal onward running

/-- While a request that has been sent is under way loading may be cancelled. -/
theorem onward_send {before : List Deed} {journal : Journal} (onward : Onward before journal)
    (running : journal.world.cancelled = false) (patience : Patience) (request : Request)
    : Onward before
        (outcome (ExceptT.lift (Host.send patience request) : Action (StateM Journal) Exchange)
          journal).2 := by
  change Onward before {
    world := (journal.world.send request).2
    deeds := journal.deeds ++ exchangeDeeds request (journal.world.send request).2.cancelled
  }
  have differ : Deed.cancelled ≠ .sent request := nofun
  unfold exchangeDeeds
  cases cancelled : (journal.world.send request).2.cancelled with
  | true =>
      -- the request is sent while loading goes on, and is cancelled under way
      have followed := (onward.enter running differ running).cancel cancelled
      rwa [List.append_assoc] at followed
  | false => exact onward.enter running differ cancelled

theorem fetch (context : Context) (request : Request)
    : Obedient (TaggedConfig.fetch (m := StateM Journal) context request) := by
  refine checked fun before journal onward running => ?_
  refine holds_bind (onward_send onward running context.patience request) fun exchange => ?_
  cases exchange with
  | answered status body => exact .pure _
  | failed reason => exact .throw _
  | abandoned => exact (of_quiet (.log _ _) before).bind fun _ => .throw _
  | lost => exact .throw _

theorem covers
    : Covers fun (first second : Action (StateM Journal) _) =>
        first = second ∧ Obedient first where
  compositional := compositional
  adapt f both := ⟨by rw [both.1], both.2.adapt f⟩
  log level text := ⟨rfl, of_quiet (.log level text)⟩
  workingDirectory := ⟨rfl, of_quiet (.lift fun _ => rfl)⟩
  readFile _ := ⟨rfl, of_quiet (.lift fun _ => rfl)⟩
  fetch context request := ⟨rfl, fetch context request⟩

/-- The built-in loaders obey cancellation. -/
theorem builtin {loader : SourceLoader (StateM Journal)} (member : loader ∈ Chain.builtin)
    (context : Context) (descriptor : String)
    : Obedient (loader.load context descriptor) :=
  (covers.builtin context descriptor loader member).2

end Obedient

end TaggedConfig
