import TaggedConfig.Proofs.Source.Builtin
import TaggedConfig.Proofs.Source.Sending

/-! Loads that are pending while loading is cancelled.
A chain looks at the token before it tries its first loader and not again, so a cancellation that
comes later shows only if the loader that has the last word reports it.
-/

namespace TaggedConfig

open Run

/-- The result is the error of a load that has been cancelled. -/
def IsCancelled {α : Type} (result : Except Error α) : Prop :=
  ∃ error, result = .error error ∧ error.fault = .cancelled

namespace Chain

variable {σ : Type} {chain : Chain (StateM σ)} {context : Context} {descriptor : String}

/-- What the loader says that a descriptor is not passed on from, and the state it leaves. If all
of them pass it on, that is the last word.
-/
inductive LastWord (context : Context) (descriptor : String)
    : Chain (StateM σ) → σ → Except Error Probe → σ → Prop where
  | none {s} : LastWord context descriptor [] s (.ok .wrongFormat) s
  | said {loader others s result t}
    (loaded : outcome (loader.load context descriptor) s = (result, t))
    (owned : result ≠ .ok .wrongFormat)
    : LastWord context descriptor (loader :: others) s result t
  | passed {loader others s result t u}
    (disowned : outcome (loader.load context descriptor) s = (.ok .wrongFormat, t))
    (more : LastWord context descriptor others t result u)
    : LastWord context descriptor (loader :: others) s result u

/-- Some loader has the last word, or all pass the descriptor on, by induction on the chain. -/
theorem exists_lastWord (context : Context) (descriptor : String) (chain : Chain (StateM σ)) (s : σ)
    : ∃ result t, chain.LastWord context descriptor s result t := by
  induction chain generalizing s with
  | nil => exact ⟨_, _, .none⟩
  | cons loader others ih =>
      rcases loaded : outcome (loader.load context descriptor) s with ⟨result, t⟩
      by_cases disowned : result = .ok .wrongFormat
      · subst disowned
        obtain ⟨result, u, more⟩ := ih t
        exact ⟨result, u, .passed loaded more⟩
      · exact ⟨result, t, .said loaded disowned⟩

variable [Host (StateM σ)]

/-- What a chain makes of the last word: a descriptor that all pass on is an internal error, and
an error of a loader names the descriptor.
-/
def Replies (descriptor : String) (reply : Except Error Bytes) : Except Error Probe → Prop
  | .ok (.loaded bytes) => reply = .ok bytes
  | .ok .wrongFormat => ∃ reason, reply = .error (.ofFault (.internal reason))
  | .error error => reply = .error (error.withSource (Descriptor.redact descriptor))

/-- What a chain comes to after the last word, and the state it leaves: bytes that are loaded are
recorded in the log with some text.
-/
def replied (descriptor text : String) : Except Error Probe → σ → Except Error Bytes × σ
  | .ok (.loaded bytes), t => (.ok bytes, ((Host.log .debug text : StateM σ Unit).run t).2)
  | .ok .wrongFormat, t =>
      let shown := Descriptor.redact descriptor
      (.error (.ofFault (.internal s!"no loader accepts source '{shown}'")), t)
  | .error error, t => (.error (error.withSource (Descriptor.redact descriptor)), t)

/-- The last word settles the offer, by induction on the loaders up to it. -/
theorem LastWord.exists_replied {s t : σ} {result : Except Error Probe}
    (word : chain.LastWord context descriptor s result t)
    : ∃ text, outcome (chain.offer context descriptor) s = replied descriptor text result t := by
  induction word with
  | none => exact ⟨"", rfl⟩
  | @said loader others s result t loaded owned =>
      rw [offer, outcome_bind, outcome_adapt, loaded]
      match result with
      | .error error => exact ⟨"", rfl⟩
      | .ok (.loaded bytes) => exact ⟨_, rfl⟩
      | .ok .wrongFormat => contradiction
  | @passed loader others s result t u disowned more ih =>
      obtain ⟨text, settled⟩ := ih
      rw [offer, outcome_bind, outcome_adapt, disowned]
      exact ⟨text, settled⟩

/-- A chain replies with the last word. -/
theorem LastWord.replies {s t : σ} {result : Except Error Probe}
    (word : chain.LastWord context descriptor s result t)
    : Replies descriptor (outcome (chain.offer context descriptor) s).1 result := by
  obtain ⟨text, settled⟩ := word.exists_replied
  rw [settled]
  match result with
  | .error error => rfl
  | .ok (.loaded bytes) => rfl
  | .ok .wrongFormat => exact ⟨_, rfl⟩

theorem Replies.isCancelled_iff {reply : Except Error Bytes} {result : Except Error Probe}
    (replies : Replies descriptor reply result)
    : IsCancelled reply ↔ IsCancelled result := by
  match result with
  | .ok (.loaded bytes) =>
      obtain rfl : reply = .ok bytes := replies
      exact ⟨nofun, nofun⟩
  | .ok .wrongFormat =>
      obtain ⟨reason, rfl⟩ := replies
      refine ⟨?_, nofun⟩
      rintro ⟨_, ⟨rfl⟩, cancelled⟩
      contradiction
  | .error error =>
      obtain rfl : reply = .error (error.withSource (Descriptor.redact descriptor)) := replies
      constructor
      · rintro ⟨_, ⟨rfl⟩, cancelled⟩
        exact ⟨error, rfl, cancelled⟩
      · rintro ⟨_, ⟨rfl⟩, cancelled⟩
        exact ⟨_, rfl, cancelled⟩

theorem Replies.eq_ok_iff {reply : Except Error Bytes} {result : Except Error Probe}
    (replies : Replies descriptor reply result) (bytes : Bytes)
    : reply = .ok bytes ↔ result = .ok (.loaded bytes) := by
  match result with
  | .ok (.loaded found) =>
      obtain rfl : reply = .ok found := replies
      simp
  | .ok .wrongFormat =>
      obtain ⟨reason, rfl⟩ := replies
      simp
  | .error error =>
      obtain rfl : reply = .error (error.withSource (Descriptor.redact descriptor)) := replies
      simp

-----------------------------------------------------------------------------------------
-- When a load is cancelled
-----------------------------------------------------------------------------------------

/-- A load is cancelled exactly if loading has been when the load begins or if the loader with
the last word reports it. If that loader has bytes the load gives them, whether or not loading
has been cancelled meanwhile.
-/
theorem load_cancelled_iff {σ : Type} [Host (StateM σ)] (chain : Chain (StateM σ))
    (context : Context) (descriptor : String) (s : σ)
    : (IsCancelled (outcome (chain.load context descriptor) s).1
        ↔ (askToken s).1 = true
          ∨ ∃ result t,
              chain.LastWord context descriptor (askToken s).2 result t ∧ IsCancelled result)
      ∧ ∀ bytes,
          (outcome (chain.load context descriptor) s).1 = .ok bytes
          ↔ (askToken s).1 = false
            ∧ ∃ t, chain.LastWord context descriptor (askToken s).2 (.ok (.loaded bytes)) t := by
  refine ⟨?_, fun bytes => ?_⟩
  · rw [load, outcome_checked]
    cases (askToken s).1 with
    | true => exact iff_of_true ⟨_, rfl, rfl⟩ (Or.inl rfl)
    | false =>
        simp only [Bool.false_eq_true, if_false, false_or]
        constructor
        · intro cancelled
          obtain ⟨result, t, word⟩ := exists_lastWord context descriptor chain (askToken s).2
          exact ⟨result, t, word, word.replies.isCancelled_iff.mp cancelled⟩
        · rintro ⟨result, t, word, cancelled⟩
          exact word.replies.isCancelled_iff.mpr cancelled
  · rw [load, outcome_checked]
    cases (askToken s).1 with
    | true => exact iff_of_false nofun nofun
    | false =>
        simp only [Bool.false_eq_true, if_false, true_and]
        constructor
        · intro loaded
          obtain ⟨result, t, word⟩ := exists_lastWord context descriptor chain (askToken s).2
          obtain rfl := (word.replies.eq_ok_iff bytes).mp loaded
          exact ⟨t, word⟩
        · rintro ⟨t, word⟩
          exact (word.replies.eq_ok_iff bytes).mpr rfl

/-- A world with two servers: one holds requests until loading has been cancelled, the other
answers just after it has.
-/
def cancellingWorld : World where
  network := { routes := [{ url := "http://h/held", conduct := .cancel },
    { url := "http://h/late", body := ascii "D", cancels := true }] }

/-- A request that is held until loading has been cancelled is given up. An answer that comes
although it has been is taken.
-/
theorem load_cancelled_iff_late
    : IsCancelled (outcome (Chain.builtin.load {} "http://h/held") cancellingWorld).1
      ∧ (outcome (Chain.builtin.load {} "http://h/late") cancellingWorld).1 = .ok (ascii "D")
      ∧ (outcome (Chain.builtin.load {} "http://h/late") cancellingWorld).2.cancelled = true := by
  have held
      : (outcome (SourceLoader.web.load {} "http://h/held") cancellingWorld).1
        = .error (.ofFault .cancelled) := by
    decide +kernel
  have late
      : (outcome (SourceLoader.web.load {} "http://h/late") cancellingWorld).1
        = .ok (.loaded (ascii "D")) := by
    decide +kernel
  obtain ⟨cancelled, -⟩ := load_cancelled_iff Chain.builtin {} "http://h/held" cancellingWorld
  obtain ⟨-, loaded⟩ := load_cancelled_iff Chain.builtin {} "http://h/late" cancellingWorld
  refine ⟨cancelled.mpr (Or.inr ⟨_, _, .said (Prod.ext held rfl) nofun, _, rfl, rfl⟩),
    (loaded _).mpr ⟨rfl, _, .said (Prod.ext late rfl) nofun⟩, ?_⟩
  decide +kernel

/-- A loader that cancels loading and has bytes all the same. -/
def cancellingLoader : SourceLoader (StateM World) where
  name := "c"
  load _ _ := do
    ExceptT.lift Host.cancel
    pure (.loaded (ascii "D"))

/-- The bytes of a loader that cancels loading while it runs are loaded. -/
theorem load_outlives_cancellation
    : outcome (Chain.load [cancellingLoader] {} "x") {}
      = (.ok (ascii "D"),
          {
            cancelled := true
            log := [(.debug, "Loaded 1 bytes from 'x' (c loader)")]
          }) := by
  decide +kernel

end Chain

end TaggedConfig
