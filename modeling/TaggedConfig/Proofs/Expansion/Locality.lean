import TaggedConfig.Proofs.Expansion.Origins
import TaggedConfig.Proofs.Expansion.Visits
import TaggedConfig.World

/-! Expansions of buffers that are put together.
At a cut that is safe for scanning, the parts are expanded one after the other, the second in the
state that the first leaves. Main statement: results, failures and visits of the whole are those of
the parts, except that the offsets of the second part are shifted.
-/

namespace TaggedConfig

open Run

section

variable {m : Type → Type} [Monad m] [LawfulMonad m]

namespace Segmentation

variable {ε : Type} (before : Bytes) (unclosed : Nat → ε)
  (replace : Tag.Kind → Bytes → ExceptT ε m Bytes)

/-- Segments put together after some bytes are these bytes and the segments put together, with all
offsets shifted.
-/
theorem assembleAfter_eq_map (segmentation : Segmentation)
    : segmentation.assembleAfter before unclosed replace
      = (before ++ ·) <$>
          segmentation.assemble (fun offset => unclosed (offset + before.length)) replace := by
  rw [assemble, assembleAfter, assembleAfter, map_bind]
  refine bind_congr fun parts => ?_
  cases segmentation.unclosed with
  | false => simp
  | true => simp [Nat.add_comm before.length]

/-- A segmentation after one that is closed is put together after the bytes of that one. -/
theorem assembleAfter_append {first : Segmentation} (closed : first.unclosed = false)
    (second : Segmentation)
    : (first.append second).assembleAfter before unclosed replace
      = first.assembleAfter before unclosed replace >>= fun done =>
          second.assembleAfter done unclosed replace := by
  rcases second with ⟨_ | ⟨segment, segments⟩, rest, opened⟩ <;>
    simp [append, prepend, assembleAfter, closed, Nat.add_assoc]

end Segmentation

/-- At a safe cut the parts are expanded one after the other. Of the failures of the second part
only the offsets in its own text are shifted.
-/
theorem expandWithin_append (resolve : UInt64 → Tag.Kind → Bytes → Action m Bytes)
    (ceiling : UInt64) (levels : Nat) (depth : UInt64) {first second : Bytes}
    (cut : SafeCut first second)
    : expandWithin resolve ceiling levels depth (first ++ second)
      = expandWithin resolve ceiling levels depth first >>= fun done =>
          (done ++ ·) <$>
            (expandTracing resolve ceiling levels depth .given second).adapt
              fun failure => (failure.after done.length).error := by
  cases levels with
  | zero => simp [expandWithin, Action.fail]
  | succ levels =>
      have closed : (Segmentation.ofBytes first).unclosed = false := by
        rw [← Bool.not_eq_true]
        intro opened
        obtain ⟨offset, meets⟩ := Cursor.unclosed_segmentation_iff.mp opened
        exact cut.closed offset meets
      rw [expandWithin_succ, expandWithin_succ, expandTracing_succ,
        Segmentation.ofBytes_append cut, Segmentation.assemble,
        Segmentation.assembleAfter_append _ _ _ closed]
      refine bind_congr fun done => ?_
      rw [Segmentation.assembleAfter_eq_map, Segmentation.assemble, Segmentation.assemble,
        Segmentation.adapt_assembleAfter]
      congr 2
      funext kind raw
      exact (adapt_replaceTracing resolve ceiling levels depth kind raw done.length).symm

end

namespace Expander

variable {σ : Type} [Host (StateM σ)]

/-- Expands a buffer at a depth and tells where the buffer of a failure comes from. -/
def expandTracing (expander : Expander (StateM σ)) (data : Bytes) (depth : UInt64)
    : ExceptT Failure (StateM σ) Bytes :=
  TaggedConfig.expandTracing expander.resolve expander.ceiling (levels expander.ceiling depth) depth
    .given data

theorem adapt_expandTracing (expander : Expander (StateM σ)) (data : Bytes) (depth : UInt64)
    : (expander.expandTracing data depth).adapt (fun failure => (failure.after 0).error)
      = expander.expand data depth :=
  TaggedConfig.adapt_expandTracing _ _ _ _ .given data fun _ => rfl

/-- An expansion that fails does so with a failure that is reported as its error. -/
theorem exists_failure (expander : Expander (StateM σ)) {data : Bytes} {depth : UInt64} {s t : σ}
    {error : Error} (failed : outcome (expander.expand data depth) s = (.error error, t))
    : ∃ failure,
        outcome (expander.expandTracing data depth) s = (.error failure, t)
        ∧ failure.error = error := by
  rw [← adapt_expandTracing, outcome_adapt] at failed
  rcases ran : outcome (expander.expandTracing data depth) s with ⟨failure | bytes, after⟩ <;>
    rw [ran] at failed
  · obtain ⟨same, rfl⟩ := Prod.mk.inj failed
    refine ⟨failure, rfl, (Eq.trans ?_ (Except.error.inj same))⟩
    rcases failure with ⟨_ | _ | _, offset⟩ | cause <;> rfl
  · cases (Prod.mk.inj failed).1

/-- The visits of an expansion come after those that were made before it. -/
theorem visits_walk (expander : Expander (StateM σ)) (data : Bytes) (depth : UInt64)
    (trail : Trail σ)
    : (outcome (expander.walk data depth) trail).2.visits
      = trail.visits ++ expander.visits data depth trail.state :=
  expander.visits_expandWithin _ _ depth data trail

/-- The visits of the whole are those of the first part and, if that one succeeds, those that the
second one makes from the state that is left.
-/
theorem visits_append (expander : Expander (StateM σ)) {first second : Bytes}
    (cut : SafeCut first second) (depth : UInt64) (s : σ)
    : expander.visits (first ++ second) depth s
      = match outcome (expander.expand first depth) s with
        | (.error _, _) => expander.visits first depth s
        | (.ok _, t) => expander.visits first depth s ++ expander.visits second depth t := by
  have start : outcome (expander.expand first depth) s = _ :=
    expander.outcome_expand first depth { state := s }
  rw [start, visits, visits, walk, expandWithin_append _ _ _ _ cut, outcome_bind, ← walk]
  rcases outcome (expander.walk first depth) { state := s } with ⟨error | done, trail⟩
  · rfl
  · dsimp only
    rw [outcome_map, outcome_adapt, ← visits_walk, walk,
      ← TaggedConfig.adapt_expandTracing _ _ _ _ .given second fun _ => rfl, outcome_adapt]

/-- Expansion is local. At a safe cut a failure of the first part is that of the whole, with nothing
loaded or looked up for the second part. Otherwise the second part is expanded from the state that
the first one leaves: its result comes after that of the first, and its failure is that of the whole
but for the offset of an opening in its own text.
-/
theorem expand_append (expander : Expander (StateM σ)) {first second : Bytes}
    (cut : SafeCut first second) (depth : UInt64) (s : σ)
    : (∀ error t,
        outcome (expander.expand first depth) s = (.error error, t) →
          outcome (expander.expand (first ++ second) depth) s = (.error error, t)
          ∧ expander.visits (first ++ second) depth s = expander.visits first depth s)
      ∧ ∀ done t,
          outcome (expander.expand first depth) s = (.ok done, t) →
            expander.visits (first ++ second) depth s
              = expander.visits first depth s ++ expander.visits second depth t
            ∧ (∀ more u,
                outcome (expander.expand second depth) t = (.ok more, u) →
                  outcome (expander.expand (first ++ second) depth) s = (.ok (done ++ more), u))
            ∧ ∀ error u,
                outcome (expander.expand second depth) t = (.error error, u) →
                  ∃ failure,
                    outcome (expander.expandTracing second depth) t = (.error failure, u)
                    ∧ failure.error = error
                    ∧ outcome (expander.expand (first ++ second) depth) s
                      = (.error (failure.after done.length).error, u) := by
  have whole : expander.expand (first ++ second) depth = _ := expandWithin_append _ _ _ _ cut
  refine ⟨fun error t failed => ⟨?_, ?_⟩, fun done t succeeded => ⟨?_, fun more u result => ?_,
    fun error u failed => ?_⟩⟩
  · rw [whole, outcome_bind, ← expand, failed]
  · rw [expander.visits_append cut, failed]
  · rw [expander.visits_append cut, succeeded]
  · rw [whole, outcome_bind, ← expand, succeeded]
    dsimp only
    rw [← adapt_expandTracing, outcome_adapt] at result
    obtain ⟨same, rfl⟩ := Prod.mk.inj result
    rw [outcome_map, outcome_adapt, ← expandTracing, Outcome.mapError_eq_ok.mp same]
    rfl
  · obtain ⟨failure, ran, reported⟩ := expander.exists_failure failed
    refine ⟨failure, ran, reported, ?_⟩
    rw [whole, outcome_bind, ← expand, succeeded]
    dsimp only
    rw [outcome_map, outcome_adapt, ← expandTracing, ran]
    rfl

/-- A world in which one variable has a value. -/
def oneVariable : World where
  environment := [("A", ascii "1")]

/-- A buffer cut after its tag. The opening in the second part is at its second byte, and at the
fourth of what the whole has been expanded to.
-/
theorem expand_append_after_tag
    : SafeCut (ascii "x$\x7bENV:A\x7d") (ascii "y$\x7bENV:z")
      ∧ (outcome
          (({ chain := Chain.builtin } : Expander (StateM World)).expand
            (ascii "x$\x7bENV:A\x7dy$\x7bENV:z"))
          oneVariable).1
        = .error (.ofFault (.unterminatedTag 3)) := by
  have cut : SafeCut (ascii "x$\x7bENV:A\x7d") (ascii "y$\x7bENV:z") := by
    refine ⟨fun offset meets => ?_, fun {offset} _ within near opens => ?_⟩
    · have opened := Cursor.unclosed_segmentation_iff.mpr ⟨offset, meets⟩
      have closed : (Segmentation.ofBytes (ascii "x$\x7bENV:A\x7d")).unclosed = false := by cbv
      exact absurd (opened.symm.trans closed) Bool.noConfusion
    · have none
          : ∀ offset < 9,
              3 ≤ offset →
                ¬Tag.OpeningAt (ascii "x$\x7bENV:A\x7d" ++ ascii "y$\x7bENV:z") offset := by
        decide +kernel
      have late : 3 + Tag.openingSize ≤ offset + Tag.openingSize := near
      exact absurd opens (none offset within (Nat.le_of_add_le_add_right late))
  let expander : Expander (StateM World) := { chain := Chain.builtin }
  obtain ⟨-, succeeds⟩ := expand_append expander cut 0 oneVariable
  have first : (outcome (expander.expand (ascii "x$\x7bENV:A\x7d")) oneVariable).1
      = .ok (ascii "x1") := by
    decide +kernel
  obtain ⟨-, -, fails⟩ := succeeds (ascii "x1") _ (Prod.ext first rfl)
  obtain ⟨failure, ran, reported, whole⟩ := fails (.ofFault (.unterminatedTag 1)) _
    (Prod.ext (by decide +kernel) rfl)
  have own : failure = .unclosed .given 1 := by
    have traced := congrArg Prod.fst ran
    have known
        : (outcome (expander.expandTracing (ascii "y$\x7bENV:z") 0)
            (outcome (expander.expand (ascii "x$\x7bENV:A\x7d")) oneVariable).2).1
          = .error (.unclosed .given 1) := by
      decide +kernel
    exact Except.error.inj (traced.symm.trans known)
  rw [own] at whole
  exact ⟨cut, congrArg Prod.fst whole⟩

end Expander

end TaggedConfig
