import Mathlib.Logic.Relation
import Mathlib.Logic.Relator
import TaggedConfig.Proofs.Expansion.Segments
import TaggedConfig.Proofs.Run

/-! Expansion one step after another.
A call goes through its buffer in a loop. For each tag it makes two calls one level deeper and waits
for them. No step counts what is left to do, and yet every run ends, with what the expansion comes
to.
-/

namespace TaggedConfig

open Run

/-- The loop of a call. -/
structure Loop where
  depth : UInt64
  /-- The number of bytes of the buffer that the call was made for. -/
  size : Nat
  /-- The number of tags that the loop has come to. -/
  taken : Nat
  cursor : Cursor
  deriving DecidableEq, Repr

namespace Loop

/-- The loop of a call as it begins. -/
def ofBytes (depth : UInt64) (data : Bytes) : Loop where
  depth
  size := data.length
  taken := 0
  cursor := .ofBytes data

def take (loop : Loop) : Loop := { loop with taken := loop.taken + 1 }

def splice (loop : Loop) (tag : Tag) (replacement : Bytes) : Loop :=
  { loop with cursor := loop.cursor.splice tag replacement }

end Loop

/-- What a call waits for. -/
inductive Awaited where
  /-- The content of a tag, expanded. -/
  | content
  /-- What has been found for a tag, expanded. -/
  | replacement
  deriving DecidableEq, Repr

/-- A call that waits for another to be done with one of its tags. -/
structure Caller where
  loop : Loop
  tag : Tag
  awaited : Awaited
  deriving DecidableEq, Repr

/-- What is done at a time. -/
inductive Activity where
  | call (depth : UInt64) (data : Bytes)
  | search (loop : Loop)
  | answer (result : Except Error Bytes)

/-- An expansion under way: what is done, the calls that wait, the last one first, and the state. -/
structure Machine (σ : Type) where
  activity : Activity
  callers : List Caller
  state : σ

variable {σ : Type}

/-- A machine that answers with what a run has come to. -/
def Machine.answering (ran : Except Error Bytes × σ) (callers : List Caller) : Machine σ where
  activity := .answer ran.1
  callers
  state := ran.2

namespace Expander

variable [Host (StateM σ)]

/-- The steps of an expansion. -/
inductive Step (expander : Expander (StateM σ)) : Machine σ → Machine σ → Prop where
  | tooDeep {depth : UInt64} {data : Bytes} {callers : List Caller} {s : σ}
    (above : expander.ceiling < depth)
    : Step expander ⟨.call depth data, callers, s⟩
        ⟨.answer (.error (.ofFault (.tooManyLevels expander.ceiling))), callers, s⟩
  | start {depth : UInt64} {data : Bytes} {callers : List Caller} {s : σ}
    (within : depth ≤ expander.ceiling)
    : Step expander ⟨.call depth data, callers, s⟩ ⟨.search (.ofBytes depth data), callers, s⟩
  | finish {loop : Loop} {callers : List Caller} {s : σ}
    (found : loop.cursor.search = .exhausted)
    : Step expander ⟨.search loop, callers, s⟩ ⟨.answer (.ok loop.cursor.data), callers, s⟩
  | stop {loop : Loop} {offset : Nat} {callers : List Caller} {s : σ}
    (found : loop.cursor.search = .unclosed offset)
    : Step expander ⟨.search loop, callers, s⟩
        ⟨.answer (.error (.ofFault (.unterminatedTag offset))), callers, s⟩
  | overflow {loop : Loop} {tag : Tag} {callers : List Caller} {s : σ}
    (found : loop.cursor.search = .tag tag) (greatest : ¬loop.depth.toNat + 1 < UInt64.size)
    : Step expander ⟨.search loop, callers, s⟩
        ⟨.answer (.error (.ofFault .depthOverflow)), callers, s⟩
  | descend {loop : Loop} {tag : Tag} {callers : List Caller} {s : σ}
    (found : loop.cursor.search = .tag tag) (fits : loop.depth.toNat + 1 < UInt64.size)
    : Step expander ⟨.search loop, callers, s⟩
        ⟨.call (loop.depth + 1) (tag.content loop.cursor.data),
          ⟨loop.take, tag, .content⟩ :: callers, s⟩
  | resolve {loop : Loop} {tag : Tag} {content found : Bytes} {callers : List Caller} {s t : σ}
    (resolved : outcome (expander.resolve loop.depth tag.kind content) s = (.ok found, t))
    : Step expander ⟨.answer (.ok content), ⟨loop, tag, .content⟩ :: callers, s⟩
        ⟨.call (loop.depth + 1) found, ⟨loop, tag, .replacement⟩ :: callers, t⟩
  | unresolved {loop : Loop} {tag : Tag} {content : Bytes} {error : Error}
    {callers : List Caller} {s t : σ}
    (resolved : outcome (expander.resolve loop.depth tag.kind content) s = (.error error, t))
    : Step expander ⟨.answer (.ok content), ⟨loop, tag, .content⟩ :: callers, s⟩
        ⟨.answer (.error error), callers, t⟩
  | splice {loop : Loop} {tag : Tag} {replacement : Bytes} {callers : List Caller} {s : σ}
    : Step expander ⟨.answer (.ok replacement), ⟨loop, tag, .replacement⟩ :: callers, s⟩
        ⟨.search (loop.splice tag replacement), callers, s⟩
  | fail {error : Error} {caller : Caller} {callers : List Caller} {s : σ}
    : Step expander ⟨.answer (.error error), caller :: callers, s⟩
        ⟨.answer (.error error), callers, s⟩

/-- Any number of steps. -/
abbrev Steps (expander : Expander (StateM σ)) : Machine σ → Machine σ → Prop :=
  Relation.ReflTransGen expander.Step

/-- There is at most one step. -/
theorem Step.unique {expander : Expander (StateM σ)} {machine next next' : Machine σ}
    (step : expander.Step machine next) (step' : expander.Step machine next')
    : next = next' := by
  cases step with
  | tooDeep above =>
      cases step' with
      | tooDeep => rfl
      | start within => exact absurd within (UInt64.not_le.mpr above)
  | start within =>
      cases step' with
      | tooDeep above => exact absurd within (UInt64.not_le.mpr above)
      | start => rfl
  | finish found => cases step' <;> simp_all
  | stop found => cases step' <;> simp_all
  | overflow found greatest => cases step' <;> simp_all
  | descend found fits => cases step' <;> simp_all
  | resolve resolved => cases step' <;> simp_all
  | unresolved resolved => cases step' <;> simp_all
  | splice => cases step'; rfl
  | fail => cases step'; rfl

/-- Without a caller an answer is the end. -/
theorem not_step_answer {expander : Expander (StateM σ)} {result : Except Error Bytes} {s : σ}
    {next : Machine σ}
    : ¬expander.Step ⟨.answer result, [], s⟩ next :=
  nofun

-----------------------------------------------------------------------------------------
-- What the steps lead to
-----------------------------------------------------------------------------------------

variable {expander : Expander (StateM σ)} {depth : UInt64}

/-- Within the ceiling the tags of a buffer are replaced in place. -/
theorem expand_eq_substitute (within : depth ≤ expander.ceiling) (data : Bytes)
    : expander.expand data depth
      = (Cursor.ofBytes data).substitute (fun offset => .ofFault (.unterminatedTag offset))
          (expander.replacement depth) :=
  (expander.expand_eq_assemble data within).trans (Cursor.substitute_append _ _ [] data).symm

/-- A loop comes to what its cursor gives with all tags replaced, if the calls that it makes come to
what they should. By recursion on the bytes after the cursor.
-/
theorem steps_search (loop : Loop)
    (calls
      : loop.depth.toNat + 1 < UInt64.size →
          ∀ data callers s,
            expander.Steps ⟨.call (loop.depth + 1) data, callers, s⟩
              (.answering (outcome (expander.expand data (loop.depth + 1)) s) callers))
    (callers : List Caller) (s : σ)
    : expander.Steps ⟨.search loop, callers, s⟩
        (.answering
          (outcome
            (loop.cursor.substitute (fun offset => .ofFault (.unterminatedTag offset))
              (expander.replacement loop.depth)) s)
          callers) := by
  cases found : loop.cursor.search with
  | exhausted =>
      rw [Cursor.substitute_exhausted _ _ found]
      exact .single (.finish found)
  | unclosed offset =>
      rw [Cursor.substitute_unclosed _ _ found]
      exact .single (.stop found)
  | tag tag =>
      by_cases fits : loop.depth.toNat + 1 < UInt64.size
      case neg =>
        rw [Cursor.substitute_tag _ _ found, replacement_eq_fail _ _ _ fits, fail_bind]
        exact .single (.overflow found fits)
      rw [Cursor.substitute_tag _ _ found, replacement_eq_resolve _ _ _ fits]
      refine .head (.descend found fits) ?_
      simp only [outcome_bind]
      refine (calls fits _ (⟨loop.take, tag, .content⟩ :: callers) s).trans ?_
      rcases outcome (expander.expand (tag.content loop.cursor.data) (loop.depth + 1)) s
        with ⟨error | content, t⟩
      · exact .single .fail
      dsimp only
      rcases resolved : outcome (expander.resolve loop.depth tag.kind content) t
        with ⟨error | named, t'⟩
      · exact .single (.unresolved resolved)
      refine .head (.resolve resolved) ?_
      refine (calls fits named (⟨loop.take, tag, .replacement⟩ :: callers) t').trans ?_
      dsimp only
      rcases outcome (expander.expand named (loop.depth + 1)) t' with ⟨error | replacement, t''⟩
      · exact .single .fail
      · have shorter
            : (loop.take.splice tag replacement).cursor.remaining < loop.cursor.remaining :=
          Nat.lt_of_lt_of_le (Nat.lt_add_of_pos_right (Nat.succ_pos _))
            (Cursor.remaining_splice_add_le found replacement)
        refine .head .splice ?_
        exact steps_search (loop.take.splice tag replacement) calls callers t''
termination_by loop.cursor.remaining

/-- A call comes to what the expansion of its buffer does, by induction on the levels that the
ceiling leaves.
-/
theorem steps_call (expander : Expander (StateM σ)) (depth : UInt64) (data : Bytes)
    (callers : List Caller) (s : σ)
    : expander.Steps ⟨.call depth data, callers, s⟩
        (.answering (outcome (expander.expand data depth) s) callers) := by
  by_cases above : expander.ceiling < depth
  · rw [expand, levels_eq_zero above]
    exact .single (.tooDeep above)
  · have within := UInt64.not_lt.mp above
    refine .head (.start within) ?_
    rw [expand_eq_substitute within]
    refine steps_search (.ofBytes depth data) (fun fits data callers s => ?_) callers s
    have fewer := levels_eq_levels_next within fits
    exact steps_call expander (depth + 1) data callers s
termination_by levels expander.ceiling depth

/-- Every run of the machine ends, and no run goes past the answer. -/
theorem acc_call (expander : Expander (StateM σ)) (depth : UInt64) (data : Bytes) (s : σ)
    : Acc (fun next machine => expander.Step machine next) ⟨.call depth data, [], s⟩ := by
  have steps := expander.steps_call depth data [] s
  generalize (⟨.call depth data, [], s⟩ : Machine σ) = machine at steps
  induction steps using Relation.ReflTransGen.head_induction_on with
  | refl => exact ⟨_, fun next step => absurd step not_step_answer⟩
  | head step _ ih =>
      refine ⟨_, fun next step' => ?_⟩
      rwa [← step.unique step']

-----------------------------------------------------------------------------------------
-- What every step keeps
-----------------------------------------------------------------------------------------

end Expander

/-- The bytes that a loop has left are fewer by seven for each tag that it has come to. -/
structure Loop.Shrinks (loop : Loop) : Prop where
  within : loop.cursor.position ≤ loop.cursor.data.length
  shorter : 7 * loop.taken + loop.cursor.remaining ≤ loop.size

/-- The tag of a caller is the one that its loop has found, and what follows it is all that the loop
has left.
-/
structure Caller.Shrinks (caller : Caller) : Prop where
  found : caller.loop.cursor.search = .tag caller.tag
  shorter
    : 7 * caller.loop.taken + (caller.loop.cursor.data.length - caller.tag.stop)
      ≤ caller.loop.size

/-- The depth of what is done, if that is part of a call. -/
def Activity.depth? : Activity → Option UInt64
  | .call depth _ => some depth
  | .search loop => some loop.depth
  | .answer _ => none

/-- The depths of the calls under way, the last call first. -/
def Machine.depths (machine : Machine σ) : List UInt64 :=
  machine.activity.depth?.toList ++ machine.callers.map (·.loop.depth)

/-- A depth is the one after another, as numbers and so without any wrap. -/
def Succeeds (inner outer : UInt64) : Prop := inner.toNat = outer.toNat + 1

/-- A caller waits within the ceiling for a call that there is a depth for. -/
structure Caller.Waits (ceiling : UInt64) (caller : Caller) : Prop where
  shrinks : caller.Shrinks
  within : caller.loop.depth ≤ ceiling
  fits : caller.loop.depth.toNat + 1 < UInt64.size

/-- Loops get shorter, and calls are made within the ceiling, each just below its caller. -/
structure Machine.Orderly (ceiling : UInt64) (machine : Machine σ) : Prop where
  loop : ∀ loop, machine.activity = .search loop → loop.Shrinks ∧ loop.depth ≤ ceiling
  callers : ∀ caller ∈ machine.callers, caller.Waits ceiling
  successive : machine.depths.IsChain Succeeds

namespace Loop

theorem shrinks_ofBytes (depth : UInt64) (data : Bytes) : (ofBytes depth data).Shrinks :=
  ⟨Nat.zero_le _, by simp [ofBytes, Cursor.ofBytes, Cursor.remaining]⟩

/-- A tag that is found takes at least an opening and a brace. -/
theorem Shrinks.take {loop : Loop} (shrinks : loop.Shrinks) {tag : Tag}
    (found : loop.cursor.search = .tag tag) (awaited : Awaited)
    : Caller.Shrinks ⟨loop.take, tag, awaited⟩ := by
  refine ⟨found, ?_⟩
  have bounds := Cursor.search_bounds found
  have shorter := shrinks.shorter
  simp only [Loop.take, Cursor.remaining, Tag.stop, Tag.contentStop, Tag.contentStart,
    Tag.openingSize] at bounds shorter ⊢
  omega

end Loop

/-- However long the replacement is, only what follows the tag is left. -/
theorem Caller.Shrinks.splice {loop : Loop} {tag : Tag} {awaited : Awaited}
    (shrinks : Caller.Shrinks ⟨loop, tag, awaited⟩) (replacement : Bytes)
    : (loop.splice tag replacement).Shrinks := by
  have bounds := Cursor.search_bounds shrinks.found
  have shorter := shrinks.shorter
  have startLe : tag.start ≤ loop.cursor.data.length := by
    simp only [Tag.stop, Tag.contentStop, Tag.contentStart] at bounds
    omega
  have sizes : (loop.cursor.data.take tag.start).length = tag.start := by
    rw [List.length_take, Nat.min_eq_left startLe]
  refine ⟨?_, ?_⟩ <;>
    simp only [Loop.splice, Cursor.splice, Cursor.remaining, List.length_append, List.length_drop,
      sizes] at shorter ⊢ <;>
    omega

namespace Machine

variable {ceiling : UInt64}

theorem orderly_call (ceiling depth : UInt64) (data : Bytes) (s : σ)
    : Orderly ceiling ⟨.call depth data, [], s⟩ where
  loop := nofun
  callers := nofun
  successive := .singleton depth

/-- An answer may come at any time. -/
theorem Orderly.answer {machine : Machine σ} (orderly : machine.Orderly ceiling)
    (result : Except Error Bytes) (s : σ)
    : Orderly ceiling ⟨.answer result, machine.callers, s⟩ where
  loop := nofun
  callers := orderly.callers
  successive := orderly.successive.right_of_append

/-- An answer ends the call that is under way. -/
theorem Orderly.leave {activity : Activity} {caller : Caller} {callers : List Caller} {s : σ}
    (orderly : Orderly ceiling ⟨activity, caller :: callers, s⟩) (result : Except Error Bytes)
    (t : σ)
    : Orderly ceiling ⟨.answer result, callers, t⟩ where
  loop := nofun
  callers := (List.forall_mem_cons.mp orderly.callers).2
  successive := orderly.successive.right_of_append.tail

/-- What is called by a caller that waits is just below it. -/
theorem orderly_descend {caller : Caller} {callers : List Caller} {data : Bytes} {s : σ}
    (waits : caller.Waits ceiling) (others : ∀ caller ∈ callers, caller.Waits ceiling)
    (successive : (caller.loop.depth :: callers.map (·.loop.depth)).IsChain Succeeds)
    : Orderly ceiling ⟨.call (caller.loop.depth + 1) data, caller :: callers, s⟩ where
  loop := nofun
  callers := List.forall_mem_cons.mpr ⟨waits, others⟩
  successive := .cons_cons (toNat_next waits.fits) successive

/-- Calls that are each just below their callers go deeper. -/
theorem Orderly.deeper {machine : Machine σ} (orderly : machine.Orderly ceiling)
    : machine.depths.Pairwise (· > ·) := by
  rw [← List.isChain_iff_pairwise]
  refine orderly.successive.imp fun inner outer below => ?_
  exact UInt64.lt_iff_toNat_lt.mpr (Nat.lt_of_succ_le (Nat.le_of_eq below.symm))

end Machine

namespace Expander

variable [Host (StateM σ)] {expander : Expander (StateM σ)} {machine next : Machine σ}

theorem Step.orderly (step : expander.Step machine next)
    (orderly : machine.Orderly expander.ceiling)
    : next.Orderly expander.ceiling := by
  cases step with
  | tooDeep => exact orderly.answer _ _
  | @start depth data _ _ within =>
      refine ⟨?_, orderly.callers, orderly.successive⟩
      rintro _ ⟨rfl⟩
      exact ⟨Loop.shrinks_ofBytes depth data, within⟩
  | finish => exact orderly.answer _ _
  | stop => exact orderly.answer _ _
  | overflow => exact orderly.answer _ _
  | descend found fits =>
      obtain ⟨shrinks, within⟩ := orderly.loop _ rfl
      exact Machine.orderly_descend ⟨shrinks.take found _, within, fits⟩ orderly.callers
        orderly.successive
  | @resolve loop tag =>
      obtain ⟨waits, others⟩ := List.forall_mem_cons.mp orderly.callers
      have again : Caller.Waits expander.ceiling ⟨loop, tag, .replacement⟩ :=
        ⟨⟨waits.shrinks.found, waits.shrinks.shorter⟩, waits.within, waits.fits⟩
      exact Machine.orderly_descend again others orderly.successive
  | unresolved => exact orderly.leave _ _
  | splice =>
      obtain ⟨waits, others⟩ := List.forall_mem_cons.mp orderly.callers
      refine ⟨?_, others, orderly.successive⟩
      rintro _ ⟨rfl⟩
      exact ⟨waits.shrinks.splice _, waits.within⟩
  | fail => exact orderly.leave _ _

/-- However far a call has been run, everything is in order. By induction on the steps. -/
theorem Steps.orderly (steps : expander.Steps machine next)
    (orderly : machine.Orderly expander.ceiling)
    : next.Orderly expander.ceiling := by
  induction steps with
  | refl => exact orderly
  | tail _ step ih => exact step.orderly ih

end Expander

end TaggedConfig
