import TaggedConfig.Proofs.Expansion.Segments
import TaggedConfig.Proofs.Relation

/-! Related expansions.
An expansion is composed of the actions that resolve its tags, so what relates these for two
expansions relates the expansions too.
-/

namespace TaggedConfig

open Run

namespace Compositional

section

variable {m n : Type → Type} [Monad m] [Monad n]
  {Rel : ∀ {α : Type}, Action m α → Action n α → Prop}

/-- The depth after another is the same or missing on both hosts. -/
theorem deeper (compositional : Compositional @Rel) (depth : UInt64)
    : Rel (TaggedConfig.deeper depth) (TaggedConfig.deeper depth) := by
  by_cases fits : depth.toNat + 1 < UInt64.size
  · rw [deeper_eq_pure fits, deeper_eq_pure fits]
    exact compositional.pure _
  · rw [deeper_eq_fail fits, deeper_eq_fail fits]
    exact compositional.throw _

variable [Host m] [Host n]

/-- Looking up the variable of a tag is composed of one lookup. -/
theorem lookup (compositional : Compositional @Rel) {name : String}
    (related : Rel (ExceptT.lift (Host.lookup name)) (ExceptT.lift (Host.lookup name)))
    : Rel (Expander.lookup name) (Expander.lookup name) := by
  unfold Expander.lookup
  split
  · exact compositional.throw _
  · refine compositional.bind related fun value => ?_
    cases value with
    | none => exact compositional.throw _
    | some value =>
        dsimp only
        split
        · exact compositional.throw _
        · exact compositional.pure value

/-- Resolving a tag is composed of a log record and of a load or a lookup. -/
theorem resolve (compositional : Compositional @Rel) {expander : Expander m}
    {expander' : Expander n}
    (loaded
      : ∀ descriptor,
          Rel (expander.chain.load expander.context descriptor)
            (expander'.chain.load expander'.context descriptor))
    (looked : ∀ name, Rel (ExceptT.lift (Host.lookup name)) (ExceptT.lift (Host.lookup name)))
    (logged : ∀ level text, Rel (Action.log level text) (Action.log level text)) (depth : UInt64)
    (kind : Tag.Kind) (content : Bytes)
    : Rel (expander.resolve depth kind content) (expander'.resolve depth kind content) := by
  match kind with
  | .source => exact compositional.bind (logged _ _) fun _ => loaded _
  | .variable => exact compositional.bind (logged _ _) fun _ => compositional.lookup (looked _)

end

variable {m n : Type → Type} [Monad m] [Monad n] [LawfulMonad m] [LawfulMonad n]
  {Rel : ∀ {α : Type}, Action m α → Action n α → Prop}

/-- Segments are put together alike if their tags are replaced alike. -/
theorem assemble (compositional : Compositional @Rel) (segmentation : Segmentation)
    (unclosed : Nat → Error) {replace : Tag.Kind → Bytes → Action m Bytes}
    {replace' : Tag.Kind → Bytes → Action n Bytes}
    (related : ∀ kind raw, Rel (replace kind raw) (replace' kind raw))
    : Rel (segmentation.assemble unclosed replace) (segmentation.assemble unclosed replace') := by
  refine compositional.bind (compositional.mapM (fun segment => ?_) _) fun parts => ?_
  · exact compositional.bind (related _ _) fun _ => compositional.pure _
  · cases segmentation.unclosed with
    | true => exact compositional.throw _
    | false => exact compositional.pure _

variable {resolve : UInt64 → Tag.Kind → Bytes → Action m Bytes}
  {resolve' : UInt64 → Tag.Kind → Bytes → Action n Bytes} {ceiling ceiling' : UInt64}

/-- Buffers are expanded alike with one more level if they are with the levels below, and if there
is a depth below for both or for neither.
-/
theorem expandWithin_step (compositional : Compositional @Rel) {levels levels' : Nat}
    {depth depth' : UInt64}
    (fits : depth.toNat + 1 < UInt64.size ↔ depth'.toNat + 1 < UInt64.size)
    (resolved : ∀ kind content, Rel (resolve depth kind content) (resolve' depth' kind content))
    (below
      : depth.toNat + 1 < UInt64.size →
          ∀ data,
            Rel (expandWithin resolve ceiling levels (depth + 1) data)
              (expandWithin resolve' ceiling' levels' (depth' + 1) data))
    (data : Bytes)
    : Rel (expandWithin resolve ceiling (levels + 1) depth data)
        (expandWithin resolve' ceiling' (levels' + 1) depth' data) := by
  rw [expandWithin_succ, expandWithin_succ]
  refine compositional.assemble _ _ fun kind raw => ?_
  by_cases next : depth.toNat + 1 < UInt64.size
  · rw [deeper_eq_pure next, deeper_eq_pure (fits.mp next), pure_bind, pure_bind]
    refine compositional.bind (below next raw) fun content => ?_
    exact compositional.bind (resolved kind content) (below next)
  · rw [deeper_eq_fail next, deeper_eq_fail (mt fits.mpr next), fail_bind, fail_bind]
    exact compositional.throw _

/-- Two expansions are related if they resolve tags alike. By induction on the levels. -/
theorem expandWithin_alike (compositional : Compositional @Rel)
    (resolved
      : ∀ depth kind content, Rel (resolve depth kind content) (resolve' depth kind content))
    (ceiling : UInt64) (levels : Nat) (depth : UInt64) (data : Bytes)
    : Rel (expandWithin resolve ceiling levels depth data)
        (expandWithin resolve' ceiling levels depth data) := by
  induction levels generalizing depth data with
  | zero => exact compositional.throw _
  | succ levels ih =>
      exact compositional.expandWithin_step .rfl (resolved depth) (fun _ => ih (depth + 1)) data

/-- Two expansions are related if they resolve tags alike and the first, where it has no level
left, is related to the second with the levels that this one has more. No depth of either is the
greatest word. By induction on the levels of the first.
-/
theorem expandWithin (compositional : Compositional @Rel) (shift : UInt64) (extra : Nat)
    (resolved
      : ∀ depth kind content,
          Rel (resolve depth kind content) (resolve' (depth + shift) kind content))
    (exhausted
      : ∀ depth data,
          Rel (.fail (.tooManyLevels ceiling))
            (expandWithin resolve' ceiling' extra (depth + shift) data))
    (levels : Nat) (depth : UInt64) (fits : depth.toNat + shift.toNat + levels < UInt64.size)
    (data : Bytes)
    : Rel (expandWithin resolve ceiling levels depth data)
        (expandWithin resolve' ceiling' (levels + extra) (depth + shift) data) := by
  induction levels generalizing depth data with
  | zero =>
      rw [Nat.zero_add]
      exact exhausted depth data
  | succ levels ih =>
      have shifted : (depth + shift).toNat = depth.toNat + shift.toNat := by
        rw [UInt64.toNat_add]
        exact Nat.mod_eq_of_lt (show _ < UInt64.size by omega)
      have next : depth + shift + 1 = depth + 1 + shift := by
        rw [UInt64.add_assoc, UInt64.add_comm shift, ← UInt64.add_assoc]
      rw [Nat.add_right_comm]
      refine compositional.expandWithin_step (by omega) (resolved depth) (fun single data => ?_)
        data
      rw [next]
      exact ih (depth + 1) (by rw [toNat_next single]; omega) data

end Compositional

variable {σ : Type}

/-- What the replacements of tags keep is kept when the segments are put together. -/
theorem Run.Keeps.assemble {P : σ → Prop} {replace : Tag.Kind → Bytes → Action (StateM σ) Bytes}
    (keeps : ∀ kind raw, Keeps P (replace kind raw)) (segmentation : Segmentation)
    (unclosed : Nat → Error)
    : Keeps P (segmentation.assemble unclosed replace) :=
  ((compositional_keeps P).assemble segmentation unclosed fun kind raw => ⟨rfl, keeps kind raw⟩).2

/-- Segments are put together with failures of a sort if their tags are replaced with such failures
and an opening that is left is one.
-/
theorem Run.FailsWith.assemble {ε : Type} {Q : ε → σ → Prop} {unclosed : Nat → ε}
    {replace : Tag.Kind → Bytes → ExceptT ε (StateM σ) Bytes}
    (opened : ∀ offset s, Q (unclosed offset) s)
    (fails : ∀ kind raw, FailsWith Q (replace kind raw))
    (segmentation : Segmentation)
    : FailsWith Q (segmentation.assemble unclosed replace) := by
  refine FailsWith.bind (.mapM (fun segment => ?_) _) fun parts => ?_
  · exact FailsWith.bind (fails _ _) fun _ => .pure _
  · cases segmentation.unclosed with
    | true => exact .throw (opened _)
    | false => exact .pure _

/-- Buffers are expanded with failures of a sort if their tags are resolved with such failures and
those of the expansion itself are such. By induction on the levels.
-/
theorem Run.FailsWith.expandWithin {Q : Error → σ → Prop}
    {resolve : UInt64 → Tag.Kind → Bytes → Action (StateM σ) Bytes} {ceiling : UInt64}
    (resolved : ∀ depth kind content, FailsWith Q (resolve depth kind content))
    (opened : ∀ offset s, Q (.ofFault (.unterminatedTag offset)) s)
    (tooDeep : ∀ s, Q (.ofFault (.tooManyLevels ceiling)) s)
    (overflows : ∀ s, Q (.ofFault .depthOverflow) s) (levels : Nat) (depth : UInt64)
    (data : Bytes)
    : FailsWith Q (expandWithin resolve ceiling levels depth data) := by
  induction levels generalizing depth data with
  | zero => exact .throw tooDeep
  | succ levels ih =>
      rw [TaggedConfig.expandWithin_succ]
      refine .assemble opened (fun kind raw => ?_) _
      refine FailsWith.bind ?_ fun next => ?_
      · unfold deeper
        split_ifs
        · exact .pure _
        · exact .throw overflows
      refine FailsWith.bind (ih next raw) fun content => ?_
      exact FailsWith.bind (resolved depth kind content) fun found => ih next found

/-- What is kept at the levels below and by resolving tags is kept with one more level. -/
theorem Run.Keeps.expandWithin_succ {P : σ → Prop}
    {resolve : UInt64 → Tag.Kind → Bytes → Action (StateM σ) Bytes} {ceiling : UInt64}
    {levels : Nat} {depth : UInt64}
    (resolved : ∀ kind content, Keeps P (resolve depth kind content))
    (below : ∀ data, Keeps P (expandWithin resolve ceiling levels (depth + 1) data))
    (data : Bytes)
    : Keeps P (expandWithin resolve ceiling (levels + 1) depth data) :=
  ((compositional_keeps P).expandWithin_step .rfl (fun kind content => ⟨rfl, resolved kind content⟩)
    (fun _ data => ⟨rfl, below data⟩) data).2

end TaggedConfig
