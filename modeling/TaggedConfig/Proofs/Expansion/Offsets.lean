import TaggedConfig.Proofs.Expansion.Locality

/-! The offsets of openings without their braces.
An expansion counts the bytes before such an opening after the tags before it have been replaced.
Main statement: the offset is moved by as much as the replacements are longer or shorter than their
tags.
-/

namespace TaggedConfig

open Run

-----------------------------------------------------------------------------------------
-- Where the opening stands
-----------------------------------------------------------------------------------------

/-- The number of bytes of a tag, from its dollar sign to its closing brace. -/
def Segment.extent (segment : Segment) : Nat := Tag.openingSize + segment.content.length + 1

theorem Segment.length_bytes (segment : Segment)
    : segment.bytes.length = segment.literal.length + segment.extent := by
  simp only [bytes, extent, List.length_append, segment.kind.length_opening, List.length_singleton,
    Nat.add_assoc]

namespace Segmentation

/-- The number of bytes up to an opening that no brace closes. -/
def size (segmentation : Segmentation) : Nat :=
  (segmentation.segments.map (·.bytes.length)).sum + segmentation.rest.length

/-- The bytes with the tags replaced, up to an opening that no brace closes. -/
def filled (segmentation : Segmentation) (replacements : List Bytes) : Bytes :=
  (segmentation.segments.zipWith (·.literal ++ ·) replacements).flatten ++ segmentation.rest

/-- Replaced tags change the number of bytes by the difference of the lengths, by induction on the
tags.
-/
theorem length_filled (segmentation : Segmentation) {replacements : List Bytes}
    (each : replacements.length = segmentation.segments.length)
    : (segmentation.filled replacements).length + (segmentation.segments.map Segment.extent).sum
      = segmentation.size + (replacements.map List.length).sum := by
  obtain ⟨segments, rest, unclosed⟩ := segmentation
  simp only [filled, size, List.length_append] at each ⊢
  induction segments generalizing replacements with
  | nil =>
      obtain rfl := List.eq_nil_of_length_eq_zero each
      simp
  | cons segment segments ih =>
      obtain ⟨first, others, rfl⟩ := List.exists_cons_of_length_eq_add_one each
      have later := ih (Nat.succ.inj each)
      simp only [List.zipWith_cons_cons, List.flatten_cons, List.length_append, List.map_cons,
        List.sum_cons, segment.length_bytes] at later ⊢
      omega

/-- The replacements are found first, and then put in their places. -/
theorem assemble_eq_filled {m : Type → Type} [Monad m] [LawfulMonad m] {ε : Type}
    (unclosed : Nat → ε) (replace : Tag.Kind → Bytes → ExceptT ε m Bytes)
    (segmentation : Segmentation)
    : segmentation.assemble unclosed replace
      = (do
          let replacements ←
            segmentation.segments.mapM fun segment => replace segment.kind segment.content
          let output := segmentation.filled replacements
          if segmentation.unclosed then throw (unclosed output.length) else pure output) := by
  have parts (segments : List Segment)
      : (segments.mapM fun segment => do
            let replacement ← replace segment.kind segment.content
            pure (segment.literal ++ replacement))
        = segments.zipWith (·.literal ++ ·) <$>
            segments.mapM fun segment => replace segment.kind segment.content := by
    induction segments with
    | nil => simp
    | cons segment segments ih =>
        rw [List.mapM_cons, ih, List.mapM_cons]
        simp
  rw [assemble, assembleAfter, parts, bind_map_left]
  rfl

end Segmentation

/-- An opening that no brace closes is met after all segments, by recursion along the searches. -/
theorem Cursor.Meets.place_eq {cursor : Cursor} {place : Nat}
    (meets : cursor.Meets (.unclosed place))
    : place = cursor.position + cursor.segmentation.size := by
  fun_induction segmentation cursor with
  | case1 cursor found =>
      cases found.symm.trans (meets.eq_search (by simp [found]))
  | case2 cursor offset found =>
      obtain rfl : offset = place :=
        Outcome.unclosed.inj (found.symm.trans (meets.eq_search (by simp [found])))
      have within := search_unclosed_lt found
      have scans := cursor.scans_search
      rw [found] at scans
      have after : cursor.position ≤ offset := by
        generalize cursor.advance = next at scans
        cases scans with
        | unclosed first _ => exact first.1.1
      simp only [Segmentation.size, List.map_nil, List.sum_nil, List.length_take, List.length_drop]
      omega
  | case3 cursor tag found literal others ih =>
      have bounds := search_bounds found
      have content := @Tag.length_content _ tag (Nat.le_of_succ_le bounds.2)
      generalize known : Outcome.unclosed place = outcome at meets
      cases meets with
      | now => cases found.symm.trans known.symm
      | later _ meets =>
          have later := ih (known ▸ meets)
          have start : cursor.advance.position = tag.stop := by rw [advance_tag found]
          simp only [Segmentation.size, List.map_cons, List.sum_cons, Segment.length_bytes,
            Segment.extent, List.length_take, List.length_drop, literal, others, content,
            start] at later ⊢
          simp only [Tag.stop, Tag.contentStop, Tag.contentStart] at bounds later
          omega

-----------------------------------------------------------------------------------------
-- What takes the places of tags
-----------------------------------------------------------------------------------------

namespace Expander

section

variable {m : Type → Type} [Monad m] [Host m]

/-- What takes the places of the tags of a buffer, from left to right. -/
def replacements (expander : Expander m) (data : Bytes) (depth : UInt64) : Action m (List Bytes) :=
  (Segmentation.ofBytes data).segments.mapM fun segment =>
    expander.replacement depth segment.kind segment.content

/-- Within the ceiling the replacements are found first, and then put in their places. -/
theorem expand_eq_filled [LawfulMonad m] (expander : Expander m) (data : Bytes) {depth : UInt64}
    (within : depth ≤ expander.ceiling)
    : expander.expand data depth
      = (do
          let replacements ← expander.replacements data depth
          let output := (Segmentation.ofBytes data).filled replacements
          if (Segmentation.ofBytes data).unclosed then .fail (.unterminatedTag output.length)
          else pure output) := by
  rw [expander.expand_eq_assemble data within, Segmentation.assemble_eq_filled, replacements]
  rfl

end

variable {σ : Type} [Host (StateM σ)]

/-- Above the ceiling nothing is expanded. -/
theorem outcome_expand_above (expander : Expander (StateM σ)) (data : Bytes) {depth : UInt64}
    (above : expander.ceiling < depth) (s : σ)
    : outcome (expander.expand data depth) s
      = (.error (.ofFault (.tooManyLevels expander.ceiling)), s) := by
  rw [expand, levels_eq_zero above]
  rfl

end Expander

section

variable {τ : Type}

/-- The failure is at no opening of the buffer that the whole expansion is of. -/
def Failure.Elsewhere (failure : Failure) : Prop := ∀ offset, failure ≠ .unclosed .given offset

/-- What takes the place of a tag fails elsewhere if the buffers below it do. -/
theorem Failure.Elsewhere.replaceTracing
    {resolve : UInt64 → Tag.Kind → Bytes → Action (StateM τ) Bytes} {ceiling : UInt64}
    {levels : Nat}
    (below
      : ∀ next origin data,
          origin ≠ .given →
            FailsWith (fun failure _ => failure.Elsewhere)
              (expandTracing resolve ceiling levels next origin data))
    (depth : UInt64) (kind : Tag.Kind) (raw : Bytes)
    : FailsWith (fun failure _ => failure.Elsewhere)
        (TaggedConfig.replaceTracing resolve ceiling levels depth kind raw) := by
  have others {α : Type} (action : Action (StateM τ) α)
      : FailsWith (fun failure _ => failure.Elsewhere) (action.adapt Failure.other) := by
    have fails : FailsWith (fun _ _ => True) action := fun _ _ _ => trivial
    exact fails.adapt fun _ _ _ => nofun
  refine FailsWith.bind (others _) fun next => ?_
  refine FailsWith.bind (below next _ raw (by decide)) fun content => ?_
  exact FailsWith.bind (others _) fun found => below next _ found (by decide)

/-- Buffers that come up in an expansion fail elsewhere, by induction on the levels. -/
theorem Failure.Elsewhere.expandTracing
    (resolve : UInt64 → Tag.Kind → Bytes → Action (StateM τ) Bytes) (ceiling : UInt64)
    (levels : Nat) (depth : UInt64) (origin : Origin) (data : Bytes) (other : origin ≠ .given)
    : FailsWith (fun failure _ => failure.Elsewhere)
        (TaggedConfig.expandTracing resolve ceiling levels depth origin data) := by
  induction levels generalizing depth origin data with
  | zero => exact .throw fun _ => nofun
  | succ levels ih =>
      rw [expandTracing_succ]
      refine .assemble ?_ (replaceTracing ih depth) _
      intro offset _ offset' same
      exact other (Failure.unclosed.inj same).1

end

namespace Expander

variable {σ : Type} [Host (StateM σ)] {expander : Expander (StateM σ)} {data : Bytes}
  {depth : UInt64}

/-- With notes and account left out the tags are replaced as they are without. -/
theorem replacements_mirrors
    : Mirrors (fun (returns : Returns σ) s => returns.state = s) Eq
        (((Segmentation.ofBytes data).segments.mapM fun segment =>
            replaceTracing expander.noted expander.ceiling
              (expander.ceiling.toNat - depth.toNat) depth segment.kind
              segment.content).adapt fun failure => (failure.after 0).error)
        (expander.replacements data depth) := by
  have compositional :=
    compositional_mirrors (fun (returns : Returns σ) s => returns.state = s) (E := Eq) fun _ => rfl
  have expanded :=
    compositional.expandWithin_alike expander.noted_mirrors expander.ceiling
      (expander.ceiling.toNat - depth.toNat)
  rw [adapt_mapM, replacements]
  simp only [adapt_replaceTracing, replacement_eq_expandWithin]
  refine compositional.mapM (fun segment => ?_) _
  refine compositional.bind (compositional.deeper depth) fun next => ?_
  refine compositional.bind (expanded next _) fun content => ?_
  exact compositional.bind (expander.noted_mirrors _ _ _) (expanded next)

/-- Where the failure is at an opening of the buffer itself, all its tags have been replaced. -/
theorem exists_replacements (within : depth ≤ expander.ceiling) {offset : Nat}
    {returns after : Returns σ}
    (failed
      : outcome (expander.traced data depth) returns = (.error (.unclosed .given offset), after))
    : ∃ replacements,
        outcome (expander.replacements data depth) returns.state
          = (.ok replacements, after.state) := by
  obtain ⟨same, left⟩ := @replacements_mirrors _ _ expander data depth returns _ rfl
  rw [outcome_adapt] at same left
  rw [traced, levels_eq_add_one within, expandTracing_succ, Segmentation.assemble_eq_filled,
    outcome_bind] at failed
  have elsewhere :=
    FailsWith.mapM
      (fun segment : Segment =>
        Failure.Elsewhere.replaceTracing
          (Failure.Elsewhere.expandTracing expander.noted expander.ceiling
            (expander.ceiling.toNat - depth.toNat))
          depth segment.kind segment.content)
      (Segmentation.ofBytes data).segments returns
  rcases ran
      : outcome ((Segmentation.ofBytes data).segments.mapM fun segment =>
          replaceTracing expander.noted expander.ceiling
            (expander.ceiling.toNat - depth.toNat) depth segment.kind segment.content) returns
    with ⟨failure | replacements, later⟩ <;> rw [ran] at failed same left elsewhere
  · obtain ⟨known, -⟩ := Prod.mk.inj failed
    exact absurd (Except.error.inj known) (elsewhere _ rfl offset)
  · have ends : later = after := by
      dsimp only at failed
      split at failed <;> exact (Prod.mk.inj failed).2
    exact ⟨replacements, Prod.ext same.eq.symm (ends ▸ left.symm)⟩

/-- An offset is that of a place, moved by as much as the replacements of the tags of a buffer are
longer or shorter than the tags.
-/
def Displaced (data : Bytes) (replacements : List Bytes) (place offset : Nat) : Prop :=
  offset + ((Segmentation.ofBytes data).segments.map Segment.extent).sum
  = place + (replacements.map List.length).sum

theorem displaced_length_filled {replacements : List Bytes} {place : Nat} {s t : σ}
    (meets : (Cursor.ofBytes data).Meets (.unclosed place))
    (replaced : outcome (expander.replacements data depth) s = (.ok replacements, t))
    : Displaced data replacements place
        ((Segmentation.ofBytes data).filled replacements).length := by
  have filled := (Segmentation.ofBytes data).length_filled (length_of_outcome_mapM replaced)
  have size := meets.place_eq
  rw [Cursor.ofBytes, Nat.zero_add] at size
  exact filled.trans (congrArg (· + _) size.symm)

/-- Once the tags before an opening without its brace have been replaced, the expansion fails. -/
theorem outcome_expand_unclosed (within : depth ≤ expander.ceiling)
    (unclosed : (Segmentation.ofBytes data).unclosed = true) {replacements : List Bytes} {s t : σ}
    (replaced : outcome (expander.replacements data depth) s = (.ok replacements, t))
    : outcome (expander.expand data depth) s
      = (.error (.ofFault
          (.unterminatedTag ((Segmentation.ofBytes data).filled replacements).length)), t) := by
  rw [expand_eq_filled _ _ within, outcome_bind, replaced]
  dsimp only
  rw [if_pos unclosed]
  rfl

/-- The offset that is reported is that of the opening in the buffer as it stands then. An opening
without its brace makes the expansion fail as soon as all tags before it have been replaced, with
its offset moved by what they have been replaced by. An expansion that fails at an opening either
fails so, and then the offset is that of the opening in the given buffer only if the replacements
are together as long as their tags, or a load or a lookup gave bytes that leave a tag open, or a
loader that is not built in failed with such an error itself.
-/
theorem unterminated_offset (expander : Expander (StateM σ)) (data : Bytes) (depth : UInt64) (s : σ)
    : (∀ place replacements t,
        depth ≤ expander.ceiling →
        (Cursor.ofBytes data).Meets (.unclosed place) →
        outcome (expander.replacements data depth) s = (.ok replacements, t) →
          ∃ offset,
            outcome (expander.expand data depth) s
              = (.error (.ofFault (.unterminatedTag offset)), t)
            ∧ Displaced data replacements place offset)
      ∧ ∀ error offset t,
          outcome (expander.expand data depth) s = (.error error, t) →
          error.fault = .unterminatedTag offset →
            (∃ place replacements,
              (Cursor.ofBytes data).Meets (.unclosed place)
              ∧ outcome (expander.replacements data depth) s = (.ok replacements, t)
              ∧ Displaced data replacements place offset
              ∧ (offset = place
                ↔ (replacements.map List.length).sum
                  = ((Segmentation.ofBytes data).segments.map Segment.extent).sum))
            ∨ (∃ bytes,
              .ok bytes ∈ (outcome (expander.traced data depth) { state := s }).2.results
              ∧ (Segmentation.ofBytes bytes).unclosed = true)
            ∨ (.error error ∈ (outcome (expander.traced data depth) { state := s }).2.results
              ∧ expander.chain ≠ Chain.builtin) := by
  refine ⟨?_, ?_⟩
  · intro place replacements t within meets replaced
    have unclosed := Cursor.unclosed_segmentation_iff.mpr ⟨place, meets⟩
    have displaced := displaced_length_filled meets replaced
    exact ⟨_, outcome_expand_unclosed within unclosed replaced, displaced⟩
  · intro error offset t failed fault
    have within : depth ≤ expander.ceiling := by
      by_contra above
      rw [outcome_expand_above _ _ (UInt64.not_le.mp above)] at failed
      obtain ⟨rfl⟩ := (Prod.mk.inj failed).1
      cases fault
    have whole := expander.outcome_expand_traced data depth { state := s }
    dsimp only at whole
    rw [failed] at whole
    obtain ⟨result, left⟩ := Prod.mk.inj whole
    obtain ⟨failure, ran, reported⟩ := Outcome.mapError_eq_error.mp result.symm
    have given : Origin.given.Admits data [] data := rfl
    have accounts := accounts_expandTracing expander expander.ceiling data
      (levels expander.ceiling depth) depth given
    have stems := (accounts { state := s } (List.nil_subset _)).2 failure ran
    cases stems with
    | @given place opened own =>
        obtain ⟨replacements, replaced⟩ := exists_replacements within (Prod.ext ran rfl)
        rw [← left] at replaced
        have unclosed := Cursor.unclosed_segmentation_iff.mpr ⟨place, opened⟩
        have again := outcome_expand_unclosed within unclosed replaced
        rw [failed] at again
        obtain rfl := Except.error.inj (Prod.mk.inj again).1
        obtain rfl := Fault.unterminatedTag.inj fault
        have displaced := displaced_length_filled opened replaced
        refine .inl ⟨place, replacements, opened, replaced, displaced, ?_⟩
        rw [Displaced] at displaced
        omega
    | @found bytes place returned opened own =>
        exact .inr (.inl ⟨bytes, returned, Cursor.unclosed_segmentation_iff.mpr ⟨place, opened⟩⟩)
    | @failed cause returned =>
        obtain rfl : cause = error := reported
        refine .inr (.inr ⟨returned, fun builtIn => ?_⟩)
        have loading := results_builtin builtIn data depth s _ returned
        rw [fault] at loading
        cases loading
    | tooDeep | overflow =>
        obtain rfl := reported
        cases fault

/-- An opening without its brace after a tag of eight bytes. -/
def openedAfterTag : Bytes := ascii "$\x7bENV:A\x7d$\x7bENV:B"

/-- A world in which the value of the variable is as long as the tag that names it. -/
def wideVariable : World where
  environment := [("A", ascii "12345678")]

/-- A value as long as its tag leaves the offset where it is. -/
theorem unterminated_offset_kept
    : (outcome (({ chain := Chain.builtin } : Expander (StateM World)).expand openedAfterTag)
          wideVariable).1
        = .error (.ofFault (.unterminatedTag 8))
      ∧ (Cursor.ofBytes openedAfterTag).Meets (.unclosed 8) := by
  let expander : Expander (StateM World) := { chain := Chain.builtin }
  obtain ⟨-, reported⟩ := unterminated_offset expander openedAfterTag 0 wideVariable
  have failed
      : (outcome (expander.expand openedAfterTag) wideVariable).1
        = .error (.ofFault (.unterminatedTag 8)) := by
    decide +kernel
  have results
      : (outcome (expander.traced openedAfterTag 0) { state := wideVariable }).2.results
        = [.ok (ascii "12345678")] := by
    decide +kernel
  refine ⟨failed, ?_⟩
  rcases reported _ 8 _ (Prod.ext failed rfl) rfl with
    ⟨place, replacements, meets, replaced, -, kept⟩ | ⟨bytes, returned, opened⟩ | ⟨-, other⟩
  · have known
        : (outcome (expander.replacements openedAfterTag 0) wideVariable).1
          = .ok [ascii "12345678"] := by
      decide +kernel
    rw [replaced] at known
    obtain rfl := Except.ok.inj known
    obtain rfl : 8 = place := kept.mpr (by decide +kernel)
    exact meets
  · rw [results] at returned
    obtain rfl := Except.ok.inj (List.mem_singleton.mp returned)
    exact absurd opened (by decide +kernel)
  · exact absurd rfl other

/-- A shorter value, itself without an opening, moves the offset: it is not that of the opening in
the given buffer.
-/
theorem unterminated_offset_moved
    : (Cursor.ofBytes openedAfterTag).Meets (.unclosed 8)
      ∧ (outcome
            (({ chain := Chain.builtin } : Expander (StateM World)).replacements openedAfterTag 0)
            oneVariable).1
        = .ok [ascii "1"]
      ∧ Tag.NoOpening (ascii "1")
      ∧ (outcome (({ chain := Chain.builtin } : Expander (StateM World)).expand openedAfterTag)
            oneVariable).1
        = .error (.ofFault (.unterminatedTag 1)) := by
  have first : (Cursor.ofBytes openedAfterTag).search = .tag ⟨.variable, 0, 1⟩ := by decide +kernel
  have second : (Cursor.ofBytes openedAfterTag).advance.search = .unclosed 8 := by decide +kernel
  refine ⟨.later first (.of_search second), ?_, Tag.noOpening_of_notMem (by decide), ?_⟩
  · decide +kernel
  · decide +kernel

end Expander

end TaggedConfig
