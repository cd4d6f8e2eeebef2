import Mathlib
import TaggedConfig.Proofs.Tag.Segments
import TaggedConfig.Source.Builtin
import TaggedConfig.Expansion
import TaggedConfig.World

/-! Expansion in place as expansion of the segments of the untouched buffer.
Both are actions on any lawful host, so being equal they load and look up the same things in
the same order and end in the same result or error.
-/

namespace TaggedConfig

-----------------------------------------------------------------------------------------
-- The depth after another
-----------------------------------------------------------------------------------------

theorem toNat_next {depth : UInt64} (fits : depth.toNat + 1 < UInt64.size)
    : (depth + 1).toNat = depth.toNat + 1 := by
  rw [UInt64.toNat_add, UInt64.toNat_one]
  exact Nat.mod_eq_of_lt fits

/-- Below the ceiling there is a depth after each one. -/
theorem next_fits {ceiling depth : UInt64} (below : depth < ceiling)
    : depth.toNat + 1 < UInt64.size :=
  Nat.lt_of_le_of_lt (UInt64.lt_iff_toNat_lt.mp below) ceiling.toNat_lt

theorem next_le {ceiling depth : UInt64} (below : depth < ceiling) : depth + 1 ≤ ceiling := by
  rw [UInt64.le_iff_toNat_le, toNat_next (next_fits below)]
  exact UInt64.lt_iff_toNat_lt.mp below

/-- No level is left above a ceiling. -/
theorem levels_eq_zero {ceiling depth : UInt64} (above : ceiling < depth)
    : levels ceiling depth = 0 :=
  Nat.sub_eq_zero_of_le (UInt64.lt_iff_toNat_lt.mp above)

/-- Within a ceiling there is a level for a depth itself. -/
theorem levels_eq_add_one {ceiling depth : UInt64} (within : depth ≤ ceiling)
    : levels ceiling depth = ceiling.toNat - depth.toNat + 1 :=
  Nat.succ_sub (UInt64.le_iff_toNat_le.mp within)

/-- The depth after another leaves the levels that are left below that one. -/
theorem levels_next {ceiling depth : UInt64} (fits : depth.toNat + 1 < UInt64.size)
    : levels ceiling (depth + 1) = ceiling.toNat - depth.toNat := by
  rw [levels, toNat_next fits, Nat.add_sub_add_right]

/-- Within a ceiling a depth leaves one level more than the depth after it. -/
theorem levels_eq_levels_next {ceiling depth : UInt64} (within : depth ≤ ceiling)
    (fits : depth.toNat + 1 < UInt64.size)
    : levels ceiling depth = levels ceiling (depth + 1) + 1 := by
  rw [levels_eq_add_one within, levels_next fits]

section

variable {m : Type → Type} [Monad m] {depth : UInt64}

theorem deeper_eq_pure (fits : depth.toNat + 1 < UInt64.size)
    : (deeper depth : Action m UInt64) = pure (depth + 1) :=
  if_pos fits

theorem deeper_eq_fail (greatest : ¬depth.toNat + 1 < UInt64.size)
    : (deeper depth : Action m UInt64) = .fail .depthOverflow :=
  if_neg greatest

theorem fail_bind [LawfulMonad m] {α β : Type} (fault : Fault) (f : α → Action m β)
    : Action.fail fault >>= f = .fail fault := by
  apply ExceptT.ext
  simp [Action.fail]

/-- With a level to spare the tags of a buffer are expanded, segment by segment. -/
theorem expandWithin_succ [LawfulMonad m]
    (resolve : UInt64 → Tag.Kind → Bytes → Action m Bytes) (ceiling : UInt64) (levels : Nat)
    (depth : UInt64) (data : Bytes)
    : expandWithin resolve ceiling (levels + 1) depth data
      = (Segmentation.ofBytes data).assemble
          (fun offset => .ofFault (.unterminatedTag offset))
          (fun kind raw => do
            let next ← deeper depth
            let content ← expandWithin resolve ceiling levels next raw
            let found ← resolve depth kind content
            expandWithin resolve ceiling levels next found) :=
  Cursor.substitute_append _ _ [] data

/-- Where there is a depth after this one, what is in a tag is expanded at that. -/
theorem expandWithin_next [LawfulMonad m]
    (resolve : UInt64 → Tag.Kind → Bytes → Action m Bytes) (ceiling : UInt64) (levels : Nat)
    (fits : depth.toNat + 1 < UInt64.size) (data : Bytes)
    : expandWithin resolve ceiling (levels + 1) depth data
      = (Segmentation.ofBytes data).assemble
          (fun offset => .ofFault (.unterminatedTag offset))
          (fun kind raw => do
            let content ← expandWithin resolve ceiling levels (depth + 1) raw
            let found ← resolve depth kind content
            expandWithin resolve ceiling levels (depth + 1) found) := by
  simp only [expandWithin_succ, deeper_eq_pure fits, pure_bind]

end

namespace Expander

variable {m : Type → Type} [Monad m] [Host m]

/-- What takes the place of a tag at a depth: its content is expanded at the depth after it, that
names a source to load or a variable to look up, and what is found is expanded in turn.
-/
def replacement (expander : Expander m) (depth : UInt64) (kind : Tag.Kind) (raw : Bytes)
    : Action m Bytes := do
  let next ← deeper depth
  let content ← expander.expand raw next
  let name := Utf8.repair content
  let found ←
    match kind with
    | .source => do
        .log .trace (announcement .source (Descriptor.redact name) depth)
        expander.chain.load expander.context name
    | .variable => do
        .log .trace (announcement .variable name depth)
        lookup name
  expander.expand found next

variable [LawfulMonad m] (expander : Expander m) {depth : UInt64} (kind : Tag.Kind) (raw : Bytes)

/-- Unless the depth is the greatest word, the next one is the sum. -/
theorem replacement_eq_resolve (fits : depth.toNat + 1 < UInt64.size)
    : expander.replacement depth kind raw
      = (do
          let content ← expander.expand raw (depth + 1)
          let found ← expander.resolve depth kind content
          expander.expand found (depth + 1)) := by
  rw [replacement, deeper_eq_pure fits, pure_bind]
  refine bind_congr fun content => ?_
  cases kind <;> simp only [resolve, bind_assoc]

/-- At the greatest word there is no next depth. -/
theorem replacement_eq_fail (greatest : ¬depth.toNat + 1 < UInt64.size)
    : expander.replacement depth kind raw = .fail .depthOverflow := by
  rw [replacement, deeper_eq_fail greatest, fail_bind]

/-- Below a depth there are as many levels as from it to the ceiling. -/
theorem replacement_eq_expandWithin
    : expander.replacement depth kind raw
      = (do
          let below := expandWithin expander.resolve expander.ceiling
            (expander.ceiling.toNat - depth.toNat)
          let next ← deeper depth
          let content ← below next raw
          let found ← expander.resolve depth kind content
          below next found) := by
  by_cases fits : depth.toNat + 1 < UInt64.size
  · simp only [replacement_eq_resolve _ _ _ fits, deeper_eq_pure fits, pure_bind, expand,
      levels_next fits]
  · simp only [replacement_eq_fail _ _ _ fits, deeper_eq_fail fits, fail_bind]

/-- Expanding in place is to expand the segments of the untouched buffer: literal bytes stay
and each tag gives its replacement, from left to right until the first failure. At the greatest
word the first tag is one, since no depth comes after it.
-/
theorem expand_eq_assemble (data : Bytes) (within : depth ≤ expander.ceiling)
    : expander.expand data depth
      = (Segmentation.ofBytes data).assemble
          (fun offset => .ofFault (.unterminatedTag offset)) (expander.replacement depth) := by
  rw [expand, levels_eq_add_one within, expandWithin_succ]
  congr 1
  funext kind raw
  exact (expander.replacement_eq_expandWithin kind raw).symm

/-- A buffer without tags is expanded to itself. -/
theorem expand_noTags {data : Bytes} (within : depth ≤ expander.ceiling)
    (noTags : (Segmentation.ofBytes data).segments = [])
    (closed : (Segmentation.ofBytes data).unclosed = false)
    : expander.expand data depth = pure data := by
  obtain ⟨tail, whole, nothing, -⟩ := Segmentation.bytes_ofBytes data
  have rest : (Segmentation.ofBytes data).rest = data := by
    rw [noTags, nothing closed] at whole
    simpa using whole.symm
  rw [expander.expand_eq_assemble data within, Segmentation.assemble, Segmentation.assembleAfter,
    noTags, closed, rest]
  simp

/-- The content of the first tag is a tag of its own, and the last opening has no brace. -/
theorem expand_eq_assemble_nested
    : (0 : UInt64) ≤ defaultCeiling
      ∧ ({ chain := Chain.builtin } : Expander (StateM World)).expand
          (ascii "x$\x7bSRC:$\x7bENV:A\x7d.txt\x7dy$\x7bENV:B\x7d$\x7bENV:C")
        = Segmentation.assemble
            (fun offset => .ofFault (.unterminatedTag offset))
            (replacement { chain := Chain.builtin } 0)
            { segments := [
                ⟨ascii "x", .source, ascii "$\x7bENV:A\x7d.txt"⟩,
                ⟨ascii "y", .variable, ascii "B"⟩
              ]
              rest := []
              unclosed := true } := by
  have within : (0 : UInt64) ≤ defaultCeiling := by decide
  refine ⟨within, (expand_eq_assemble _ _ within).trans ?_⟩
  congr 1
  cbv

end Expander

end TaggedConfig
