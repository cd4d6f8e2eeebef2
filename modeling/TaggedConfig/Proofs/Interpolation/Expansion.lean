import TaggedConfig.Proofs.Expansion.Segments
import TaggedConfig.Proofs.Interpolation.Template
import TaggedConfig.Proofs.World

/-! Expansion of documents whose tags name variables with plain values.
Each value takes the place of its tag, and the environment stays as it is.
-/

namespace TaggedConfig

open World (Yields)

/-- The value of a variable: a text that stands for itself in a string and has no tags. -/
structure PlainValue (value : Bytes) : Prop where
  present : value ≠ []
  text : (Utf8.decode? value).isSome
  plain : ∀ b ∈ value, b ≠ byte '"' ∧ b ≠ byte '\\' ∧ ¬ b < byte ' '
  noOpening : Tag.NoOpening value

namespace Environment

/-- The value of the variable that a tag names. -/
def valueOf (environment : Environment) (name : Bytes) : Bytes :=
  (environment.lookup (Utf8.repair name)).getD []

/-- The same as a text. -/
def textOf (environment : Environment) (name : Bytes) : String :=
  Utf8.repair (environment.valueOf name)

/-- A name in a tag that names a variable with a plain value. -/
structure Plain (environment : Environment) (name : Bytes) : Prop extends PlainName name where
  held : ∃ value, environment.lookup (Utf8.repair name) = some value ∧ PlainValue value

theorem Plain.reads {environment : Environment} {name : Bytes} (plain : environment.Plain name)
    : Json.Quoted.Reads (environment.valueOf name) (environment.textOf name) := by
  obtain ⟨value, held, plainValue⟩ := plain.held
  have found : environment.valueOf name = value := by rw [valueOf, held, Option.getD_some]
  obtain ⟨text, encoded⟩ := Option.isSome_iff_exists.mp plainValue.text
  rw [textOf, found, (Utf8.decode?_eq_some.mp encoded).2]
  exact .ofPlain plainValue.plain encoded

/-- A variable has a name, without a zero in it. -/
theorem name_of_lookup {environment : Environment} {name : String} {value : Bytes}
    (h : environment.lookup name = some value)
    : name.isEmpty = false ∧ '\x00' ∉ name.toList := by
  unfold lookup at h
  split at h
  · contradiction
  · rename_i allowed
    simpa using allowed

end Environment

-----------------------------------------------------------------------------------------
-- One tag
-----------------------------------------------------------------------------------------

/-- Bytes without openings expand to themselves. -/
theorem Expander.expand_noOpening {m : Type → Type} [Monad m] [LawfulMonad m] [Host m]
    (expander : Expander m) {depth : UInt64} (within : depth ≤ expander.ceiling) {data : Bytes}
    (noOpening : Tag.NoOpening data)
    : expander.expand data depth = pure data := by
  have segments := @Segmentation.ofBytes_literal data [] fun offset _ => by
    rw [List.append_nil]
    exact noOpening offset
  rw [List.append_nil, Segmentation.ofBytes_nil] at segments
  exact expander.expand_noTags within (by rw [segments]; rfl) (by rw [segments]; rfl)

namespace Expander

/-- A variable that has a plain value is found. -/
theorem lookup_yields {world : World} {name value : Bytes} (plain : PlainName name)
    (held : world.environment.lookup (Utf8.repair name) = some value)
    (plainValue : PlainValue value)
    : Yields (lookup (Utf8.repair name)) world value world := by
  obtain ⟨named, noZero⟩ := Environment.name_of_lookup held
  have allowed : ¬ ((Utf8.repair name).isEmpty
      ∨ (Utf8.repair name).toList.any (fun c => c = '=' ∨ c = '\x00')) := by
    have noEquals := plain.noEquals
    simp only [named, Bool.false_eq_true, false_or, List.any_eq_true, decide_eq_true_eq,
      not_exists, not_and, not_or]
    intro c member
    exact ⟨fun same => noEquals (same ▸ member), fun same => noZero (same ▸ member)⟩
  have kept : ¬ (value.isEmpty ∨ (Utf8.decode? value).isNone) := by
    obtain ⟨text, encoded⟩ := Option.isSome_iff_exists.mp plainValue.text
    simp [plainValue.present, encoded]
  unfold lookup
  rw [if_neg allowed]
  refine (Yields.lookup world _).bind ?_
  simp only [held, if_neg kept]
  exact .pure world value

/-- Below the ceiling the tag of a plain name is replaced by the value, and only a log record is
left.
-/
theorem replacement_variable_yields (expander : Expander (StateM World)) {depth : UInt64}
    (below : depth < expander.ceiling) {world : World} {name : Bytes}
    (plain : world.environment.Plain name)
    : ∃ after,
        Yields (expander.replacement depth .variable name) world (world.environment.valueOf name)
          after
        ∧ after.environment = world.environment := by
  obtain ⟨value, held, plainValue⟩ := plain.held
  have found : world.environment.valueOf name = value := by
    rw [Environment.valueOf, held, Option.getD_some]
  have resolved
      : Yields (expander.resolve depth .variable name) world value
          { world with
            log := world.log ++ [(.trace, announcement .variable (Utf8.repair name) depth)] } :=
    (Yields.log world _ _).bind (lookup_yields plain.toPlainName held plainValue)
  have returned (current : World)
      : Yields (expander.expand value (depth + 1)) current value current := by
    rw [expander.expand_noOpening (next_le below) plainValue.noOpening]
    exact .pure current value
  rw [replacement_eq_resolve _ _ _ (next_fits below),
    expander.expand_noOpening (next_le below) plain.noOpening, pure_bind, found]
  exact ⟨_, resolved.bind (returned _), rfl⟩

end Expander

-----------------------------------------------------------------------------------------
-- A whole document
-----------------------------------------------------------------------------------------

section

variable {replace : Tag.Kind → Bytes → Action (StateM World) Bytes} {value : Bytes → Bytes}
  {environment : Environment}

/-- Segments whose tags are replaced by values give their bytes with the values in them, by
induction on the segments: the environment stays for the tags that follow.
-/
theorem replaceSegments_yields {segments : List Segment}
    (each
      : ∀ segment ∈ segments, ∀ world : World,
          world.environment = environment →
            ∃ after,
              Yields (replace segment.kind segment.content) world (value segment.content) after
              ∧ after.environment = environment)
    {world : World} (kept : world.environment = environment)
    : ∃ after,
        Yields
          (segments.mapM fun segment => do
            let replacement ← replace segment.kind segment.content
            pure (segment.literal ++ replacement))
          world (segments.map fun segment => segment.literal ++ value segment.content) after
        ∧ after.environment = environment := by
  induction segments generalizing world with
  | nil => exact ⟨world, .pure world [], kept⟩
  | cons segment segments ih =>
      simp only [List.forall_mem_cons] at each
      obtain ⟨between, first, kept⟩ := each.1 world kept
      obtain ⟨after, others, kept⟩ := ih each.2 kept
      have replaced
          : Yields
              (do
                let replacement ← replace segment.kind segment.content
                pure (segment.literal ++ replacement))
              world (segment.literal ++ value segment.content) between :=
        first.bind (.pure between _)
      refine ⟨after, ?_, kept⟩
      rw [List.mapM_cons]
      exact replaced.bind (others.bind (.pure after _))

/-- A document with complete tags is expanded to its bytes with the values in it. -/
theorem assemble_yields {segmentation : Segmentation} (closed : segmentation.unclosed = false)
    (each
      : ∀ segment ∈ segmentation.segments, ∀ world : World,
          world.environment = environment →
            ∃ after,
              Yields (replace segment.kind segment.content) world (value segment.content) after
              ∧ after.environment = environment)
    (unclosed : Nat → Error) {world : World} (kept : world.environment = environment)
    : ∃ after,
        Yields (segmentation.assemble unclosed replace) world (segmentation.fill value) after
        ∧ after.environment = environment := by
  obtain ⟨after, parts, kept⟩ := replaceSegments_yields each kept
  refine ⟨after, parts.bind ?_, kept⟩
  simp only [closed, Bool.false_eq_true, if_false, List.nil_append]
  exact .pure after _

end

/-- A document whose tags name variables with plain values is expanded to the document with
the values in the place of the tags.
-/
theorem Expander.expand_yields (expander : Expander (StateM World))
    (within : 1 ≤ expander.ceiling) {world : World} {document : Bytes}
    (simple : (Segmentation.ofBytes document).Simple world.environment.Plain)
    : ∃ after,
        Yields (expander.expand document) world
          ((Segmentation.ofBytes document).fill world.environment.valueOf) after := by
  have below : 0 < expander.ceiling := UInt64.lt_of_lt_of_le (by decide) within
  have each (segment : Segment) (member : segment ∈ (Segmentation.ofBytes document).segments)
      (current : World) (same : current.environment = world.environment)
      : ∃ after,
          Yields (expander.replacement 0 segment.kind segment.content) current
            (world.environment.valueOf segment.content) after
          ∧ after.environment = world.environment := by
    obtain ⟨kind, plain⟩ := simple.tags segment member
    rw [← same] at plain ⊢
    rw [kind]
    exact expander.replacement_variable_yields below plain
  obtain ⟨after, whole, -⟩ := assemble_yields simple.closed each
    (fun offset => .ofFault (.unterminatedTag offset)) rfl
  refine ⟨after, ?_⟩
  rw [expander.expand_eq_assemble document (UInt64.le_of_lt below)]
  exact whole

end TaggedConfig
