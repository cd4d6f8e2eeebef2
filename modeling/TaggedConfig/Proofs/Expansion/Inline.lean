import TaggedConfig.Proofs.Expansion.Ceiling
import TaggedConfig.Proofs.Expansion.Locality
import TaggedConfig.Proofs.Expansion.Names
import TaggedConfig.Proofs.Source.Traces

/-! Tags for inline data.
The content of such a tag is expanded like any other, and what is loaded is the expanded content
again, so that it is expanded once more. Main statement: a tag for inline data does what expanding
the data does and then what expanding the result does.
-/

namespace TaggedConfig

open Run
open Utf8

-----------------------------------------------------------------------------------------
-- Data that are closed in their tag
-----------------------------------------------------------------------------------------

/-- The tag for the data ends at the brace after them, and not before. -/
def ClosedInline (data : Bytes) : Prop :=
  (Cursor.ofBytes (inlineTag data)).search = .tag ⟨.source, 0, (ascii "data://" ++ data).length⟩

instance (data : Bytes) : Decidable (ClosedInline data) := inferInstanceAs (Decidable (_ = _))

theorem Segmentation.unclosed_append (before after : Segmentation)
    : (before.append after).unclosed = after.unclosed := by
  rcases after with ⟨_ | ⟨segment, segments⟩, rest, unclosed⟩ <;> rfl

/-- No tag opens in the scheme before inline data. -/
theorem opening?_scheme (data : Bytes)
    : ∀ offset < (ascii "data://").length,
        Tag.opening? ((ascii "data://" ++ data).drop offset) = none := by
  intro offset within
  have noDollar
      : ∀ offset < (ascii "data://").length, (ascii "data://")[offset]? ≠ some (byte '$') := by
    decide
  have first : ((ascii "data://" ++ data).drop offset)[0]? = (ascii "data://")[offset]? := by
    rw [List.getElem?_drop, Nat.add_zero, List.getElem?_append_left within]
  cases opened : Tag.opening? ((ascii "data://" ++ data).drop offset) with
  | none => rfl
  | some kind =>
      obtain ⟨rest, whole⟩ := Tag.opening?_eq_some opened
      rw [whole] at first
      exact absurd first.symm (noDollar offset within)

namespace ClosedInline

variable {data : Bytes}

/-- The tag for the data is the one segment of its buffer. -/
theorem segmentation (closed : ClosedInline data)
    : Segmentation.ofBytes (inlineTag data)
      = ⟨[⟨[], .source, ascii "data://" ++ data⟩], [], false⟩ := by
  have opened
      : (inlineTag data).drop Tag.openingSize = ascii "data://" ++ data ++ [byte '\x7d'] := by
    rw [inlineTag, ← Tag.Kind.source.length_opening, List.drop_left]
  have content
      : (⟨.source, 0, (ascii "data://" ++ data).length⟩ : Tag).content (inlineTag data)
        = ascii "data://" ++ data := by
    rw [Tag.content, Tag.contentStart, Nat.zero_add, opened, List.take_left]
  have after
      : (inlineTag data).drop (⟨.source, 0, (ascii "data://" ++ data).length⟩ : Tag).stop = [] := by
    rw [Tag.stop, Tag.contentStop, Tag.contentStart, Nat.zero_add, Nat.add_assoc, ← List.drop_drop,
      opened, ← List.drop_drop, List.drop_left]
    rfl
  rw [Segmentation.ofBytes_tag closed, content, after, Segmentation.ofBytes_nil]
  rfl

/-- The data leave no tag open. -/
theorem unclosed_eq_false (closed : ClosedInline data)
    : (Segmentation.ofBytes data).unclosed = false := by
  have member
      : ⟨[], .source, ascii "data://" ++ data⟩
        ∈ (Segmentation.ofBytes (inlineTag data)).segments := by
    rw [closed.segmentation]
    exact List.mem_singleton_self _
  have whole := unclosed_content member
  rwa [Segmentation.ofBytes_literal (opening?_scheme data), Segmentation.unclosed_append] at whole

end ClosedInline

-----------------------------------------------------------------------------------------
-- The two expansions
-----------------------------------------------------------------------------------------

section

variable {m : Type → Type} [Monad m] [LawfulMonad m]

/-- Where no tag is left open, literal bytes in front only come before the result. -/
theorem expandWithin_literal (resolve : UInt64 → Tag.Kind → Bytes → Action m Bytes)
    (ceiling : UInt64) (levels : Nat) (depth : UInt64) {before data : Bytes}
    (literal : ∀ offset < before.length, Tag.opening? ((before ++ data).drop offset) = none)
    (closed : (Segmentation.ofBytes data).unclosed = false)
    : expandWithin resolve ceiling levels depth (before ++ data)
      = (before ++ ·) <$> expandWithin resolve ceiling levels depth data := by
  cases levels with
  | zero => simp [expandWithin, Action.fail]
  | succ levels =>
      rw [expandWithin_succ, expandWithin_succ, Segmentation.ofBytes_literal literal,
        Segmentation.assemble, Segmentation.assembleAfter_append _ _ _ rfl]
      simp [Segmentation.assemble, Segmentation.assembleAfter, Segmentation.literal, closed]

/-- A tag for inline data is replaced by what their expansion is expanded to. -/
theorem expandWithin_inlineTag (resolve : UInt64 → Tag.Kind → Bytes → Action m Bytes)
    (ceiling : UInt64) (levels : Nat) {depth : UInt64} (fits : depth.toNat + 1 < UInt64.size)
    {data : Bytes} (closed : ClosedInline data)
    : expandWithin resolve ceiling (levels + 1) depth (inlineTag data)
      = (do
          let expanded ← expandWithin resolve ceiling levels (depth + 1) data
          let found ← resolve depth .source (ascii "data://" ++ expanded)
          expandWithin resolve ceiling levels (depth + 1) found) := by
  have content :=
    expandWithin_literal resolve ceiling levels (depth + 1) (opening?_scheme data)
      closed.unclosed_eq_false
  rw [expandWithin_next _ _ _ fits, closed.segmentation]
  simp [Segmentation.assemble, Segmentation.assembleAfter, content]

end

namespace Expander

section

variable {m : Type → Type} [Monad m] [Host m]

/-- The expander with the built-in loaders. -/
def builtin (context : Context) (ceiling : UInt64) : Expander m :=
  { chain := Chain.builtin, context, ceiling }

/-- What a tag for inline data does once its content is expanded: the text that this is repaired to
is loaded, unless loading has been cancelled, and expanded in turn.
-/
def reload (expander : Expander m) (depth : UInt64) (expanded : Bytes) : Action m Bytes := do
  let text := repair expanded
  .log .trace (announcement .source (Descriptor.redact ("data://" ++ text)) depth)
  Action.checkCancelled
  .log .debug (inlineRecord text)
  expander.expand (encode text) (depth + 1)

variable [LawfulMonad m] {context : Context} {ceiling depth : UInt64} {data : Bytes}

/-- Inline data are resolved to the text that they are repaired to. -/
theorem resolve_inline (context : Context) (ceiling depth : UInt64) (data : Bytes)
    : (builtin context ceiling : Expander m).resolve depth .source (ascii "data://" ++ data)
      = (do
          .log .trace
            (announcement .source (Descriptor.redact ("data://" ++ repair data)) depth)
          Action.checkCancelled
          .log .debug (inlineRecord (repair data))
          pure (encode (repair data))) := by
  rw [resolve, builtin, repair_inline, Chain.load_inline]

theorem reload_eq_bind (context : Context) (ceiling depth : UInt64) (expanded : Bytes)
    : (builtin context ceiling : Expander m).reload depth expanded
      = (do
          let found ←
            (builtin context ceiling).resolve depth .source (ascii "data://" ++ expanded)
          (builtin context ceiling).expand found (depth + 1)) := by
  rw [reload, resolve_inline]
  simp only [bind_assoc, pure_bind]

/-- A tag for inline data expands them and then what they were expanded to. -/
theorem expand_inlineTag (closed : ClosedInline data) (below : depth < ceiling)
    : (builtin context ceiling : Expander m).expand (inlineTag data) depth
      = (builtin context ceiling).expand data (depth + 1)
        >>= (builtin context ceiling).reload depth := by
  have fewer := levels_eq_levels_next (UInt64.le_of_lt below) (next_fits below)
  have counted
      : levels (builtin context ceiling : Expander m).ceiling depth
        = levels (builtin context ceiling : Expander m).ceiling (depth + 1) + 1 := fewer
  rw [expand, counted, expandWithin_inlineTag _ _ _ (next_fits below) closed]
  exact bind_congr fun expanded => (reload_eq_bind context ceiling depth expanded).symm

end

-----------------------------------------------------------------------------------------
-- The loads and lookups of the two
-----------------------------------------------------------------------------------------

section

variable {σ : Type} [Host (StateM σ)]

/-- A tag for inline data makes the visits of the data, then its own, then those of the text that is
loaded.
-/
theorem visits_inlineTag {expander : Expander (StateM σ)} {depth : UInt64} {data : Bytes}
    (closed : ClosedInline data) (below : depth < expander.ceiling) (s : σ)
    : expander.visits (inlineTag data) depth s
      = match outcome (expander.expand data (depth + 1)) s with
        | (.error _, _) => expander.visits data (depth + 1) s
        | (.ok expanded, t) =>
            expander.visits data (depth + 1) s
              ++ ⟨depth, .source, "data://" ++ repair expanded⟩
                :: match
                    outcome (expander.resolve depth .source (ascii "data://" ++ expanded)) t
                  with
                  | (.error _, _) => []
                  | (.ok found, u) => expander.visits found (depth + 1) u := by
  have fits := next_fits below
  have first := expander.outcome_expand data (depth + 1) { state := s }
  rw [visits, walk, levels_eq_levels_next (UInt64.le_of_lt below) fits,
    expandWithin_inlineTag _ _ _ fits closed, outcome_bind, visits]
  dsimp only at first ⊢
  rw [first, walk]
  rcases outcome
      (expandWithin expander.visit expander.ceiling
        (levels expander.ceiling (depth + 1)) (depth + 1) data)
      { state := s }
    with ⟨error | expanded, trail⟩
  · rfl
  · dsimp only
    rw [outcome_bind, outcome_visit, repair_inline]
    rcases outcome (expander.resolve depth .source (ascii "data://" ++ expanded)) trail.state
      with ⟨error | found, u⟩
    · rfl
    · dsimp only
      rw [visits_expandWithin, visits, List.append_assoc]
      rfl

end

-----------------------------------------------------------------------------------------
-- In a world
-----------------------------------------------------------------------------------------

/-- Expansions with the built-in loaders leave traces only. -/
theorem leavesTraces_expand (context : Context) (ceiling depth : UInt64) (data : Bytes)
    : LeavesTraces ((builtin context ceiling).expand data depth) := by
  have resolved (depth : UInt64) (kind : Tag.Kind) (content : Bytes)
      : LeavesTraces ((builtin context ceiling).resolve depth kind content) :=
    (LeavesTraces.compositional.resolve (fun descriptor => ⟨rfl, .builtin context descriptor⟩)
      (fun name => ⟨rfl, .lookup name⟩) (fun level text => ⟨rfl, .log level text⟩) depth kind
      content).2
  exact (LeavesTraces.compositional.expandWithin_alike
    (fun depth kind content => ⟨rfl, resolved depth kind content⟩) _ _ _ data).2

/-- While loading goes on, resolving inline data leaves two log records. -/
theorem outcome_resolve_inline (context : Context) (ceiling depth : UInt64) (data : Bytes)
    {world : World} (running : world.cancelled = false)
    : ∃ log,
        outcome ((builtin context ceiling).resolve depth .source (ascii "data://" ++ data)) world
          = (.ok (encode (repair data)), { world with log }) := by
  have logged (level : Level) (text : String) (world : World)
      : outcome (Action.log level text : Action (StateM World) Unit) world
        = (.ok (), { world with log := world.log ++ [(level, text)] }) := rfl
  have token (world : World) : askToken world = (world.cancelled, world) := rfl
  rw [resolve_inline, outcome_bind, logged]
  dsimp only
  rw [outcome_checked, token]
  dsimp only
  rw [running, if_neg Bool.false_ne_true, outcome_bind, logged]
  exact ⟨_, rfl⟩

section

variable {context : Context} {ceiling depth : UInt64} {world after : World}

/-- What comes of a buffer does not depend on the traces of an expansion before it that has not been
cancelled.
-/
theorem fst_expand_after {data expanded : Bytes}
    (ran : outcome ((builtin context ceiling).expand data depth) world = (.ok expanded, after))
    (running : after.cancelled = false) (log : List (Level × String)) (buffer : Bytes)
    : (outcome ((builtin context ceiling).expand buffer depth) { after with log }).1
      = (outcome ((builtin context ceiling).expand buffer depth) world).1 := by
  obtain ⟨_, traces, still, leaves⟩ := leavesTraces_expand context ceiling depth data world
  obtain ⟨rfl, rfl⟩ := Prod.mk.inj ((leaves world (.refl world)).symm.trans ran)
  have kept : traces.cancelled = world.cancelled := by
    cases stopped : world.cancelled with
    | false => exact running
    | true => exact still stopped
  obtain ⟨requests, log', same⟩ := (World.SameButTraces.refl world).after kept
  have alike : world.SameButTraces { world.leaving traces with log } := by
    rw [same]
    exact ⟨requests, log, rfl⟩
  obtain ⟨result, _, -, comes⟩ := leavesTraces_expand context ceiling depth buffer world
  rw [comes _ alike, comes _ (.refl world)]

/-- While loading goes on, the text that the data are expanded to is expanded in the place of the
tag.
-/
theorem outcome_inlineTag {data expanded : Bytes} (closed : ClosedInline data)
    (below : depth < ceiling)
    (ran
      : outcome ((builtin context ceiling).expand data (depth + 1)) world = (.ok expanded, after))
    (isText : IsText expanded) (running : after.cancelled = false)
    : ∃ log,
        outcome ((builtin context ceiling).expand (inlineTag data) depth) world
          = outcome ((builtin context ceiling).expand expanded (depth + 1)) { after with log }
        ∧ (builtin context ceiling).visits (inlineTag data) depth world
          = (builtin context ceiling).visits data (depth + 1) world
            ++ ⟨depth, .source, "data://" ++ repair expanded⟩
              :: (builtin context ceiling).visits expanded (depth + 1) { after with log } := by
  obtain ⟨log, resolved⟩ := outcome_resolve_inline context ceiling depth expanded running
  rw [isText.encode_repair] at resolved
  refine ⟨log, ?_, ?_⟩
  · rw [expand_inlineTag closed below, outcome_bind, ran]
    dsimp only
    rw [reload_eq_bind, outcome_bind, resolved]
  · rw [visits_inlineTag closed below, ran]
    dsimp only
    rw [resolved]

end

/-- A tag for inline data expands them twice. It does at the next depth what expanding its content
does and, if that does not fail, goes on with loading the text that the content is repaired to and
with expanding it, once more. So in a world in which loading goes on, a failure of the data is that
of the tag, with the same loads and lookups. Otherwise the tag comes to what the text comes to that
the data are expanded to, and data without tags come to themselves.
-/
theorem inlineTag_expanded_twice {data : Bytes} (closed : ClosedInline data) (context : Context)
    {ceiling depth : UInt64} (below : depth < ceiling)
    : (∀ (m : Type → Type) [Monad m] [LawfulMonad m] [Host m],
        (builtin context ceiling : Expander m).expand (inlineTag data) depth
          = (builtin context ceiling).expand data (depth + 1)
            >>= (builtin context ceiling).reload depth)
      ∧ ∀ world : World,
          let expander : Expander (StateM World) := builtin context ceiling
          (∀ error after,
            outcome (expander.expand data (depth + 1)) world = (.error error, after) →
              outcome (expander.expand (inlineTag data) depth) world = (.error error, after)
              ∧ expander.visits (inlineTag data) depth world
                = expander.visits data (depth + 1) world)
          ∧ (∀ expanded after,
              outcome (expander.expand data (depth + 1)) world = (.ok expanded, after) →
              IsText expanded →
              after.cancelled = false →
                (outcome (expander.expand (inlineTag data) depth) world).1
                  = (outcome (expander.expand expanded (depth + 1)) world).1
                ∧ ∃ log,
                    outcome (expander.expand (inlineTag data) depth) world
                      = outcome (expander.expand expanded (depth + 1)) { after with log }
                    ∧ expander.visits (inlineTag data) depth world
                      = expander.visits data (depth + 1) world
                        ++ ⟨depth, .source, "data://" ++ repair expanded⟩
                          :: expander.visits expanded (depth + 1) { after with log })
          ∧ ((Segmentation.ofBytes data).segments = [] →
              IsText data →
              world.cancelled = false →
                (outcome (expander.expand (inlineTag data) depth) world).1 = .ok data) := by
  refine ⟨fun m _ _ _ => expand_inlineTag closed below, fun world => ⟨?_, ?_, ?_⟩⟩
  · intro error after failed
    refine ⟨?_, ?_⟩
    · rw [expand_inlineTag closed below, outcome_bind, failed]
    · rw [visits_inlineTag closed below, failed]
  · intro expanded after ran isText running
    obtain ⟨log, whole, visited⟩ := outcome_inlineTag closed below ran isText running
    refine ⟨?_, log, whole, visited⟩
    rw [whole, fst_expand_after ran running log]
  · intro noTags isText running
    have same : (builtin context ceiling : Expander (StateM World)).expand data (depth + 1)
        = pure data :=
      expand_noTags _ (next_le below) noTags closed.unclosed_eq_false
    have ran
        : outcome
            ((builtin context ceiling : Expander (StateM World)).expand data (depth + 1)) world
          = (.ok data, world) := by
      rw [same]
      rfl
    obtain ⟨log, whole, -⟩ := outcome_inlineTag closed below ran isText running
    rw [whole, same]
    rfl

/-- Inline data with two tags, whose values make a third one around the text between them. -/
def splitData : Bytes := ascii "$\x7bENV:A\x7dB$\x7bENV:C\x7d"

def splitWorld : World where
  environment := [("A", ascii "$\x7bENV:"), ("B", ascii "x"), ("C", ascii "\x7d")]

/-- The tag that the data are expanded to is expanded in turn, and its value is not. -/
theorem inlineTag_expanded_twice_split
    : ClosedInline splitData
      ∧ (0 : UInt64) < defaultCeiling
      ∧ (outcome ((builtin {} defaultCeiling).expand (inlineTag splitData)) splitWorld).1
        = .ok (ascii "x") := by
  have closed : ClosedInline splitData := by decide +kernel
  have below : (0 : UInt64) < defaultCeiling := by decide
  obtain ⟨-, worlds⟩ := inlineTag_expanded_twice closed {} below
  obtain ⟨-, succeeds, -⟩ := worlds splitWorld
  have expanded
      : (outcome ((builtin {} defaultCeiling).expand splitData (0 + 1)) splitWorld).1
        = .ok (ascii "$\x7bENV:B\x7d") := by
    decide +kernel
  have isText : IsText (ascii "$\x7bENV:B\x7d") := isText_iff.mpr (by decide +kernel)
  have running
      : (outcome ((builtin {} defaultCeiling).expand splitData (0 + 1)) splitWorld).2.cancelled
        = false := by
    decide +kernel
  obtain ⟨result, -⟩ := succeeds _ _ (Prod.ext expanded rfl) isText running
  refine ⟨closed, below, result.trans ?_⟩
  decide +kernel

end Expander

end TaggedConfig
