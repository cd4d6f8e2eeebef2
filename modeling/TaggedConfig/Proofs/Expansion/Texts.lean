import TaggedConfig.Proofs.Expansion.Relation
import TaggedConfig.Proofs.Source.Texts

/-! Expansion of texts.
Tags begin and end with ASCII bytes, so a text is cut into texts around them. The buffers that an
expansion hands on and the names that it reads are noted beside the state.
-/

namespace TaggedConfig

open Run
open Utf8

variable {σ : Type}

-----------------------------------------------------------------------------------------
-- The segments of a text
-----------------------------------------------------------------------------------------

theorem Tag.Kind.ascii_opening (kind : Tag.Kind) : ∀ b ∈ kind.opening, b < 0x80 := by
  cases kind <;> decide +kernel

/-- What follows the opening of a tag in a text is a text, and so is what is before it. -/
theorem Tag.Kind.isText_around_opening {kind : Tag.Kind} {first rest : Bytes}
    (isText : IsText (first ++ (kind.opening ++ rest)))
    : IsText first ∧ IsText rest := by
  obtain ⟨before, others⟩ := (isText_cut (b := byte '$') (by decide)).mp isText
  refine ⟨before, (isText_ascii_append fun b member => ?_).mp others⟩
  exact kind.ascii_opening b (List.mem_of_mem_tail member)

/-- The segments of a text are texts, and so is what follows them, by induction on them. -/
theorem isText_segments {segments : List Segment} {more : Bytes}
    (isText : IsText (segments.flatMap Segment.bytes ++ more))
    : (∀ segment ∈ segments, IsText segment.literal ∧ IsText segment.content) ∧ IsText more := by
  induction segments with
  | nil => exact ⟨nofun, isText⟩
  | cons segment segments ih =>
      simp only [List.flatMap_cons, Segment.bytes, List.append_assoc, List.cons_append] at isText
      obtain ⟨literal, others⟩ := Tag.Kind.isText_around_opening isText
      obtain ⟨content, others⟩ := (isText_cut (b := byte '\x7d') (by decide)).mp others
      obtain ⟨later, last⟩ := ih others
      exact ⟨List.forall_mem_cons.mpr ⟨⟨literal, content⟩, later⟩, last⟩

theorem Segmentation.isText_ofBytes {data : Bytes} (isText : IsText data)
    : (∀ segment ∈ (ofBytes data).segments, IsText segment.literal ∧ IsText segment.content)
      ∧ IsText (ofBytes data).rest := by
  obtain ⟨tail, whole, closed, opened⟩ := bytes_ofBytes data
  rw [whole, List.append_assoc] at isText
  obtain ⟨segments, others⟩ := isText_segments isText
  refine ⟨segments, ?_⟩
  cases unclosed : (ofBytes data).unclosed with
  | false =>
      rw [closed unclosed, List.append_nil] at others
      exact others
  | true =>
      obtain ⟨kind, opening⟩ := Option.isSome_iff_exists.mp (opened unclosed)
      obtain ⟨rest, rfl⟩ := Tag.opening?_eq_some opening
      exact (Tag.Kind.isText_around_opening others).1

/-- A text is put together from texts if its tags are replaced by texts. -/
theorem Run.Ensures.assemble {P : σ → Prop} {unclosed : Nat → Error}
    {replace : Tag.Kind → Bytes → Action (StateM σ) Bytes}
    (replaced : ∀ kind raw, IsText raw → Ensures P IsText (replace kind raw)) {data : Bytes}
    (isText : IsText data)
    : Ensures P IsText ((Segmentation.ofBytes data).assemble unclosed replace) := by
  obtain ⟨segments, rest⟩ := Segmentation.isText_ofBytes isText
  have parts := Ensures.mapM fun segment member =>
    (replaced segment.kind _ (segments segment member).2).bind fun replacement isText =>
      .pure ((segments segment member).1.append isText)
  refine parts.bind fun parts texts => ?_
  cases (Segmentation.ofBytes data).unclosed with
  | true => exact .throw _
  | false => exact .pure ((isText_flatten texts).append rest)

-----------------------------------------------------------------------------------------
-- What an expansion hands on
-----------------------------------------------------------------------------------------

/-- A state and what has been handed on, first to last. -/
structure Ledger (σ : Type) where
  state : σ
  /-- The buffers that were handed to an expansion. -/
  buffers : List Bytes := []
  /-- The expanded contents of tags that were read as names of sources or variables. -/
  names : List Bytes := []

namespace Ledger

/-- An action on the state, about which there is nothing to note. -/
def quiet {α : Type} (action : Action (StateM σ) α) : Action (StateM (Ledger σ)) α :=
  ExceptT.mk fun ledger =>
    let (result, state) := outcome action ledger.state
    (result, { ledger with state })

def noteBuffer (buffer : Bytes) : Action (StateM (Ledger σ)) Unit :=
  ExceptT.mk fun ledger => (.ok (), { ledger with buffers := ledger.buffers ++ [buffer] })

def noteName (name : Bytes) : Action (StateM (Ledger σ)) Unit :=
  ExceptT.mk fun ledger => (.ok (), { ledger with names := ledger.names ++ [name] })

/-- The state has a property, and all that has been handed on is text. -/
structure Clean (P : σ → Prop) (ledger : Ledger σ) : Prop where
  holds : P ledger.state
  buffers : ∀ buffer ∈ ledger.buffers, IsText buffer
  names : ∀ name ∈ ledger.names, IsText name

end Ledger

/-- Expands a buffer as `expandWithin` does, and notes every buffer that is to be expanded and every
name.
-/
def expandNoting (resolve : UInt64 → Tag.Kind → Bytes → Action (StateM σ) Bytes)
    (ceiling : UInt64)
    : Nat → UInt64 → Bytes → Action (StateM (Ledger σ)) Bytes
  | 0, _, data => do
      Ledger.noteBuffer data
      .fail (.tooManyLevels ceiling)
  | levels + 1, depth, data => do
      Ledger.noteBuffer data
      (Cursor.ofBytes data).substitute (fun offset => .ofFault (.unterminatedTag offset))
        fun kind raw => do
          let next ← deeper depth
          let content ← expandNoting resolve ceiling levels next raw
          Ledger.noteName content
          let found ← Ledger.quiet (resolve depth kind content)
          expandNoting resolve ceiling levels next found

namespace Ledger

variable {P : σ → Prop}

theorem clean_start {s : σ} (holds : P s) : Clean P { state := s } := ⟨holds, nofun, nofun⟩

theorem keeps_noteBuffer {buffer : Bytes} (isText : IsText buffer)
    : Keeps (Clean P) (noteBuffer buffer) := by
  intro ledger clean
  refine { clean with buffers := ?_ }
  exact List.forall_mem_append.mpr ⟨clean.buffers, List.forall_mem_singleton.mpr isText⟩

theorem keeps_noteName {name : Bytes} (isText : IsText name)
    : Keeps (Clean P) (noteName name) := by
  intro ledger clean
  refine { clean with names := ?_ }
  exact List.forall_mem_append.mpr ⟨clean.names, List.forall_mem_singleton.mpr isText⟩

theorem ensures_quiet {α : Type} {Q : α → Prop} {action : Action (StateM σ) α}
    (ensures : Ensures P Q action)
    : Ensures (Clean P) Q (quiet action) := by
  intro ledger clean
  obtain ⟨holds, result⟩ := ensures ledger.state clean.holds
  exact ⟨{ clean with holds }, result⟩

/-- Notes before an action do not change what it comes to. -/
theorem mirrors_noted {α : Type} {note : Action (StateM (Ledger σ)) Unit}
    {first : Action (StateM (Ledger σ)) α} {second : Action (StateM σ) α}
    (silent : Mirrors (fun ledger s => ledger.state = s) Eq note (pure ()))
    (mirrors : Mirrors (fun ledger s => ledger.state = s) Eq first second)
    : Mirrors (fun ledger s => ledger.state = s) Eq (do note; first) second := by
  have compositional := compositional_mirrors
    (fun (ledger : Ledger σ) s => ledger.state = s) (E := Eq) fun _ => rfl
  exact compositional.bind silent fun _ => mirrors

theorem mirrors_quiet {α : Type} (action : Action (StateM σ) α)
    : Mirrors (fun ledger s => ledger.state = s) Eq (quiet action) action := by
  rintro ledger _ rfl
  exact ⟨.refl (fun _ => rfl) _, rfl⟩

end Ledger

section

variable {resolve : UInt64 → Tag.Kind → Bytes → Action (StateM σ) Bytes} {ceiling : UInt64}

/-- With a level to spare the tags of a buffer are expanded, segment by segment. -/
theorem expandNoting_succ (levels : Nat) (depth : UInt64) (data : Bytes)
    : expandNoting resolve ceiling (levels + 1) depth data
      = (do
          Ledger.noteBuffer data
          (Segmentation.ofBytes data).assemble (fun offset => .ofFault (.unterminatedTag offset))
            (fun kind raw => do
              let next ← deeper depth
              let content ← expandNoting resolve ceiling levels next raw
              Ledger.noteName content
              let found ← Ledger.quiet (resolve depth kind content)
              expandNoting resolve ceiling levels next found)) :=
  bind_congr fun _ => Cursor.substitute_append _ _ [] data

/-- Taking notes changes neither the result nor the state, by induction on the levels. -/
theorem mirrors_expandNoting (levels : Nat) (depth : UInt64) (data : Bytes)
    : Mirrors (fun ledger s => ledger.state = s) Eq
        (expandNoting resolve ceiling levels depth data)
        (expandWithin resolve ceiling levels depth data) := by
  have compositional := compositional_mirrors
    (fun (ledger : Ledger σ) s => ledger.state = s) (E := Eq) fun _ => rfl
  induction levels generalizing depth data with
  | zero => exact fun _ _ related => ⟨.error rfl, related⟩
  | succ levels ih =>
      rw [expandNoting_succ, expandWithin_succ]
      refine Ledger.mirrors_noted (fun _ _ related => ⟨.ok (), related⟩) ?_
      refine compositional.assemble _ _ fun kind raw => ?_
      refine compositional.bind (compositional.deeper depth) fun next => ?_
      refine compositional.bind (ih next raw) fun content => ?_
      refine Ledger.mirrors_noted (fun _ _ related => ⟨.ok (), related⟩) ?_
      exact compositional.bind (Ledger.mirrors_quiet _) fun found => ih next found

/-- An expansion of a text hands on texts only, if tags are resolved to texts. By induction on the
levels.
-/
theorem ensures_expandNoting {P : σ → Prop}
    (resolved : ∀ depth kind content, Ensures P IsText (resolve depth kind content))
    (levels : Nat) (depth : UInt64) {data : Bytes} (isText : IsText data)
    : Ensures (Ledger.Clean P) IsText (expandNoting resolve ceiling levels depth data) := by
  induction levels generalizing depth data with
  | zero => exact (Ledger.keeps_noteBuffer isText).bind_ensures fun _ => .throw _
  | succ levels ih =>
      rw [expandNoting_succ]
      refine (Ledger.keeps_noteBuffer isText).bind_ensures fun _ => ?_
      refine Ensures.assemble (fun kind raw isText => ?_) isText
      refine ((compositional_keeps _).deeper depth).2.bind_ensures fun next => ?_
      refine (ih _ isText).bind fun content isText => ?_
      refine (Ledger.keeps_noteName isText).bind_ensures fun _ => ?_
      exact (Ledger.ensures_quiet (resolved depth kind content)).bind fun found => ih _

end

namespace Expander

variable [Host (StateM σ)]

/-- Expands a buffer at a depth and notes what is handed on. -/
def expandNoting (expander : Expander (StateM σ)) (data : Bytes) (depth : UInt64)
    : Action (StateM (Ledger σ)) Bytes :=
  TaggedConfig.expandNoting expander.resolve expander.ceiling (levels expander.ceiling depth) depth
    data

theorem outcome_expandNoting (expander : Expander (StateM σ)) (data : Bytes) (depth : UInt64)
    (s : σ)
    : outcome (expander.expand data depth) s
      = ((outcome (expander.expandNoting data depth) { state := s }).1,
        (outcome (expander.expandNoting data depth) { state := s }).2.state) := by
  obtain ⟨alike, after⟩ :=
    mirrors_expandNoting (levels expander.ceiling depth) depth data { state := s } s rfl
  exact Prod.ext alike.eq.symm after.symm

/-- Tags are resolved to texts if the loaders of the chain load texts. -/
theorem ensures_resolve {P : σ → Prop} (steady : Steady P) {expander : Expander (StateM σ)}
    (texts
      : ∀ loader ∈ expander.chain,
          ∀ descriptor, Ensures P Probe.IsText (loader.load expander.context descriptor))
    (depth : UInt64) (kind : Tag.Kind) (content : Bytes)
    : Ensures P IsText (expander.resolve depth kind content) := by
  match kind with
  | .source =>
      refine (steady.logged _ _).bind_ensures fun _ => ?_
      exact Chain.ensures_load steady fun loader member => texts loader member _
  | .variable => exact (steady.logged _ _).bind_ensures fun _ => ensures_lookup steady _

end Expander

end TaggedConfig
