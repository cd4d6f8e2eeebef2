import TaggedConfig.Proofs.Interpolation.Expansion
import TaggedConfig.Proofs.Expansion.Relation
import TaggedConfig.Proofs.Source.Dispatch
import TaggedConfig.Proofs.Source.Sending
import TaggedConfig.Proofs.Tag.Walking
import TaggedConfig.Proofs.Text.Repair

/-! The names that tags ask for.
A listener notes every descriptor that is handed to a chain and every variable that is looked up.
Main statement: the name that a tag asks for has the bytes of its content if the content is a text,
and other bytes if it is not.
-/

namespace TaggedConfig

open Run
open Utf8

variable {σ α : Type}

-----------------------------------------------------------------------------------------
-- Listening to a chain and to the environment
-----------------------------------------------------------------------------------------

/-- A state and the names that were asked for, first to last. -/
structure Asked (σ : Type) where
  state : σ
  names : List (Tag.Kind × String) := []

namespace Asked

/-- An action on the state, which asks for no name. -/
def quiet (action : StateM σ α) : StateM (Asked σ) α := fun asked =>
  let (a, state) := action.run asked.state
  (a, { asked with state })

def note (kind : Tag.Kind) (name : String) : StateM (Asked σ) Unit :=
  modify fun asked => { asked with names := asked.names ++ [(kind, name)] }

/-- The host, with a note of each variable that is looked up. -/
instance [Host (StateM σ)] : Host (StateM (Asked σ)) where
  lookup name := do
    note .variable name
    quiet (Host.lookup name)
  workingDirectory := quiet Host.workingDirectory
  readFile path := quiet (Host.readFile path)
  writeFile path content := quiet (Host.writeFile path content)
  send patience request := quiet (Host.send patience request)
  isCancelled := quiet Host.isCancelled
  cancel := quiet Host.cancel
  log level text := quiet (Host.log level text)

/-- Notes each descriptor that is handed to its chain, and passes it on. -/
def listener : SourceLoader (StateM (Asked σ)) where
  name := "listener"
  load _ descriptor := do
    ExceptT.lift (note .source descriptor)
    pure .wrongFormat

/-- A loader behind a listener. -/
def behind (loader : SourceLoader (StateM σ)) : SourceLoader (StateM (Asked σ)) where
  name := loader.name
  load context descriptor := ExceptT.mk (quiet (loader.load context descriptor).run)

end Asked

/-- The expander with a listener before its chain. -/
def Expander.heard (expander : Expander (StateM σ)) : Expander (StateM (Asked σ)) where
  chain := Asked.listener :: expander.chain.map Asked.behind
  context := expander.context
  ceiling := expander.ceiling

namespace Asked

variable [Host (StateM σ)]

/-- What an action with a listener comes to and what it leaves is what the action does without. -/
abbrev Follows (heard : Action (StateM (Asked σ)) α) (action : Action (StateM σ) α) : Prop :=
  Mirrors (fun asked s => asked.state = s) Eq heard action

omit [Host (StateM σ)] in
theorem compositional_follows
    : Compositional fun (heard : Action (StateM (Asked σ)) _) action => Follows heard action :=
  compositional_mirrors _ fun _ => rfl

omit [Host (StateM σ)] in
theorem follows_lift (action : StateM σ α)
    : Follows (ExceptT.lift (quiet action)) (ExceptT.lift action) := by
  rintro asked _ rfl
  exact ⟨.refl (fun _ => rfl) _, rfl⟩

theorem follows_lookup (name : String)
    : Follows (ExceptT.lift (Host.lookup name))
        (ExceptT.lift (Host.lookup name) : Action (StateM σ) (Option Bytes)) := by
  rintro asked _ rfl
  exact ⟨.refl (fun _ => rfl) _, rfl⟩

theorem follows_log (level : Level) (text : String)
    : Follows (Action.log level text) (Action.log level text : Action (StateM σ) Unit) :=
  follows_lift _

omit [Host (StateM σ)] in
theorem follows_behind (loader : SourceLoader (StateM σ)) (context : Context) (descriptor : String)
    : Follows ((behind loader).load context descriptor) (loader.load context descriptor) := by
  rintro asked _ rfl
  exact ⟨.refl (fun _ => rfl) _, rfl⟩

/-- Loaders behind a listener load what they load without. -/
theorem follows_offer (context : Context) (descriptor : String) (chain : Chain (StateM σ))
    : Follows (Chain.offer context descriptor (chain.map behind))
        (chain.offer context descriptor) := by
  have paired (loader : SourceLoader (StateM σ)) (_ : loader ∈ chain) :=
    And.intro (Eq.refl loader.name) (follows_behind loader context descriptor)
  exact compositional_follows.offer (fun f follows => follows.adapt f) follows_log
    (List.forall₂_map_left_iff.mpr (List.forall₂_same.mpr paired))

/-- A descriptor that is handed to a chain is noted before it is offered to the loaders. -/
theorem outcome_offer_listener (context : Context) (descriptor : String)
    (others : Chain (StateM (Asked σ))) (asked : Asked σ)
    : outcome (Chain.offer context descriptor (listener :: others)) asked
      = outcome (others.offer context descriptor)
          { asked with names := asked.names ++ [(.source, descriptor)] } := rfl

theorem follows_load (expander : Expander (StateM σ)) (descriptor : String)
    : Follows (expander.heard.chain.load expander.heard.context descriptor)
        (expander.chain.load expander.context descriptor) := by
  refine compositional_follows.bind (compositional_follows.checkCancelled (follows_lift _))
    fun _ => ?_
  rintro asked _ rfl
  rw [Expander.heard, outcome_offer_listener]
  exact follows_offer expander.context descriptor expander.chain _ _ rfl

theorem follows_resolve (expander : Expander (StateM σ)) (depth : UInt64) (kind : Tag.Kind)
    (content : Bytes)
    : Follows (expander.heard.resolve depth kind content) (expander.resolve depth kind content) :=
  compositional_follows.resolve (follows_load expander) follows_lookup follows_log depth kind
    content

/-- Listening changes neither the result nor the state. -/
theorem outcome_heard (expander : Expander (StateM σ)) (data : Bytes) (depth : UInt64)
    (asked : Asked σ)
    : outcome (expander.expand data depth) asked.state
      = ((outcome (expander.heard.expand data depth) asked).1,
        (outcome (expander.heard.expand data depth) asked).2.state) := by
  obtain ⟨alike, after⟩ :=
    compositional_follows.expandWithin_alike (follows_resolve expander) expander.ceiling
      (levels expander.ceiling depth) depth data asked _ rfl
  exact Prod.ext alike.eq.symm after.symm

-----------------------------------------------------------------------------------------
-- The name that a tag asks for
-----------------------------------------------------------------------------------------

/-- An action only adds to the names that were asked for. -/
abbrev Grows (action : Action (StateM (Asked σ)) α) : Prop :=
  ∀ names, Keeps (fun asked => names <+: asked.names) action

omit [Host (StateM σ)] in
theorem grows_lift (action : StateM σ α) : Grows (ExceptT.lift (quiet action)) :=
  fun _ _ before => before

theorem grows_checkCancelled : Grows (σ := σ) Action.checkCancelled := fun names =>
  ((compositional_keeps fun asked : Asked σ => names <+: asked.names).checkCancelled
    ⟨rfl, grows_lift _ names⟩).2

/-- Loaders behind a listener ask for nothing, by induction on the chain. -/
theorem grows_offer (context : Context) (descriptor : String) (chain : Chain (StateM σ))
    : Grows (Chain.offer context descriptor (chain.map behind)) := by
  intro names
  induction chain with
  | nil => exact .throw _
  | cons loader others ih =>
      have loaded : Grows ((behind loader).load context descriptor) := fun _ _ before => before
      refine Keeps.bind ((loaded names).adapt _) fun probe => ?_
      cases probe with
      | wrongFormat => exact ih
      | loaded bytes => exact (grows_lift _ names).bind fun _ => .pure bytes

theorem grows_load (expander : Expander (StateM σ)) (descriptor : String)
    : Grows (expander.heard.chain.load expander.heard.context descriptor) := by
  intro names
  refine (grows_checkCancelled names).bind fun _ asked before => ?_
  rw [Expander.heard, outcome_offer_listener]
  exact grows_offer _ _ _ names _ (before.trans (List.prefix_append _ _))

theorem grows_expand (expander : Expander (StateM σ)) (data : Bytes) (depth : UInt64)
    : Grows (expander.heard.expand data depth) := by
  intro names
  have looked (name : String)
      : Keeps (fun asked => names <+: asked.names)
          (ExceptT.lift (Host.lookup name) : Action (StateM (Asked σ)) _) :=
    fun _ before => before.trans (List.prefix_append _ _)
  have resolved (depth : UInt64) (kind : Tag.Kind) (content : Bytes) :=
    (compositional_keeps fun asked : Asked σ => names <+: asked.names).resolve
      (fun descriptor => ⟨rfl, grows_load expander descriptor names⟩)
      (fun name => ⟨rfl, looked name⟩) (fun _ _ => ⟨rfl, grows_lift _ names⟩) depth kind content
  exact ((compositional_keeps _).expandWithin_alike resolved _ _ depth data).2

theorem outcome_log (level : Level) (text : String) (asked : Asked σ)
    : outcome (Action.log level text : Action (StateM (Asked σ)) Unit) asked
      = (.ok (),
        { asked with state := ((Host.log level text : StateM σ Unit).run asked.state).2 }) := rfl

/-- A variable whose value is found is looked up by its name. -/
theorem names_lookup {name : String} {value : Bytes} {asked after : Asked σ}
    (found : outcome (Expander.lookup name) asked = (.ok value, after))
    : asked.names ++ [(.variable, name)] <+: after.names := by
  have looked
      : outcome (ExceptT.lift (Host.lookup name) : Action (StateM (Asked σ)) (Option Bytes)) asked
        = (.ok ((Host.lookup name : StateM σ (Option Bytes)).run asked.state).1,
          ⟨((Host.lookup name : StateM σ (Option Bytes)).run asked.state).2,
            asked.names ++ [(.variable, name)]⟩) := rfl
  unfold Expander.lookup at found
  split at found
  · cases (Prod.mk.inj found).1
  · rw [outcome_bind, looked] at found
    dsimp only at found
    split at found
    · cases (Prod.mk.inj found).1
    · split at found
      · cases (Prod.mk.inj found).1
      · obtain ⟨-, rfl⟩ := Prod.mk.inj found
        exact List.prefix_rfl

/-- A descriptor whose bytes are loaded is handed to the chain. -/
theorem names_load {expander : Expander (StateM σ)} {descriptor : String} {bytes : Bytes}
    {asked after : Asked σ}
    (loaded
      : outcome (expander.heard.chain.load expander.heard.context descriptor) asked
        = (.ok bytes, after))
    : asked.names ++ [(.source, descriptor)] <+: after.names := by
  rw [Chain.load, outcome_checked] at loaded
  split at loaded
  · cases (Prod.mk.inj loaded).1
  · rw [Expander.heard, outcome_offer_listener] at loaded
    have noted : asked.names ++ [(.source, descriptor)]
        <+: (askToken asked).2.names ++ [(.source, descriptor)] := List.prefix_rfl
    have grows := grows_offer expander.context descriptor expander.chain _
      { (askToken asked).2 with
        names := (askToken asked).2.names ++ [(.source, descriptor)] } noted
    rwa [loaded] at grows

/-- A tag that is resolved asks for the text that its content is repaired to. -/
theorem names_resolve {expander : Expander (StateM σ)} {depth : UInt64} {kind : Tag.Kind}
    {content found : Bytes} {asked after : Asked σ}
    (resolved : outcome (expander.heard.resolve depth kind content) asked = (.ok found, after))
    : asked.names ++ [(kind, repair content)] <+: after.names := by
  unfold Expander.resolve at resolved
  cases kind <;> rw [outcome_bind, outcome_log] at resolved <;> dsimp only at resolved
  · have loaded := names_load resolved
    exact loaded
  · have found := names_lookup resolved
    exact found

/-- A tag that is replaced asks for a name as soon as its content is expanded. -/
theorem names_replacement {expander : Expander (StateM σ)} {depth : UInt64} {kind : Tag.Kind}
    {raw content bytes : Bytes} {asked between after : Asked σ}
    (expanded : outcome (expander.heard.expand raw (depth + 1)) asked = (.ok content, between))
    (replaced : outcome (expander.heard.replacement depth kind raw) asked = (.ok bytes, after))
    : between.names ++ [(kind, repair content)] <+: after.names := by
  by_cases fits : depth.toNat + 1 < UInt64.size
  case neg =>
    rw [Expander.replacement_eq_fail _ _ _ fits] at replaced
    cases (Prod.mk.inj replaced).1
  rw [Expander.replacement_eq_resolve _ _ _ fits, outcome_bind, expanded] at replaced
  dsimp only at replaced
  rw [outcome_bind] at replaced
  rcases resolved : outcome (expander.heard.resolve depth kind content) between
    with ⟨_ | found, later⟩ <;> rw [resolved] at replaced
  · cases (Prod.mk.inj replaced).1
  · have grows := grows_expand expander found (depth + 1) _ later (names_resolve resolved)
    dsimp only at replaced
    rwa [replaced] at grows

end Asked

-----------------------------------------------------------------------------------------
-- Inline data
-----------------------------------------------------------------------------------------

/-- A tag for inline data. -/
def inlineTag (data : Bytes) : Bytes :=
  Tag.Kind.source.opening ++ (ascii "data://" ++ data ++ [byte '\x7d'])

/-- Bytes without a dollar sign make no opening before others, by induction on them. -/
theorem Tag.NoOpening.prepend {bytes rest : Bytes} (plain : byte '$' ∉ bytes)
    (noOpening : NoOpening rest)
    : NoOpening (bytes ++ rest) := by
  induction bytes with
  | nil => exact noOpening
  | cons b bytes ih =>
      rw [List.mem_cons, not_or] at plain
      intro offset
      cases offset with
      | zero => exact opening?_eq_none (Ne.symm plain.1) _
      | succ offset => exact ih plain.2 offset

theorem repair_inline (data : Bytes)
    : repair (ascii "data://" ++ data) = "data://" ++ repair data := by
  have whole : none ∉ characters (ascii "data://") := by
    have scheme : encode "data://" = ascii "data://" := by decide +kernel
    rw [← scheme, characters_encode]
    simp
  rw [repair_append whole]
  congr 1
  decide +kernel

/-- The log record that inline data have been loaded. -/
def inlineRecord (text : String) : String :=
  let shown := Descriptor.redact ("data://" ++ text)
  let loader := "data"
  s!"Loaded {(encode text).length} bytes from '{shown}' ({loader} loader)"

/-- The built-in chain gives the text of an inline descriptor. -/
theorem Chain.load_inline {m : Type → Type} [Monad m] [LawfulMonad m] [Host m] (context : Context)
    (text : String)
    : (Chain.builtin : Chain m).load context ("data://" ++ text)
      = (do
          Action.checkCancelled
          .log .debug (inlineRecord text)
          pure (encode text)) := by
  have begins : Descriptor.BeginsWith "data://" ("data://" ++ text) := by
    rw [Descriptor.BeginsWith, String.toList_append]
    exact List.prefix_append _ _
  have inlined : Descriptor.scheme ("data://" ++ text) = .inline :=
    (Descriptor.owns_iff _ .inline).mp (.inl begins)
  have inside : Descriptor.inline? ("data://" ++ text) = some text := by
    simp [Descriptor.inline?, Descriptor.after?, Text.dropStart?]
  have given
      : (SourceLoader.ofScheme .inline : SourceLoader m).load context ("data://" ++ text)
        = pure (.loaded (encode text)) := by
    simp only [SourceLoader.ofScheme, SourceLoader.inline, inside]
  have passed (f : Error → Error)
      : (pure (.loaded (encode text)) : Action m Probe).adapt f = pure (.loaded (encode text)) :=
    map_pure (Except.mapError f) (Except.ok (Probe.loaded (encode text)))
  rw [Chain.arranged_builtin.load_eq, inlined, Chain.load, Chain.offer, given, passed, pure_bind]
  rfl

/-- The built-in chain loads inline data as they are, unless loading has been cancelled. -/
theorem outcome_load_inline [Host (StateM σ)] (context : Context) (data : Bytes) (s : σ)
    : ∃ t,
        outcome (Chain.builtin.load context (repair (ascii "data://" ++ data))) s
          = (.error (.ofFault .cancelled), t)
        ∨ outcome (Chain.builtin.load context (repair (ascii "data://" ++ data))) s
          = (.ok (encode (repair data)), t) := by
  rw [repair_inline, Chain.load_inline, outcome_checked]
  split
  · exact ⟨_, .inl rfl⟩
  · exact ⟨_, .inr rfl⟩

/-- A tag for inline data that have neither braces nor openings gives what they are repaired to,
unless loading has been cancelled.
-/
theorem outcome_expand_inline [Host (StateM σ)] {expander : Expander (StateM σ)}
    (builtIn : expander.chain = Chain.builtin) {depth : UInt64} (below : depth < expander.ceiling)
    {data : Bytes} (noBrace : byte '\x7d' ∉ data) (noOpening : Tag.NoOpening data) (s : σ)
    : ∃ t,
        outcome (expander.expand (inlineTag data) depth) s = (.error (.ofFault .cancelled), t)
        ∨ outcome (expander.expand (inlineTag data) depth) s = (.ok (encode (repair data)), t) := by
  have plain : byte '\x7d' ∉ ascii "data://" ++ data := by
    rw [List.mem_append, not_or]
    exact ⟨by decide, noBrace⟩
  have closed : Tag.NoOpening (ascii "data://" ++ data) := noOpening.prepend (by decide)
  have tag : expander.expand (inlineTag data) depth
      = (do
          let found ← expander.resolve depth .source (ascii "data://" ++ data)
          expander.expand found (depth + 1)) := by
    rw [expander.expand_eq_assemble _ (UInt64.le_of_lt below), inlineTag,
      Segmentation.ofBytes_opening .source plain closed, Segmentation.ofBytes_nil]
    simp [Segmentation.append, Segmentation.prepend, Segmentation.assemble,
      Segmentation.assembleAfter, Expander.replacement_eq_resolve _ _ _ (next_fits below),
      expander.expand_noOpening (next_le below) closed]
  have logged (text : String)
      : ∃ t, outcome (Action.log .trace text : Action (StateM σ) Unit) s = (.ok (), t) := ⟨_, rfl⟩
  obtain ⟨between, resumed⟩ := logged
    (Expander.announcement .source (Descriptor.redact (repair (ascii "data://" ++ data))) depth)
  obtain ⟨t, loaded⟩ := outcome_load_inline expander.context data between
  refine ⟨t, ?_⟩
  rw [tag, outcome_bind, Expander.resolve, outcome_bind, resumed, builtIn]
  dsimp only
  rcases loaded with cancelled | found
  · exact .inl (by rw [cancelled])
  · rw [found]
    dsimp only
    rw [expander.expand_noOpening (next_le below) noOpening.repair]
    exact .inr rfl

-----------------------------------------------------------------------------------------
-- Names and contents
-----------------------------------------------------------------------------------------

/-- A tag asks for the bytes of its content exactly if they are a text. Whatever the chain and the
state, a tag that is replaced has asked, as soon as its content was expanded at the next depth, for
the text that the content is repaired to. That has the bytes of the content if and only if these are
a text, so that different texts are never asked for alike. In the same way inline data without
braces and openings are given as they are if and only if they are a text.
-/
theorem name_is_content_iff [Host (StateM σ)] (expander : Expander (StateM σ)) (depth : UInt64)
    (asked : Asked σ)
    : (∀ data,
        outcome (expander.expand data depth) asked.state
          = ((outcome (expander.heard.expand data depth) asked).1,
            (outcome (expander.heard.expand data depth) asked).2.state))
      ∧ (∀ kind raw content between bytes after,
          outcome (expander.heard.expand raw (depth + 1)) asked = (.ok content, between) →
          outcome (expander.heard.replacement depth kind raw) asked = (.ok bytes, after) →
            ∃ name,
              between.names ++ [(kind, name)] <+: after.names
              ∧ name = repair content
              ∧ (encode name = content ↔ IsText content))
      ∧ (∀ content content',
          IsText content →
          IsText content' →
            (repair content = repair content' ↔ content = content'))
      ∧ ∀ data,
          expander.chain = Chain.builtin →
          depth < expander.ceiling →
          byte '\x7d' ∉ data →
          Tag.NoOpening data →
            ∃ t,
              outcome (expander.expand (inlineTag data) depth) asked.state
                = (.error (.ofFault .cancelled), t)
              ∨ ∃ bytes,
                  outcome (expander.expand (inlineTag data) depth) asked.state = (.ok bytes, t)
                  ∧ (bytes = data ↔ IsText data) := by
  refine ⟨fun data => ?_, ?_, ?_, ?_⟩
  · exact Asked.outcome_heard expander data depth asked
  · intro kind raw content between bytes after expanded replaced
    exact ⟨repair content, Asked.names_replacement expanded replaced, rfl, encode_repair_eq_iff⟩
  · exact fun content content' isText isText' =>
      ⟨isText.repair_inj isText', congrArg repair⟩
  · intro data builtIn below noBrace noOpening
    obtain ⟨t, cancelled | given⟩ :=
      outcome_expand_inline builtIn below noBrace noOpening asked.state
    · exact ⟨t, .inl cancelled⟩
    · exact ⟨t, .inr ⟨_, given, encode_repair_eq_iff⟩⟩

/-- The letter e with an acute accent, in two bytes. -/
def accented : Bytes := [0xC3, 0xA9]

/-- A world in which a variable has that letter for its name. -/
def accentedWorld : World where
  environment := [("é", ascii "1")]

/-- A text beyond ASCII is asked for as it is, and so it is given as inline data. -/
theorem name_is_content_iff_accented
    : (∃ name after,
        outcome
            (({ chain := Chain.builtin } : Expander (StateM World)).heard.replacement 0 .variable
              accented)
            { state := accentedWorld }
          = (.ok (ascii "1"), after)
        ∧ [(.variable, name)] <+: after.names
        ∧ encode name = accented)
      ∧ (outcome
            (({ chain := Chain.builtin } : Expander (StateM World)).expand (inlineTag accented))
            accentedWorld).1
        = .ok accented := by
  have isText : IsText accented := isText_iff.mpr (by decide +kernel)
  let expander : Expander (StateM World) := { chain := Chain.builtin }
  obtain ⟨-, asks, -, inline⟩ := name_is_content_iff expander 0 { state := accentedWorld }
  refine ⟨?_, ?_⟩
  · have expanded
        : (outcome (expander.heard.expand accented (0 + 1)) { state := accentedWorld }).1
          = .ok accented := by
      decide +kernel
    have nothing
        : (outcome (expander.heard.expand accented (0 + 1)) { state := accentedWorld }).2.names
          = [] := by
      decide +kernel
    have replaced
        : (outcome (expander.heard.replacement 0 .variable accented) { state := accentedWorld }).1
          = .ok (ascii "1") := by
      decide +kernel
    obtain ⟨name, asked, -, same⟩ :=
      asks .variable accented accented _ (ascii "1") _ (Prod.ext expanded rfl)
        (Prod.ext replaced rfl)
    rw [nothing, List.nil_append] at asked
    exact ⟨name, _, Prod.ext replaced rfl, asked, same.mpr isText⟩
  · obtain ⟨t, cancelled | ⟨bytes, given, same⟩⟩ :=
      inline accented rfl (by decide) (by decide) (Tag.noOpening_of_notMem (by decide))
    · have running
          : (outcome (expander.expand (inlineTag accented)) accentedWorld).1
            ≠ .error (.ofFault .cancelled) := by
        decide +kernel
      exact absurd (congrArg Prod.fst cancelled) running
    · rw [given, same.mpr isText]

/-- A world in which a variable is named by the mark of an ill-formed part. -/
def markedWorld : World where
  environment := [("\uFFFD", ascii "1")]

/-- Inline data that are no text are not given as they are, but as the mark. As contents of tags,
two different bytes name the same variable.
-/
theorem names_repaired
    : (outcome (({ chain := Chain.builtin } : Expander (StateM World)).expand (inlineTag [0xFF]))
          markedWorld).1
        = .ok [0xEF, 0xBF, 0xBD]
      ∧ ([[0xFF], [0xFE]] : List Bytes).map
          (fun raw =>
            let replaced :=
              outcome
                (({ chain := Chain.builtin } : Expander (StateM World)).heard.replacement 0
                  .variable raw)
                { state := markedWorld }
            (replaced.1, replaced.2.names))
        = [(.ok (ascii "1"), [(.variable, "\uFFFD")]),
          (.ok (ascii "1"), [(.variable, "\uFFFD")])] := by
  decide +kernel

end TaggedConfig
