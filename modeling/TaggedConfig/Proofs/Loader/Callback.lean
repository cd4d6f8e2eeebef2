import TaggedConfig.Proofs.Cancellation.Pending
import TaggedConfig.Proofs.Loader.Observation
import TaggedConfig.Proofs.Source.Log

/-! Callbacks.
A callback takes the place of the chain for the top-level source, and for nothing else. Main
statement: every load calls it at most once, the chain is offered the descriptors of tags only, and
a chain that loads what the callback returns makes no difference.
-/

namespace TaggedConfig

open Run

variable {σ τ α : Type}

/-- A loader that passes a descriptor on makes no difference. -/
theorem Chain.offer_of_disowned [Host (StateM σ)] {loader : SourceLoader (StateM σ)}
    {context : Context} {descriptor : String}
    (disowned : loader.load context descriptor = pure .wrongFormat) (others : Chain (StateM σ))
    : Chain.offer context descriptor (loader :: others) = others.offer context descriptor := by
  have adapted (f : Error → Error)
      : (pure .wrongFormat : Action (StateM σ) Probe).adapt f = pure .wrongFormat := rfl
  rw [Chain.offer, disowned, adapted, pure_bind]

namespace Loader

-----------------------------------------------------------------------------------------
-- Ways to load
-----------------------------------------------------------------------------------------

/-- The ways to load a configuration. -/
inductive EntryPoint : Type → Type 1 where
  | bytes : EntryPoint Bytes
  | value : EntryPoint Json
  | decoded {α : Type} (decode : Bytes → Except String α) : EntryPoint α
  | validated {α : Type} (decode : Bytes → Except String α) (validate : α → Except String Unit)
    : EntryPoint α

def EntryPoint.call {m : Type → Type} [Monad m] [Host m]
    : EntryPoint α → (loader : Loader m) → m (Except LoadError α × Loader m)
  | .bytes, loader => loader.loadBytes
  | .value, loader => loader.loadValue
  | .decoded decode, loader => loader.load decode
  | .validated decode validate, loader => loader.loadValidated decode validate

/-- The source of a document and the settings that it holds. -/
def settled (decode : Bytes → Except String α) (validate : α → Except String Unit)
    : String × Bytes → Except LoadError (String × α)
  | (source, data) =>
      (settingsOf source decode validate data).map fun settings => (source, settings)

/-- What is made of a document that has been prepared. -/
def EntryPoint.finish : EntryPoint α → String × Bytes → Except LoadError (String × α)
  | .bytes => .ok
  | .value => settled Json.decodeText fun _ => pure ()
  | .decoded decode => settled decode fun _ => pure ()
  | .validated decode validate => settled decode validate

section

variable [Host (StateM σ)] [Host (StateM τ)]

/-- All loads prepare the document, which alone changes the state, and then finish. -/
theorem EntryPoint.run_call (entry : EntryPoint α) (loader : Loader (StateM σ)) (s : σ)
    : (entry.call loader).run s
      = (loader.record ((outcome loader.prepare s).1 >>= entry.finish),
        (outcome loader.prepare s).2) := by
  cases entry with
  | bytes =>
      refine (loader.run_loadBytes s).trans ?_
      cases (outcome loader.prepare s).1 <;> rfl
  | value => exact loader.run_loadValidated Json.decodeText (fun _ => pure ()) s
  | decoded decode => exact loader.run_loadValidated decode (fun _ => pure ()) s
  | validated decode validate => exact loader.run_loadValidated decode validate s

/-- Two runs have come to the same, and their states are related. -/
def Agree {ε : Type} (R : σ → τ → Prop) (first : Except ε α × σ) (second : Except ε α × τ) : Prop :=
  first.1 = second.1 ∧ R first.2 second.2

variable {loader : Loader (StateM σ)} {loader' : Loader (StateM τ)} {R : σ → τ → Prop} {s : σ}
  {t : τ}

/-- Preparations agree if the documents do, since all that is left to do is to check them. -/
theorem prepare_agree (check : loader.check = loader'.check)
    (logged
      : ∀ level text s t,
          R s t →
            R ((Host.log level text : StateM σ Unit).run s).2
              ((Host.log level text : StateM τ Unit).run t).2)
    (documents : Agree R (outcome loader.document s) (outcome loader'.document t))
    : Agree R (outcome loader.prepare s) (outcome loader'.prepare t) := by
  rw [outcome_prepare, outcome_prepare]
  rcases ran : outcome loader.document s with ⟨result, u⟩
  rcases ran' : outcome loader'.document t with ⟨result', u'⟩
  rw [ran, ran'] at documents
  obtain ⟨same, related⟩ := documents
  obtain rfl : result = result' := same
  rcases result with error | ⟨source, data⟩
  · exact ⟨rfl, related⟩
  · have findings : loader.findings data = loader'.findings data := by
      rw [Loader.findings, Loader.findings, check]
    dsimp only [checkDocument]
    rw [findings]
    rcases loader'.findings data with error | (_ | ⟨first, others⟩)
    · exact ⟨rfl, related⟩
    · exact ⟨rfl, related⟩
    · exact ⟨rfl, logged _ _ _ _ related⟩

/-- Documents agree if the sources do and the expansions of the source that is found. -/
theorem document_agree {found : Except Error String} {s' : σ} {t' : τ}
    (resolved : outcome loader.resolveSource s = (found, s'))
    (resolved' : outcome loader'.resolveSource t = (found, t'))
    (unresolved : ∀ error, found = .error error → R s' t')
    (expanded
      : ∀ source,
          found = .ok source →
            Agree R (outcome (loader.expandSource source) s')
              (outcome (loader'.expandSource source) t'))
    : Agree R (outcome loader.document s) (outcome loader'.document t) := by
  rw [document, document, outcome_bind, outcome_bind, resolved, resolved']
  cases found with
  | error error => exact ⟨rfl, unresolved error rfl⟩
  | ok source =>
      have both := expanded source rfl
      dsimp only
      rw [outcome_bind, outcome_bind]
      rcases ran : outcome (loader.expandSource source) s' with ⟨result, u⟩
      rcases ran' : outcome (loader'.expandSource source) t' with ⟨result', u'⟩
      rw [ran, ran'] at both
      obtain ⟨same, related⟩ := both
      obtain rfl : result = result' := same
      cases result with
      | error error => exact ⟨rfl, related⟩
      | ok data => exact ⟨rfl, related⟩

end

-----------------------------------------------------------------------------------------
-- What a load asks of the callback and of the chain
-----------------------------------------------------------------------------------------

variable [Host (StateM σ)]

/-- What a load with a callback asks for that begins in a state. Nothing, if no source is found or
if loading has been cancelled then. Otherwise the callback is called with the source that is found,
first of all and once. If it returns a document the chain is offered the descriptors of the tags
that are visited when that is expanded, but not the last one if the expansion fails since loading
has been cancelled.
-/
inductive Asks (loader : Loader (StateM σ)) (callback : String → Action (StateM σ) Bytes) (s : σ)
    : List Event → Prop where
  | unresolved {error t} (found : outcome loader.resolveSource s = (.error error, t))
    : Asks loader callback s []
  | cancelled {source t} (found : outcome loader.resolveSource s = (.ok source, t))
    (refused : (askToken t).1 = true)
    : Asks loader callback s []
  | failed {source t error u} (found : outcome loader.resolveSource s = (.ok source, t))
    (running : (askToken t).1 = false)
    (answered : outcome (callback source) (askToken t).2 = (.error error, u))
    : Asks loader callback s [.called source]
  | expanded {source t document u offered}
    (found : outcome loader.resolveSource s = (.ok source, t)) (running : (askToken t).1 = false)
    (answered : outcome (callback source) (askToken t).2 = (.ok document, u))
    (among
      : Offered (outcome (loader.expander.expand document) u).1 offered
          (loader.expander.visits document 0 u))
    : Asks loader callback s (.called source :: offers offered)

/-- The observer leaves the state as it is, and has seen what a load asks for that begins in `s`. -/
structure Accounts (loader : Loader (StateM σ)) (callback : String → Action (StateM σ) Bytes)
    (s : σ) (observed : Observed σ) (t : σ)
    : Prop where
  state : observed.state = t
  events : loader.Asks callback s observed.events

variable {loader : Loader (StateM σ)} {callback : String → Action (StateM σ) Bytes}

/-- What the observer sees of expanding a source that has been found. -/
theorem expandSource_observed (given : loader.callback = some callback) {s t : σ} {source : String}
    (found : outcome loader.resolveSource s = (.ok source, t))
    : Agree (loader.Accounts callback s)
        (outcome (loader.observed.expandSource source) { state := t })
        (outcome (loader.expandSource source) t) := by
  have given' : loader.observed.callback = some _ := congrArg (Option.map _) given
  have asked
      : askToken ({ state := t } : Observed σ) = ((askToken t).1, { state := (askToken t).2 }) :=
    rfl
  rw [outcome_expandSource_called given', outcome_expandSource_called given, asked]
  cases running : (askToken t).1 with
  | true => exact ⟨rfl, ⟨rfl, .cancelled found running⟩⟩
  | false =>
      rw [if_neg Bool.false_ne_true, if_neg Bool.false_ne_true]
      have called (u : σ)
          : outcome
              (do
                ExceptT.lift (Observed.note (.called source))
                Observed.aside (callback source))
              ({ state := u } : Observed σ)
            = ((outcome (callback source) u).1,
              ⟨(outcome (callback source) u).2, [.called source]⟩) := rfl
      rw [called]
      rcases answered : outcome (callback source) (askToken t).2 with ⟨error | document, u⟩
      · exact ⟨rfl, ⟨rfl, .failed found running answered⟩⟩
      · obtain ⟨offered, seen, among⟩ :=
          loader.expander.outcome_expand_observed document 0 u [.called source]
        have expanded
            : outcome (loader.observed.expander.expand document) ⟨u, [.called source]⟩ = _ := seen
        dsimp only
        rw [expanded]
        exact ⟨rfl, ⟨rfl, .expanded found running answered among⟩⟩

/-- A load does with the observer what it does without, and asks for what it should. -/
theorem EntryPoint.call_observed (entry : EntryPoint α) (given : loader.callback = some callback)
    (s : σ)
    : ((entry.call loader.observed).run { state := s }).1
        = (((entry.call loader).run s).1.1, ((entry.call loader).run s).1.2.observed)
      ∧ ((entry.call loader.observed).run { state := s }).2.state = ((entry.call loader).run s).2
      ∧ loader.Asks callback s ((entry.call loader.observed).run { state := s }).2.events := by
  have documents
      : Agree (loader.Accounts callback s) (outcome loader.observed.document { state := s })
          (outcome loader.document s) := by
    rcases resolved : outcome loader.resolveSource s with ⟨found, t⟩
    have resolved' := Unseen.resolveSource loader s []
    rw [resolved] at resolved'
    refine document_agree resolved' resolved ?_ ?_
    · rintro error rfl
      exact ⟨rfl, .unresolved resolved⟩
    · rintro source rfl
      exact expandSource_observed given resolved
  have prepared
      : Agree (loader.Accounts callback s) (outcome loader.observed.prepare { state := s })
          (outcome loader.prepare s) := by
    refine prepare_agree rfl (fun level text observed t accounts => ?_) documents
    obtain ⟨rfl, events⟩ := accounts
    exact ⟨rfl, events⟩
  obtain ⟨same, accounts⟩ := prepared
  rw [entry.run_call, entry.run_call, same]
  refine ⟨?_, accounts.state, accounts.events⟩
  cases (outcome loader.prepare s).1 >>= entry.finish <;> rfl

-----------------------------------------------------------------------------------------
-- A chain in the place of the callback
-----------------------------------------------------------------------------------------

/-- The loader with another chain and without a callback. -/
def through (loader : Loader (StateM σ)) (chain : Chain (StateM σ)) : Loader (StateM σ) :=
  { loader with chain, callback := none }

/-- The chain may take the place of the callback in a load that begins in a state. States that are
related differ in their log only, or in what makes no more difference than that. On descriptors
other than the source that is found the chain agrees with that of the loader; for the source its
loaders have the answer of the callback. No tag that is visited names the source.
-/
structure Replaces (chain : Chain (StateM σ)) (loader : Loader (StateM σ))
    (callback : String → Action (StateM σ) Bytes) (R : σ → σ → Prop) (s : σ)
    : Prop where
  refl : ∀ t, R t t
  logged_left
    : ∀ level text t u, R t u → R ((Host.log level text : StateM σ Unit).run t).2 u
  logged_right
    : ∀ level text t u, R t u → R t ((Host.log level text : StateM σ Unit).run u).2
  looked
    : ∀ name,
        Mirrors R Eq (ExceptT.lift (Host.lookup name) : Action (StateM σ) (Option Bytes))
          (ExceptT.lift (Host.lookup name))
  others
    : ∀ source t,
        outcome loader.resolveSource s = (.ok source, t) →
          ∀ descriptor ≠ source,
            Mirrors R Eq (loader.chain.load loader.context descriptor)
              (chain.load loader.context descriptor)
  served
    : ∀ source t result u,
        outcome loader.resolveSource s = (.ok source, t) →
          (askToken t).1 = false →
            outcome (callback source) (askToken t).2 = (result, u) →
              ∃ v,
                chain.LastWord loader.context source (askToken t).2 (result.map .loaded) v
                ∧ R u v
  absent
    : ∀ source t document u,
        outcome loader.resolveSource s = (.ok source, t) →
          (askToken t).1 = false →
            outcome (callback source) (askToken t).2 = (.ok document, u) →
              ∀ visit ∈ loader.expander.visits document 0 u, visit.descriptor? ≠ some source

/-- Unless the recorded action visits the source, the other action does the same from a related
state. Visits that have been made stay.
-/
structure AgreesBut (R : σ → σ → Prop) (source : String)
    (recorded : Action (StateM (Trail σ)) α) (other : Action (StateM σ) α)
    : Prop where
  grows : ∀ trail, trail.visits <+: (outcome recorded trail).2.visits
  agrees
    : ∀ trail t,
        R trail.state t →
          (∀ visit ∈ (outcome recorded trail).2.visits, visit.descriptor? ≠ some source) →
            Agree (fun trail t => R trail.state t) (outcome recorded trail) (outcome other t)

omit [Host (StateM σ)] in
theorem compositional_agreesBut (R : σ → σ → Prop) (source : String)
    : Compositional fun (recorded : Action (StateM (Trail σ)) _) other =>
        AgreesBut R source recorded other where
  pure _ := ⟨fun _ => List.prefix_rfl, fun _ _ related _ => ⟨rfl, related⟩⟩
  throw _ := ⟨fun _ => List.prefix_rfl, fun _ _ related _ => ⟨rfl, related⟩⟩
  bind {_ _ recorded other recorded' other'} head tail := by
    refine ⟨fun trail => ?_, fun trail t related unvisited => ?_⟩
    · have grows (a) : Keeps (fun later => trail.visits <+: later.visits) (recorded' a) :=
        fun between before => before.trans ((tail a).grows between)
      exact holds_bind (head.grows trail) grows
    · rw [outcome_bind] at unvisited
      rw [outcome_bind, outcome_bind]
      have agrees := head.agrees trail t related
      rcases ran : outcome recorded trail with ⟨result, between⟩
      rcases ran' : outcome other t with ⟨result', t'⟩
      rw [ran] at unvisited
      rw [ran, ran'] at agrees
      cases result with
      | error error =>
          obtain ⟨same, after⟩ := agrees unvisited
          obtain rfl : .error error = result' := same
          exact ⟨rfl, after⟩
      | ok a =>
          obtain ⟨same, after⟩ := agrees fun visit member =>
            unvisited visit (((tail a).grows between).subset member)
          obtain rfl : .ok a = result' := same
          exact (tail a).agrees between t' after unvisited

namespace Replaces

variable {chain : Chain (StateM σ)} {R : σ → σ → Prop} {s t : σ} {source : String}

theorem logged (replaces : Replaces chain loader callback R s) (level : Level) (text : String)
    : Mirrors R Eq (Action.log level text) (Action.log level text) := by
  intro t u related
  have left := replaces.logged_left level text t u related
  exact ⟨.ok (), replaces.logged_right level text _ u left⟩

/-- Tags that do not name the source are resolved alike. -/
theorem agreesBut_visit (replaces : Replaces chain loader callback R s)
    (found : outcome loader.resolveSource s = (.ok source, t)) (depth : UInt64) (kind : Tag.Kind)
    (content : Bytes)
    : AgreesBut R source (loader.expander.visit depth kind content)
        ((loader.through chain).expander.resolve depth kind content) := by
  refine ⟨fun trail => List.prefix_append _ _, fun trail u related unvisited => ?_⟩
  have compositional := compositional_mirrors R (E := Eq) fun _ => rfl
  have resolved
      : Mirrors R Eq (loader.expander.resolve depth kind content)
          ((loader.through chain).expander.resolve depth kind content) := by
    match kind with
    | .variable =>
        refine compositional.bind (replaces.logged _ _) fun _ => ?_
        exact compositional.lookup (replaces.looked _)
    | .source =>
        have other : Utf8.repair content ≠ source := by
          let last : Visit := ⟨depth, .source, Utf8.repair content⟩
          intro same
          have visited := List.mem_append_right trail.visits (List.mem_singleton_self last)
          exact unvisited last visited (congrArg some same)
        refine compositional.bind (replaces.logged _ _) fun _ => ?_
        exact replaces.others source t found _ other
  obtain ⟨alike, after⟩ := resolved trail.state u related
  exact ⟨alike.eq, after⟩

/-- A document whose tags do not name the source is expanded alike. -/
theorem expand (replaces : Replaces chain loader callback R s)
    (found : outcome loader.resolveSource s = (.ok source, t)) {document : Bytes} {u v : σ}
    (related : R u v)
    (unvisited
      : ∀ visit ∈ loader.expander.visits document 0 u, visit.descriptor? ≠ some source)
    : Agree R (outcome (loader.expander.expand document) u)
        (outcome ((loader.through chain).expander.expand document) v) := by
  have expanded
      : AgreesBut R source (loader.expander.walk document 0)
          ((loader.through chain).expander.expand document) :=
    (compositional_agreesBut R source).expandWithin_alike (replaces.agreesBut_visit found) _ _ _ _
  have walked := loader.expander.outcome_expand document 0 ⟨u, []⟩
  obtain ⟨same, after⟩ := expanded.agrees ⟨u, []⟩ v related unvisited
  rw [Agree, ← same]
  exact ⟨congrArg Prod.fst walked, congrArg Prod.snd walked ▸ after⟩

/-- The source is expanded alike: the token is checked at the same point, an error of the callback
and one of a loader name the source alike, and bytes are the same but for a log record.
-/
theorem expandSource (replaces : Replaces chain loader callback R s)
    (given : loader.callback = some callback)
    (found : outcome loader.resolveSource s = (.ok source, t))
    : Agree R (outcome (loader.expandSource source) t)
        (outcome ((loader.through chain).expandSource source) t) := by
  have chained : (loader.through chain).callback = none := rfl
  have loaded
      : outcome ((loader.through chain).chain.load (loader.through chain).context source) t = _ :=
    outcome_checked (chain.offer loader.context source) t
  rw [outcome_expandSource_called given, outcome_expandSource chained, loaded]
  cases running : (askToken t).1 with
  | true => exact ⟨rfl, replaces.refl _⟩
  | false =>
      rcases answered : outcome (callback source) (askToken t).2 with ⟨result, u⟩
      obtain ⟨v, word, related⟩ := replaces.served source t result u found running answered
      obtain ⟨text, offered⟩ := word.exists_replied
      rw [if_neg Bool.false_ne_true, if_neg Bool.false_ne_true, offered]
      cases result with
      | error error => exact ⟨rfl, related⟩
      | ok document =>
          have unvisited := replaces.absent source t document u found running answered
          exact replaces.expand found (replaces.logged_right .debug text u v related) unvisited

end Replaces

/-- With the chain in the place of the callback a load comes to the same. -/
theorem EntryPoint.call_through (entry : EntryPoint α) (given : loader.callback = some callback)
    {chain : Chain (StateM σ)} {R : σ → σ → Prop} {s : σ}
    (replaces : Replaces chain loader callback R s)
    : ((entry.call (loader.through chain)).run s).1
        = (((entry.call loader).run s).1.1, ((entry.call loader).run s).1.2.through chain)
      ∧ R ((entry.call loader).run s).2 ((entry.call (loader.through chain)).run s).2 := by
  have documents
      : Agree R (outcome loader.document s) (outcome (loader.through chain).document s) := by
    rcases resolved : outcome loader.resolveSource s with ⟨found, t⟩
    refine document_agree resolved resolved (fun _ _ => replaces.refl t) ?_
    rintro source rfl
    exact replaces.expandSource given resolved
  have prepared
      : Agree R (outcome loader.prepare s) (outcome (loader.through chain).prepare s) := by
    refine prepare_agree rfl (fun level text t u related => ?_) documents
    exact (replaces.logged level text t u related).2
  obtain ⟨same, related⟩ := prepared
  rw [entry.run_call, entry.run_call, same]
  refine ⟨?_, related⟩
  cases (outcome (loader.through chain).prepare s).1 >>= entry.finish <;> rfl

/-- The callback serves the top-level source and nothing else. Every load comes to the same with an
observer, who sees that the callback is called once, with the source that is found, if there is one
and loading has not been cancelled then, and not at all otherwise. The chain is offered the
descriptors of tags alone, in the order in which they are visited and whatever they name. A chain
that has the answers of the callback for the source, and otherwise those of the chain of the loader,
can take its place: every load then comes to the same and leaves a related state.
-/
theorem callback_serves_source (given : loader.callback = some callback) (entry : EntryPoint α)
    (s : σ)
    : (((entry.call loader.observed).run { state := s }).1
          = (((entry.call loader).run s).1.1, ((entry.call loader).run s).1.2.observed)
        ∧ ((entry.call loader.observed).run { state := s }).2.state = ((entry.call loader).run s).2
        ∧ loader.Asks callback s ((entry.call loader.observed).run { state := s }).2.events)
      ∧ ∀ (chain : Chain (StateM σ)) (R : σ → σ → Prop),
          Replaces chain loader callback R s →
            ((entry.call (loader.through chain)).run s).1
              = (((entry.call loader).run s).1.1, ((entry.call loader).run s).1.2.through chain)
            ∧ R ((entry.call loader).run s).2 ((entry.call (loader.through chain)).run s).2 :=
  ⟨entry.call_observed given s, fun _ _ replaces => entry.call_through given replaces⟩

/-- A document with a tag for inline data. -/
def servedDocument : Bytes := ascii "[$\x7bSRC:data://1\x7d]"

/-- A loader whose callback returns that document. -/
def servedLoader : Loader (StateM World) where
  options := { source := some "top" }
  callback := some fun _ => pure servedDocument

example
    : ((EntryPoint.bytes.call
        ({ servedLoader with options := { source := some "data://1" } } : Loader _).observed).run
          { state := {} }).2.events
      = [.called "data://1", .offered "data://1"] := by
  decide +kernel

/-- A source loader that has that document for the source. -/
def servingLoader : SourceLoader (StateM World) where
  name := "serving"
  load _ descriptor := pure (if descriptor = "top" then .loaded servedDocument else .wrongFormat)

theorem replaces_serving
    : Replaces (servingLoader :: Chain.builtin) servedLoader (fun _ => pure servedDocument)
        World.SameButLog {} := by
  have resolved
      : outcome servedLoader.resolveSource {}
        = (.ok "top", { log := [(.debug, "Using explicit source 'top'")] }) := by
    decide +kernel
  have unvisited
      : ∀ visit ∈ servedLoader.expander.visits servedDocument 0
            { log := [(.debug, "Using explicit source 'top'")] },
          visit.descriptor? ≠ some "top" := by
    decide +kernel
  refine ⟨fun t => ⟨t.log, rfl⟩, ?_, ?_, ?_, ?_, ?_, ?_⟩
  · rintro level text t _ ⟨log, rfl⟩
    exact ⟨log, rfl⟩
  · rintro level text t _ ⟨log, rfl⟩
    exact ⟨_, rfl⟩
  · exact fun name => World.mirrors_of_logFree fun _ _ => rfl
  · intro source t found descriptor other
    obtain ⟨⟨⟩, rfl⟩ := Prod.mk.inj (resolved.symm.trans found)
    have disowned
        : servingLoader.load servedLoader.context descriptor = pure .wrongFormat := by
      simp only [servingLoader, if_neg other]
    refine (compositional_mirrors World.SameButLog (E := Eq) fun _ => rfl).bind
      World.mirrors_checkCancelled fun _ => ?_
    rw [Chain.offer_of_disowned disowned]
    exact World.covers_sameButLog.offer (World.covers_sameButLog.builtin _ descriptor)
  · intro source t result u found _ answered
    obtain ⟨⟨⟩, rfl⟩ := Prod.mk.inj (resolved.symm.trans found)
    obtain ⟨rfl, rfl⟩ := Prod.mk.inj answered
    exact ⟨_, .said rfl nofun, _, rfl⟩
  · intro source t document u found _ answered
    obtain ⟨⟨⟩, rfl⟩ := Prod.mk.inj (resolved.symm.trans found)
    obtain ⟨⟨⟩, rfl⟩ := Prod.mk.inj answered
    exact unvisited

/-- With the chain in the place of the callback the same bytes are loaded. -/
theorem callback_serves_source_replaced
    : servedLoader.callback = some (fun _ => pure servedDocument)
      ∧ Replaces (servingLoader :: Chain.builtin) servedLoader (fun _ => pure servedDocument)
          World.SameButLog {}
      ∧ (servedLoader.loadBytes.run {}).1.1 = .ok (ascii "[1]")
      ∧ ((servedLoader.through (servingLoader :: Chain.builtin)).loadBytes.run {}).1.1
        = .ok (ascii "[1]") := by
  have given : servedLoader.callback = some (fun _ => pure servedDocument) := rfl
  obtain ⟨-, replaced⟩ := callback_serves_source given EntryPoint.bytes {}
  obtain ⟨same, -⟩ := replaced _ _ replaces_serving
  have loaded : (servedLoader.loadBytes.run {}).1.1 = .ok (ascii "[1]") := by decide +kernel
  exact ⟨given, replaces_serving, loaded, (congrArg Prod.fst same).trans loaded⟩

end Loader

end TaggedConfig
