import TaggedConfig.Expansion
import TaggedConfig.Proofs.Run
import TaggedConfig.Source.Builtin

/-! What the built-in loaders and lookups fail with.
None of them scans a buffer for tags, so no failure of theirs is about a tag.
-/

namespace TaggedConfig

open Run

/-- The faults of loads and lookups. -/
inductive Fault.OfLoading : Fault → Prop
  | source (fault : SourceFault) : OfLoading (.source fault)
  | cancelled : OfLoading .cancelled
  | decode (reason : String) : OfLoading (.decode reason)
  | variableMissing (name : String) : OfLoading (.variableMissing name)
  | internal (reason : String) : OfLoading (.internal reason)

variable {σ α β : Type}

/-- From any state, an action fails with a fault of loads and lookups if it fails at all. -/
abbrev FailsInLoading (action : Action (StateM σ) α) : Prop :=
  FailsWith (fun error _ => error.fault.OfLoading) action

/-- The error is a fault of loads and nothing else: it names no source yet. -/
def Error.Unsourced (error : Error) : Prop :=
  ∃ fault : Fault, fault.OfLoading ∧ error = .ofFault fault

/-- From any state, an action fails with a fault of loads and nothing else if it fails at all. -/
abbrev FailsUnsourced (action : Action (StateM σ) α) : Prop :=
  FailsWith (fun error _ => error.Unsourced) action

/-- A lookup fails with the name of the variable that is missing. -/
theorem failsWith_lookup [Host (StateM σ)] (name : String)
    : FailsWith (fun error (_ : σ) => error = .ofFault (.variableMissing name))
        (Expander.lookup name) := by
  unfold Expander.lookup
  split
  · exact .throw fun _ => rfl
  · refine FailsWith.bind (.lift _) fun value => ?_
    cases value with
    | none => exact .throw fun _ => rfl
    | some value =>
        dsimp only
        split
        · exact .throw fun _ => rfl
        · exact .pure value

namespace FailsUnsourced

theorem fail {fault : Fault} (loading : fault.OfLoading)
    : FailsUnsourced (Action.fail fault : Action (StateM σ) α) :=
  .throw fun _ => ⟨fault, loading, rfl⟩

theorem failSource (fault : SourceFault)
    : FailsUnsourced (Action.failSource fault : Action (StateM σ) α) :=
  .throw fun _ => ⟨.source fault, .source fault, rfl⟩

/-- Such an action fails with a fault of loads. -/
theorem failsInLoading {action : Action (StateM σ) α} (fails : FailsUnsourced action)
    : FailsInLoading action := by
  intro s error failed
  obtain ⟨fault, loading, rfl⟩ := fails s error failed
  exact loading

variable [Host (StateM σ)]

theorem checkCancelled : FailsUnsourced (Action.checkCancelled : Action (StateM σ) Unit) := by
  refine FailsWith.bind (.lift _) fun cancelled => ?_
  cases cancelled with
  | true => exact fail .cancelled
  | false => exact .pure _

theorem fetch (context : Context) (request : Request)
    : FailsUnsourced (TaggedConfig.fetch context request : Action (StateM σ) (Nat × Bytes)) := by
  refine FailsWith.bind checkCancelled fun _ => FailsWith.bind (.lift _) fun exchange => ?_
  cases exchange with
  | answered status body => exact .pure _
  | failed reason => exact failSource _
  | abandoned => exact FailsWith.bind (.lift _) fun _ => fail .cancelled
  | lost => exact fail (.internal _)

/-- Selecting from an answer fails with a fault of loads. -/
theorem answerBytes {request : SecretRequest} {status : Nat} {body : Bytes} {fault : Fault}
    (failed : request.answerBytes status body = .error fault)
    : fault.OfLoading := by
  unfold SecretRequest.answerBytes at failed
  split at failed
  · cases failed
    exact .source _
  · split at failed
    · cases failed
      exact .source _
    · split at failed
      · cases failed
        exact .decode _
      · split at failed
        · cases failed
          exact .source _
        · rename_i secret _
          cases selected : request.select secret <;> rw [selected] at failed <;> cases failed
          exact .source _

theorem loadSecret (context : Context) (address : String)
    : FailsUnsourced (SecretRequest.load context address : Action (StateM σ) Bytes) := by
  refine FailsWith.bind
    (.forIn (fun _ _ => FailsWith.bind (.lift _) fun _ => .pure _) _ _) fun _ => ?_
  cases SecretRequest.ofAddress address with
  | error fault => exact failSource fault
  | ok request =>
      refine FailsWith.bind (fetch context _) fun (status, body) => ?_
      dsimp only
      cases answered : request.answerBytes status body with
      | ok bytes => exact .pure bytes
      | error fault => exact fail (answerBytes answered)

theorem readFileSource (path : String)
    : FailsUnsourced (TaggedConfig.readFileSource path : Action (StateM σ) Bytes) := by
  refine FailsWith.bind (.lift _) fun content => ?_
  match content with
  | .ok bytes => exact .pure bytes
  | .error fault => cases fault <;> exact failSource _

theorem resolvePath (context : Context) (path : String)
    : FailsUnsourced (context.resolvePath path : Action (StateM σ) String) := by
  unfold Context.resolvePath
  split
  · exact .pure path
  · cases context.baseDirectory with
    | some directory => exact .pure _
    | none =>
        refine FailsWith.bind (.lift _) fun directory => ?_
        cases directory with
        | ok directory => exact .pure _
        | error fault => exact failSource _

/-- The built-in loaders fail with faults of loads, and name no source. -/
theorem builtin (context : Context) (descriptor : String)
    : ∀ loader ∈ (Chain.builtin : Chain (StateM σ)),
        FailsUnsourced (loader.load context descriptor) := by
  simp only [Chain.builtin, List.forall_mem_cons]
  refine ⟨?_, ?_, ?_, ?_, nofun⟩
  · unfold SourceLoader.web
    dsimp only
    split
    · refine FailsWith.map (FailsWith.bind (fetch context _) fun (status, body) => ?_) _
      dsimp only
      split
      · exact .pure body
      · exact failSource _
    · exact .pure _
  · unfold SourceLoader.secretStore
    dsimp only
    cases Descriptor.secretAddress? descriptor with
    | some address => exact FailsWith.map (loadSecret context address) _
    | none => exact .pure _
  · unfold SourceLoader.inline
    dsimp only
    cases Descriptor.inline? descriptor <;> exact .pure _
  · exact FailsWith.bind (resolvePath context _) fun path => FailsWith.map (readFileSource path) _

theorem lookup (name : String)
    : FailsUnsourced (Expander.lookup name : Action (StateM σ) Bytes) :=
  fun s error failed => ⟨_, .variableMissing name, failsWith_lookup name s error failed⟩

end FailsUnsourced

namespace FailsInLoading

variable [Host (StateM σ)]

/-- A chain fails as its loaders do, by induction on the chain. -/
theorem offer {chain : Chain (StateM σ)} {context : Context} {descriptor : String}
    (loaders : ∀ loader ∈ chain, FailsInLoading (loader.load context descriptor))
    : FailsInLoading (chain.offer context descriptor) := by
  induction chain with
  | nil => exact (FailsUnsourced.fail (.internal _)).failsInLoading
  | cons loader others ih =>
      rw [List.forall_mem_cons] at loaders
      have named
          : FailsInLoading
              ((loader.load context descriptor).adapt
                (·.withSource (Descriptor.redact descriptor))) :=
        FailsWith.adapt loaders.1 fun _ _ loading => loading
      refine FailsWith.bind named fun probe => ?_
      cases probe with
      | wrongFormat => exact ih loaders.2
      | loaded bytes => exact FailsWith.bind (.lift _) fun _ => .pure bytes

/-- With the built-in loaders no tag is resolved to a fault of another sort. -/
theorem resolve {expander : Expander (StateM σ)} (builtIn : expander.chain = Chain.builtin)
    (depth : UInt64) (kind : Tag.Kind) (content : Bytes)
    : FailsInLoading (expander.resolve depth kind content) := by
  refine match kind with
    | .source =>
        FailsWith.bind (.lift _) fun _ =>
          FailsWith.bind FailsUnsourced.checkCancelled.failsInLoading fun _ => offer ?_
    | .variable => FailsWith.bind (.lift _) fun _ => (FailsUnsourced.lookup _).failsInLoading
  rw [builtIn]
  exact fun loader member => (FailsUnsourced.builtin _ _ loader member).failsInLoading

end FailsInLoading

end TaggedConfig
