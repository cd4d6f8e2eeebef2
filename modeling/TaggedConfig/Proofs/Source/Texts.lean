import TaggedConfig.Expansion
import TaggedConfig.Proofs.Relation
import TaggedConfig.Proofs.Source.Sending
import TaggedConfig.Proofs.Text.Encoding
import TaggedConfig.Source.Builtin
import TaggedConfig.World

/-! Sources that are texts.
A chain gives texts if its loaders do, and the loaders that are built in do so where files and
the bodies of answers are texts. A variable that is not a text counts as missing.
-/

namespace TaggedConfig

open Run
open Utf8

variable {σ : Type} [Host (StateM σ)] {P : σ → Prop}

/-- Asking the token, looking up variables and writing log records keep a property of states. -/
structure Steady (P : σ → Prop) : Prop where
  asked : Keeps P (ExceptT.lift Host.isCancelled : Action (StateM σ) Bool)
  looked (name : String)
    : Keeps P (ExceptT.lift (Host.lookup name) : Action (StateM σ) (Option Bytes))
  logged (level : Level) (text : String) : Keeps P (Action.log level text : Action (StateM σ) Unit)

/-- So do the other effects, and files and the bodies of answers are texts. -/
structure Textual (P : σ → Prop) : Prop extends Steady P where
  located : Keeps P (ExceptT.lift Host.workingDirectory : Action (StateM σ) _)
  read (path : String)
    : Ensures P (fun content => ∀ bytes, content = .ok bytes → IsText bytes)
        (ExceptT.lift (Host.readFile path) : Action (StateM σ) (Except FileFault Bytes))
  sent (patience : Patience) (request : Request)
    : Ensures P (fun exchange => ∀ status body, exchange = .answered status body → IsText body)
        (ExceptT.lift (Host.send patience request) : Action (StateM σ) Exchange)

/-- What a loader loads, if anything, is a text. -/
def Probe.IsText : Probe → Prop
  | .loaded bytes => Utf8.IsText bytes
  | .wrongFormat => True

-----------------------------------------------------------------------------------------
-- Chains and variables
-----------------------------------------------------------------------------------------

theorem Steady.checkCancelled (steady : Steady P)
    : Keeps P (Action.checkCancelled : Action (StateM σ) Unit) :=
  ((compositional_keeps P).checkCancelled ⟨rfl, steady.asked⟩).2

/-- A chain gives texts if its loaders do, by induction on the chain. -/
theorem Chain.ensures_load (steady : Steady P) {chain : Chain (StateM σ)} {context : Context}
    {descriptor : String}
    (texts : ∀ loader ∈ chain, Ensures P Probe.IsText (loader.load context descriptor))
    : Ensures P IsText (chain.load context descriptor) := by
  refine steady.checkCancelled.bind_ensures fun _ => ?_
  induction chain with
  | nil => exact .throw _
  | cons loader others ih =>
      rw [List.forall_mem_cons] at texts
      refine (texts.1.adapt _).bind fun probe isText => ?_
      cases probe with
      | wrongFormat => exact ih texts.2
      | loaded bytes => exact (steady.logged _ _).bind_ensures fun _ => .pure isText

theorem Expander.ensures_lookup (steady : Steady P) (name : String)
    : Ensures P IsText (lookup name : Action (StateM σ) Bytes) := by
  unfold lookup
  split
  · exact .throw _
  · refine (steady.looked name).bind_ensures fun value => ?_
    cases value with
    | none => exact .throw _
    | some value =>
        dsimp only
        split
        · exact .throw _
        · rename_i present
          rw [not_or, Option.isNone_iff_eq_none] at present
          exact .pure (isText_iff.mpr (Option.isSome_iff_ne_none.mpr present.2))

-----------------------------------------------------------------------------------------
-- The built-in loaders
-----------------------------------------------------------------------------------------

/-- A secret is a text whatever the answer is. -/
theorem SecretRequest.isText_of_answerBytes {request : SecretRequest} {status : Nat}
    {body bytes : Bytes} (given : request.answerBytes status body = .ok bytes)
    : IsText bytes := by
  have selected {value : Option Json} (found : selectedBytes? value = some bytes)
      : IsText bytes := by
    unfold selectedBytes? at found
    split at found <;> cases found <;> exact isText_encode _
  have whole {secret : List (String × Json)} (found : request.select secret = .ok bytes)
      : IsText bytes := by
    unfold select at found
    split at found
    · cases found
      exact isText_encode _
    · split at found <;> cases found
      exact selected ‹_›
  unfold answerBytes at given
  split_ifs at given
  split at given
  · cases given
  · split at given
    · cases given
    · exact whole (Outcome.mapError_eq_ok.mp given)

namespace Textual

theorem fetch (textual : Textual P) (context : Context) (request : Request)
    : Ensures P (fun answer => IsText answer.2)
        (TaggedConfig.fetch context request : Action (StateM σ) _) := by
  refine textual.checkCancelled.bind_ensures fun _ => ?_
  refine (textual.sent _ request).bind fun exchange isText => ?_
  cases exchange with
  | answered status body => exact .pure (isText status body rfl)
  | failed reason => exact .throw _
  | abandoned => exact (textual.logged _ _).bind_ensures fun _ => .throw _
  | lost => exact .throw _

theorem fetchDocument (textual : Textual P) (context : Context) (url : String)
    : Ensures P IsText (TaggedConfig.fetchDocument context url : Action (StateM σ) Bytes) := by
  refine (textual.fetch context _).bind fun (status, body) isText => ?_
  dsimp only
  split
  · exact .pure isText
  · exact .throw _

theorem loadSecret (textual : Textual P) (context : Context) (address : String)
    : Ensures P IsText (SecretRequest.load context address : Action (StateM σ) Bytes) := by
  refine Keeps.bind_ensures ?_ fun _ => ?_
  · refine ((compositional_keeps P).forIn (fun name _ => ⟨rfl, ?_⟩) _ _).2
    exact (textual.logged _ _).bind fun _ => .pure _
  · cases SecretRequest.ofAddress address with
    | error fault => exact .throw _
    | ok request =>
        refine (textual.fetch context _).bind fun (status, body) _ => ?_
        dsimp only
        cases given : request.answerBytes status body with
        | error fault => exact .throw _
        | ok bytes => exact .pure (SecretRequest.isText_of_answerBytes given)

theorem readFileSource (textual : Textual P) (path : String)
    : Ensures P IsText (TaggedConfig.readFileSource path : Action (StateM σ) Bytes) := by
  refine (textual.read path).bind fun content isText => ?_
  match content with
  | .ok bytes => exact .pure (isText bytes rfl)
  | .error fault => cases fault <;> exact .throw _

theorem resolvePath (textual : Textual P) (context : Context) (path : String)
    : Keeps P (context.resolvePath path : Action (StateM σ) String) := by
  unfold Context.resolvePath
  split
  · exact .pure path
  · cases context.baseDirectory with
    | some directory => exact .pure _
    | none =>
        refine textual.located.bind fun directory => ?_
        cases directory with
        | ok directory => exact .pure _
        | error fault => exact .throw _

/-- The built-in loaders load texts. -/
theorem builtin (textual : Textual P) (context : Context) (descriptor : String)
    : ∀ loader ∈ (Chain.builtin : Chain (StateM σ)),
        Ensures P Probe.IsText (loader.load context descriptor) := by
  have passed : Ensures P Probe.IsText (pure .wrongFormat : Action (StateM σ) Probe) :=
    .pure trivial
  rw [Chain.builtin]
  simp only [List.forall_mem_cons]
  refine ⟨?_, ?_, ?_, ?_, nofun⟩
  · unfold SourceLoader.web
    dsimp only
    split
    · exact (textual.fetchDocument context descriptor).map fun _ isText => isText
    · exact passed
  · unfold SourceLoader.secretStore
    dsimp only
    cases Descriptor.secretAddress? descriptor with
    | none => exact passed
    | some address => exact (textual.loadSecret context address).map fun _ isText => isText
  · unfold SourceLoader.inline
    dsimp only
    cases Descriptor.inline? descriptor with
    | none => exact passed
    | some text => exact .pure (isText_encode text)
  · refine (textual.resolvePath context _).bind_ensures fun path => ?_
    exact (textual.readFileSource path).map fun _ isText => isText

end Textual

-----------------------------------------------------------------------------------------
-- Worlds of texts
-----------------------------------------------------------------------------------------

namespace World

/-- The files of a world and the documents that its network serves are texts. -/
structure OfTexts (world : World) : Prop where
  files : ∀ entry ∈ world.files.items, ∀ content, entry.2 = .file content → IsText content
  routes : ∀ route ∈ world.network.routes, IsText route.body

theorem OfTexts.read {world : World} (ofTexts : world.OfTexts) {path : String} {content : Bytes}
    (found : world.files.read world.workingDirectory path = .ok content)
    : IsText content := by
  obtain ⟨-, -, found⟩ := Outcome.bind_eq_ok.mp found
  obtain ⟨location, -, found⟩ := Outcome.bind_eq_ok.mp found
  split at found
  · rename_i known
    split at found <;> cases found
    unfold FileTree.item? at known
    split at known
    · cases known
    · obtain ⟨before, after, whole, -⟩ := List.lookup_eq_some_iff.mp known
      exact ofTexts.files _ (by rw [whole]; exact List.mem_append_cons_self) content rfl
  · cases found

theorem OfTexts.send {world : World} (ofTexts : world.OfTexts) {request : Request} {status : Nat}
    {body : Bytes} (answered : (world.send request).1 = .answered status body)
    : IsText body := by
  have served {sent : Request} (given : world.network.answer sent = .answered status body)
      : IsText body := by
    unfold Network.answer at given
    split at given
    · cases given
      exact isText_nil
    · rename_i route chosen
      split at given <;> try cases given
      split at given <;> cases given
      exact ofTexts.routes route (List.mem_of_find?_eq_some chosen)
  change (world.network.send request).1 = _ at answered
  unfold Network.send at answered
  split at answered <;> split at answered <;> try cases answered
  exact served answered

/-- Nothing that happens in such a world changes its files or its network. -/
theorem textual_ofTexts : Textual OfTexts where
  asked _ ofTexts := ofTexts
  looked _ _ ofTexts := ofTexts
  logged _ _ _ ofTexts := ⟨ofTexts.files, ofTexts.routes⟩
  located _ ofTexts := ofTexts
  read path world ofTexts := by
    refine ⟨ofTexts, ?_⟩
    rintro _ ⟨rfl⟩ bytes found
    exact ofTexts.read found
  sent patience request world ofTexts := by
    refine ⟨⟨ofTexts.files, ofTexts.routes⟩, ?_⟩
    rintro _ ⟨rfl⟩ status body answered
    exact ofTexts.send answered

end World

end TaggedConfig
