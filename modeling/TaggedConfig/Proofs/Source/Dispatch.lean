import Mathlib.Control.Monad.Basic
import Mathlib.Data.List.TakeWhile
import TaggedConfig.Proofs.Source.Builtin
import TaggedConfig.Proofs.Source.Sending

/-! Which loader a descriptor goes to.
The schemes of descriptors are disjoint, so each descriptor has one built-in loader that owns it.
What stands around that loader in a chain does not matter as long as files come after the rest.
-/

namespace TaggedConfig

open Run

-----------------------------------------------------------------------------------------
-- The scheme of a descriptor
-----------------------------------------------------------------------------------------

namespace Descriptor

def BeginsWith (start descriptor : String) : Prop := start.toList <+: descriptor.toList

/-- The first character that is not white space opens a JSON object or array. -/
def OpensJson (descriptor : String) : Prop :=
  ∃ c, descriptor.toList.find? (! Text.isBlank ·) = some c ∧ (c = '\x7b' ∨ c = '[')

def ForWeb (descriptor : String) : Prop :=
  BeginsWith "http://" descriptor ∨ BeginsWith "https://" descriptor

def ForSecretStore (descriptor : String) : Prop :=
  BeginsWith "vault://" descriptor ∨ BeginsWith "vaults://" descriptor

def ForInline (descriptor : String) : Prop :=
  BeginsWith "data://" descriptor ∨ OpensJson descriptor

/-- Which descriptors a scheme is for, said of each scheme by itself. Files take what is left. -/
def Scheme.Owns (descriptor : String) : Scheme → Prop
  | .web => ForWeb descriptor
  | .secretStore => ForSecretStore descriptor
  | .inline => ForInline descriptor
  | .file => ¬ ForWeb descriptor ∧ ¬ ForSecretStore descriptor ∧ ¬ ForInline descriptor

theorem isSome_after? (start descriptor : String)
    : (after? start descriptor).isSome ↔ BeginsWith start descriptor := by
  rw [after?, Option.isSome_map, Text.dropStart?, BeginsWith, ← List.isPrefixOf_iff_prefix]
  split <;> simp [*]

theorem isWeb_iff (descriptor : String) : isWeb descriptor ↔ ForWeb descriptor := by
  rw [isWeb, Bool.or_eq_true, isSome_after?, isSome_after?, ForWeb]

theorem isSome_secretAddress? (descriptor : String)
    : (secretAddress? descriptor).isSome ↔ ForSecretStore descriptor := by
  rw [ForSecretStore, ← isSome_after?, ← isSome_after?, secretAddress?]
  cases after? "vault://" descriptor <;> simp

theorem isSome_inline? (descriptor : String)
    : (inline? descriptor).isSome ↔ ForInline descriptor := by
  rw [ForInline, ← isSome_after?, OpensJson, List.find?_not_eq_head?_dropWhile, inline?]
  cases after? "data://" descriptor with
  | some text => simp
  | none =>
      simp only [Option.isSome_none, Bool.false_eq_true, false_or]
      cases descriptor.toList.dropWhile Text.isBlank with
      | nil => simp
      | cons c rest =>
          dsimp only
          split <;> simp_all

theorem BeginsWith.head? {start descriptor : String} (begins : BeginsWith start descriptor)
    {c : Char} (first : start.toList.head? = some c)
    : descriptor.toList.head? = some c := by
  obtain ⟨rest, whole⟩ := begins
  rw [← whole, List.head?_append, first]
  rfl

theorem ForWeb.head? {descriptor : String} (web : ForWeb descriptor)
    : descriptor.toList.head? = some 'h' :=
  web.elim (·.head? (by decide)) (·.head? (by decide))

theorem ForSecretStore.head? {descriptor : String} (secretStore : ForSecretStore descriptor)
    : descriptor.toList.head? = some 'v' :=
  secretStore.elim (·.head? (by decide)) (·.head? (by decide))

/-- An inline descriptor begins with the letter d, white space or a bracket. -/
theorem ForInline.head? {descriptor : String} (inline : ForInline descriptor) {c : Char}
    (first : descriptor.toList.head? = some c)
    : c = 'd' ∨ Text.isBlank c ∨ c = '\x7b' ∨ c = '[' := by
  rcases inline with data | ⟨opening, found, bracket⟩
  · rw [data.head? (by decide : "data://".toList.head? = some 'd')] at first
    exact Or.inl (Option.some.inj first).symm
  · obtain ⟨rest, whole⟩ := List.head?_eq_some_iff.mp first
    rw [whole, List.find?_cons] at found
    cases blank : Text.isBlank c with
    | true => exact Or.inr (Or.inl rfl)
    | false =>
        obtain rfl : c = opening := by simpa [blank] using found
        exact Or.inr (Or.inr bracket)

theorem ForWeb.not_forSecretStore {descriptor : String} (web : ForWeb descriptor)
    : ¬ ForSecretStore descriptor := by
  intro secretStore
  exact absurd (web.head?.symm.trans secretStore.head?) (by decide)

theorem ForInline.not_address {descriptor : String} (inline : ForInline descriptor)
    : ¬ ForWeb descriptor ∧ ¬ ForSecretStore descriptor :=
  ⟨fun web => absurd (inline.head? web.head?) (by decide),
    fun secretStore => absurd (inline.head? secretStore.head?) (by decide)⟩

/-- A descriptor is for one scheme, since those of different schemes begin differently. -/
theorem owns_iff (descriptor : String) (kind : Scheme)
    : kind.Owns descriptor ↔ scheme descriptor = kind := by
  have noSecret : isWeb descriptor → ¬ (secretAddress? descriptor).isSome := by
    rw [isWeb_iff, isSome_secretAddress?]
    exact ForWeb.not_forSecretStore
  have noAddress
      : (inline? descriptor).isSome →
          ¬ isWeb descriptor ∧ ¬ (secretAddress? descriptor).isSome := by
    rw [isWeb_iff, isSome_secretAddress?, isSome_inline?]
    exact ForInline.not_address
  unfold Scheme.Owns scheme
  rw [← isWeb_iff, ← isSome_secretAddress?, ← isSome_inline?]
  revert noSecret noAddress
  cases isWeb descriptor <;> cases (secretAddress? descriptor).isSome <;>
    cases (inline? descriptor).isSome <;> cases kind <;> simp

end Descriptor

-----------------------------------------------------------------------------------------
-- Loaders that own a descriptor
-----------------------------------------------------------------------------------------

namespace SourceLoader

variable {m : Type → Type} [Monad m] {loader : SourceLoader m} {descriptor : String}

/-- The loader passes the descriptor on and does nothing else. -/
def Disowns (loader : SourceLoader m) (descriptor : String) : Prop :=
  ∀ context, loader.load context descriptor = pure .wrongFormat

/-- Whatever the loader does with the descriptor, it does not pass it on. -/
def Owns (loader : SourceLoader m) (descriptor : String) : Prop :=
  ∀ context, ∃ action : Action m Bytes, loader.load context descriptor = .loaded <$> action

variable [Host m]

/-- The built-in loader of a scheme. -/
def ofScheme : Descriptor.Scheme → SourceLoader m
  | .web => web
  | .secretStore => secretStore
  | .inline => inline
  | .file => file

/-- The built-in loaders but that of files disown the descriptors of other schemes. -/
theorem disowns_ofScheme {kind : Descriptor.Scheme} (other : Descriptor.scheme descriptor ≠ kind)
    (noFile : kind ≠ .file)
    : (ofScheme kind : SourceLoader m).Disowns descriptor := by
  rw [ne_eq, ← Descriptor.owns_iff] at other
  intro context
  cases kind with
  | web =>
      rw [Descriptor.Scheme.Owns, ← Descriptor.isWeb_iff] at other
      simp only [ofScheme, web, if_neg other]
  | secretStore =>
      rw [Descriptor.Scheme.Owns, ← Descriptor.isSome_secretAddress?, Bool.not_eq_true,
        Option.isSome_eq_false_iff, Option.isNone_iff_eq_none] at other
      simp only [ofScheme, secretStore, other]
  | inline =>
      rw [Descriptor.Scheme.Owns, ← Descriptor.isSome_inline?, Bool.not_eq_true,
        Option.isSome_eq_false_iff, Option.isNone_iff_eq_none] at other
      simp only [ofScheme, inline, other]
  | file => exact absurd rfl noFile

/-- The built-in loader of the scheme of a descriptor owns it. -/
theorem owns_ofScheme [LawfulMonad m] (descriptor : String)
    : (ofScheme (Descriptor.scheme descriptor) : SourceLoader m).Owns descriptor := by
  have owned := (Descriptor.owns_iff descriptor _).mpr rfl
  intro context
  cases kind : Descriptor.scheme descriptor with
  | web =>
      rw [kind, Descriptor.Scheme.Owns, ← Descriptor.isWeb_iff] at owned
      refine ⟨fetchDocument context descriptor, ?_⟩
      simp only [ofScheme, web, if_pos owned]
  | secretStore =>
      rw [kind, Descriptor.Scheme.Owns, ← Descriptor.isSome_secretAddress?,
        Option.isSome_iff_exists] at owned
      obtain ⟨address, known⟩ := owned
      refine ⟨SecretRequest.load context address, ?_⟩
      simp only [ofScheme, secretStore, known]
  | inline =>
      rw [kind, Descriptor.Scheme.Owns, ← Descriptor.isSome_inline?,
        Option.isSome_iff_exists] at owned
      obtain ⟨text, known⟩ := owned
      refine ⟨pure (Utf8.encode text), ?_⟩
      simp only [ofScheme, inline, known, map_pure]
  | file =>
      refine ⟨context.resolvePath (Descriptor.filePath descriptor) >>= readFileSource, ?_⟩
      simp only [ofScheme, file, map_bind]

end SourceLoader

-----------------------------------------------------------------------------------------
-- Chains in which one loader owns a descriptor
-----------------------------------------------------------------------------------------

/-- What becomes of errors does not depend on what becomes of results. -/
theorem Action.adapt_map {m : Type → Type} [Monad m] [LawfulMonad m] {α β : Type}
    (f : Error → Error) (g : α → β) (action : Action m α)
    : (g <$> action).adapt f = g <$> action.adapt f := by
  have run {γ : Type} (action : Action m γ)
      : (action.adapt f).run = Except.mapError f <$> action.run := rfl
  refine ExceptT.ext ?_
  rw [run, ExceptT.run_map, ExceptT.run_map, run, ← comp_map, ← comp_map]
  congr 1
  funext result
  cases result <;> rfl

namespace Chain

open SourceLoader

variable {m : Type → Type} [Monad m]

/-- A chain with loaders put in between that pass every descriptor on. -/
inductive Padded : Chain m → Chain m → Prop
  | nil : Padded [] []
  | keep {loader base chain} (padded : Padded base chain)
    : Padded (loader :: base) (loader :: chain)
  | insert {loader base chain} (disowns : ∀ descriptor, loader.Disowns descriptor)
    (padded : Padded base chain)
    : Padded base (loader :: chain)

variable [LawfulMonad m] [Host m] {context : Context} {descriptor : String}

theorem offer_disowned {loader : SourceLoader m} (disowns : loader.Disowns descriptor)
    (others : Chain m)
    : Chain.offer context descriptor (loader :: others)
      = Chain.offer context descriptor others := by
  have passed (f : Error → Error)
      : (pure .wrongFormat : Action m Probe).adapt f = pure .wrongFormat :=
    map_pure (Except.mapError f) (Except.ok Probe.wrongFormat)
  rw [offer, disowns context, passed, pure_bind]

/-- The loaders after one that owns the descriptor make no difference. -/
theorem offer_owned {loader : SourceLoader m} (owns : loader.Owns descriptor) (others : Chain m)
    : Chain.offer context descriptor (loader :: others)
      = Chain.offer context descriptor [loader] := by
  obtain ⟨action, loaded⟩ := owns context
  rw [offer, offer, loaded, Action.adapt_map, bind_map_left, bind_map_left]

/-- Loaders that pass every descriptor on make no difference, by induction on where they are. -/
theorem offer_padded {base chain : Chain m} (padded : Padded base chain)
    : chain.offer context descriptor = base.offer context descriptor := by
  induction padded with
  | nil => rfl
  | keep _ ih => rw [offer, offer, ih]
  | insert disowns _ ih => rw [offer_disowned (disowns descriptor), ih]

/-- Of built-in loaders in any order before that of files the owner alone matters, by induction on
the loaders before it.
-/
theorem offer_schemes {kinds : List Descriptor.Scheme} (noFile : .file ∉ kinds)
    (present : Descriptor.scheme descriptor ∈ kinds ∨ Descriptor.scheme descriptor = .file)
    (others : Chain m)
    : Chain.offer context descriptor (kinds.map ofScheme ++ ofScheme .file :: others)
      = Chain.offer context descriptor [ofScheme (Descriptor.scheme descriptor)] := by
  have owns : (ofScheme (Descriptor.scheme descriptor) : SourceLoader m).Owns descriptor :=
    owns_ofScheme descriptor
  induction kinds with
  | nil =>
      obtain file := present.resolve_left List.not_mem_nil
      rw [file] at owns ⊢
      exact offer_owned owns others
  | cons kind kinds ih =>
      rw [List.mem_cons, not_or] at noFile
      rw [List.map_cons, List.cons_append]
      by_cases own : Descriptor.scheme descriptor = kind
      · rw [own] at owns ⊢
        exact offer_owned owns _
      · rw [offer_disowned (disowns_ofScheme own (Ne.symm noFile.1))]
        rw [List.mem_cons, or_iff_right own] at present
        exact ih noFile.2 present

/-- The built-in loaders of web documents, secrets and inline data in any order, then that of files
and any others, with loaders in between that pass every descriptor on.
-/
def Arranged (chain : Chain m) : Prop :=
  ∃ (kinds : List Descriptor.Scheme) (others : Chain m),
    kinds.Perm [.web, .secretStore, .inline]
    ∧ Padded (kinds.map ofScheme ++ ofScheme .file :: others) chain

/-- In such a chain the owner alone matters. -/
theorem Arranged.load_eq {chain : Chain m} (arranged : Arranged chain)
    : chain.load context descriptor
      = Chain.load [ofScheme (Descriptor.scheme descriptor)] context descriptor := by
  obtain ⟨kinds, others, order, padded⟩ := arranged
  have present : Descriptor.scheme descriptor ∈ kinds ∨ Descriptor.scheme descriptor = .file := by
    rw [order.mem_iff]
    cases Descriptor.scheme descriptor <;> decide
  have noFile : .file ∉ kinds := by
    rw [order.mem_iff]
    decide
  rw [load, load, offer_padded padded, offer_schemes noFile present]

omit [LawfulMonad m] in
theorem arranged_builtin : Arranged (Chain.builtin : Chain m) :=
  ⟨[.web, .secretStore, .inline], [], .rfl, .keep (.keep (.keep (.keep .nil)))⟩

end Chain

section

variable {σ : Type} [Host (StateM σ)] {context : Context} {descriptor : String}

-----------------------------------------------------------------------------------------
-- What the owner of a descriptor does
-----------------------------------------------------------------------------------------

omit [Host (StateM σ)] in
theorem SourceLoader.Owns.ne_wrongFormat {loader : SourceLoader (StateM σ)}
    (owns : loader.Owns descriptor) (context : Context) (s : σ)
    : (outcome (loader.load context descriptor) s).1 ≠ .ok .wrongFormat := by
  obtain ⟨action, loaded⟩ := owns context
  rw [loaded, outcome_map]
  cases (outcome action s).1 <;> exact nofun

/-- The error of a loader names its source, unlike that of a chain in which no loader accepts. -/
theorem Chain.source_of_offer_owned {loader : SourceLoader (StateM σ)}
    (owns : loader.Owns descriptor) {s : σ} {error : Error}
    (failed : (outcome (Chain.offer context descriptor [loader]) s).1 = .error error)
    : error.source.isSome := by
  obtain ⟨action, loaded⟩ := owns context
  rw [offer, loaded, Action.adapt_map, bind_map_left, outcome_bind, outcome_adapt] at failed
  rcases known : outcome action s with ⟨own | bytes, t⟩ <;>
    rw [known] at failed <;> dsimp only [Except.mapError] at failed
  · obtain rfl : own.withSource (Descriptor.redact descriptor) = error := Except.error.inj failed
    cases source : own.source <;> simp [Error.withSource, source]
  · cases failed

/-- What asking the token, sending requests and writing log records keep is kept by all that the
loaders of web documents and of secrets do. They do nothing else, and in particular read no file.
-/
theorem coversRequests_keeps {P : σ → Prop}
    (asked : Keeps P (ExceptT.lift Host.isCancelled : Action (StateM σ) Bool))
    (sent
      : ∀ patience request,
          Keeps P (ExceptT.lift (Host.send patience request) : Action (StateM σ) Exchange))
    (logged : ∀ level text, Keeps P (Action.log level text : Action (StateM σ) Unit))
    : CoversRequests fun (first second : Action (StateM σ) _) =>
        first = second ∧ Keeps P first where
  compositional := compositional_keeps P
  log level text := ⟨rfl, logged level text⟩
  fetch :=
    (compositional_keeps P).fetch ⟨rfl, asked⟩
      (fun patience request => ⟨rfl, sent patience request⟩) fun level text => ⟨rfl, logged level text⟩

/-- Loading a web document or a secret keeps what asking the token, sending requests and writing
log records keep.
-/
theorem Chain.keeps_load_address {P : σ → Prop}
    (asked : Keeps P (ExceptT.lift Host.isCancelled : Action (StateM σ) Bool))
    (sent
      : ∀ patience request,
          Keeps P (ExceptT.lift (Host.send patience request) : Action (StateM σ) Exchange))
    (logged : ∀ level text, Keeps P (Action.log level text : Action (StateM σ) Unit))
    (address : Descriptor.scheme descriptor = .web ∨ Descriptor.scheme descriptor = .secretStore)
    : Keeps P
        (Chain.load [SourceLoader.ofScheme (Descriptor.scheme descriptor)] context descriptor) := by
  have covers := coversRequests_keeps asked sent logged
  have owner
      : Keeps P
          ((SourceLoader.ofScheme (Descriptor.scheme descriptor)).load context descriptor) := by
    rcases address with web | secretStore
    · rw [web]
      exact (covers.web context descriptor).2
    · rw [secretStore]
      exact (covers.secretStore context descriptor).2
  have checked := ((compositional_keeps P).checkCancelled ⟨rfl, asked⟩).2
  refine checked.bind fun _ => (owner.adapt _).bind fun probe => ?_
  cases probe with
  | wrongFormat => exact .throw _
  | loaded bytes => exact (logged _ _).bind fun _ => .pure bytes

-----------------------------------------------------------------------------------------
-- Dispatch
-----------------------------------------------------------------------------------------

/-- A descriptor is for exactly one of the built-in loaders. The others disown it, that of files
apart, and its owner never does, so some loader accepts it. The owner alone matters: in any order
of the built-in loaders before that of files, with any loaders in between that pass every
descriptor on and any at all after them, the load is the same action on every host. A load over
the network that fails reads no file.
-/
theorem Chain.builtin_dispatch (context : Context) (descriptor : String)
    : (∀ kind : Descriptor.Scheme, kind.Owns descriptor ↔ Descriptor.scheme descriptor = kind)
      ∧ (∀ kind s,
          kind ≠ Descriptor.scheme descriptor →
            kind ≠ .file →
              outcome ((SourceLoader.ofScheme kind).load context descriptor) s
                = (.ok .wrongFormat, (s : σ)))
      ∧ (∀ s : σ,
          (outcome
            ((SourceLoader.ofScheme (Descriptor.scheme descriptor)).load context descriptor) s).1
            ≠ .ok .wrongFormat)
      ∧ (∀ (s : σ) reason,
          (outcome (Chain.builtin.load context descriptor) s).1
            ≠ .error (.ofFault (.internal reason)))
      ∧ (∀ chain : Chain (StateM σ),
          chain.Arranged →
            chain.load context descriptor = Chain.builtin.load context descriptor)
      ∧ (∀ P : σ → Prop,
          Descriptor.scheme descriptor = .web ∨ Descriptor.scheme descriptor = .secretStore →
            Keeps P (ExceptT.lift Host.isCancelled : Action (StateM σ) Bool) →
              (∀ patience request,
                Keeps P
                  (ExceptT.lift (Host.send patience request) : Action (StateM σ) Exchange)) →
                (∀ level text, Keeps P (Action.log level text : Action (StateM σ) Unit)) →
                  Keeps P (Chain.builtin.load context descriptor : Action (StateM σ) Bytes)) := by
  have owns
      : (SourceLoader.ofScheme (Descriptor.scheme descriptor) : SourceLoader (StateM σ)).Owns
          descriptor :=
    SourceLoader.owns_ofScheme descriptor
  have builtin : (Chain.builtin : Chain (StateM σ)).load context descriptor = _ :=
    arranged_builtin.load_eq
  refine ⟨Descriptor.owns_iff descriptor, fun kind s other noFile => ?_,
    owns.ne_wrongFormat context, fun s reason => ?_, fun chain arranged => ?_,
    fun P address asked sent logged => ?_⟩
  · rw [SourceLoader.disowns_ofScheme (Ne.symm other) noFile context]
    rfl
  · intro failed
    rw [builtin, load, outcome_checked] at failed
    split at failed
    · cases Except.error.inj failed
    · cases source_of_offer_owned owns failed
  · rw [builtin, arranged.load_eq]
  · rw [builtin]
    exact keeps_load_address asked sent logged address

end

-- Loaders to put around those that are built in, and a host on which reading a file shows.
def SourceLoader.refusing : SourceLoader (StateM World) where
  name := "refusing"
  load _ _ := pure .wrongFormat

def SourceLoader.greeting : SourceLoader (StateM World) where
  name := "greeting"
  load _ _ := pure (.loaded (ascii "hello"))

def shuffledChain : Chain (StateM World) :=
  [.refusing, .inline, .secretStore, .refusing, .refusing, .web, .file, .greeting]

/-- The host of a world whose files are gone once one is read. -/
@[reducible] def burningHost : Host (StateM World) where
  __ := (inferInstance : Host (StateM World))
  readFile path := fun world =>
    (world.files.read world.workingDirectory path, { world with files := {} })

/-- A web document is loaded in the same way by a chain with the built-in loaders out of order
and other loaders between and after them. No file is read for it.
-/
theorem Chain.builtin_dispatch_shuffled
    : shuffledChain.load {} "http://h/x" = Chain.builtin.load {} "http://h/x"
      ∧ Keeps (fun world : World => world.files = (({} : World).place "x" (ascii "1")).files)
          (@Chain.load _ _ burningHost (@Chain.builtin _ _ burningHost) {} "http://h/x") := by
  have refuses (descriptor : String) : SourceLoader.refusing.Disowns descriptor := fun _ => rfl
  have arranged : shuffledChain.Arranged := by
    refine ⟨[.inline, .secretStore, .web], [.greeting], by decide, ?_⟩
    exact .insert refuses <| .keep <| .keep <| .insert refuses <| .insert refuses <| .keep <|
      .keep <| .keep .nil
  obtain ⟨-, -, -, -, order, -⟩ := @builtin_dispatch World _ {} "http://h/x"
  obtain ⟨-, -, -, -, -, keeps⟩ := @builtin_dispatch World burningHost {} "http://h/x"
  refine ⟨order shuffledChain arranged, keeps _ (Or.inl (by decide)) ?_ ?_ ?_⟩
  · exact fun _ holds => holds
  · exact fun _ _ _ holds => holds
  · exact fun _ _ _ holds => holds

end TaggedConfig
