import TaggedConfig.Proofs.Expansion.Relation
import TaggedConfig.Proofs.Source.Faults
import TaggedConfig.Proofs.Tag.Nesting
import TaggedConfig.World

/-! Where the openings come from that an expansion finds without their brace.
An expansion that keeps account of this does the same as one that does not. Main statement: such an
opening stands in the buffer that is expanded or in bytes that a load or a lookup gave, and never in
the content of a tag.
-/

namespace TaggedConfig

open Run

-----------------------------------------------------------------------------------------
-- Errors turned into others
-----------------------------------------------------------------------------------------

section

variable {m : Type → Type} [Monad m] [LawfulMonad m] {ε ε' α β : Type}

theorem adapt_pure (f : ε → ε') (a : α) : (pure a : ExceptT ε m α).adapt f = pure a :=
  ExceptT.ext (map_pure (Except.mapError f) (Except.ok a))

theorem adapt_throw (f : ε → ε') (e : ε)
    : (throw e : ExceptT ε m α).adapt f = throw (f e) :=
  ExceptT.ext (map_pure (Except.mapError f) (Except.error e))

theorem adapt_bind (f : ε → ε') (first : ExceptT ε m α) (second : α → ExceptT ε m β)
    : (first >>= second).adapt f = first.adapt f >>= fun a => (second a).adapt f := by
  refine ExceptT.ext ?_
  have run {α : Type} (action : ExceptT ε m α)
      : (action.adapt f).run = Except.mapError f <$> action.run := rfl
  rw [run, ExceptT.run_bind, ExceptT.run_bind, run, map_bind, bind_map_left]
  refine bind_congr fun result => ?_
  cases result with
  | ok a => rfl
  | error e => exact map_pure _ _

theorem adapt_adapt {ε'' : Type} (f : ε → ε') (g : ε' → ε'') (action : ExceptT ε m α)
    : (action.adapt f).adapt g = action.adapt fun e => g (f e) := by
  refine ExceptT.ext ((Functor.map_map _ _ _).trans ?_)
  refine congrArg (· <$> action.run) (funext fun result => ?_)
  cases result <;> rfl

theorem adapt_id (action : ExceptT ε m α) : action.adapt (fun e => e) = action := by
  refine ExceptT.ext ((congrArg (· <$> action.run) (funext fun result => ?_)).trans
    (id_map action.run))
  cases result <;> rfl

/-- The errors of the parts are those of the whole, by induction on the list. -/
theorem adapt_mapM (f : ε → ε') (action : α → ExceptT ε m β) (items : List α)
    : (items.mapM action).adapt f = items.mapM fun item => (action item).adapt f := by
  induction items with
  | nil => exact adapt_pure f []
  | cons item items ih =>
      simp only [List.mapM_cons, adapt_bind, adapt_pure, ih]

theorem Segmentation.adapt_assembleAfter (f : ε → ε') (before : Bytes) (unclosed : Nat → ε)
    (replace : Tag.Kind → Bytes → ExceptT ε m Bytes) (segmentation : Segmentation)
    : (segmentation.assembleAfter before unclosed replace).adapt f
      = segmentation.assembleAfter before (fun offset => f (unclosed offset))
          fun kind raw => (replace kind raw).adapt f := by
  rw [assembleAfter, assembleAfter, adapt_bind, adapt_mapM]
  simp only [adapt_bind, adapt_pure]
  refine bind_congr fun parts => ?_
  cases segmentation.unclosed with
  | false => exact adapt_pure f _
  | true => exact adapt_throw f _

end

-----------------------------------------------------------------------------------------
-- Expansions that keep account of their buffers
-----------------------------------------------------------------------------------------

/-- Where a buffer that is expanded comes from. -/
inductive Origin where
  /-- It is the buffer that the whole expansion is of. -/
  | given
  /-- It is the content of a tag. -/
  | content
  /-- It is what a load or a lookup gave. -/
  | found
  deriving DecidableEq, Repr

/-- Why an expansion failed. -/
inductive Failure where
  /-- A buffer has an opening that no brace closes. -/
  | unclosed (origin : Origin) (offset : Nat)
  /-- A load or a lookup failed, or there are too many levels or no depth for them. -/
  | other (cause : Error)
  deriving DecidableEq, Repr

namespace Failure

/-- The error that a failure is reported as. -/
def error : Failure → Error
  | .unclosed _ offset => .ofFault (.unterminatedTag offset)
  | .other cause => cause

/-- The failure of a buffer that comes after some expanded bytes. Only the offsets in that very
buffer are shifted.
-/
def after (size : Nat) : Failure → Failure
  | .unclosed .given offset => .unclosed .given (offset + size)
  | .unclosed .content offset => .unclosed .content offset
  | .unclosed .found offset => .unclosed .found offset
  | .other cause => .other cause

end Failure

/-- Expands a buffer as `expandWithin` does and tells where the buffer of a failure comes from. -/
def expandTracing {m : Type → Type} [Monad m]
    (resolve : UInt64 → Tag.Kind → Bytes → Action m Bytes) (ceiling : UInt64)
    : Nat → UInt64 → Origin → Bytes → ExceptT Failure m Bytes
  | 0, _, _, _ => throw (.other (.ofFault (.tooManyLevels ceiling)))
  | levels + 1, depth, origin, data =>
      (Cursor.ofBytes data).substitute (.unclosed origin) fun kind raw => do
        let next ← (deeper depth).adapt .other
        let content ← expandTracing resolve ceiling levels next .content raw
        let found ← (resolve depth kind content).adapt .other
        expandTracing resolve ceiling levels next .found found

/-- What takes the place of a tag, with account of the buffers that come up. -/
def replaceTracing {m : Type → Type} [Monad m]
    (resolve : UInt64 → Tag.Kind → Bytes → Action m Bytes) (ceiling : UInt64) (levels : Nat)
    (depth : UInt64) (kind : Tag.Kind) (raw : Bytes)
    : ExceptT Failure m Bytes := do
  let next ← (deeper depth).adapt .other
  let content ← expandTracing resolve ceiling levels next .content raw
  let found ← (resolve depth kind content).adapt .other
  expandTracing resolve ceiling levels next .found found

section

variable {m : Type → Type} [Monad m] [LawfulMonad m]

theorem expandTracing_succ (resolve : UInt64 → Tag.Kind → Bytes → Action m Bytes)
    (ceiling : UInt64) (levels : Nat) (depth : UInt64) (origin : Origin) (data : Bytes)
    : expandTracing resolve ceiling (levels + 1) depth origin data
      = (Segmentation.ofBytes data).assemble (.unclosed origin)
          (replaceTracing resolve ceiling levels depth) :=
  Cursor.substitute_append _ _ [] data

/-- With the account left out of the buffers below a tag, the tag is replaced as it is without. -/
theorem adapt_replaceTracing_of {resolve : UInt64 → Tag.Kind → Bytes → Action m Bytes}
    {ceiling : UInt64} {levels size : Nat}
    (below
      : ∀ next origin data,
          origin ≠ .given →
            (expandTracing resolve ceiling levels next origin data).adapt
              (fun failure => (failure.after size).error)
            = expandWithin resolve ceiling levels next data)
    (depth : UInt64) (kind : Tag.Kind) (raw : Bytes)
    : (replaceTracing resolve ceiling levels depth kind raw).adapt
        (fun failure => (failure.after size).error)
      = (do
          let next ← deeper depth
          let content ← expandWithin resolve ceiling levels next raw
          let found ← resolve depth kind content
          expandWithin resolve ceiling levels next found) := by
  rw [replaceTracing, adapt_bind, adapt_adapt]
  refine (congrArg (· >>= _) (adapt_id (deeper depth))).trans ?_
  refine bind_congr fun next => ?_
  rw [adapt_bind, below next .content raw nofun]
  refine bind_congr fun content => ?_
  rw [adapt_bind, adapt_adapt]
  refine (congrArg (· >>= _) (adapt_id (resolve depth kind content))).trans ?_
  exact bind_congr fun found => below next .found found nofun

/-- With the account left out it is the same expansion, and what comes before the buffer matters to
its own offsets alone. By induction on the levels.
-/
theorem adapt_expandTracing (resolve : UInt64 → Tag.Kind → Bytes → Action m Bytes)
    (ceiling : UInt64) (levels : Nat) (depth : UInt64) (origin : Origin) (data : Bytes)
    {size : Nat} (unmoved : origin = .given → size = 0)
    : (expandTracing resolve ceiling levels depth origin data).adapt
        (fun failure => (failure.after size).error)
      = expandWithin resolve ceiling levels depth data := by
  induction levels generalizing depth origin data with
  | zero => exact adapt_throw (m := m) _ _
  | succ levels ih =>
      rw [expandTracing_succ, expandWithin_succ, Segmentation.assemble,
        Segmentation.adapt_assembleAfter, Segmentation.assemble]
      congr 1
      · funext offset
        cases origin with
        | given =>
            rw [unmoved rfl]
            rfl
        | content | found => rfl
      · funext kind raw
        exact adapt_replaceTracing_of
          (fun next origin data other => ih next origin data (absurd · other)) depth kind raw

/-- What comes before a buffer does not matter to what takes the places of its tags. -/
theorem adapt_replaceTracing (resolve : UInt64 → Tag.Kind → Bytes → Action m Bytes)
    (ceiling : UInt64) (levels : Nat) (depth : UInt64) (kind : Tag.Kind) (raw : Bytes) (size : Nat)
    : (replaceTracing resolve ceiling levels depth kind raw).adapt
        (fun failure => (failure.after size).error)
      = (do
          let next ← deeper depth
          let content ← expandWithin resolve ceiling levels next raw
          let found ← resolve depth kind content
          expandWithin resolve ceiling levels next found) :=
  adapt_replaceTracing_of
    (fun next origin data other => adapt_expandTracing _ _ _ next origin data (absurd · other))
    depth kind raw

end

-----------------------------------------------------------------------------------------
-- What loads and lookups gave
-----------------------------------------------------------------------------------------

/-- A state and what loads and lookups came to, first to last. -/
structure Returns (σ : Type) where
  state : σ
  results : List (Except Error Bytes) := []

namespace Expander

variable {σ : Type} [Host (StateM σ)]

/-- Resolves a tag and notes what the load or the lookup came to. -/
def noted (expander : Expander (StateM σ)) (depth : UInt64) (kind : Tag.Kind) (content : Bytes)
    : Action (StateM (Returns σ)) Bytes :=
  ExceptT.mk fun returns =>
    let (result, state) := outcome (expander.resolve depth kind content) returns.state
    (result, ⟨state, returns.results ++ [result]⟩)

/-- Expands a buffer at a depth, notes what loads and lookups came to and tells where the buffer of
a failure comes from.
-/
def traced (expander : Expander (StateM σ)) (data : Bytes) (depth : UInt64)
    : ExceptT Failure (StateM (Returns σ)) Bytes :=
  expandTracing expander.noted expander.ceiling (levels expander.ceiling depth) depth .given data

theorem outcome_noted (expander : Expander (StateM σ)) (depth : UInt64) (kind : Tag.Kind)
    (content : Bytes) (returns : Returns σ)
    : outcome (expander.noted depth kind content) returns
      = ((outcome (expander.resolve depth kind content) returns.state).1,
        ⟨(outcome (expander.resolve depth kind content) returns.state).2,
          returns.results
            ++ [(outcome (expander.resolve depth kind content) returns.state).1]⟩) := rfl

/-- Noting what loads and lookups come to changes neither that nor the state. -/
theorem noted_mirrors (expander : Expander (StateM σ)) (depth : UInt64) (kind : Tag.Kind)
    (content : Bytes)
    : Mirrors (fun returns s => returns.state = s) Eq (expander.noted depth kind content)
        (expander.resolve depth kind content) := by
  rintro returns _ rfl
  rw [outcome_noted]
  exact ⟨.refl (fun _ => rfl) _, rfl⟩

/-- With notes and account left out the traced expansion is the expansion. -/
theorem outcome_expand_traced (expander : Expander (StateM σ)) (data : Bytes) (depth : UInt64)
    (returns : Returns σ)
    : outcome (expander.expand data depth) returns.state
      = ((outcome (expander.traced data depth) returns).1.mapError Failure.error,
        (outcome (expander.traced data depth) returns).2.state) := by
  have mirrored :=
    (compositional_mirrors _ fun _ => rfl).expandWithin_alike expander.noted_mirrors
      expander.ceiling
      (levels expander.ceiling depth) depth data returns _ rfl
  rw [← adapt_expandTracing _ _ _ _ .given data fun _ => rfl, outcome_adapt] at mirrored
  have same : (fun failure => (Failure.after 0 failure).error) = Failure.error := by
    funext failure
    rcases failure with ⟨_ | _ | _, offset⟩ | error <;> rfl
  rw [same] at mirrored
  exact Prod.ext mirrored.1.eq.symm mirrored.2.symm

end Expander

-----------------------------------------------------------------------------------------
-- The origins of failures
-----------------------------------------------------------------------------------------

/-- What a failure of an expansion of `data` comes from, given what loads and lookups came to. The
contents of tags do not occur.
-/
inductive StemsFrom (ceiling : UInt64) (data : Bytes) (results : List (Except Error Bytes))
    : Failure → Prop
  | given {place : Nat} (opened : (Cursor.ofBytes data).Meets (.unclosed place)) (offset : Nat)
    : StemsFrom ceiling data results (.unclosed .given offset)
  | found {bytes : Bytes} {place : Nat} (returned : .ok bytes ∈ results)
    (opened : (Cursor.ofBytes bytes).Meets (.unclosed place)) (offset : Nat)
    : StemsFrom ceiling data results (.unclosed .found offset)
  | failed {error : Error} (returned : .error error ∈ results)
    : StemsFrom ceiling data results (.other error)
  | tooDeep : StemsFrom ceiling data results (.other (.ofFault (.tooManyLevels ceiling)))
  | overflow : StemsFrom ceiling data results (.other (.ofFault .depthOverflow))

/-- What a buffer of an expansion of `whole` is, given what loads and lookups came to. -/
def Origin.Admits (whole : Bytes) (results : List (Except Error Bytes)) (data : Bytes)
    : Origin → Prop
  | .given => data = whole
  | .content => (Segmentation.ofBytes data).unclosed = false
  | .found => .ok data ∈ results

theorem Origin.Admits.mono {whole data : Bytes} {results more : List (Except Error Bytes)}
    {origin : Origin} (admits : origin.Admits whole results data) (subset : results ⊆ more)
    : origin.Admits whole more data := by
  cases origin with
  | given | content => exact admits
  | found => exact subset admits

/-- An opening that no brace closes is accounted for by the buffer in which it stands. -/
theorem Origin.Admits.stemsFrom {ceiling : UInt64} {whole data : Bytes}
    {results : List (Except Error Bytes)} {origin : Origin}
    (admits : origin.Admits whole results data)
    (unclosed : (Segmentation.ofBytes data).unclosed = true) (offset : Nat)
    : StemsFrom ceiling whole results (.unclosed origin offset) := by
  obtain ⟨place, opened⟩ := Cursor.unclosed_segmentation_iff.mp unclosed
  cases origin with
  | given =>
      obtain rfl : data = whole := admits
      exact .given opened offset
  | content => exact absurd (unclosed.symm.trans admits) Bool.noConfusion
  | found => exact .found admits opened offset

variable {σ α β : Type}

/-- From all states in which the results are known, an action only adds to them, and what it fails
with is accounted for in the end.
-/
def Accounts (ceiling : UInt64) (whole : Bytes) (known : List (Except Error Bytes))
    (action : ExceptT Failure (StateM (Returns σ)) α)
    : Prop :=
  ∀ returns,
    known ⊆ returns.results →
      known ⊆ (outcome action returns).2.results
      ∧ ∀ failure,
          (outcome action returns).1 = .error failure →
            StemsFrom ceiling whole (outcome action returns).2.results failure

namespace Accounts

variable {ceiling : UInt64} {whole : Bytes} {known : List (Except Error Bytes)}

theorem pure (a : α)
    : Accounts ceiling whole known (pure a : ExceptT Failure (StateM (Returns σ)) α) :=
  fun _ subset => ⟨subset, nofun⟩

theorem throw {failure : Failure}
    (stems : ∀ results, known ⊆ results → StemsFrom ceiling whole results failure)
    : Accounts ceiling whole known
        (throw failure : ExceptT Failure (StateM (Returns σ)) α) := by
  refine fun returns subset => ⟨subset, ?_⟩
  rintro _ ⟨rfl⟩
  exact stems _ subset

theorem deeper (depth : UInt64)
    : Accounts ceiling whole known
        ((deeper depth : Action (StateM (Returns σ)) UInt64).adapt Failure.other) := by
  unfold TaggedConfig.deeper
  split_ifs
  · exact .pure _
  · exact .throw fun _ _ => .overflow

theorem bind {first : ExceptT Failure (StateM (Returns σ)) α}
    {second : α → ExceptT Failure (StateM (Returns σ)) β}
    (head : Accounts ceiling whole known first)
    (tail : ∀ a, Accounts ceiling whole known (second a))
    : Accounts ceiling whole known (first >>= second) := by
  intro returns subset
  obtain ⟨kept, stems⟩ := head returns subset
  rw [outcome_bind]
  rcases ran : outcome first returns with ⟨_ | a, after⟩ <;> rw [ran] at kept stems
  · refine ⟨kept, ?_⟩
    rintro _ ⟨rfl⟩
    exact stems _ rfl
  · exact tail a after kept

/-- Actions for the items of a list account for their failures, by induction on the list. -/
theorem mapM {action : α → ExceptT Failure (StateM (Returns σ)) β} {items : List α}
    (each : ∀ item ∈ items, Accounts ceiling whole known (action item))
    : Accounts ceiling whole known (items.mapM action) := by
  induction items with
  | nil => exact pure []
  | cons item items ih =>
      rw [List.forall_mem_cons] at each
      rw [List.mapM_cons]
      exact each.1.bind fun first => (ih each.2).bind fun others => pure (first :: others)

/-- What a load or a lookup gives is known to what comes after it. -/
theorem bind_noted [Host (StateM σ)] {expander : Expander (StateM σ)} {depth : UInt64}
    {kind : Tag.Kind} {content : Bytes}
    {second : Bytes → ExceptT Failure (StateM (Returns σ)) β}
    (tail : ∀ found, Accounts ceiling whole (.ok found :: known) (second found))
    : Accounts ceiling whole known
        ((expander.noted depth kind content).adapt .other >>= second) := by
  intro returns subset
  rw [outcome_bind, outcome_adapt, Expander.outcome_noted]
  rcases outcome (expander.resolve depth kind content) returns.state with ⟨error | found, state⟩
  · refine ⟨List.subset_append_of_subset_left _ subset, ?_⟩
    rintro _ ⟨rfl⟩
    exact .failed (List.mem_append_right _ List.mem_cons_self)
  · obtain ⟨kept, stems⟩ := tail found ⟨state, returns.results ++ [.ok found]⟩
      (List.cons_subset.mpr
        ⟨List.mem_append_right _ List.mem_cons_self, List.subset_append_of_subset_left _ subset⟩)
    exact ⟨(List.cons_subset.mp kept).2, stems⟩

end Accounts

/-- The content of a tag leaves no tag open. -/
theorem unclosed_content {data : Bytes} {segment : Segment}
    (member : segment ∈ (Segmentation.ofBytes data).segments)
    : (Segmentation.ofBytes segment.content).unclosed = false := by
  obtain ⟨tag, meets, -, content⟩ := Cursor.exists_meets_of_mem_segmentation member
  obtain ⟨position, found⟩ := meets.exists_search
  obtain ⟨closed, -⟩ := Cursor.scan_content (.found found)
  rw [content, ← Bool.not_eq_true]
  intro unclosed
  obtain ⟨offset, opened⟩ := Cursor.unclosed_segmentation_iff.mp unclosed
  exact closed offset opened

/-- A traced expansion accounts for its failures, by induction on the levels: the contents of tags
leave no tag open, and what loads and lookups give is noted.
-/
theorem accounts_expandTracing [Host (StateM σ)] (expander : Expander (StateM σ))
    (ceiling : UInt64) (whole : Bytes) (levels : Nat) (depth : UInt64)
    {known : List (Except Error Bytes)} {origin : Origin} {data : Bytes}
    (admits : origin.Admits whole known data)
    : Accounts ceiling whole known
        (expandTracing expander.noted ceiling levels depth origin data) := by
  induction levels generalizing depth known origin data with
  | zero => exact .throw fun _ _ => .tooDeep
  | succ levels ih =>
      rw [expandTracing_succ]
      refine Accounts.bind (.mapM fun segment member => ?_) fun parts => ?_
      · refine Accounts.bind ?_ fun replacement => .pure _
        rw [replaceTracing]
        refine Accounts.bind (.deeper depth) fun next => ?_
        refine Accounts.bind (ih next ?_) fun content => .bind_noted fun found => ?_
        · exact unclosed_content member
        · exact ih next List.mem_cons_self
      · split
        · rename_i unclosed
          exact .throw fun results subset => (admits.mono subset).stemsFrom unclosed _
        · exact .pure _

/-- With the built-in loaders every error that is noted has a fault of loads and lookups. -/
theorem results_builtin [Host (StateM σ)] {expander : Expander (StateM σ)}
    (builtIn : expander.chain = Chain.builtin) (data : Bytes) (depth : UInt64) (s : σ)
    : ∀ error,
        .error error ∈ (outcome (expander.traced data depth) { state := s }).2.results →
          error.fault.OfLoading := by
  have noted (depth : UInt64) (kind : Tag.Kind) (content : Bytes)
      : Keeps (fun returns => ∀ error, .error error ∈ returns.results → error.fault.OfLoading)
          (expander.noted depth kind content) := by
    intro returns holds error member
    rcases List.mem_append.mp member with earlier | last
    · exact holds error earlier
    · have failed := (List.mem_singleton.mp last).symm
      exact FailsInLoading.resolve builtIn depth kind content _ error failed
  have keeps :=
    ((compositional_keeps _).expandWithin_alike
      (fun depth kind content => ⟨rfl, noted depth kind content⟩)
      expander.ceiling (levels expander.ceiling depth) depth data).2
      { state := s } nofun
  rwa [← adapt_expandTracing _ _ _ _ .given data fun _ => rfl, outcome_adapt] at keeps

/-- The content of a tag is closed. A scan of it leaves no tag open and meets just the tags that are
embedded in it, and so do the scans of the contents of these. Hence an expansion that fails at an
opening without its brace has it from the buffer that it is of, or from bytes that a load or a
lookup gave. A loader that fails with such an error itself is the only exception, and no built-in
loader does.
-/
theorem contents_closed
    : (∀ (cursor : Cursor) (data : Bytes) (tag : Tag),
        cursor.Reaches data tag →
          (∀ offset, ¬(Cursor.ofBytes (tag.content data)).Meets (.unclosed offset))
          ∧ ∀ offset,
              tag.Embeds data offset
              ↔ ∃ inner,
                  (Cursor.ofBytes (tag.content data)).Meets (.tag inner)
                  ∧ tag.contentStart + inner.start = offset)
      ∧ ∀ (σ : Type) [Host (StateM σ)] (expander : Expander (StateM σ)) (data : Bytes)
          (depth : UInt64) (s : σ),
          outcome (expander.expand data depth) s
            = ((outcome (expander.traced data depth) { state := s }).1.mapError Failure.error,
              (outcome (expander.traced data depth) { state := s }).2.state)
          ∧ ∀ failure,
              (outcome (expander.traced data depth) { state := s }).1 = .error failure →
                StemsFrom expander.ceiling data
                  (outcome (expander.traced data depth) { state := s }).2.results failure
                ∧ (expander.chain = Chain.builtin →
                    ∀ cause,
                      failure = .other cause →
                        ∀ offset, cause.fault ≠ .unterminatedTag offset) := by
  refine ⟨fun cursor data tag reaches => Cursor.scan_content reaches,
    fun σ _ expander data depth s => ⟨?_, fun failure failed => ?_⟩⟩
  · exact expander.outcome_expand_traced data depth { state := s }
  · have given : Origin.given.Admits data [] data := rfl
    have accounts := accounts_expandTracing expander expander.ceiling data
      (levels expander.ceiling depth) depth given
    have stems := (accounts { state := s } (List.nil_subset _)).2 failure failed
    refine ⟨stems, fun builtIn cause other offset unterminated => ?_⟩
    subst other
    cases stems with
    | failed returned =>
        have loading := results_builtin builtIn data depth s cause returned
        rw [unterminated] at loading
        cases loading
    | tooDeep | overflow => cases unterminated

/-- A world in which the value of a variable has an opening without its brace. -/
def openWorld : World where
  environment := [("A", ascii "x$\x7bENV:B")]

/-- The tag within the content of another is the one that is embedded there, and is closed itself.
A value with an opening that is not closed is what an expansion fails at.
-/
theorem contents_closed_nested
    : (⟨.source, 1, 9⟩ : Tag).Embeds Cursor.nestedTag 8
      ∧ (∀ offset, ¬(Cursor.ofBytes (ascii "a$\x7bENV:B\x7d")).Meets (.unclosed offset))
      ∧ (∃ inner,
          (Cursor.ofBytes (ascii "a$\x7bENV:B\x7d")).Meets (.tag inner)
          ∧ 7 + inner.start = 8)
      ∧ ∃ place, (Cursor.ofBytes (ascii "x$\x7bENV:B")).Meets (.unclosed place) := by
  obtain ⟨scans, expansions⟩ := contents_closed
  have found : (Cursor.ofBytes Cursor.nestedTag).search = .tag ⟨.source, 1, 9⟩ := by decide +kernel
  have content
      : (⟨.source, 1, 9⟩ : Tag).content Cursor.nestedTag = ascii "a$\x7bENV:B\x7d" := by
    decide +kernel
  have reached : (Cursor.ofBytes Cursor.nestedTag).Reaches Cursor.nestedTag ⟨.source, 1, 9⟩ :=
    .found found
  obtain ⟨closed, embedded⟩ := scans _ _ _ reached
  rw [content] at closed embedded
  have embeds : (⟨.source, 1, 9⟩ : Tag).Embeds Cursor.nestedTag 8 :=
    ⟨by decide, by decide, by decide +kernel, by unfold Tag.Even; decide +kernel⟩
  refine ⟨embeds, closed, (embedded 8).mp embeds, ?_⟩
  obtain ⟨-, origins⟩ :=
    expansions World { chain := Chain.builtin } (ascii "$\x7bENV:A\x7d") 0 openWorld
  obtain ⟨stems, -⟩ := origins (.unclosed .found 1) (by decide +kernel)
  have results
      : (outcome
          (({ chain := Chain.builtin } : Expander (StateM World)).traced (ascii "$\x7bENV:A\x7d") 0)
          { state := openWorld }).2.results
        = [.ok (ascii "x$\x7bENV:B")] := by
    decide +kernel
  rw [results] at stems
  cases stems with
  | found returned opened =>
      obtain rfl := Except.ok.inj (List.mem_singleton.mp returned)
      exact ⟨_, opened⟩

end TaggedConfig
