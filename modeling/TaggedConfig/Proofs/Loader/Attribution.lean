import TaggedConfig.Proofs.Cancellation.Pending
import TaggedConfig.Proofs.Expansion.Visits
import TaggedConfig.Proofs.Loader.EntryPoints
import TaggedConfig.Proofs.Source.Faults

/-! Where errors come from.
An error passes through any number of expansions on its way out, and none of them touches it. Main
statement: an error that a loader raises names the descriptor of that very load, which is the last
one that is begun, and all other errors name no source.
-/

namespace TaggedConfig

open Run

variable {σ : Type} [Host (StateM σ)]

-----------------------------------------------------------------------------------------
-- One load
-----------------------------------------------------------------------------------------

namespace Chain

/-- Why the load of a descriptor fails that begins in a state, and the state that is left. Loading
has been cancelled before, or all loaders pass the descriptor on, or one of them raises an error.
That error alone has a source: the one that the loader has named, or else the descriptor.
-/
inductive FailsToLoad (chain : Chain (StateM σ)) (context : Context) (descriptor : String) (s : σ)
    : Error → σ → Prop where
  | refused {t} (cancelled : askToken s = (true, t))
    : FailsToLoad chain context descriptor s (.ofFault .cancelled) t
  | unaccepted {t u} (running : askToken s = (false, t))
    (passed : chain.LastWord context descriptor t (.ok .wrongFormat) u)
    : FailsToLoad chain context descriptor s
        (.ofFault (.internal s!"no loader accepts source '{Descriptor.redact descriptor}'")) u
  | raised {t inner u} (running : askToken s = (false, t))
    (raised : chain.LastWord context descriptor t (.error inner) u)
    : FailsToLoad chain context descriptor s
        { inner with source := some (inner.source.getD (Descriptor.redact descriptor)) } u

theorem withSource_eq (error : Error) (source : String)
    : error.withSource source = { error with source := some (error.source.getD source) } := by
  unfold Error.withSource
  cases error.source <;> rfl

/-- A load that fails does so for one of these reasons. -/
theorem failsToLoad {chain : Chain (StateM σ)} {context : Context} {descriptor : String} {s t : σ}
    {error : Error}
    (failed : outcome (chain.load context descriptor) s = (.error error, t))
    : chain.FailsToLoad context descriptor s error t := by
  rw [load, outcome_checked] at failed
  rcases asked : askToken s with ⟨cancelled, begun⟩
  rw [asked] at failed
  cases cancelled with
  | true =>
      obtain ⟨⟨⟩, rfl⟩ := Prod.mk.inj failed
      exact .refused asked
  | false =>
      obtain ⟨result, u, word⟩ := exists_lastWord context descriptor chain begun
      obtain ⟨text, settled⟩ := word.exists_replied
      rw [if_neg Bool.false_ne_true, settled] at failed
      cases result with
      | error inner =>
          obtain ⟨⟨⟩, rfl⟩ := Prod.mk.inj failed
          rw [withSource_eq]
          exact .raised asked word
      | ok probe =>
          cases probe with
          | wrongFormat =>
              obtain ⟨⟨⟩, rfl⟩ := Prod.mk.inj failed
              exact .unaccepted asked word
          | loaded bytes => cases (Prod.mk.inj failed).1

omit [Host (StateM σ)] in
/-- An error that is the last word is that of a loader of the chain, by induction on the loaders up
to it.
-/
theorem LastWord.exists_raised {chain : Chain (StateM σ)} {context : Context} {descriptor : String}
    {s t : σ} {inner : Error} (word : chain.LastWord context descriptor s (.error inner) t)
    : ∃ loader ∈ chain, ∃ u, outcome (loader.load context descriptor) u = (.error inner, t) := by
  generalize said : Except.error inner = result at word
  induction word with
  | none => cases said
  | said loaded =>
      subst said
      exact ⟨_, List.mem_cons_self, _, loaded⟩
  | passed _ _ ih =>
      obtain ⟨loader, member, u, raised⟩ := ih said
      exact ⟨loader, List.mem_cons_of_mem _ member, u, raised⟩

/-- With the built-in loaders a source fault is raised by one of them, which names no source. -/
theorem FailsToLoad.source_eq {context : Context} {descriptor : String} {s t : σ} {error : Error}
    (failed : Chain.builtin.FailsToLoad context descriptor s error t)
    (fault : error.isSourceFault = true)
    : error.source = some (Descriptor.redact descriptor) := by
  cases failed with
  | refused => contradiction
  | unaccepted => contradiction
  | raised _ word =>
      obtain ⟨loader, member, u, raised⟩ := word.exists_raised
      have unsourced := FailsUnsourced.builtin context descriptor loader member u
      rw [raised] at unsourced
      obtain ⟨_, _, rfl⟩ := unsourced _ rfl
      rfl

end Chain

-----------------------------------------------------------------------------------------
-- Expansions
-----------------------------------------------------------------------------------------

namespace Expander

variable {expander : Expander (StateM σ)}

/-- Why an expansion fails that has made visits and leaves a state. Its last visit is the load of a
source, which fails, or the lookup of a variable, which is missing; or the expansion itself stops,
at an opening without its brace, above the ceiling or for want of a next depth. In all cases but the
first the error names no source.
-/
inductive Blames (expander : Expander (StateM σ)) : Error → Trail σ → Prop where
  | load {earlier depth descriptor s error t}
    (failed : expander.chain.FailsToLoad expander.context descriptor s error t)
    : Blames expander error ⟨t, earlier ++ [⟨depth, .source, descriptor⟩]⟩
  | missing {earlier depth name t}
    : Blames expander (.ofFault (.variableMissing name)) ⟨t, earlier ++ [⟨depth, .variable, name⟩]⟩
  | unclosed (offset : Nat) (trail : Trail σ)
    : Blames expander (.ofFault (.unterminatedTag offset)) trail
  | tooDeep (trail : Trail σ) : Blames expander (.ofFault (.tooManyLevels expander.ceiling)) trail
  | overflow (trail : Trail σ) : Blames expander (.ofFault .depthOverflow) trail

/-- Resolving a tag fails for a reason that its visit tells. -/
theorem failsWith_visit (expander : Expander (StateM σ)) (depth : UInt64) (kind : Tag.Kind)
    (content : Bytes)
    : FailsWith expander.Blames (expander.visit depth kind content) := by
  intro trail error failed
  rw [outcome_visit] at failed ⊢
  match kind with
  | .source =>
      have loaded
          : FailsWith
              (fun error t =>
                ∃ s,
                  expander.chain.FailsToLoad expander.context (Utf8.repair content) s error t)
              (expander.resolve depth .source content) := by
        refine FailsWith.bind (.lift _) fun _ s error failed => ⟨s, ?_⟩
        exact Chain.failsToLoad (Prod.ext failed rfl)
      obtain ⟨s, reason⟩ := loaded _ _ failed
      exact .load reason
  | .variable =>
      have looked
          : FailsWith
              (fun error (_ : σ) => error = .ofFault (.variableMissing (Utf8.repair content)))
              (expander.resolve depth .variable content) :=
        FailsWith.bind (.lift _) fun _ => failsWith_lookup _
      rw [looked _ _ failed]
      exact .missing

/-- An expansion that fails does so for a reason that its visits tell. -/
theorem blames (expander : Expander (StateM σ)) {data : Bytes} {depth : UInt64} {s t : σ}
    {error : Error} (failed : outcome (expander.expand data depth) s = (.error error, t))
    : expander.Blames error ⟨t, expander.visits data depth s⟩ := by
  have walked : FailsWith expander.Blames (expander.walk data depth) :=
    .expandWithin expander.failsWith_visit .unclosed .tooDeep .overflow _ _ _
  have start : outcome (expander.expand data depth) s = _ :=
    expander.outcome_expand data depth { state := s }
  obtain ⟨result, left⟩ := Prod.mk.inj (start.symm.trans failed)
  have reason := walked { state := s } error result
  rw [← left]
  exact reason

/-- With the built-in loaders a source fault names the descriptor of the last visit. -/
theorem Blames.source_eq {error : Error} {trail : Trail σ} (reason : expander.Blames error trail)
    (builtIn : expander.chain = Chain.builtin) (fault : error.isSourceFault = true)
    : ∃ earlier depth descriptor,
        trail.visits = earlier ++ [⟨depth, .source, descriptor⟩]
        ∧ error.source = some (Descriptor.redact descriptor) := by
  cases reason with
  | @load earlier depth descriptor s error t failed =>
      rw [builtIn] at failed
      exact ⟨earlier, depth, descriptor, rfl, failed.source_eq fault⟩
  | missing => contradiction
  | unclosed => contradiction
  | tooDeep => contradiction
  | overflow => contradiction

end Expander

-----------------------------------------------------------------------------------------
-- Loaders
-----------------------------------------------------------------------------------------

namespace Loader

/-- The descriptors whose loads are begun while a source is expanded, first to last: the source
and, once it has been loaded, those of the tags.
-/
def descriptors (loader : Loader (StateM σ)) (source : String) (s : σ) : List String :=
  match outcome (loader.chain.load loader.context source) s with
  | (.error _, _) => [source]
  | (.ok raw, t) => source :: (loader.expander.visits raw 0 t).filterMap Visit.descriptor?

/-- Why a source cannot be expanded: its own load fails, or the expansion of what it holds. -/
inductive Blames (loader : Loader (StateM σ)) (source : String) (s : σ) : Error → σ → Prop where
  | fetching {error t} (failed : loader.chain.FailsToLoad loader.context source s error t)
    : Blames loader source s error t
  | expanding {raw t error u}
    (fetched : outcome (loader.chain.load loader.context source) s = (.ok raw, t))
    (failed : loader.expander.Blames error ⟨u, loader.expander.visits raw 0 t⟩)
    : Blames loader source s error u

variable {loader : Loader (StateM σ)} {source : String} {s t : σ} {error : Error}

/-- A source whose expansion fails does so for one of these reasons. With the built-in loaders a
source fault names the descriptor of the last load that was begun.
-/
theorem blames (chained : loader.callback = none)
    (failed : outcome (loader.expandSource source) s = (.error error, t))
    : loader.Blames source s error t
      ∧ (loader.chain = Chain.builtin →
          error.isSourceFault = true →
            ∃ descriptor,
              (loader.descriptors source s).getLast? = some descriptor
              ∧ error.source = some (Descriptor.redact descriptor)) := by
  rw [outcome_expandSource chained] at failed
  unfold descriptors
  rcases fetched : outcome (loader.chain.load loader.context source) s with ⟨reason | raw, u⟩ <;>
    rw [fetched] at failed
  · obtain ⟨⟨⟩, rfl⟩ := Prod.mk.inj failed
    have reason := Chain.failsToLoad fetched
    refine ⟨.fetching reason, fun builtIn fault => ⟨source, rfl, ?_⟩⟩
    rw [builtIn] at reason
    exact reason.source_eq fault
  · have reason := loader.expander.blames failed
    refine ⟨.expanding fetched reason, fun builtIn fault => ?_⟩
    obtain ⟨earlier, depth, descriptor, visited, named⟩ := reason.source_eq builtIn fault
    refine ⟨descriptor, ?_, named⟩
    dsimp only at visited ⊢
    rw [visited, List.filterMap_append, ← List.cons_append]
    exact List.getLast?_concat

end Loader

/-- Errors are attributed to the innermost load that fails. An expansion that fails, at whatever
depth and however deep its documents are nested, fails for a reason that its last visit tells, and
so does the expansion of a source by a loader without a callback. The error of a loader comes out
with the source that the loader has named or with the descriptor of that last visit; an expansion
that stops by itself, a variable that is missing, a descriptor that no loader accepts and a load
that is refused since loading has been cancelled name no source. With the built-in loaders source
faults always name the descriptor of the last load.
-/
theorem errors_attributed
    : (∀ (expander : Expander (StateM σ)) (data : Bytes) (depth : UInt64) (s t : σ) (error : Error),
        outcome (expander.expand data depth) s = (.error error, t) →
          expander.Blames error ⟨t, expander.visits data depth s⟩
          ∧ (expander.chain = Chain.builtin →
              error.isSourceFault = true →
                ∃ earlier depth' descriptor,
                  expander.visits data depth s = earlier ++ [⟨depth', .source, descriptor⟩]
                  ∧ error.source = some (Descriptor.redact descriptor)))
      ∧ ∀ (loader : Loader (StateM σ)) (source : String) (s t : σ) (error : Error),
          loader.callback = none →
            outcome (loader.expandSource source) s = (.error error, t) →
              loader.Blames source s error t
              ∧ (loader.chain = Chain.builtin →
                  error.isSourceFault = true →
                    ∃ descriptor,
                      (loader.descriptors source s).getLast? = some descriptor
                      ∧ error.source = some (Descriptor.redact descriptor)) := by
  refine ⟨fun expander data depth s t error failed => ?_, ?_⟩
  · have reason := expander.blames failed
    exact ⟨reason, fun builtIn fault => reason.source_eq builtIn fault⟩
  · intro loader source s t error chained failed
    exact Loader.blames chained failed

/-- A server with a document that names another one, which is missing. -/
def danglingWorld : World where
  network := { routes := [{ url := "http://h/a", body := ascii "$\x7bSRC:http://h/b\x7d" }] }

/-- A document that is at hand and names the first one. -/
def outerSource : String := "data://$\x7bSRC:http://h/a\x7d"

/-- The document that is missing is the source of the error, not one of those around it. -/
theorem errors_attributed_nested
    : ({} : Loader (StateM World)).callback = none
      ∧ (outcome (({} : Loader (StateM World)).expandSource outerSource) danglingWorld).1
        = .error { fault := .source (.status "http://h/b" 404), source := some "http://h/b" }
      ∧ ∃ descriptor,
          (({} : Loader (StateM World)).descriptors outerSource danglingWorld).getLast?
            = some descriptor
          ∧ Descriptor.redact descriptor = "http://h/b" := by
  have failed
      : (outcome (({} : Loader (StateM World)).expandSource outerSource) danglingWorld).1
        = .error { fault := .source (.status "http://h/b" 404), source := some "http://h/b" } := by
    decide +kernel
  obtain ⟨-, sources⟩ :=
    errors_attributed.2 {} outerSource danglingWorld _ _ rfl (Prod.ext failed rfl)
  obtain ⟨descriptor, last, named⟩ := sources rfl rfl
  exact ⟨rfl, failed, descriptor, last, (Option.some.inj named).symm⟩

end TaggedConfig
