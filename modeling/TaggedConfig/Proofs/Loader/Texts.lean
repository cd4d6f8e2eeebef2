import TaggedConfig.Proofs.Comment.Blanking
import TaggedConfig.Proofs.Expansion.Texts
import TaggedConfig.Proofs.Loader.EntryPoints
import TaggedConfig.Proofs.Loader.Relation

/-! Loading of texts.
A comment begins with an ASCII byte and ends after one or before one, so blanking it leaves a text.
A document that is put together from texts is loaded as a text.
-/

namespace TaggedConfig

open Outcome
open Run
open Utf8

-----------------------------------------------------------------------------------------
-- Blanking
-----------------------------------------------------------------------------------------

namespace Comment

/-- What stands before and after a comment in a text are texts, by the sort of the comment. -/
theorem Token.Leads.isText_around {token : Token} {before rest : Bytes} (leads : token.Leads rest)
    (comment : token.kind.isComment) (isText : IsText (before ++ (token.bytes ++ rest)))
    : IsText before ∧ IsText rest := by
  have slash : byte '/' < 0x80 := by decide
  have star : byte '*' < 0x80 := by decide
  have newline : byte '\n' < 0x80 := by decide
  cases leads with
  | quoted => contradiction
  | other => contradiction
  | @line body rest inside ended =>
      simp only [List.cons_append, isText_cut slash, isText_cons slash] at isText
      refine ⟨isText.1, ?_⟩
      rcases ended with rfl | first
      · exact isText_nil
      · obtain ⟨tail, rfl⟩ := List.head?_eq_some_iff.mp first
        exact (isText_cons newline).mpr ((isText_cut newline).mp isText.2).2
  | @block body ending rest inside closed =>
      simp only [List.cons_append, List.append_assoc, isText_cut slash, isText_cons star] at isText
      refine ⟨isText.1, ?_⟩
      rcases closed with rfl | ⟨rfl, rfl⟩
      · exact (isText_cons slash).mp ((isText_cut star).mp isText.2).2
      · exact isText_nil

/-- Blanked tokens go on a text as the tokens themselves do, by induction on the tokens. -/
theorem Tokenization.isText_blanked {document : Bytes} {tokens : List Token}
    (h : Tokenization document tokens) (before : Bytes) (isText : IsText (before ++ document))
    : IsText (before ++ tokens.flatMap Token.blanked) := by
  induction h generalizing before with
  | nil => exact isText
  | @cons token rest tokens leads more ih =>
      rw [List.flatMap_cons, Token.blanked]
      split
      · rename_i comment
        obtain ⟨start, others⟩ := leads.isText_around comment isText
        refine start.append ((isText_ascii_append fun b member => ?_).mpr (ih [] others))
        rw [List.eq_of_mem_replicate member]
        decide
      · rw [← List.append_assoc] at isText ⊢
        exact ih _ isText

/-- A text stays one when its comments are blanked. -/
theorem isText_blank {document : Bytes} (isText : IsText document) : IsText (blank document) := by
  obtain ⟨tokens, h⟩ := exists_tokenization document
  rw [h.blank_eq]
  exact h.isText_blanked [] isText

end Comment

-----------------------------------------------------------------------------------------
-- Loading
-----------------------------------------------------------------------------------------

namespace Loader

variable {σ : Type} [Host (StateM σ)] {P : σ → Prop} {loader : Loader (StateM σ)}

/-- In states with a property, which all that the loader does keeps, its chain and its callback
give texts only.
-/
structure SuppliesText (P : σ → Prop) (loader : Loader (StateM σ)) : Prop where
  steady : Steady P
  chain
    : ∀ source ∈ loader.chain,
        ∀ context descriptor, Ensures P Probe.IsText (source.load context descriptor)
  callback
    : ∀ callback, loader.callback = some callback → ∀ source, Ensures P IsText (callback source)

/-- With the chain of such a loader, an expansion of a text hands on texts only. -/
theorem SuppliesText.expandNoting (supplies : loader.SuppliesText P)
    {expander : Expander (StateM σ)} (same : expander.chain = loader.chain) {data : Bytes}
    (isText : IsText data) (depth : UInt64)
    : Ensures (Ledger.Clean P) IsText (expander.expandNoting data depth) := by
  refine ensures_expandNoting (fun depth kind content => ?_) _ depth isText
  refine Expander.ensures_resolve supplies.steady (fun source member => ?_) depth kind content
  exact supplies.chain source (same ▸ member) _

theorem SuppliesText.expand (supplies : loader.SuppliesText P) {expander : Expander (StateM σ)}
    (same : expander.chain = loader.chain) {data : Bytes} (isText : IsText data) (depth : UInt64)
    : Ensures P IsText (expander.expand data depth) := by
  intro s holds
  obtain ⟨clean, result⟩ :=
    supplies.expandNoting same isText depth _ (Ledger.clean_start holds)
  rw [Expander.outcome_expandNoting]
  exact ⟨clean.holds, result⟩

theorem SuppliesText.expandSource (supplies : loader.SuppliesText P) (source : String)
    : Ensures P IsText (loader.expandSource source) := by
  have fetched : Ensures P IsText (loader.fetchSource source) := by
    unfold fetchSource
    cases called : loader.callback with
    | none =>
        refine Chain.ensures_load supplies.steady fun source member => ?_
        exact supplies.chain source member _ _
    | some callback =>
        refine supplies.steady.checkCancelled.bind_ensures fun _ => ?_
        exact (supplies.callback callback called source).adapt _
  exact fetched.bind fun raw isText => supplies.expand rfl isText 0

theorem SuppliesText.prepare (supplies : loader.SuppliesText P)
    : Ensures P (fun given => IsText given.2) loader.prepare := by
  have found : Keeps P loader.resolveSource :=
    ((compositional_keeps P).resolveSource rfl rfl
      (fun name => ⟨rfl, supplies.steady.looked name⟩)
      fun level text => ⟨rfl, supplies.steady.logged level text⟩).2
  refine (found.adapt _).bind_ensures fun source => ?_
  refine (((supplies.expandSource source).adapt _).map fun _ => Comment.isText_blank).bind
    fun data isText => ?_
  match loader.findings data with
  | .error error => exact .throw _
  | .ok [] => exact .pure isText
  | .ok (first :: others) =>
      refine Keeps.bind_ensures (fun s holds => ?_) fun _ => .throw _
      exact supplies.steady.logged _ _ s holds

/-- Texts come of texts. If the chain and the callback of a loader give texts only, then an
expansion of a text by the chain hands on texts only, so that no name is changed when it is read,
and what it comes to is a text. Blanking leaves texts, and what is loaded as bytes is a text.
-/
theorem text_throughout (supplies : loader.SuppliesText P)
    : (∀ (expander : Expander (StateM σ)) data depth s,
        expander.chain = loader.chain →
          IsText data →
            P s →
              ∃ ledger : Ledger σ,
                outcome (expander.expandNoting data depth) { state := s }
                  = ((outcome (expander.expand data depth) s).1, ledger)
                ∧ ledger.state = (outcome (expander.expand data depth) s).2
                ∧ (∀ buffer ∈ ledger.buffers, IsText buffer)
                ∧ (∀ name ∈ ledger.names, encode (repair name) = name)
                ∧ ∀ output,
                    (outcome (expander.expand data depth) s).1 = .ok output → IsText output)
      ∧ (∀ document, IsText document → IsText (Comment.blank document))
      ∧ ∀ s data, P s → (loader.loadBytes.run s).1.1 = .ok data → IsText data := by
  refine ⟨fun expander data depth s same isText holds => ?_, fun _ => Comment.isText_blank,
    fun s data holds loaded => ?_⟩
  · obtain ⟨clean, result⟩ :=
      supplies.expandNoting same isText depth _ (Ledger.clean_start holds)
    rw [Expander.outcome_expandNoting]
    exact ⟨_, rfl, rfl, clean.buffers, fun name member => (clean.names name member).encode_repair,
      result⟩
  · rw [run_loadBytes, fst_record] at loaded
    obtain ⟨given, prepared, rfl⟩ := map_eq_ok.mp loaded
    exact (supplies.prepare s holds).2 given prepared

def accentedWorld : World where
  environment := [("NAME", encode "é"), ("é", encode "€ // ü")]
  files := { items := [(["é"], .file (encode "ß"))] }

def accentedLoader : Loader (StateM World) where
  options := { source := some "data://[\"$\x7bENV:$\x7bENV:NAME\x7d\x7d\"/*ö*/]" }

/-- The name of a variable that is not ASCII is read as it is, and a comment that is not ASCII
makes place for as many spaces as it has bytes.
-/
theorem text_throughout_accented
    : accentedLoader.SuppliesText World.OfTexts
      ∧ accentedWorld.OfTexts
      ∧ (accentedLoader.loadBytes.run accentedWorld).1.1 = .ok (encode "[\"€ // ü\"      ]")
      ∧ IsText (encode "[\"€ // ü\"      ]") := by
  have supplies : accentedLoader.SuppliesText World.OfTexts :=
    ⟨World.textual_ofTexts.toSteady,
      fun source member context descriptor =>
        World.textual_ofTexts.builtin context descriptor source member,
      nofun⟩
  have ofTexts : accentedWorld.OfTexts := by
    refine ⟨?_, nofun⟩
    simp only [accentedWorld, List.forall_mem_singleton]
    rintro _ ⟨rfl⟩
    exact isText_encode _
  have loaded
      : (accentedLoader.loadBytes.run accentedWorld).1.1
        = .ok (encode "[\"€ // ü\"      ]") := by
    decide +kernel
  exact ⟨supplies, ofTexts, loaded, (text_throughout supplies).2.2 _ _ ofTexts loaded⟩

end Loader

end TaggedConfig
