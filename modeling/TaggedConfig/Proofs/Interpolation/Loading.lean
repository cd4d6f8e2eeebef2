import TaggedConfig.Proofs.Interpolation.Expansion
import TaggedConfig.Proofs.Loader.EntryPoints

/-! Loading of documents with the values of variables in their strings.
Expanding first and blanking the comments then gives a text that differs from the document
without comments in its strings only, so it decodes to the same value but for these.
-/

namespace TaggedConfig

open Comment (QuotedBody Tokenization blank)
open World (Yields yields_of_fst)

namespace Loader

variable {loader : Loader (StateM World)}

/-- A source that is found, fetched and expanded is prepared by blanking its comments. -/
theorem prepare_yields (unchecked : loader.check = none) {world found after : World}
    {source : String} {expanded : Bytes}
    (resolved : Yields loader.resolveSource world source found)
    (expanding : Yields (loader.expandSource source) found expanded after)
    : Yields loader.prepare world (source, blank expanded) after := by
  refine (resolved.adapt _).bind (((expanding.adapt _).map blank).bind ?_)
  rw [findings_unchecked unchecked]
  exact .pure after _

/-- A load that succeeds gives its value and keeps its source. -/
theorem run_record {α : Type} {action : ExceptT LoadError (StateM World) (String × α)}
    {world after : World} {source : String} {value : α}
    (h : Yields action world (source, value) after)
    : (loader.record <$> action.run).run world
      = ((.ok value, { loader with settingsSource := some source }), after) := by
  rw [StateT.run_map, h]
  rfl

/-- A prepared document that decodes is loaded. -/
theorem loadValue_of_prepare {world after : World} {source : String} {data : Bytes}
    {value : Json} (prepared : Yields loader.prepare world (source, data) after)
    (decoded : Json.decode data = .ok value)
    : loader.loadValue.run world
      = ((.ok value, { loader with settingsSource := some source }), after) := by
  have text : Json.decodeText data = .ok value := by
    rw [Json.decodeText, decoded]
    rfl
  refine run_record (prepared.bind ?_)
  simp only [text]
  exact .pure after _

/-- Loading a template gives the value of the template with its strings changed: in the place
of each tag there is the value of its variable, and the pieces around it are read by
themselves. What else the values hold does not matter, be it marks of comments or braces.
-/
theorem loadValue_interpolates (loader : Loader (StateM World)) {world found fetched : World}
    {source : String} {document : Bytes} {tokens : List Comment.Token} {original : Json}
    (unchecked : loader.check = none) (within : 1 ≤ loader.options.ceiling)
    (resolved : Yields loader.resolveSource world source found)
    (fetching : Yields (loader.fetchSource source) found document fetched)
    (tokenization : Tokenization document tokens) (template : Template document tokens)
    (valid : Json.decode (blank document) = .ok original)
    (values
      : ∀ segment ∈ (Segmentation.ofBytes document).segments,
          ∃ value,
            fetched.environment.lookup (Utf8.repair segment.content) = some value
            ∧ PlainValue value)
    : ∃ value after,
        loader.loadValue.run world
          = ((.ok value, { loader with settingsSource := some source }), after)
        ∧ ((Json.Document.ofBytes (blank document)).mapStrings
            (Json.Lexeme.rereading
              (fun body => (Segmentation.ofBytes body).text fetched.environment.textOf)
              (blank document))).read
          = .ok value := by
  have names := Segmentation.simple_ofBytes (template.complete tokenization)
  have simple : (Segmentation.ofBytes document).Simple fetched.environment.Plain :=
    ⟨names.closed, fun segment member =>
      ⟨(names.tags segment member).1, ⟨(names.tags segment member).2, values segment member⟩⟩⟩
  obtain ⟨after, expanded⟩ :=
    Expander.expand_yields
      { chain := loader.chain, context := loader.context, ceiling := loader.options.ceiling }
      within simple
  have filled := template.filled tokenization simple fun name plain => plain.reads
  obtain ⟨value, reread, decoded⟩ := Json.decode_aligned filled.aligned valid
  have prepared := prepare_yields unchecked resolved (fetching.bind expanded)
  exact ⟨value, after, loadValue_of_prepare prepared decoded, reread⟩

/-- A document with a tag in one string, and a comment. -/
def sample : Bytes := ascii "\x7b\"a\":\"x$\x7bENV:V\x7dy\"\x7d//"

/-- What stands between the quotes of the string with the tag. -/
def sampleBody : Bytes :=
  ascii "x" ++ (Tag.Kind.variable.opening ++ (ascii "V" ++ byte '}' :: ascii "y"))

def sampleTokens : List Comment.Token := [
    ⟨.other, [byte '\x7b']⟩,
    .string (ascii "a"),
    ⟨.other, [byte ':']⟩,
    .string sampleBody,
    ⟨.other, [byte '}']⟩,
    ⟨.line, ascii "//"⟩
  ]

theorem quotedBody_sample : QuotedBody sampleBody :=
  (Json.Quoted.Body.ofPlain (by decide +kernel)).quoted

theorem tokenization_sample : Tokenization sample sampleTokens := by
  have comment : Tokenization (ascii "//") [⟨.line, ascii "//"⟩] :=
    @Tokenization.cons ⟨.line, ascii "//"⟩ [] [] (.line (by decide) (Or.inl rfl)) .nil
  have closing := @Tokenization.cons ⟨.other, [byte '}']⟩ _ _
    (.other (by decide) (by decide)) comment
  have value := Tokenization.cons (.quoted quotedBody_sample (Or.inl rfl)) closing
  have colon := @Tokenization.cons ⟨.other, [byte ':']⟩ _ _
    (.other (by decide) (by decide)) value
  have name : QuotedBody (ascii "a") := (Json.Quoted.Body.ofPlain (by decide +kernel)).quoted
  have member := Tokenization.cons (.quoted name (Or.inl rfl)) colon
  exact @Tokenization.cons ⟨.other, [byte '\x7b']⟩ _ _ (.other (by decide) (by decide)) member

theorem template_sample : Template sample sampleTokens where
  tags offset kind opened := by
    have place
        : ∀ offset < sample.length,
            (Tag.opening? (sample.drop offset)).isSome → offset = 7 := by
      decide
    have within : offset < sample.length := by
      by_contra beyond
      rw [List.drop_eq_nil_of_le (Nat.le_of_not_lt beyond)] at opened
      contradiction
    have name : Utf8.repair (ascii "V") = "V" := by cbv
    have plain : PlainName (ascii "V") :=
      ⟨by decide, Tag.noOpening_of_notMem (by decide), by rw [name]; decide⟩
    obtain rfl := place offset within (by rw [opened]; rfl)
    exact .later (.later (.later (.here quotedBody_sample plain)))
  pieces body member inside tagged := by
    have pieces : (Segmentation.ofBytes sampleBody).pieces = [ascii "x", ascii "y"] := by cbv
    have choices : body = ascii "a" ∨ body = sampleBody := by
      simpa [sampleTokens, Comment.Token.string] using member
    rcases choices with rfl | rfl
    · exact absurd (by cbv) tagged
    · rw [pieces]
      simp only [List.forall_mem_cons]
      exact ⟨⟨"x", by cbv⟩, ⟨"y", by cbv⟩, by simp⟩

/-- A loader of that document. -/
def sampleLoader : Loader (StateM World) where
  options := { source := some "\x7b\"a\":\"x$\x7bENV:V\x7dy\"\x7d//" }

/-- A world in which the variable holds the marks of comments and a brace. -/
def sampleWorld : World where
  environment := [("V", ascii "/*\x7d*///")]

/-- Marks of comments and braces in the value are text like any other. -/
theorem loadValue_interpolates_marks
    : (sampleLoader.loadValue.run sampleWorld).1.1
      = .ok (.object [("a", .string "x/*\x7d*///y")]) := by
  have resolved
      : Yields sampleLoader.resolveSource sampleWorld
          "\x7b\"a\":\"x$\x7bENV:V\x7dy\"\x7d//" _ :=
    yields_of_fst rfl
  have fetching
      : Yields (sampleLoader.fetchSource "\x7b\"a\":\"x$\x7bENV:V\x7dy\"\x7d//")
          (sampleLoader.resolveSource.run.run sampleWorld).2 sample _ :=
    yields_of_fst rfl
  have valid : Json.decode (blank sample)
      = .ok (.object [("a", .string "x$\x7bENV:V\x7dy")]) := by cbv
  have values
      : ∀ segment ∈ (Segmentation.ofBytes sample).segments,
          ∃ value,
            sampleWorld.environment.lookup (Utf8.repair segment.content) = some value
            ∧ PlainValue value := by
    have segments : (Segmentation.ofBytes sample).segments
        = [⟨ascii "\x7b\"a\":\"x", .variable, ascii "V"⟩] := by cbv
    rw [segments]
    simp only [List.forall_mem_cons]
    refine ⟨⟨ascii "/*\x7d*///", by cbv, ?_⟩, by simp⟩
    exact ⟨by decide, by cbv, by decide +kernel, Tag.noOpening_of_notMem (by decide)⟩
  obtain ⟨value, after, loaded, reread⟩ :=
    loadValue_interpolates sampleLoader rfl (by decide) resolved fetching tokenization_sample
      template_sample valid values
  have read
      : ((Json.Document.ofBytes (blank sample)).mapStrings
          (Json.Lexeme.rereading
            (fun body => (Segmentation.ofBytes body).text sampleWorld.environment.textOf)
            (blank sample))).read
        = .ok (.object [("a", .string "x/*\x7d*///y")]) := by cbv
  rw [loaded, Except.ok.inj (reread.symm.trans read)]

end Loader

end TaggedConfig
