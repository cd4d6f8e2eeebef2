import TaggedConfig.Proofs.Comment.Blanking
import TaggedConfig.Proofs.Interpolation.Strings

/-! Documents with tags in their strings and nowhere else.
Values in the place of the tags leave the tokens around the strings as they are, so the
comments that are blanked are the same with the tags and with the values.
-/

namespace TaggedConfig

open Comment (QuotedBody Tokenization blank)
open Json (Aligned Refills)

/-- The token of a string that is closed, by what stands between its quotes. -/
def Comment.Token.string (body : Bytes) : Comment.Token :=
  ⟨.quoted, byte '"' :: (body ++ [byte '"'])⟩

theorem Comment.Token.string_inj {body other : Bytes}
    : Comment.Token.string body = .string other ↔ body = other := by
  simp [Comment.Token.string]

/-- A name in a tag: the tag ends at the brace after it, and a variable may have the name. -/
structure PlainName (name : Bytes) : Prop where
  noBrace : byte '}' ∉ name
  noOpening : Tag.NoOpening name
  noEquals : '=' ∉ (Utf8.repair name).toList

/-- The whole tag of a variable stands at an offset of the document that the tokens make up,
within a string.
-/
inductive TagAt : List Comment.Token → Nat → Prop
  | here {before name after tokens}
    (inside : QuotedBody (before ++ (Tag.Kind.variable.opening ++ (name ++ byte '}' :: after))))
    (plain : PlainName name)
    : TagAt
        (.string (before ++ (Tag.Kind.variable.opening ++ (name ++ byte '}' :: after))) :: tokens)
        (1 + before.length)
  | later {token tokens offset} (more : TagAt tokens offset)
    : TagAt (token :: tokens) (token.bytes.length + offset)

/-- A document in which every tag names a variable and stands in a string. The pieces of such
a string, between its tags, are what may stand between quotes by themselves.
-/
structure Template (document : Bytes) (tokens : List Comment.Token) : Prop where
  tags
    : ∀ offset kind, Tag.opening? (document.drop offset) = some kind → TagAt tokens offset
  pieces
    : ∀ body,
        .string body ∈ tokens
        → QuotedBody body
        → (Segmentation.ofBytes body).segments ≠ []
        → ∀ piece ∈ (Segmentation.ofBytes body).pieces,
            ∃ said, Json.Quoted.read 0 (piece ++ [byte '"']) = .ok (said, piece.length + 1)

-----------------------------------------------------------------------------------------
-- Where the tags stand
-----------------------------------------------------------------------------------------

/-- A tag that begins in the first token stands in it. -/
theorem TagAt.head {token : Comment.Token} {tokens : List Comment.Token} {offset : Nat}
    (tag : TagAt (token :: tokens) offset) (within : offset < token.bytes.length)
    : ∃ before name after,
        offset = 1 + before.length
        ∧ token = .string (before ++ (Tag.Kind.variable.opening ++ (name ++ byte '}' :: after)))
        ∧ QuotedBody (before ++ (Tag.Kind.variable.opening ++ (name ++ byte '}' :: after)))
        ∧ PlainName name := by
  cases tag with
  | here inside plain => exact ⟨_, _, _, rfl, rfl, inside, plain⟩
  | later more => omega

/-- A tag that begins after the first token stands in the others. -/
theorem TagAt.tail {token : Comment.Token} {tokens : List Comment.Token} {offset : Nat}
    (tag : TagAt (token :: tokens) (token.bytes.length + offset))
    : TagAt tokens offset := by
  generalize place : token.bytes.length + offset = start at tag
  cases tag with
  | here inside plain =>
      simp only [Comment.Token.string, List.length_cons, List.length_append] at place
      omega
  | later more => exact Nat.add_left_cancel place ▸ more

/-- A tag begins with its opening, goes on with its name and ends with a brace, by induction
on where it stands.
-/
theorem TagAt.bytes {tokens : List Comment.Token} {offset : Nat} (tag : TagAt tokens offset)
    : ∃ name rest,
        (tokens.flatMap Comment.Token.bytes).drop offset
        = Tag.Kind.variable.opening ++ (name ++ byte '}' :: rest)
        ∧ PlainName name := by
  induction tag with
  | @here before name after tokens inside plain =>
      refine ⟨name, after ++ byte '"' :: tokens.flatMap Comment.Token.bytes, ?_, plain⟩
      rw [List.flatMap_cons, Comment.Token.string, ← List.drop_drop]
      simp
  | @later token tokens offset more ih =>
      obtain ⟨name, rest, whole, plain⟩ := ih
      refine ⟨name, rest, ?_, plain⟩
      rw [List.flatMap_cons, ← List.drop_drop, List.drop_left, whole]

/-- The tags of a template are complete, since every opening begins one. -/
theorem Template.complete {document : Bytes} {tokens : List Comment.Token}
    (template : Template document tokens) (tokenization : Tokenization document tokens)
    : Tag.Complete (fun kind content => kind = .variable ∧ PlainName content) document := by
  refine Tag.complete_of_openings fun offset kind opened => ?_
  obtain ⟨name, rest, whole, plain⟩ := (template.tags offset kind opened).bytes
  rw [← tokenization.bytes_eq] at whole
  have same : kind = .variable := by
    rw [whole, Tag.opening?_opening] at opened
    exact (Option.some.inj opened).symm
  exact ⟨name, rest, by rw [whole, same], plain.noBrace, plain.noOpening, same, plain⟩

section

variable {token : Comment.Token} {rest : Bytes} {tokens : List Comment.Token}

/-- A template without its first token is one. -/
theorem Template.tail (template : Template (token.bytes ++ rest) (token :: tokens))
    : Template rest tokens where
  tags offset kind opened := by
    refine TagAt.tail (template.tags (token.bytes.length + offset) kind ?_)
    rw [← List.drop_drop, List.drop_left, opened]
  pieces body member := template.pieces body (List.mem_cons_of_mem _ member)

/-- A first token that is no closed string is literal. -/
theorem Template.segments_other (template : Template (token.bytes ++ rest) (token :: tokens))
    (noString : ∀ body, QuotedBody body → token ≠ .string body)
    : Segmentation.ofBytes (token.bytes ++ rest)
      = (Segmentation.literal token.bytes).append (Segmentation.ofBytes rest) := by
  refine Segmentation.ofBytes_literal fun offset within => ?_
  cases opened : Tag.opening? ((token.bytes ++ rest).drop offset) with
  | none => rfl
  | some kind =>
      obtain ⟨before, name, after, -, same, inside, -⟩ :=
        (template.tags offset kind opened).head within
      exact absurd same (noString _ inside)

end

section

variable {body rest : Bytes} {tokens : List Comment.Token}

/-- The tags of the string that comes first are complete within it. -/
theorem Template.complete_body
    (template
      : Template ((Comment.Token.string body).bytes ++ rest) (.string body :: tokens))
    : Tag.Complete (fun kind content => kind = .variable ∧ PlainName content) body := by
  refine Tag.complete_of_openings fun offset kind opened => ?_
  have within : offset < body.length := by
    by_contra beyond
    rw [List.drop_eq_nil_of_le (Nat.le_of_not_lt beyond)] at opened
    contradiction
  have inDocument
      : ((Comment.Token.string body).bytes ++ rest).drop (1 + offset)
        = body.drop offset ++ byte '"' :: rest := by
    rw [← List.drop_drop]
    simp [Comment.Token.string, List.drop_append_of_le_length (Nat.le_of_lt within)]
  have found : Tag.opening? (((Comment.Token.string body).bytes ++ rest).drop (1 + offset))
      = some kind := by
    rw [inDocument]
    exact Tag.opening?_append opened _
  obtain ⟨before, name, after, place, same, -, plain⟩ :=
    (template.tags (1 + offset) kind found).head
      (by simp only [Comment.Token.string, List.length_cons, List.length_append]; omega)
  obtain rfl := Comment.Token.string_inj.mp same
  obtain rfl : before.length = offset := by omega
  rw [List.drop_left, Tag.opening?_opening] at opened
  obtain rfl := Option.some.inj opened
  exact ⟨name, after, List.drop_left, plain.noBrace, plain.noOpening, rfl, plain⟩

/-- A string that comes first has segments of its own. -/
theorem Template.segments_string
    (template
      : Template ((Comment.Token.string body).bytes ++ rest) (.string body :: tokens))
    : Segmentation.ofBytes ((Comment.Token.string body).bytes ++ rest)
      = (Segmentation.literal [byte '"']).append
          ((Segmentation.ofBytes body).append
            ((Segmentation.literal [byte '"']).append (Segmentation.ofBytes rest))) := by
  have noTag (bytes : Bytes) : Tag.opening? (byte '"' :: bytes) = none := by
    cases opened : Tag.opening? (byte '"' :: bytes) with
    | none => rfl
    | some kind =>
        obtain ⟨after, whole⟩ := Tag.opening?_eq_some opened
        exact absurd (List.cons.inj whole).1 (by decide)
  have whole : (Comment.Token.string body).bytes ++ rest
      = byte '"' :: (body ++ byte '"' :: rest) := by
    simp [Comment.Token.string]
  rw [whole, Segmentation.ofBytes_cons (noTag _),
    Segmentation.ofBytes_append_cons template.complete_body Tag.quote_notMem_opening,
    Segmentation.ofBytes_cons (noTag rest)]

end

-----------------------------------------------------------------------------------------
-- Blanking the comments of a template and of the same document with values in it
-----------------------------------------------------------------------------------------

/-- Whether a token may stand before some bytes is told by the first of them. -/
theorem Comment.Token.Leads.congr_head {token : Comment.Token} {rest other : Bytes}
    (leads : token.Leads rest) (same : other.head? = rest.head?)
    : token.Leads other := by
  have ended : rest = [] → other = [] := by
    rintro rfl
    simpa using same
  cases leads with
  | quoted inside closed => exact .quoted inside (closed.imp_right (And.imp_right ended))
  | line inside stop => exact .line inside (stop.imp ended same.trans)
  | block inside closed => exact .block inside (closed.imp_right (And.imp_right ended))
  | other noQuote lone => exact .other noQuote (same ▸ lone)

/-- Aligned texts stay aligned with the same bytes before them, by induction on the bytes. -/
theorem Json.Aligned.prepend {Fills : Bytes → Bytes → Prop} {bytes text other : Bytes}
    (noQuote : byte '"' ∉ bytes) (aligned : Aligned Fills text other)
    : Aligned Fills (bytes ++ text) (bytes ++ other) := by
  induction bytes with
  | nil => exact aligned
  | cons b bytes ih =>
      simp only [List.mem_cons, not_or] at noQuote
      exact .plain (Ne.symm noQuote.1) (ih noQuote.2)

/-- The second document begins like the first, and without comments it differs from the first
in strings only: they say what their tags stand for.
-/
structure Filled (text : Bytes → String) (document filled : Bytes) : Prop where
  first : filled.head? = document.head?
  aligned
    : Aligned (Refills fun body => (Segmentation.ofBytes body).text text) (blank document)
        (blank filled)

variable {text : Bytes → String}

/-- A token that is no string stays with what follows it. -/
theorem Filled.other {token : Comment.Token} {rest filled : Bytes} (leads : token.Leads rest)
    (noQuote : token.kind ≠ .quoted) (filling : Filled text rest filled)
    : Filled text (token.bytes ++ rest) (token.bytes ++ filled) where
  first := by
    obtain ⟨b, bytes, whole⟩ := List.exists_cons_of_length_pos leads.length_pos
    rw [whole, List.cons_append, List.cons_append, List.head?_cons, List.head?_cons]
  aligned := by
    rw [leads.blank, (leads.congr_head filling.first).blank]
    refine filling.aligned.prepend ?_
    cases leads with
    | quoted => contradiction
    | line | block =>
        intro member
        exact absurd (List.eq_of_mem_replicate member) (by decide)
    | other different _ =>
        simpa [Comment.Token.blanked, Comment.Token.Kind.isComment] using Ne.symm different

/-- A string that lasts to the end of the document stays. -/
theorem Filled.unclosed {body ending : Bytes} (inside : QuotedBody body)
    (lasting : ending = [] ∨ ending = [byte '\\'])
    : Filled text (byte '"' :: (body ++ ending)) (byte '"' :: (body ++ ending)) where
  first := rfl
  aligned := by
    have leads : Comment.Token.Leads ⟨.quoted, byte '"' :: (body ++ ending)⟩ [] :=
      .quoted inside (Or.inr ⟨lasting, rfl⟩)
    have same := leads.blank
    simp only [List.append_nil, Comment.Token.blanked, Comment.Token.Kind.isComment,
      Bool.false_eq_true, if_false] at same
    rw [same]
    simp only [blank, Comment.blankFrom_nil, List.append_nil]
    exact .unclosed fun other rest closed => inside.unended lasting closed

/-- A closed string is followed by another in its place. -/
theorem Filled.string {body body' rest filled : Bytes} (inside : QuotedBody body)
    (refills : Refills (fun body => (Segmentation.ofBytes body).text text) body body')
    (filling : Filled text rest filled)
    : Filled text ((Comment.Token.string body).bytes ++ rest)
        ((Comment.Token.string body').bytes ++ filled) where
  first := rfl
  aligned := by
    have leads : (Comment.Token.string body).Leads rest := .quoted inside (Or.inl rfl)
    have leads' : (Comment.Token.string body').Leads filled :=
      .quoted (refills.quoted inside) (Or.inl rfl)
    rw [leads.blank, leads'.blank]
    simpa [Comment.Token.string, Comment.Token.blanked, Comment.Token.Kind.isComment]
      using Aligned.quoted inside refills filling.aligned

/-- A string is closed, or nothing follows it. -/
theorem Comment.Token.Leads.string_or_last {token : Comment.Token} {rest : Bytes}
    (leads : token.Leads rest) (quoted : token.kind = .quoted)
    : (∃ body, QuotedBody body ∧ token = .string body)
      ∨ ∃ body ending,
          QuotedBody body
          ∧ (ending = [] ∨ ending = [byte '\\'])
          ∧ token = ⟨.quoted, byte '"' :: (body ++ ending)⟩
          ∧ rest = [] := by
  cases leads with
  | @quoted body ending rest inside closed =>
      rcases closed with rfl | ⟨lasting, rfl⟩
      · exact Or.inl ⟨body, inside, rfl⟩
      · exact Or.inr ⟨body, ending, inside, lasting, rfl, rfl⟩
  | line | block | other => contradiction

/-- Values in the place of the tags of a template leave all but its strings as they are, by
induction on its tokens. The strings say what their pieces and the values say.
-/
theorem Template.filled {Content : Bytes → Prop} {value : Bytes → Bytes} {document : Bytes}
    {tokens : List Comment.Token} (tokenization : Tokenization document tokens)
    (template : Template document tokens)
    (simple : (Segmentation.ofBytes document).Simple Content)
    (values : ∀ content, Content content → Json.Quoted.Reads (value content) (text content))
    : Filled text document ((Segmentation.ofBytes document).fill value) := by
  induction tokenization with
  | nil =>
      rw [Segmentation.ofBytes_nil]
      exact ⟨rfl, .nil⟩
  | @cons token rest tokens leads more ih =>
      by_cases quoted : token.kind = .quoted
      · rcases leads.string_or_last quoted with
          ⟨body, inside, rfl⟩ | ⟨body, ending, inside, lasting, rfl, rfl⟩
        · have closed : (Segmentation.ofBytes body).unclosed = false :=
            (Segmentation.simple_ofBytes template.complete_body).closed
          rw [template.segments_string] at simple ⊢
          obtain ⟨-, simple⟩ := (Segmentation.simple_append rfl).mp simple
          obtain ⟨simpleBody, simple⟩ := (Segmentation.simple_append closed).mp simple
          obtain ⟨-, simpleRest⟩ := (Segmentation.simple_append rfl).mp simple
          have pieces (tagged : (Segmentation.ofBytes body).segments ≠ []) (piece : Bytes)
              (member : piece ∈ (Segmentation.ofBytes body).pieces)
              : ∃ said, Json.Quoted.Reads piece said := by
            obtain ⟨said, read⟩ :=
              template.pieces body List.mem_cons_self inside tagged piece member
            exact ⟨said, reads_of_piece read⟩
          have refills := refills_fill closed pieces fun segment member =>
            values _ (simpleBody.tags segment member).2
          have whole := (ih template.tail simpleRest).string inside refills
          simpa [Segmentation.fill_append, Segmentation.fill_literal, Comment.Token.string]
            using whole
        · have noString : ∀ other, QuotedBody other →
              (⟨.quoted, byte '"' :: (body ++ ending)⟩ : Comment.Token) ≠ .string other := by
            intro other closed same
            exact inside.unended lasting closed (List.cons.inj (Comment.Token.mk.inj same).2).2
          rw [template.segments_other noString, Segmentation.fill_append,
            Segmentation.fill_literal, Segmentation.ofBytes_nil]
          simpa [Segmentation.fill] using Filled.unclosed inside lasting
      · have noString : ∀ body, QuotedBody body → token ≠ .string body := by
          rintro body - rfl
          exact quoted rfl
        rw [template.segments_other noString] at simple ⊢
        obtain ⟨-, simpleRest⟩ := (Segmentation.simple_append rfl).mp simple
        rw [Segmentation.fill_append, Segmentation.fill_literal]
        exact (ih template.tail simpleRest).other leads quoted

end TaggedConfig
