import TaggedConfig.Proofs.Comment.Blanking

/-! Blanked documents that are read again.
Main statement: what has been blanked stays as it is when it is blanked again. Its strings are those
of the document at the same offsets, and it has no comments.
-/

namespace TaggedConfig.Comment

/-- The tokens as which a token is read after blanking: a comment as one space after another. -/
def Token.remains (token : Token) : List Token :=
  if token.kind.isComment then
    List.replicate token.bytes.length ⟨.other, [blankByte]⟩
  else
    [token]

/-- The strings among tokens, each with the offset at which it begins. The first token begins at
`offset`.
-/
def stringsFrom (offset : Nat) : List Token → List (Nat × Bytes)
  | [] => []
  | token :: tokens =>
      let later := stringsFrom (offset + token.bytes.length) tokens
      if token.kind = .quoted then (offset, token.bytes) :: later else later

-----------------------------------------------------------------------------------------
-- The tokens of a blanked document
-----------------------------------------------------------------------------------------

/-- Unless a comment begins there, a document begins after blanking as it did before. -/
theorem head?_blank {document : Bytes} (noSlash : document.head? ≠ some (byte '/'))
    : (blank document).head? = document.head? := by
  cases document with
  | nil => rfl
  | cons b rest =>
      have plain : b ≠ byte '/' := fun slash => noSlash (congrArg some slash)
      by_cases quote : b = byte '"'
      · rw [quote, blank, blankFrom_plain_quote]
        rfl
      · rw [blank, blankFrom_plain_other quote fun slash => absurd slash plain]
        rfl

/-- A token that is no comment is still there when what follows it is blanked. A string that nothing
closes is followed by nothing, and a lone slash is not followed by a comment.
-/
theorem Token.Leads.before_blank {token : Token} {rest : Bytes} (leads : token.Leads rest)
    (kept : token.kind.isComment = false)
    : token.Leads (Comment.blank rest) := by
  cases leads with
  | line | block => contradiction
  | quoted inside closed =>
      refine .quoted inside (closed.imp_right fun ⟨ending, last⟩ => ⟨ending, ?_⟩)
      rw [last]
      rfl
  | other noQuote lone =>
      refine .other noQuote fun slash => ?_
      obtain ⟨noLine, noBlock⟩ := lone slash
      rw [head?_blank noLine]
      exact ⟨noLine, noBlock⟩

/-- A space is a token by itself, whatever follows it. -/
theorem leads_blankByte (rest : Bytes) : Token.Leads ⟨.other, [blankByte]⟩ rest :=
  .other (by decide) fun slash => absurd slash (by decide)

/-- Spaces before a document are tokens before its tokens, by induction on their number. -/
theorem Tokenization.spaces {document : Bytes} {tokens : List Token}
    (more : Tokenization document tokens) (count : Nat)
    : Tokenization (List.replicate count blankByte ++ document)
        (List.replicate count ⟨.other, [blankByte]⟩ ++ tokens) := by
  induction count with
  | zero => exact more
  | succ count ih => exact .cons (leads_blankByte _) ih

/-- What remains of a token stands before the tokens of the blanked rest. -/
theorem Token.Leads.remains {token : Token} {rest : Bytes} {tokens : List Token}
    (leads : token.Leads rest) (more : Tokenization (Comment.blank rest) tokens)
    : Tokenization (token.blanked ++ Comment.blank rest) (token.remains ++ tokens) := by
  unfold Token.blanked Token.remains
  split
  · exact more.spaces _
  · rename_i kept
    exact .cons (leads.before_blank (Bool.eq_false_iff.mpr kept)) more

/-- A blanked document is read as what remains of the tokens of the document, by induction on the
tokens.
-/
theorem Tokenization.remains {document : Bytes} {tokens : List Token}
    (h : Tokenization document tokens)
    : Tokenization (blank document) (tokens.flatMap Token.remains) := by
  induction h with
  | nil => exact .nil
  | cons leads _ ih =>
      rw [leads.blank, List.flatMap_cons]
      exact leads.remains ih

-----------------------------------------------------------------------------------------
-- Comments and strings of a blanked document
-----------------------------------------------------------------------------------------

/-- No comment remains. -/
theorem Token.isComment_of_mem_remains {token other : Token} (member : other ∈ token.remains)
    : other.kind.isComment = false := by
  unfold Token.remains at member
  split at member
  · rw [List.eq_of_mem_replicate member]
    rfl
  · rename_i kept
    rw [List.mem_singleton.mp member]
    exact Bool.eq_false_iff.mpr kept

/-- Without comments there is nothing to blank. -/
theorem Tokenization.blank_eq_self {document : Bytes} {tokens : List Token}
    (h : Tokenization document tokens)
    (plain : ∀ token ∈ tokens, token.kind.isComment = false)
    : blank document = document := by
  have kept : ∀ token ∈ tokens, token.blanked = token.bytes := by
    intro token member
    rw [Token.blanked, plain token member]
    rfl
  rw [h.blank_eq, List.flatMap_def, List.map_congr_left kept, ← List.flatMap_def, ← h.bytes_eq]

/-- Spaces are no strings, and tokens after them begin so much later. By induction on their
number.
-/
theorem stringsFrom_spaces (count offset : Nat) (tokens : List Token)
    : stringsFrom offset (List.replicate count ⟨.other, [blankByte]⟩ ++ tokens)
      = stringsFrom (offset + count) tokens := by
  induction count generalizing offset with
  | zero => rfl
  | succ count ih =>
      rw [List.replicate_succ, List.cons_append, stringsFrom, ih, Nat.add_right_comm, Nat.add_assoc]
      rfl

/-- The strings remain at their offsets, by induction on the tokens. -/
theorem stringsFrom_remains (offset : Nat) (tokens : List Token)
    : stringsFrom offset (tokens.flatMap Token.remains)
      = stringsFrom offset tokens := by
  induction tokens generalizing offset with
  | nil => rfl
  | cons token tokens ih =>
      rw [List.flatMap_cons, Token.remains]
      split
      · rename_i comment
        have noString : token.kind ≠ .quoted := by
          intro quoted
          rw [quoted] at comment
          contradiction
        rw [stringsFrom_spaces, ih, stringsFrom, if_neg noString]
      · rw [List.singleton_append, stringsFrom, ih, stringsFrom]

/-- Blanking a document once is enough. Read again, the blanked document has no comments, and its
strings are those of the document at the same offsets, whether or not anything closes them. Both are
read in one way only.
-/
theorem blank_idempotent (document : Bytes)
    : blank (blank document) = blank document
      ∧ ∃ tokens after,
          Tokenization document tokens
          ∧ (∀ others, Tokenization document others → others = tokens)
          ∧ Tokenization (blank document) after
          ∧ (∀ others, Tokenization (blank document) others → others = after)
          ∧ (∀ token ∈ after, token.kind.isComment = false)
          ∧ stringsFrom 0 after = stringsFrom 0 tokens := by
  obtain ⟨tokens, h⟩ := exists_tokenization document
  have plain : ∀ token ∈ tokens.flatMap Token.remains, token.kind.isComment = false := by
    intro other member
    obtain ⟨token, -, remains⟩ := List.mem_flatMap.mp member
    exact Token.isComment_of_mem_remains remains
  refine ⟨h.remains.blank_eq_self plain, tokens, _, h, fun others other => other.unique h,
    h.remains, fun others other => other.unique h.remains, plain, ?_⟩
  exact stringsFrom_remains 0 tokens

/-- A slash before a comment, a quote in one and a star after one are nothing new. -/
example : blank (blank (ascii "/ //\"\n*/ \"/*")) = ascii "/    \n*/ \"/*" := by decide

end TaggedConfig.Comment
