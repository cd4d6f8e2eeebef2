import TaggedConfig.Proofs.Comment.Tokens

/-! Blanking replaces the bytes of comments by spaces and leaves all others as they are.
Each region is blanked up to where its token ends, for any bytes that follow.
-/

namespace TaggedConfig.Comment

-----------------------------------------------------------------------------------------
-- What one step of blanking does
-----------------------------------------------------------------------------------------

section

attribute [local simp] blankFrom

theorem blankFrom_nil (region : Region) : blankFrom region [] = [] := by
  cases region <;> rfl

theorem blankFrom_plain_quote (rest : Bytes)
    : blankFrom .plain (byte '"' :: rest) = byte '"' :: blankFrom .quoted rest := by
  cases rest <;> simp

theorem blankFrom_plain_line (rest : Bytes)
    : blankFrom .plain (byte '/' :: byte '/' :: rest)
      = blankByte :: blankByte :: blankFrom .line rest := by
  simp [show byte '/' ≠ byte '"' by decide]

theorem blankFrom_plain_block (rest : Bytes)
    : blankFrom .plain (byte '/' :: byte '*' :: rest)
      = blankByte :: blankByte :: blankFrom .block rest := by
  simp [show byte '/' ≠ byte '"' by decide, show byte '*' ≠ byte '/' by decide]

/-- Any other byte stays, and so does a slash that opens no comment. -/
theorem blankFrom_plain_other {b : UInt8} {rest : Bytes} (noQuote : b ≠ byte '"')
    (lone : b = byte '/' → rest.head? ≠ some (byte '/') ∧ rest.head? ≠ some (byte '*'))
    : blankFrom .plain (b :: rest) = b :: blankFrom .plain rest := by
  cases rest with
  | nil => rfl
  | cons c rest =>
      have noLine : ¬ (b = byte '/' ∧ c = byte '/') := fun h => (lone h.1).1 (by simp [h.2])
      have noBlock : ¬ (b = byte '/' ∧ c = byte '*') := fun h => (lone h.1).2 (by simp [h.2])
      simp only [blankFrom, noQuote, noLine, noBlock, if_false]

/-- Within a string a byte that is neither a quote nor a backslash stays. -/
theorem blankFrom_quoted_plain {b : UInt8} (rest : Bytes) (noQuote : b ≠ byte '"')
    (noBackslash : b ≠ byte '\\')
    : blankFrom .quoted (b :: rest) = b :: blankFrom .quoted rest := by
  cases rest <;> simp [noQuote, noBackslash]

theorem blankFrom_quoted_escaped (b : UInt8) (rest : Bytes)
    : blankFrom .quoted (byte '\\' :: b :: rest)
      = byte '\\' :: b :: blankFrom .quoted rest := by
  simp

theorem blankFrom_quoted_quote (rest : Bytes)
    : blankFrom .quoted (byte '"' :: rest) = byte '"' :: blankFrom .plain rest := by
  cases rest <;> simp [show byte '"' ≠ byte '\\' by decide]

/-- A newline ends a line comment and stays, as it would outside of it. -/
theorem blankFrom_line_newline (rest : Bytes)
    : blankFrom .line (byte '\n' :: rest) = blankFrom .plain (byte '\n' :: rest) := by
  rw [blankFrom_plain_other (by decide) (fun slash => absurd slash (by decide))]
  simp

theorem blankFrom_line_other {b : UInt8} (rest : Bytes) (noNewline : b ≠ byte '\n')
    : blankFrom .line (b :: rest) = blankByte :: blankFrom .line rest := by
  simp [noNewline]

theorem blankFrom_block_close (rest : Bytes)
    : blankFrom .block (byte '*' :: byte '/' :: rest)
      = blankByte :: blankByte :: blankFrom .plain rest := by
  simp

/-- Any other byte of a block comment is blanked. -/
theorem blankFrom_block_other {b : UInt8} {rest : Bytes}
    (unclosed : ¬ blockClose <+: b :: rest)
    : blankFrom .block (b :: rest) = blankByte :: blankFrom .block rest := by
  cases rest with
  | nil => rfl
  | cons c rest =>
      have noClose : ¬ (b = byte '*' ∧ c = byte '/') := by
        rintro ⟨rfl, rfl⟩
        exact unclosed ⟨rest, rfl⟩
      simp only [blankFrom, noClose, if_false]

end

-----------------------------------------------------------------------------------------
-- What blanking does to one token
-----------------------------------------------------------------------------------------

/-- The body of a string stays, by induction on the body. -/
theorem blankFrom_quotedBody {body : Bytes} (inside : QuotedBody body) (rest : Bytes)
    : blankFrom .quoted (body ++ rest) = body ++ blankFrom .quoted rest := by
  induction inside with
  | nil => rfl
  | plain noQuote noBackslash _ ih =>
      rw [List.cons_append, blankFrom_quoted_plain _ noQuote noBackslash, ih, List.cons_append]
  | escaped _ ih =>
      rw [List.cons_append, List.cons_append, blankFrom_quoted_escaped, ih, List.cons_append,
        List.cons_append]

/-- The body of a line comment is blanked, by induction on the body. -/
theorem blankFrom_lineBody {body : Bytes} (inside : byte '\n' ∉ body) (rest : Bytes)
    : blankFrom .line (body ++ rest)
      = List.replicate body.length blankByte ++ blankFrom .line rest := by
  induction body with
  | nil => rfl
  | cons b body ih =>
      simp only [List.mem_cons, not_or] at inside
      rw [List.cons_append, blankFrom_line_other _ (Ne.symm inside.1), ih inside.2]
      rfl

/-- The body of a block comment is blanked with what ends the comment, by induction on the
body. A star at the end of the body closes nothing, since the star of the ending follows.
-/
theorem blankFrom_blockBody {body ending rest : Bytes} (inside : ¬ blockClose <:+: body)
    (closed : ending = blockClose ∨ ending = [] ∧ rest = [])
    : blankFrom .block (body ++ (ending ++ rest))
      = List.replicate (body ++ ending).length blankByte ++ blankFrom .plain rest := by
  induction body with
  | nil =>
      rcases closed with rfl | ⟨rfl, rfl⟩
      · exact blankFrom_block_close rest
      · rfl
  | cons b body ih =>
      have unclosed : ¬ blockClose <+: b :: (body ++ (ending ++ rest)) := by
        intro close
        cases body with
        | cons c body =>
            refine inside (List.infix_cons_iff.mpr (Or.inl ?_))
            simpa [blockClose] using close
        | nil =>
            rcases closed with rfl | ⟨rfl, rfl⟩
            · have heads : byte '*' = b ∧ byte '/' = byte '*' := by
                simpa [blockClose] using close
              exact absurd heads.2 (by decide)
            · simp [blockClose] at close
      rw [List.cons_append, blankFrom_block_other unclosed,
        ih fun found => inside (List.infix_cons found)]
      rfl

/-- The bytes of a token after blanking. -/
def Token.blanked (token : Token) : Bytes :=
  if token.kind.isComment then List.replicate token.bytes.length blankByte else token.bytes

theorem Token.length_blanked (token : Token) : token.blanked.length = token.bytes.length := by
  unfold Token.blanked
  split <;> simp

/-- Blanking a token leaves it at the start of what follows, by its shape. A string or
block comment that nothing closes is followed by nothing.
-/
theorem Token.Leads.blank {token : Token} {rest : Bytes} (leads : token.Leads rest)
    : Comment.blank (token.bytes ++ rest) = token.blanked ++ Comment.blank rest := by
  cases leads with
  | @quoted body ending rest inside closed =>
      have ended : blankFrom .quoted (ending ++ rest) = ending ++ blankFrom .plain rest := by
        rcases closed with rfl | ⟨rfl | rfl, rfl⟩
        · exact blankFrom_quoted_quote rest
        · rfl
        · rfl
      simp [Comment.blank, Token.blanked, Token.Kind.isComment, blankFrom_plain_quote,
        blankFrom_quotedBody inside, ended]
  | @line body rest inside ended =>
      have resumed : blankFrom .line rest = blankFrom .plain rest := by
        rcases ended with rfl | newline
        · rfl
        · obtain ⟨tail, rfl⟩ := List.head?_eq_some_iff.mp newline
          exact blankFrom_line_newline tail
      simp [Comment.blank, Token.blanked, Token.Kind.isComment, blankFrom_plain_line,
        blankFrom_lineBody inside, resumed, List.replicate_succ]
  | @block body ending rest inside closed =>
      simp [Comment.blank, Token.blanked, Token.Kind.isComment, blankFrom_plain_block,
        blankFrom_blockBody inside closed, List.replicate_succ]
  | other noQuote lone =>
      simp [Comment.blank, Token.blanked, Token.Kind.isComment,
        blankFrom_plain_other noQuote lone]

-----------------------------------------------------------------------------------------
-- What blanking does to a document
-----------------------------------------------------------------------------------------

/-- The tokens of a document make it up, by induction on the tokens. -/
theorem Tokenization.bytes_eq {document : Bytes} {tokens : List Token}
    (h : Tokenization document tokens)
    : document = tokens.flatMap Token.bytes := by
  induction h with
  | nil => rfl
  | cons _ _ ih => rw [List.flatMap_cons, ← ih]

/-- Blanking a document blanks its tokens one by one, by induction on the tokens. -/
theorem Tokenization.blank_eq {document : Bytes} {tokens : List Token}
    (h : Tokenization document tokens)
    : blank document = tokens.flatMap Token.blanked := by
  induction h with
  | nil => rfl
  | cons leads _ ih => rw [leads.blank, List.flatMap_cons, ih]

/-- Whether the byte at an index of the document lies in a comment. -/
def inComment : List Token → Nat → Bool
  | [], _ => false
  | token :: tokens, index =>
      if index < token.bytes.length then token.kind.isComment
      else inComment tokens (index - token.bytes.length)

/-- The blanked token at an index is a space in a comment and the byte itself elsewhere. -/
theorem Token.getElem?_blanked {token : Token} {index : Nat}
    (within : index < token.bytes.length)
    : token.blanked[index]?
      = if token.kind.isComment then some blankByte else token.bytes[index]? := by
  unfold Token.blanked
  split
  · exact List.getElem?_replicate_of_lt within
  · rfl

/-- Blanked tokens agree with the tokens outside of comments and are spaces inside, by
induction on the tokens.
-/
theorem getElem?_flatMap_blanked (tokens : List Token) (index : Nat)
    : (tokens.flatMap Token.blanked)[index]?
      = if inComment tokens index then some blankByte
        else (tokens.flatMap Token.bytes)[index]? := by
  induction tokens generalizing index with
  | nil => rfl
  | cons token tokens ih =>
      simp only [List.flatMap_cons, inComment]
      by_cases within : index < token.bytes.length
      · rw [List.getElem?_append_left (by rwa [token.length_blanked]),
          List.getElem?_append_left within, Token.getElem?_blanked within, if_pos within]
      · have beyond := Nat.le_of_not_lt within
        rw [List.getElem?_append_right (by rwa [token.length_blanked]),
          List.getElem?_append_right beyond, token.length_blanked, ih, if_neg within]

theorem length_flatMap_blanked (tokens : List Token)
    : (tokens.flatMap Token.blanked).length = (tokens.flatMap Token.bytes).length := by
  simp [List.length_flatMap, Token.length_blanked]

/-- Blanking replaces exactly the comments: a document has one sequence of tokens, and its
blanked form has the same length, a space at each index in a comment and the same byte at
every other index.
-/
theorem blank_replaces_comments (document : Bytes)
    : ∃ tokens,
        Tokenization document tokens
        ∧ (∀ others, Tokenization document others → others = tokens)
        ∧ (blank document).length = document.length
        ∧ ∀ index,
            (blank document)[index]?
            = if inComment tokens index then some blankByte else document[index]? := by
  obtain ⟨tokens, h⟩ := exists_tokenization document
  refine ⟨tokens, h, fun others other => other.unique h, ?_, ?_⟩
  · rw [h.blank_eq, length_flatMap_blanked, ← h.bytes_eq]
  · intro index
    rw [h.blank_eq, getElem?_flatMap_blanked, ← h.bytes_eq]

/-- A slash cannot both open a block comment and close it. -/
example : blank (ascii "/*/ 1 */2") = ascii "        2" := by decide

/-- A quote in a comment opens no string, and a slash in a string opens no comment. -/
example : blank (ascii "/*\"*/\"//\"/") = ascii "     \"//\"/" := by decide

end TaggedConfig.Comment
