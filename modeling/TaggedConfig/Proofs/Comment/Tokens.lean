import TaggedConfig.Comment

/-! The tokens of a document that tell its comments from the rest: strings, comments of both
sorts, and single bytes. Every document is read as one sequence of tokens and no other.
-/

namespace TaggedConfig.Comment

/-- What a token is. -/
inductive Token.Kind where
  | quoted
  | line
  | block
  | other
  deriving DecidableEq, Repr

/-- Whether a token is a comment. -/
def Token.Kind.isComment : Token.Kind → Bool
  | .line | .block => true
  | .quoted | .other => false

/-- A stretch of a document. -/
structure Token where
  kind : Token.Kind
  bytes : Bytes
  deriving DecidableEq, Repr

/-- What may stand between the quotes of a string: bytes that are neither a quote nor a
backslash, and pairs of a backslash and any byte.
-/
inductive QuotedBody : Bytes → Prop
  | nil : QuotedBody []
  | plain {b body} (noQuote : b ≠ byte '"') (noBackslash : b ≠ byte '\\')
    (more : QuotedBody body)
    : QuotedBody (b :: body)
  | escaped {b body} (more : QuotedBody body) : QuotedBody (byte '\\' :: b :: body)

/-- The two bytes that close a block comment. -/
def blockClose : Bytes := [byte '*', byte '/']

/-- A token that stands before `rest`. A string or block comment reaches to the end of the
document if nothing closes it, a line comment to a newline or the end. A lone slash is a
byte like any other.
-/
inductive Token.Leads : Token → Bytes → Prop
  | quoted {body ending rest} (inside : QuotedBody body)
    (closed
      : ending = [byte '"'] ∨ (ending = [] ∨ ending = [byte '\\']) ∧ rest = [])
    : Token.Leads ⟨.quoted, byte '"' :: (body ++ ending)⟩ rest
  | line {body rest} (inside : byte '\n' ∉ body)
    (ended : rest = [] ∨ rest.head? = some (byte '\n'))
    : Token.Leads ⟨.line, byte '/' :: byte '/' :: body⟩ rest
  | block {body ending rest} (inside : ¬ blockClose <:+: body)
    (closed : ending = blockClose ∨ ending = [] ∧ rest = [])
    : Token.Leads ⟨.block, byte '/' :: byte '*' :: (body ++ ending)⟩ rest
  | other {b rest} (noQuote : b ≠ byte '"')
    (lone
      : b = byte '/' → rest.head? ≠ some (byte '/') ∧ rest.head? ≠ some (byte '*'))
    : Token.Leads ⟨.other, [b]⟩ rest

/-- A document read from left to right as a sequence of tokens. -/
inductive Tokenization : Bytes → List Token → Prop
  | nil : Tokenization [] []
  | cons {token rest tokens} (leads : token.Leads rest) (more : Tokenization rest tokens)
    : Tokenization (token.bytes ++ rest) (token :: tokens)

-----------------------------------------------------------------------------------------
-- The first token of a document, computed
-----------------------------------------------------------------------------------------

/-- The bytes of a string after its opening quote, and the rest. -/
def quotedSpan : Bytes → Bytes × Bytes
  | [] => ([], [])
  | [b] => ([b], [])
  | b :: c :: rest =>
      if b = byte '\\' then (b :: c :: (quotedSpan rest).1, (quotedSpan rest).2)
      else if b = byte '"' then ([b], c :: rest)
      else (b :: (quotedSpan (c :: rest)).1, (quotedSpan (c :: rest)).2)

/-- The bytes of a block comment after its opening, and the rest. -/
def blockSpan : Bytes → Bytes × Bytes
  | [] => ([], [])
  | [b] => ([b], [])
  | b :: c :: rest =>
      if b = byte '*' ∧ c = byte '/' then ([b, c], rest)
      else (b :: (blockSpan (c :: rest)).1, (blockSpan (c :: rest)).2)

/-- The bytes of a line comment after its opening, and the rest. -/
def lineSpan : Bytes → Bytes × Bytes
  | [] => ([], [])
  | b :: rest =>
      if b = byte '\n' then ([], b :: rest) else (b :: (lineSpan rest).1, (lineSpan rest).2)

/-- The first token of a document that is not empty, and the rest. -/
def firstToken (b : UInt8) (rest : Bytes) : Token × Bytes :=
  if b = byte '"' then (⟨.quoted, b :: (quotedSpan rest).1⟩, (quotedSpan rest).2)
  else if b = byte '/' ∧ rest.head? = some (byte '/') then
    (⟨.line, b :: byte '/' :: (lineSpan rest.tail).1⟩, (lineSpan rest.tail).2)
  else if b = byte '/' ∧ rest.head? = some (byte '*') then
    (⟨.block, b :: byte '*' :: (blockSpan rest.tail).1⟩, (blockSpan rest.tail).2)
  else (⟨.other, [b]⟩, rest)

/-- A string splits into its body and what ends it, by recursion on pairs of bytes. -/
theorem quotedSpan_spec (bytes : Bytes)
    : ∃ body ending,
        QuotedBody body
        ∧ (ending = [byte '"']
          ∨ (ending = [] ∨ ending = [byte '\\']) ∧ (quotedSpan bytes).2 = [])
        ∧ (quotedSpan bytes).1 = body ++ ending
        ∧ bytes = body ++ ending ++ (quotedSpan bytes).2 := by
  fun_induction quotedSpan bytes with
  | case1 => exact ⟨[], [], .nil, by simp⟩
  | case2 b =>
      by_cases quote : b = byte '"'
      · exact ⟨[], [b], .nil, by simp [quote]⟩
      · by_cases backslash : b = byte '\\'
        · exact ⟨[], [b], .nil, by simp [backslash]⟩
        · exact ⟨[b], [], .plain quote backslash .nil, by simp⟩
  | case3 c rest ih =>
      obtain ⟨body, ending, inside, closed, spanned, whole⟩ := ih
      refine ⟨byte '\\' :: c :: body, ending, .escaped inside, closed, ?_, ?_⟩
      · simp [spanned]
      · simpa using whole
  | case4 c rest noBackslash => exact ⟨[], [byte '"'], .nil, by simp⟩
  | case5 b c rest noBackslash noQuote ih =>
      obtain ⟨body, ending, inside, closed, spanned, whole⟩ := ih
      refine ⟨b :: body, ending, .plain noQuote noBackslash inside, closed, ?_, ?_⟩
      · simp [spanned]
      · simpa using whole

/-- A string ends where its body and ending say, by induction on the body. -/
theorem quotedSpan_append {body ending rest : Bytes} (inside : QuotedBody body)
    (closed : ending = [byte '"'] ∨ (ending = [] ∨ ending = [byte '\\']) ∧ rest = [])
    : quotedSpan (body ++ (ending ++ rest)) = (body ++ ending, rest) := by
  induction inside with
  | nil =>
      rcases closed with rfl | ⟨rfl | rfl, rfl⟩
      · cases rest <;> simp [quotedSpan, show byte '"' ≠ byte '\\' by decide]
      · rfl
      · rfl
  | @plain b body noQuote noBackslash _ ih =>
      cases tail : body ++ (ending ++ rest) with
      | nil =>
          obtain ⟨rfl, rfl, rfl⟩ : body = [] ∧ ending = [] ∧ rest = [] := by simpa using tail
          rfl
      | cons c more =>
          rw [tail] at ih
          simp [quotedSpan, noQuote, noBackslash, tail, ih]
  | @escaped b body _ ih => simp [quotedSpan, ih]

/-- A block comment splits into its body and what ends it, by recursion on its bytes. The
body of the shorter comment is a prefix of the bytes, so no closing straddles its start.
-/
theorem blockSpan_spec (bytes : Bytes)
    : ∃ body ending,
        ¬ blockClose <:+: body
        ∧ (ending = blockClose ∨ ending = [] ∧ (blockSpan bytes).2 = [])
        ∧ (blockSpan bytes).1 = body ++ ending
        ∧ bytes = body ++ ending ++ (blockSpan bytes).2 := by
  fun_induction blockSpan bytes with
  | case1 => exact ⟨[], [], by simp [blockClose], by simp⟩
  | case2 b => exact ⟨[b], [], fun found => by simpa [blockClose] using found.length_le, by simp⟩
  | case3 b c rest close =>
      obtain ⟨rfl, rfl⟩ := close
      exact ⟨[], blockClose, by simp [blockClose], by simp [blockClose]⟩
  | case4 b c rest noClose ih =>
      obtain ⟨body, ending, inside, closed, spanned, whole⟩ := ih
      refine ⟨b :: body, ending, ?_, closed, by simp [spanned], by simpa using whole⟩
      intro found
      rcases List.infix_cons_iff.mp found with atStart | later
      · cases body with
        | nil => simp [blockClose] at atStart
        | cons d body =>
            have same : c = d := by simpa using congrArg List.head? whole
            have heads : byte '*' = b ∧ byte '/' = d := by simpa [blockClose] using atStart
            exact noClose ⟨heads.1.symm, same.trans heads.2.symm⟩
      · exact inside later

/-- A block comment ends where its body and ending say, by induction on the body. -/
theorem blockSpan_append {body ending rest : Bytes} (inside : ¬ blockClose <:+: body)
    (closed : ending = blockClose ∨ ending = [] ∧ rest = [])
    : blockSpan (body ++ (ending ++ rest)) = (body ++ ending, rest) := by
  induction body with
  | nil =>
      rcases closed with rfl | ⟨rfl, rfl⟩
      · simp [blockClose, blockSpan]
      · rfl
  | cons b body ih =>
      have shorter := ih fun found => inside (List.infix_cons found)
      cases tail : body ++ (ending ++ rest) with
      | nil =>
          obtain ⟨rfl, rfl, rfl⟩ : body = [] ∧ ending = [] ∧ rest = [] := by simpa using tail
          rfl
      | cons c more =>
          have noClose : ¬ (b = byte '*' ∧ c = byte '/') := by
            rintro ⟨rfl, rfl⟩
            cases body with
            | cons d body =>
                obtain ⟨rfl, -⟩ := List.cons.inj tail
                exact inside ⟨[], body, by simp [blockClose]⟩
            | nil =>
                rcases closed with rfl | ⟨rfl, rfl⟩
                · exact absurd (List.cons.inj tail).1 (by decide)
                · exact absurd tail (by simp)
          rw [tail] at shorter
          simp [blockSpan, noClose, tail, shorter]

/-- A line comment ends before a newline or at the end, by recursion on its bytes. -/
theorem lineSpan_spec (bytes : Bytes)
    : byte '\n' ∉ (lineSpan bytes).1
      ∧ ((lineSpan bytes).2 = [] ∨ (lineSpan bytes).2.head? = some (byte '\n'))
      ∧ bytes = (lineSpan bytes).1 ++ (lineSpan bytes).2 := by
  fun_induction lineSpan bytes with
  | case1 => simp
  | case2 => simp
  | case3 b rest differs ih =>
      obtain ⟨inside, ended, whole⟩ := ih
      refine ⟨?_, ended, by rw [List.cons_append, ← whole]⟩
      simp only [List.mem_cons, not_or]
      exact ⟨Ne.symm differs, inside⟩

/-- A line comment ends at the first newline, by induction on the bytes before it. -/
theorem lineSpan_append {body rest : Bytes} (inside : byte '\n' ∉ body)
    (ended : rest = [] ∨ rest.head? = some (byte '\n'))
    : lineSpan (body ++ rest) = (body, rest) := by
  induction body with
  | nil =>
      rcases ended with rfl | newline
      · rfl
      · obtain ⟨tail, rfl⟩ := List.head?_eq_some_iff.mp newline
        simp [lineSpan]
  | cons b body ih =>
      simp only [List.mem_cons, not_or] at inside
      simp [lineSpan, Ne.symm inside.1, ih inside.2]

-----------------------------------------------------------------------------------------
-- Every document has exactly one sequence of tokens
-----------------------------------------------------------------------------------------

/-- The computed first token is one, whichever byte begins it, and it takes a byte. -/
theorem firstToken_leads (b : UInt8) (rest : Bytes)
    : (firstToken b rest).1.Leads (firstToken b rest).2
      ∧ b :: rest = (firstToken b rest).1.bytes ++ (firstToken b rest).2 := by
  unfold firstToken
  split
  · rename_i quote
    obtain ⟨body, ending, inside, closed, spanned, whole⟩ := quotedSpan_spec rest
    subst quote
    refine ⟨?_, by simpa [spanned] using whole⟩
    rw [spanned]
    exact .quoted inside closed
  · rename_i noQuote
    split
    · rename_i slashes
      obtain ⟨rfl, second⟩ := slashes
      obtain ⟨tail, rfl⟩ := List.head?_eq_some_iff.mp second
      obtain ⟨inside, ended, whole⟩ := lineSpan_spec tail
      exact ⟨.line inside ended, by simpa using whole⟩
    · rename_i noLine
      split
      · rename_i opener
        obtain ⟨rfl, second⟩ := opener
        obtain ⟨tail, rfl⟩ := List.head?_eq_some_iff.mp second
        obtain ⟨body, ending, inside, closed, spanned, whole⟩ := blockSpan_spec tail
        refine ⟨?_, by simpa [spanned] using whole⟩
        simp only [List.tail_cons]
        rw [spanned]
        exact .block inside closed
      · rename_i noBlock
        refine ⟨.other noQuote fun slash => ⟨?_, ?_⟩, by simp⟩
        · exact fun second => noLine ⟨slash, second⟩
        · exact fun second => noBlock ⟨slash, second⟩

/-- A token before a rest is the computed first token of the two together, by its shape. -/
theorem Token.Leads.firstToken {token : Token} {rest : Bytes} (leads : token.Leads rest)
    : ∃ b tail, token.bytes ++ rest = b :: tail ∧ Comment.firstToken b tail = (token, rest) := by
  cases leads with
  | quoted inside closed =>
      exact ⟨_, _, rfl, by simp [Comment.firstToken, quotedSpan_append inside closed]⟩
  | line inside ended =>
      exact ⟨_, _, rfl, by
        simp [Comment.firstToken, lineSpan_append inside ended,
          show byte '/' ≠ byte '"' by decide]⟩
  | block inside closed =>
      exact ⟨_, _, rfl, by
        simp [Comment.firstToken, blockSpan_append inside closed,
          show byte '/' ≠ byte '"' by decide, show byte '*' ≠ byte '/' by decide]⟩
  | @other b rest noQuote lone =>
      refine ⟨b, rest, rfl, ?_⟩
      have noLine : ¬ (b = byte '/' ∧ rest.head? = some (byte '/')) := fun h => (lone h.1).1 h.2
      have noBlock : ¬ (b = byte '/' ∧ rest.head? = some (byte '*')) := fun h => (lone h.1).2 h.2
      simp [Comment.firstToken, noQuote, noLine, noBlock]

/-- A token has a first byte, since it begins what it stands before. -/
theorem Token.Leads.length_pos {token : Token} {rest : Bytes} (leads : token.Leads rest)
    : 0 < token.bytes.length := by
  cases leads <;> simp

/-- Every document has a sequence of tokens: the computed first one, then those of the
shorter rest.
-/
theorem exists_tokenization (document : Bytes) : ∃ tokens, Tokenization document tokens := by
  cases document with
  | nil => exact ⟨[], .nil⟩
  | cons b rest =>
      obtain ⟨leads, whole⟩ := firstToken_leads b rest
      have shorter : (firstToken b rest).2.length ≤ rest.length := by
        have positive := leads.length_pos
        have total := congrArg List.length whole
        rw [List.length_cons, List.length_append] at total
        omega
      obtain ⟨tokens, more⟩ := exists_tokenization (firstToken b rest).2
      rw [whole]
      exact ⟨_, .cons leads more⟩
termination_by document.length

/-- A document has no two sequences of tokens, by induction on the first: the first token of
the other is the computed one as well.
-/
theorem Tokenization.unique {document : Bytes} {tokens others : List Token}
    (h : Tokenization document tokens) (other : Tokenization document others)
    : tokens = others := by
  induction h generalizing others with
  | nil =>
      generalize whole : ([] : Bytes) = document at other
      cases other with
      | nil => rfl
      | cons leads more =>
          have positive := leads.length_pos
          simp [(List.append_eq_nil_iff.mp whole.symm).1] at positive
  | @cons token rest tokens leads more ih =>
      generalize whole : token.bytes ++ rest = document at other
      obtain ⟨b, tail, split, first⟩ := leads.firstToken
      cases other with
      | nil => simp [split] at whole
      | @cons token' rest' tokens' leads' more' =>
          obtain ⟨b', tail', split', first'⟩ := leads'.firstToken
          obtain ⟨rfl, rfl⟩ := List.cons.inj (split.symm.trans (whole.trans split'))
          obtain ⟨rfl, rfl⟩ := Prod.mk.inj (first.symm.trans first')
          rw [ih more']

end TaggedConfig.Comment
