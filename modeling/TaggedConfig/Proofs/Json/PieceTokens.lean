import TaggedConfig.Proofs.Json.Pieces

/-! The pieces that JSON texts have and the tokens in them.
In a text that has a value, the pieces that are no white space are the tokens.
-/

namespace TaggedConfig.Json

open Comment (QuotedBody)

-----------------------------------------------------------------------------------------
-- Texts of usable tokens
-----------------------------------------------------------------------------------------

theorem Token.start_begun (offset : Nat) (b : UInt8) (rest : Bytes)
    : (Token.begun offset b rest).start = offset := by
  unfold Token.begun
  repeat' split
  · rfl
  · change (Lexeme.ofQuoted offset rest).start = offset
    unfold Lexeme.ofQuoted
    split <;> rfl
  · change (Lexeme.ofNumeral offset (b :: rest)).start = offset
    unfold Lexeme.ofNumeral
    split <;> rfl
  · rfl
  · rfl

/-- Usable tokens of a text begin with one that ends, and those after it are usable. -/
theorem usable_cons {b : UInt8} {text : Bytes} {offset : Nat} (noSpace : isSpace b = false)
    (usable : ∀ token ∈ tokensFrom offset (b :: text), token.Usable)
    : ∃ stop,
        (Token.begun offset b text).stop? = some stop
        ∧ tokensFrom offset (b :: text)
          = .begun offset b text :: tokensFrom stop (text.drop (stop - offset - 1))
        ∧ ∀ token ∈ tokensFrom stop (text.drop (stop - offset - 1)), token.Usable := by
  rw [tokensFrom, noSpace, if_neg Bool.false_ne_true] at usable ⊢
  cases found : (Token.begun offset b text).stop? with
  | none =>
      simp only [found, List.mem_singleton, forall_eq] at usable
      rw [Token.usable_begun, found] at usable
      contradiction
  | some stop =>
      simp only [found, List.forall_mem_cons] at usable ⊢
      exact ⟨stop, rfl, rfl, usable.2⟩

theorem Mark.stop_begun {b : UInt8} (mark : (Mark.ofByte? b).isSome) {text : Bytes}
    {offset stop : Nat} (found : (Token.begun offset b text).stop? = some stop)
    : stop = offset + 1 := by
  obtain ⟨punctuation, known⟩ := Option.isSome_iff_exists.mp mark
  simpa [Token.begun, known, Token.stop?, eq_comm] using found

/-- A string that ends has a body before its closing quote. -/
theorem Lexeme.stop_ofQuoted {text : Bytes} {offset stop : Nat}
    (found : (ofQuoted offset text).stop? = some stop)
    : ∃ body rest,
        text = body ++ byte '"' :: rest
        ∧ QuotedBody body
        ∧ stop = offset + (body.length + 2) := by
  obtain ⟨passes, rfl⟩ := stop?_eq_some.mp found
  have passed : ∃ stop, Quoted.pass (offset + 1) text = .ok stop := by
    unfold ofQuoted at passes
    split at passes
    · exact ⟨_, by assumption⟩
    · contradiction
  obtain ⟨_, passed⟩ := passed
  obtain ⟨body, rest, rfl, -, passable⟩ := Quoted.pass_eq_ok passed
  exact ⟨body, rest, rfl, passable.quoted, by rw [ofQuoted_passable passable, Nat.add_assoc]⟩

/-- A run that has only usable tokens is followed by the tokens of what breaks it off, by
recursion on what the first token leaves of the run.
-/
theorem usable_after_run {run rest : Bytes} (inner : ∀ b ∈ run, b ∉ outer) (breaks : Breaks rest)
    {offset : Nat} (usable : ∀ token ∈ tokensFrom offset (run ++ rest), token.Usable)
    : ∃ offset', ∀ token ∈ tokensFrom offset' rest, token.Usable := by
  match run, inner with
  | [], _ => exact ⟨offset, usable⟩
  | b :: run, inner =>
      have noSpace := isSpace_eq_false_of_inner (inner b List.mem_cons_self)
      rw [List.cons_append] at usable
      obtain ⟨stop, found, -, after⟩ := usable_cons noSpace usable
      rw [(Token.begun_moved inner breaks offset).stop?] at found
      obtain ⟨stop, known, rfl⟩ := Option.map_eq_some_iff.mp found
      obtain ⟨size, rfl, within⟩ := Token.stop_begun inner known
      have taken : offset + (size + 1) - offset - 1 = size := by omega
      rw [taken, List.drop_append_of_le_length within] at after
      exact usable_after_run
        (fun c member => inner c (List.mem_cons_of_mem b (List.mem_of_mem_drop member)))
        breaks after
termination_by run.length
decreasing_by
  simp only [List.length_drop, List.length_cons]
  omega

/-- Every text begins with the bytes of a run, if any, up to where these break off. -/
theorem exists_run (text : Bytes)
    : ∃ run rest, text = run ++ rest ∧ (∀ b ∈ run, b ∉ outer) ∧ Breaks rest := by
  induction text with
  | nil => exact ⟨[], [], rfl, nofun, nofun⟩
  | cons b text ih =>
      by_cases outside : b ∈ outer
      · refine ⟨[], b :: text, rfl, nofun, ?_⟩
        rintro _ ⟨⟩
        exact outside
      · obtain ⟨run, rest, rfl, inner, breaks⟩ := ih
        exact ⟨b :: run, rest, rfl, List.forall_mem_cons.mpr ⟨outside, inner⟩, breaks⟩

/-- A text of usable tokens begins with a piece before a text of usable tokens. -/
theorem exists_piece {b : UInt8} {text : Bytes} {offset : Nat}
    (usable : ∀ token ∈ tokensFrom offset (b :: text), token.Usable)
    : ∃ piece rest offset',
        b :: text = piece ++ rest
        ∧ Piece piece rest
        ∧ ∀ token ∈ tokensFrom offset' rest, token.Usable := by
  cases space : isSpace b with
  | true =>
      rw [tokensFrom, if_pos space] at usable
      exact ⟨[b], text, offset + 1, rfl, .space space, usable⟩
  | false =>
      by_cases outside : b ∈ outer
      · obtain ⟨stop, found, -, after⟩ := usable_cons space usable
        rcases outer_cases b outside with isSpace | mark | rfl | rfl
        · simp [space] at isSpace
        · obtain rfl := Mark.stop_begun mark found
          refine ⟨[b], text, offset + 1, rfl, .mark mark, ?_⟩
          simpa using after
        · obtain ⟨body, rest, rfl, inside, rfl⟩ := Lexeme.stop_ofQuoted found
          have taken : offset + (body.length + 2) - offset - 1 = body.length + 1 := by omega
          refine ⟨_, rest, offset + (body.length + 2), ?_, .quoted inside, ?_⟩
          · simp
          · simpa [taken] using after
        · contradiction
      · obtain ⟨run, rest, rfl, inner, breaks⟩ := exists_run text
        have inner : ∀ c ∈ b :: run, c ∉ outer := List.forall_mem_cons.mpr ⟨outside, inner⟩
        obtain ⟨offset', after⟩ := usable_after_run inner breaks usable
        exact ⟨b :: run, rest, offset', rfl, .run (by simp) inner breaks, after⟩

/-- A text of usable tokens is a sequence of pieces, by recursion on what the first of them
leaves.
-/
theorem exists_pieces {text : Bytes} {offset : Nat}
    (usable : ∀ token ∈ tokensFrom offset text, token.Usable)
    : ∃ pieces, Pieces text pieces := by
  match text with
  | [] => exact ⟨[], .nil⟩
  | b :: text =>
      obtain ⟨piece, rest, offset', split, leads, after⟩ := exists_piece usable
      have shorter : rest.length < (b :: text).length := by
        have positive := List.length_pos_iff.mpr leads.ne_nil
        rw [split, List.length_append]
        omega
      obtain ⟨pieces, more⟩ := exists_pieces after
      exact split ▸ ⟨_, .cons leads more⟩
termination_by text.length
decreasing_by exact shorter

-----------------------------------------------------------------------------------------
-- Words and numerals stand apart
-----------------------------------------------------------------------------------------

/-- No two words or numerals follow one another. -/
def ScalarsApart (tokens : List Token) : Prop :=
  ∀ first second : Lexeme Scalar, ¬ [Token.scalar first, .scalar second] <:+: tokens

namespace Document

/-- A word or numeral makes up a value, after which no further one may come, or breaks off. -/
theorem State.step_scalar (state : State) (lexeme : Lexeme Scalar)
    : (state.step (.scalar lexeme)).Over
      ∨ (∃ root, state.step (.scalar lexeme) = .complete root)
      ∨ ∃ frames, state.step (.scalar lexeme) = .building frames .separator := by
  have valued (frames : List Frame)
      : (stepValue frames (.scalar lexeme)).Over
        ∨ (∃ root, stepValue frames (.scalar lexeme) = .complete root)
        ∨ ∃ frames', stepValue frames (.scalar lexeme) = .building frames' .separator := by
    simp only [stepValue]
    split
    · cases frames with
      | nil => exact Or.inr (Or.inl ⟨_, rfl⟩)
      | cons frame frames => exact Or.inr (Or.inr ⟨_, rfl⟩)
    · exact Or.inl trivial
  cases state with
  | complete | followed | broken => exact Or.inl trivial
  | building frames stage =>
      cases stage with
      | value | firstItem | nextItem => exact valued frames
      | firstName | nextName | separator => exact Or.inl (State.over_breakEnding _ frames)
      | colon name =>
          refine Or.inl ?_
          simp only [State.step, stepColon]
          split
          · trivial
          · exact State.over_breakEnding _ _

/-- No value comes after two words or numerals that follow one another. -/
theorem State.over_scalars (state : State) (first second : Lexeme Scalar)
    : ((state.step (.scalar first)).step (.scalar second)).Over := by
  rcases state.step_scalar first with done | ⟨root, complete⟩ | ⟨frames, building⟩
  · exact done.step _
  · rw [complete]
    trivial
  · rw [building]
    exact State.over_breakEnding _ frames

/-- In a sequence of tokens that has a value, words and numerals do not follow one another. -/
theorem scalars_apart {tokens : List Token} (honest : ∀ token ∈ tokens, token.Honest)
    {state : State} (sane : state.Sane) {value : Json}
    (read : (tokens.foldl State.step state).document.read = .ok value)
    : ScalarsApart tokens := by
  rintro first second ⟨before, after, rfl⟩
  simp only [List.mem_append, or_imp, forall_and] at honest
  have reached : ((before ++ [Token.scalar first, .scalar second]).foldl State.step state).Sane :=
    sane.foldl fun token member => (List.mem_append.mp member).elim (honest.1.1 token)
      (honest.1.2 token)
  rw [List.foldl_append] at read
  refine State.Over.read_ne_ok ?_ reached honest.2 value read
  rw [List.foldl_append]
  exact State.over_scalars _ first second

end Document

-----------------------------------------------------------------------------------------
-- Where the tokens of a text start
-----------------------------------------------------------------------------------------

/-- The offsets at which the pieces that are no white space start, and that of the end. -/
def starts (offset : Nat) : List Bytes → List Nat
  | [] => [offset]
  | piece :: pieces =>
      if piece.all isSpace then starts (offset + piece.length) pieces
      else offset :: starts (offset + piece.length) pieces

/-- A byte of a run begins a word or numeral if it begins anything. -/
theorem Token.exists_scalar {b : UInt8} (inner : b ∉ outer) {text : Bytes} {offset stop : Nat}
    (found : (Token.begun offset b text).stop? = some stop)
    : ∃ lexeme, Token.begun offset b text = .scalar lexeme := by
  rw [begun_inner inner] at found ⊢
  by_cases numeral : b = byte '-' || isDigit b
  · exact ⟨_, if_pos numeral⟩
  · rw [if_neg numeral] at found ⊢
    cases known : wordOf? b with
    | none =>
        rw [known] at found
        contradiction
    | some word => exact ⟨_, rfl⟩

section

variable {b : UInt8} {rest : Bytes} {offset : Nat}

/-- A string that ends is one token. -/
theorem tokensFrom_quoted {body : Bytes} (inside : QuotedBody body)
    (usable : ∀ token ∈ tokensFrom offset (byte '"' :: (body ++ byte '"' :: rest)), token.Usable)
    : tokensFrom offset (byte '"' :: (body ++ byte '"' :: rest))
      = .begun offset (byte '"') (body ++ byte '"' :: rest)
        :: tokensFrom (offset + (body.length + 2)) rest := by
  obtain ⟨stop, found, all, -⟩ := usable_cons (by decide) usable
  obtain ⟨body', rest', same, inside', rfl⟩ := Lexeme.stop_ofQuoted found
  obtain ⟨rfl, rfl⟩ := inside.unique inside' same
  have taken : offset + (body.length + 2) - offset - 1 = body.length + 1 := by omega
  rw [all, taken]
  simp

/-- A run is one token where no two words or numerals follow one another. -/
theorem tokensFrom_run {run : Bytes} (inner : ∀ c ∈ b :: run, c ∉ outer) (breaks : Breaks rest)
    (usable : ∀ token ∈ tokensFrom offset (b :: run ++ rest), token.Usable)
    (apart : ScalarsApart (tokensFrom offset (b :: run ++ rest)))
    : tokensFrom offset (b :: run ++ rest)
      = .begun offset b (run ++ rest) :: tokensFrom (offset + (b :: run).length) rest := by
  have first := inner b List.mem_cons_self
  rw [List.cons_append] at usable apart ⊢
  obtain ⟨stop, found, all, after⟩ := usable_cons (isSpace_eq_false_of_inner first) usable
  obtain ⟨lexeme, scalar⟩ := Token.exists_scalar first found
  have alone := found
  rw [(Token.begun_moved inner breaks offset).stop?] at alone
  obtain ⟨stop, known, rfl⟩ := Option.map_eq_some_iff.mp alone
  obtain ⟨size, rfl, within⟩ := Token.stop_begun inner known
  have taken : offset + (size + 1) - offset - 1 = size := by omega
  rw [taken, List.drop_append_of_le_length within] at after all
  cases left : run.drop size with
  | nil =>
      have whole : size = run.length := Nat.le_antisymm within (List.drop_eq_nil_iff.mp left)
      rw [all, left, whole, List.length_cons]
      rfl
  | cons c more =>
      -- The run would go on with a second word or numeral.
      have second : c ∉ outer :=
        inner c (List.mem_cons_of_mem b (List.mem_of_mem_drop (left ▸ List.mem_cons_self)))
      rw [left, List.cons_append] at all after
      obtain ⟨stop', found', all', -⟩ := usable_cons (isSpace_eq_false_of_inner second) after
      obtain ⟨lexeme', scalar'⟩ := Token.exists_scalar second found'
      rw [all, all', scalar, scalar'] at apart
      exact absurd ⟨[], _, rfl⟩ (apart lexeme lexeme')

/-- A piece that is no white space is one token where no two words or numerals follow one
another.
-/
theorem Piece.tokensFrom_append {piece : Bytes} (leads : Piece piece rest)
    (usable : ∀ token ∈ tokensFrom offset (piece ++ rest), token.Usable)
    (apart : ScalarsApart (tokensFrom offset (piece ++ rest)))
    : if piece.all isSpace then
        tokensFrom offset (piece ++ rest) = tokensFrom (offset + piece.length) rest
      else
        ∃ token,
          token.start = offset
          ∧ tokensFrom offset (piece ++ rest)
            = token :: tokensFrom (offset + piece.length) rest := by
  cases leads with
  | @space b _ space =>
      rw [if_pos (by simpa using space), List.singleton_append, tokensFrom, if_pos space]
      rfl
  | @mark b _ mark =>
      have noSpace := isSpace_eq_false_of_mark mark
      rw [if_neg (by simp [noSpace])]
      obtain ⟨stop, found, all, -⟩ := usable_cons noSpace usable
      obtain rfl := Mark.stop_begun mark found
      exact ⟨_, Token.start_begun offset b rest, by simpa using all⟩
  | @quoted body _ inside =>
      have noSpace : isSpace (byte '"') = false := by decide
      rw [if_neg (by simp [noSpace])]
      have split : byte '"' :: (body ++ [byte '"']) ++ rest
          = byte '"' :: (body ++ byte '"' :: rest) := by simp
      have size : (byte '"' :: (body ++ [byte '"'])).length = body.length + 2 := by simp
      rw [split] at usable ⊢
      rw [size]
      exact ⟨_, Token.start_begun offset (byte '"') _, tokensFrom_quoted inside usable⟩
  | @run run _ filled inner ended =>
      obtain ⟨b, run, rfl⟩ := List.exists_cons_of_ne_nil filled
      have first := isSpace_eq_false_of_inner (inner b List.mem_cons_self)
      rw [if_neg (by simp [first])]
      exact ⟨_, Token.start_begun offset b _, tokensFrom_run inner ended usable apart⟩

end

/-- Where no two words or numerals follow one another, the tokens start where the pieces that
are no white space do, by induction on the pieces.
-/
theorem Pieces.starts_eq {text : Bytes} {pieces : List Bytes} (split : Pieces text pieces)
    {offset : Nat} (usable : ∀ token ∈ tokensFrom offset text, token.Usable)
    (apart : ScalarsApart (tokensFrom offset text))
    : (tokensFrom offset text).map Token.start = starts offset pieces := by
  induction split generalizing offset with
  | nil =>
      rw [tokensFrom]
      rfl
  | @cons piece rest pieces leads more ih =>
      have tokens := leads.tokensFrom_append usable apart
      rw [starts]
      split at tokens
      · rename_i blank
        rw [tokens] at usable apart ⊢
        rw [if_pos blank]
        exact ih usable apart
      · rename_i blank
        obtain ⟨token, start, all⟩ := tokens
        rw [all] at usable apart ⊢
        rw [if_neg blank, List.map_cons, start]
        congr 1
        exact ih (List.forall_mem_cons.mp usable).2 fun first second found =>
          apart first second (List.infix_cons found)

/-- In a text that has a value the tokens start where the pieces that are no white space do. -/
theorem Pieces.starts_eq_of_decode {text : Bytes} {pieces : List Bytes}
    (split : Pieces text pieces) {value : Json} (h : decode text = .ok value)
    : (tokens text).map Token.start = starts 0 pieces :=
  split.starts_eq (usable_of_decode h)
    (Document.scalars_apart (fun _ => honest_of_mem_tokensFrom)
      (Document.State.sane_building [] .value) h)

end TaggedConfig.Json
