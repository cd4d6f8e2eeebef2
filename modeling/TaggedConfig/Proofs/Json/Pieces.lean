import TaggedConfig.Proofs.Json.Runs

/-! JSON texts as sequences of pieces.
White space between the pieces of a text makes no difference to its tokens but to their places.
-/

namespace TaggedConfig.Json

open Comment (QuotedBody)

/-- A piece of a text that stands before a rest. A run has all bytes of words and numerals that
follow one another.
-/
inductive Piece : Bytes → Bytes → Prop
  | space {b rest} (space : isSpace b) : Piece [b] rest
  | mark {b rest} (mark : (Mark.ofByte? b).isSome) : Piece [b] rest
  | quoted {body rest} (inside : QuotedBody body) : Piece (byte '"' :: (body ++ [byte '"'])) rest
  | run {run rest} (filled : run ≠ []) (inner : ∀ b ∈ run, b ∉ outer) (ended : Breaks rest)
    : Piece run rest

/-- A text as a sequence of pieces. -/
inductive Pieces : Bytes → List Bytes → Prop
  | nil : Pieces [] []
  | cons {piece rest pieces} (leads : Piece piece rest) (more : Pieces rest pieces)
    : Pieces (piece ++ rest) (piece :: pieces)

/-- The pieces in order with any white space before, between and after them. -/
inductive Spaced : List Bytes → Bytes → Prop
  | nil : Spaced [] []
  | piece {piece pieces text} (more : Spaced pieces text)
    : Spaced (piece :: pieces) (piece ++ text)
  | space {b pieces text} (space : isSpace b) (more : Spaced pieces text)
    : Spaced pieces (b :: text)

-----------------------------------------------------------------------------------------
-- Strings wherever they stand
-----------------------------------------------------------------------------------------

namespace Lexeme

variable {body : Bytes}

/-- A string reads as what its body reads as. -/
theorem reading_ofQuoted (inside : QuotedBody body) (offset : Nat) (rest : Bytes) (text : String)
    : (ofQuoted offset (body ++ byte '"' :: rest)).reading.toOption = some text
      ↔ Quoted.Reads body text := by
  constructor
  · intro reading
    have known
        : ((Quoted.read (offset + 1) (body ++ byte '"' :: rest)).map (·.1)) = .ok text := by
      rw [Outcome.toOption_eq_some] at reading
      unfold ofQuoted at reading
      split at reading <;> exact reading
    obtain ⟨⟨_, stop⟩, read, rfl⟩ := Outcome.map_eq_ok.mp known
    obtain ⟨body', rest', same, -, reads⟩ := Quoted.read_eq_ok read
    obtain ⟨rfl, -⟩ := inside.unique reads.passable.quoted same
    exact reads
  · intro reads
    rw [ofQuoted_reads reads]
    rfl

/-- A string can be passed over if its body can. -/
theorem passing_ofQuoted (inside : QuotedBody body) (offset : Nat) (rest : Bytes)
    : (ofQuoted offset (body ++ byte '"' :: rest)).passing.toOption = some ()
      ↔ Quoted.Passable body := by
  constructor
  · intro passing
    rw [Outcome.toOption_eq_some] at passing
    unfold ofQuoted at passing
    split at passing
    · rename_i passed
      obtain ⟨body', rest', same, -, passable⟩ := Quoted.pass_eq_ok passed
      obtain ⟨rfl, -⟩ := inside.unique passable.quoted same
      exact passable
    · contradiction
  · intro passable
    rw [ofQuoted_passable passable]
    rfl

/-- A string does not depend on its place and on what follows it. -/
theorem ofQuoted_moved (inside : QuotedBody body) (offset : Nat) (rest : Bytes)
    : Lexeme.Moved offset (.ofQuoted offset (body ++ byte '"' :: rest))
        (.ofQuoted 0 (body ++ [byte '"'])) where
  reading := Option.ext fun text => by
    rw [reading_ofQuoted inside, reading_ofQuoted inside]
  passing := Option.ext fun _ => by rw [passing_ofQuoted inside, passing_ofQuoted inside]
  stop passes := by
    have passable := (passing_ofQuoted inside 0 []).mp (Outcome.toOption_eq_some.mpr passes)
    rw [ofQuoted_passable passable, ofQuoted_passable passable]
    simp only
    omega

end Lexeme

-----------------------------------------------------------------------------------------
-- Texts with the same tokens
-----------------------------------------------------------------------------------------

/-- The texts have the same tokens but for where these stand, wherever the texts stand. -/
def SameTokens (text other : Bytes) : Prop :=
  ∀ offset offset',
    (tokensFrom offset text).map Token.placeless = (tokensFrom offset' other).map Token.placeless

namespace SameTokens

theorem nil : SameTokens [] [] := by
  intro offset offset'
  rw [tokensFrom, tokensFrom]
  rfl

section

variable {b : UInt8} {text other : Bytes}

theorem space_right (space : isSpace b) (same : SameTokens text other)
    : SameTokens text (b :: other) := by
  intro offset offset'
  rw [tokensFrom.eq_2, if_pos space]
  exact same offset (offset' + 1)

theorem space (space : isSpace b) (same : SameTokens text other)
    : SameTokens (b :: text) (b :: other) := by
  intro offset offset'
  rw [tokensFrom.eq_2, if_pos space]
  exact same.space_right space (offset + 1) offset'

/-- A token that is the same in both texts is followed by the same tokens if what it leaves
of them has the same.
-/
theorem begun (noSpace : isSpace b = false) {alone : Token}
    (moved : ∀ offset, (Token.begun offset b text).Moved offset alone)
    (moved' : ∀ offset, (Token.begun offset b other).Moved offset alone)
    (more
      : ∀ stop,
          alone.stop? = some stop → SameTokens (text.drop (stop - 1)) (other.drop (stop - 1)))
    : SameTokens (b :: text) (b :: other) := by
  intro offset offset'
  have first := moved offset
  have second := moved' offset'
  have taken (start stop : Nat) : start + stop - start - 1 = stop - 1 := by omega
  rw [tokensFrom, tokensFrom]
  cases known : alone.stop? with
  | none =>
      have stuck : (Token.begun offset b text).stop? = none := by simp [first.stop?, known]
      have stuck' : (Token.begun offset' b other).stop? = none := by simp [second.stop?, known]
      simp only [noSpace, Bool.false_eq_true, if_false, stuck, stuck']
      exact congrArg₂ List.cons (first.placeless.trans second.placeless.symm) rfl
  | some stop =>
      have found : (Token.begun offset b text).stop? = some (offset + stop) := by
        simp [first.stop?, known]
      have found' : (Token.begun offset' b other).stop? = some (offset' + stop) := by
        simp [second.stop?, known]
      simp only [noSpace, Bool.false_eq_true, if_false, found, found', taken]
      exact congrArg₂ List.cons (first.placeless.trans second.placeless.symm)
        (more stop known _ _)

end

variable {rest other : Bytes}

theorem mark {b : UInt8} (mark : (Mark.ofByte? b).isSome) (same : SameTokens rest other)
    : SameTokens (b :: rest) (b :: other) := by
  obtain ⟨punctuation, known⟩ := Option.isSome_iff_exists.mp mark
  have moved (offset : Nat) (text : Bytes)
      : (Token.begun offset b text).Moved offset (.mark punctuation 0) := by
    simp only [Token.begun, known]
    exact ⟨rfl, rfl⟩
  refine begun (isSpace_eq_false_of_mark mark) (fun offset => moved offset rest)
    (fun offset => moved offset other) ?_
  intro stop found
  obtain rfl := Option.some.inj found
  exact same

theorem quoted {body : Bytes} (inside : QuotedBody body) (same : SameTokens rest other)
    : SameTokens (byte '"' :: (body ++ byte '"' :: rest))
        (byte '"' :: (body ++ byte '"' :: other)) := by
  have moved (offset : Nat) (text : Bytes)
      : (Token.begun offset (byte '"') (body ++ byte '"' :: text)).Moved offset
          (.string (.ofQuoted 0 (body ++ [byte '"']))) :=
    .string (Lexeme.ofQuoted_moved inside offset text)
  refine begun (by decide) (fun offset => moved offset rest) (fun offset => moved offset other) ?_
  intro stop found
  obtain ⟨passes, rfl⟩ := Lexeme.stop?_eq_some.mp found
  have passable :=
    (Lexeme.passing_ofQuoted inside 0 []).mp (Outcome.toOption_eq_some.mpr passes)
  rw [Lexeme.ofQuoted_passable passable]
  simpa using same

/-- Runs that are broken off have the same tokens, by recursion on what the first one leaves
of the run.
-/
theorem run (breaks : Breaks rest) (breaks' : Breaks other) (same : SameTokens rest other)
    (run : Bytes) (inner : ∀ b ∈ run, b ∉ outer)
    : SameTokens (run ++ rest) (run ++ other) := by
  match run, inner with
  | [], _ => exact same
  | b :: run, inner =>
      refine begun (isSpace_eq_false_of_inner (inner b List.mem_cons_self))
        (Token.begun_moved inner breaks) (Token.begun_moved inner breaks') ?_
      intro stop found
      obtain ⟨size, rfl, within⟩ := Token.stop_begun inner found
      have left := SameTokens.run breaks breaks' same (run.drop size) fun c member =>
        inner c (List.mem_cons_of_mem b (List.mem_of_mem_drop member))
      rw [← List.drop_append_of_le_length within, ← List.drop_append_of_le_length within] at left
      exact left
termination_by run.length
decreasing_by
  simp only [List.length_drop, List.length_cons]
  omega

end SameTokens

-----------------------------------------------------------------------------------------
-- White space between pieces
-----------------------------------------------------------------------------------------

/-- A piece does not take notice of what follows it, unless this begins within a run. -/
theorem Piece.sameTokens {piece rest other : Bytes} (leads : Piece piece rest)
    (breaks : Breaks rest → Breaks other) (same : SameTokens rest other)
    : SameTokens (piece ++ rest) (piece ++ other) := by
  cases leads with
  | space space => exact same.space space
  | mark mark => exact same.mark mark
  | quoted inside => simpa using same.quoted inside
  | run filled inner ended => exact same.run ended (breaks ended) piece inner

theorem Piece.ne_nil {piece rest : Bytes} (leads : Piece piece rest) : piece ≠ [] := by
  cases leads with
  | run filled inner ended => exact filled
  | space | mark | quoted => simp

/-- White space does not let a run go on that the next piece breaks off. -/
theorem Spaced.breaks {text other : Bytes} {pieces : List Bytes} (spaced : Spaced pieces other)
    (split : Pieces text pieces) (breaks : Breaks text)
    : Breaks other := by
  cases spaced with
  | nil => exact fun b first => nomatch first
  | space space more =>
      intro b first
      obtain rfl := Option.some.inj first
      exact mem_outer_of_isSpace space
  | piece more =>
      cases split with
      | cons leads rest =>
          obtain ⟨b, tail, rfl⟩ := List.exists_cons_of_ne_nil leads.ne_nil
          exact fun c first => breaks c first

/-- White space around the pieces of a text makes no difference to its tokens, by induction on
the pieces and the white space.
-/
theorem Spaced.sameTokens {text other : Bytes} {pieces : List Bytes}
    (spaced : Spaced pieces other) (split : Pieces text pieces)
    : SameTokens text other := by
  induction spaced generalizing text with
  | nil =>
      cases split
      exact .nil
  | space space more ih => exact (ih split).space_right space
  | piece more ih =>
      cases split with
      | cons leads rest => exact leads.sameTokens (more.breaks rest) (ih rest)

end TaggedConfig.Json
