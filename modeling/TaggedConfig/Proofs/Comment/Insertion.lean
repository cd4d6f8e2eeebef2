import Mathlib
import TaggedConfig.Proofs.Comment.Blanking
import TaggedConfig.Proofs.Json.PieceTokens

/-! Comments that are put between the pieces of a JSON text and blanked again.
What is left of them is white space between the pieces, of which decoding takes no notice.
-/

namespace TaggedConfig.Comment

open Json (Piece Pieces Spaced decode decodeAs tokens starts)

/-- The pieces in order with any comments before, between and after them. A line comment ends
with its newline, or with the document if it is the last.
-/
inductive Commented : List Bytes → Bytes → Prop
  | nil : Commented [] []
  | piece {piece pieces text} (more : Commented pieces text)
    : Commented (piece :: pieces) (piece ++ text)
  | line {body pieces text} (inside : byte '\n' ∉ body) (more : Commented pieces text)
    : Commented pieces (byte '/' :: byte '/' :: (body ++ byte '\n' :: text))
  | lastLine {body} (inside : byte '\n' ∉ body) : Commented [] (byte '/' :: byte '/' :: body)
  | block {body pieces text} (inside : ¬ blockClose <:+: body) (more : Commented pieces text)
    : Commented pieces (byte '/' :: byte '*' :: (body ++ (blockClose ++ text)))

-----------------------------------------------------------------------------------------
-- Blanking of pieces
-----------------------------------------------------------------------------------------

/-- Bytes that begin neither strings nor comments stay. -/
theorem blank_append_of_plain {bytes : Bytes}
    (plain : ∀ b ∈ bytes, b ≠ byte '"' ∧ b ≠ byte '/') (rest : Bytes)
    : blank (bytes ++ rest) = bytes ++ blank rest := by
  induction bytes with
  | nil => rfl
  | cons b bytes ih =>
      rw [List.forall_mem_cons] at plain
      rw [List.cons_append, blank,
        blankFrom_plain_other plain.1.1 fun slash => absurd slash plain.1.2]
      exact congrArg (b :: ·) (ih plain.2)

theorem blank_space_append {b : UInt8} (space : Json.isSpace b) (rest : Bytes)
    : blank (b :: rest) = b :: blank rest := by
  have plain : b ≠ byte '"' ∧ b ≠ byte '/' := by
    constructor <;> (rintro rfl; exact absurd space (by decide))
  exact @blank_append_of_plain [b] (by simpa using plain) rest

/-- A piece stays whatever follows it. -/
theorem blank_piece_append {piece rest : Bytes} (leads : Piece piece rest) (other : Bytes)
    : blank (piece ++ other) = piece ++ blank other := by
  cases leads with
  | space space => exact blank_space_append space other
  | @mark b _ mark =>
      have plain : b ≠ byte '"' ∧ b ≠ byte '/' := by
        constructor <;> (rintro rfl; exact absurd mark (by decide))
      exact blank_append_of_plain (by simpa using plain) other
  | @quoted body _ inside =>
      simp [blank, blankFrom_plain_quote, blankFrom_quotedBody inside, blankFrom_quoted_quote]
  | run filled inner ended =>
      refine blank_append_of_plain (fun b member => ?_) other
      constructor <;> (rintro rfl; exact inner _ member (by decide))

/-- A sequence of pieces has no comments. -/
theorem blank_eq_self {text : Bytes} {pieces : List Bytes} (split : Pieces text pieces)
    : blank text = text := by
  induction split with
  | nil => rfl
  | cons leads more ih => rw [blank_piece_append leads, ih]

-----------------------------------------------------------------------------------------
-- Blanking of comments between pieces
-----------------------------------------------------------------------------------------

theorem spaced_replicate {pieces : List Bytes} {text : Bytes} (count : Nat)
    (spaced : Spaced pieces text)
    : Spaced pieces (List.replicate count blankByte ++ text) := by
  induction count with
  | zero => exact spaced
  | succ count ih => exact .space (by decide) ih

/-- Blanked comments are white space between the pieces, by induction on the pieces and
comments.
-/
theorem Commented.spaced {text commented : Bytes} {pieces : List Bytes}
    (inserted : Commented pieces commented) (split : Pieces text pieces)
    : Spaced pieces (blank commented) := by
  induction inserted generalizing text with
  | nil => exact .nil
  | piece more ih =>
      cases split with
      | cons leads rest =>
          rw [blank_piece_append leads]
          exact .piece (ih rest)
  | @line body pieces rest inside more ih =>
      have leads : Token.Leads ⟨.line, byte '/' :: byte '/' :: body⟩ (byte '\n' :: rest) :=
        .line inside (Or.inr rfl)
      have blanked := leads.blank
      rw [blank_space_append (by decide)] at blanked
      simp only [List.cons_append] at blanked
      rw [blanked]
      exact spaced_replicate _ (.space (by decide) (ih split))
  | @lastLine body inside =>
      have leads : Token.Leads ⟨.line, byte '/' :: byte '/' :: body⟩ [] :=
        .line inside (Or.inl rfl)
      have blanked := leads.blank
      rw [List.append_nil] at blanked
      rw [blanked]
      exact spaced_replicate _ .nil
  | @block body pieces rest inside more ih =>
      have leads
          : Token.Leads ⟨.block, byte '/' :: byte '*' :: (body ++ blockClose)⟩ rest :=
        .block inside (Or.inl rfl)
      have blanked := leads.blank
      simp only [List.cons_append, List.append_assoc] at blanked
      rw [blanked]
      exact spaced_replicate _ (ih split)

/-- A text that has a value, or at least tokens that are all well formed, is a sequence of
pieces, and if it has a value, its tokens start where the pieces that are no white space do.
Every sequence of pieces stays as it is when its comments are blanked. With comments before,
between and after its pieces, it holds after blanking what it held without them, both as any
value and by every shape.
-/
theorem comments_invisible (text : Bytes)
    : ((∃ value, decode text = .ok value) ∨ (∀ token ∈ tokens text, token.Usable)
        → ∃ pieces, Pieces text pieces)
      ∧ ∀ pieces,
          Pieces text pieces
          → blank text = text
            ∧ ((∃ value, decode text = .ok value)
                → (tokens text).map Json.Token.start = starts 0 pieces)
            ∧ ∀ commented,
                Commented pieces commented
                → (∀ value, decode (blank commented) = .ok value ↔ decode text = .ok value)
                  ∧ ∀ shape datum,
                      decodeAs shape (blank commented) = .ok datum
                      ↔ decodeAs shape text = .ok datum := by
  refine ⟨fun valid => ?_, fun pieces split => ⟨blank_eq_self split, ?_, ?_⟩⟩
  · have usable : ∀ token ∈ tokens text, token.Usable :=
      valid.elim (fun ⟨_, known⟩ => Json.usable_of_decode known) id
    exact Json.exists_pieces usable
  · rintro ⟨value, known⟩
    exact split.starts_eq_of_decode known
  · intro commented inserted
    have same := (inserted.spaced split).sameTokens split 0 0
    obtain ⟨values, data⟩ := Json.decode_eq_of_placeless same
    refine ⟨fun value => ?_, fun shape datum => ?_⟩
    · rw [← Outcome.toOption_eq_some, ← Outcome.toOption_eq_some, values]
    · rw [← Outcome.toOption_eq_some, ← Outcome.toOption_eq_some, data]

/-- Comments may hold what looks like JSON, and a string what looks like a comment. -/
theorem comments_invisible_array
    : decode (ascii "[true,\"//\"]") = .ok (.array [.bool true, .string "//"])
      ∧ decode (blank (ascii "/*[*/[true//,\n,\"//\"/**/]//]"))
        = .ok (.array [.bool true, .string "//"]) := by
  have known : decode (ascii "[true,\"//\"]") = .ok (.array [.bool true, .string "//"]) := by cbv
  have mark {b : UInt8} (mark : (Json.Mark.ofByte? b).isSome) {rest : Bytes} : Piece [b] rest :=
    .mark mark
  have word {b : UInt8} (outside : b ∈ Json.outer) {rest : Bytes}
      : Piece (ascii "true") (b :: rest) :=
    .run (by decide) (by decide +kernel) fun _ first => Option.some.inj first ▸ outside
  have string {rest : Bytes} : Piece (byte '"' :: (ascii "//" ++ [byte '"'])) rest :=
    .quoted (.plain (by decide) (by decide) (.plain (by decide) (by decide) .nil))
  have split
      : Pieces (ascii "[true,\"//\"]")
          [[byte '['], ascii "true", [byte ','], byte '"' :: (ascii "//" ++ [byte '"']),
            [byte ']']] :=
    .cons (mark (by decide)) <| .cons (word (by decide)) <| .cons (mark (by decide)) <|
      .cons string <| .cons (mark (by decide)) .nil
  have inserted
      : Commented
          [[byte '['], ascii "true", [byte ','], byte '"' :: (ascii "//" ++ [byte '"']),
            [byte ']']]
          (ascii "/*[*/[true//,\n,\"//\"/**/]//]") :=
    @Commented.block (ascii "[") _ _ (by decide) <| .piece <| .piece <|
      @Commented.line (ascii ",") _ _ (by decide) <| .piece <| .piece <|
      @Commented.block [] _ _ (by decide) <| .piece <| @Commented.lastLine (ascii "]") (by decide)
  obtain ⟨-, invisible⟩ := comments_invisible (ascii "[true,\"//\"]")
  obtain ⟨-, -, hidden⟩ := invisible _ split
  exact ⟨known, ((hidden _ inserted).1 _).mpr known⟩

end TaggedConfig.Comment
