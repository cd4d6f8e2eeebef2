import TaggedConfig.Proofs.Json.Alignment
import TaggedConfig.Proofs.Tag.Filling

/-! Strings of a JSON text with values in the place of tags.
The bytes of the string with the values in it read as its pieces do, with the values between
them.
-/

namespace TaggedConfig

open Json.Quoted (Reads)

/-- What a part of a string reads as when it stands between quotes of its own. -/
def readPiece (piece : Bytes) : Except Json.Fault String :=
  (Json.Quoted.read 0 (piece ++ [byte '"'])).map (·.1)

/-- The text of a string with tags: what each piece reads as, then the value of the tag after
it, and so on to the last piece.
-/
def spell (value : Bytes → String) (last : Bytes) : List Segment → Except Json.Fault String
  | [] => readPiece last
  | segment :: segments => do
      let piece ← readPiece segment.literal
      let others ← spell value last segments
      pure (piece ++ (value segment.content ++ others))

namespace Segmentation

/-- The text of the string that the segments are, with the value of each tag in its place. -/
def text (value : Bytes → String) (segmentation : Segmentation) : Except Json.Fault String :=
  spell value segmentation.rest segmentation.segments

end Segmentation

theorem readPiece_eq_ok {piece : Bytes} {text : String} (reads : Reads piece text)
    : readPiece piece = .ok text := by
  rw [readPiece, reads.read]
  rfl

/-- What reads between quotes of its own, up to the second of them, reads so anywhere. -/
theorem reads_of_piece {piece : Bytes} {text : String}
    (h : Json.Quoted.read 0 (piece ++ [byte '"']) = .ok (text, piece.length + 1))
    : Reads piece text := by
  obtain ⟨body, rest, same, stop, reads⟩ := Json.Quoted.read_eq_ok h
  obtain ⟨rfl, -⟩ := List.append_inj same (by omega)
  exact reads

/-- With readable pieces and values, the filled string reads as its text, by induction on the
tags.
-/
theorem reads_fill {value : Bytes → Bytes} {text : Bytes → String} {last : Bytes}
    {lastText : String} (lastReads : Reads last lastText) {segments : List Segment}
    (pieces : ∀ segment ∈ segments, ∃ piece, Reads segment.literal piece)
    (values : ∀ segment ∈ segments, Reads (value segment.content) (text segment.content))
    (unclosed : Bool)
    : ∃ filled,
        spell text last segments = .ok filled
        ∧ Reads (Segmentation.fill value ⟨segments, last, unclosed⟩) filled := by
  induction segments with
  | nil => exact ⟨lastText, readPiece_eq_ok lastReads, lastReads⟩
  | cons segment segments ih =>
      simp only [List.forall_mem_cons] at pieces values
      obtain ⟨piece, pieceReads⟩ := pieces.1
      obtain ⟨others, spelled, othersRead⟩ := ih pieces.2 values.2
      refine ⟨piece ++ (text segment.content ++ others), ?_, ?_⟩
      · simp [spell, readPiece_eq_ok pieceReads, spelled]
      · have whole := pieceReads.append (values.1.append othersRead)
        simpa [Segmentation.fill] using whole

/-- A string with values in the place of its tags says its text, whether or not it has tags. -/
theorem refills_fill {value : Bytes → Bytes} {text : Bytes → String} {body : Bytes}
    (closed : (Segmentation.ofBytes body).unclosed = false)
    (pieces
      : (Segmentation.ofBytes body).segments ≠ [] →
          ∀ piece ∈ (Segmentation.ofBytes body).pieces, ∃ said, Reads piece said)
    (values
      : ∀ segment ∈ (Segmentation.ofBytes body).segments,
          Reads (value segment.content) (text segment.content))
    : Json.Refills (fun body => (Segmentation.ofBytes body).text text) body
        ((Segmentation.ofBytes body).fill value) := by
  obtain ⟨tail, whole, complete, -⟩ := Segmentation.bytes_ofBytes body
  obtain rfl := complete closed
  rcases tags : Segmentation.ofBytes body with ⟨segments, last, unclosed⟩
  simp only [tags] at closed pieces values whole
  cases segments with
  | nil =>
      obtain rfl : body = last := by simpa using whole
      refine ⟨id, id, fun said reads => ⟨said, ?_, reads⟩⟩
      simp [tags, Segmentation.text, spell, readPiece_eq_ok reads]
  | cons segment segments =>
      have pieces := pieces (by simp)
      simp only [Segmentation.pieces, List.mem_append, List.mem_map, List.mem_singleton] at pieces
      obtain ⟨lastText, lastReads⟩ := pieces last (Or.inr rfl)
      obtain ⟨filled, spelled, reads⟩ :=
        reads_fill lastReads (fun segment member => pieces _ (Or.inl ⟨segment, member, rfl⟩))
          values unclosed
      have said : (Segmentation.ofBytes body).text text = .ok filled := by
        rw [tags]
        exact spelled
      exact ⟨fun _ => reads.passable.quoted, fun _ => reads.passable,
        fun _ _ => ⟨filled, said, reads⟩⟩

end TaggedConfig
