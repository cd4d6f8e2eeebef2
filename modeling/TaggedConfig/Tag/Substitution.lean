import TaggedConfig.Tag.Cursor

/-! Replacement of every tag of a buffer, in place and from left to right.
The bytes after the cursor lose a whole tag at each step, however long its replacement is.
-/

namespace TaggedConfig

namespace Tag

/-- A closing brace lies within the bytes searched, by recursion on them. -/
theorem closing?_bounds {openTags offset stop : Nat} {bytes : Bytes}
    (h : closing? openTags offset bytes = some stop)
    : offset ≤ stop ∧ stop < offset + bytes.length := by
  induction bytes generalizing openTags offset with
  | nil => simp [closing?] at h
  | cons b rest ih =>
      have widen {depth : Nat} (found : closing? depth (offset + 1) rest = some stop)
          : offset ≤ stop ∧ stop < offset + (rest.length + 1) := by
        have := ih found
        omega
      rw [closing?.eq_def] at h
      dsimp only at h
      split at h
      · split at h
        · simp only [Option.some.injEq] at h
          simp only [List.length_cons]
          omega
        · exact widen h
      · split at h <;> exact widen h

end Tag

namespace Cursor

/-- An opening is found at or after the offset of the first byte, by recursion. -/
theorem firstOpening?_offset_le {offset start : Nat} {kind : Tag.Kind} {bytes : Bytes}
    (h : firstOpening? offset bytes = some (start, kind))
    : offset ≤ start := by
  induction bytes generalizing offset with
  | nil => simp [firstOpening?] at h
  | cons b rest ih =>
      unfold firstOpening? at h
      split at h
      · split at h
        · contradiction
        · simp only [Option.some.injEq, Prod.mk.injEq] at h
          omega
      · have := ih h
        omega

/-- A found tag starts at or after the cursor and ends within the buffer, by the bounds of
its opening and of its closing brace.
-/
theorem search_bounds {cursor : Cursor} {tag : Tag} (h : cursor.search = .tag tag)
    : cursor.position ≤ tag.start ∧ tag.stop ≤ cursor.data.length := by
  unfold search at h
  split at h
  · contradiction
  · rename_i start kind opening
    dsimp only at h
    split at h
    · contradiction
    · rename_i stop closing
      have first := firstOpening?_offset_le opening
      have last := Tag.closing?_bounds closing
      simp only [Outcome.tag.injEq] at h
      subst h
      simp only [List.length_drop] at last
      simp only [Tag.stop, Tag.contentStop, Tag.contentStart]
      omega

/-- A splice of a found tag takes at least an opening and a brace from the bytes to search,
since the replacement lies before the cursor.
-/
theorem remaining_splice_add_le {cursor : Cursor} {tag : Tag} (h : cursor.search = .tag tag)
    (replacement : Bytes)
    : (cursor.splice tag replacement).remaining + (Tag.openingSize + 1)
      ≤ cursor.remaining := by
  have bounds := search_bounds h
  simp only [Tag.stop, Tag.contentStop, Tag.contentStart] at bounds
  simp only [splice, remaining, Tag.stop, Tag.contentStop, Tag.contentStart,
    List.length_append, List.length_take, List.length_drop]
  omega

/-- Replaces each tag at or after the cursor by what `replace` makes of its kind and
content, and gives the whole buffer. An opening without its brace fails with `unclosed`.
-/
def substitute {m : Type → Type} [Monad m] {ε : Type} (unclosed : Nat → ε)
    (replace : Tag.Kind → Bytes → ExceptT ε m Bytes) (cursor : Cursor)
    : ExceptT ε m Bytes :=
  match _found : cursor.search with
  | .exhausted => pure cursor.data
  | .unclosed offset => throw (unclosed offset)
  | .tag tag => do
      let replacement ← replace tag.kind (tag.content cursor.data)
      substitute unclosed replace (cursor.splice tag replacement)
termination_by cursor.remaining
decreasing_by
  have := remaining_splice_add_le _found replacement
  omega

end Cursor

end TaggedConfig
