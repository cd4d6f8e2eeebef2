import TaggedConfig.Tag.Substitution

/-! A buffer as the tags it holds and the bytes between them, with nothing replaced.
Replacement in place gives the segments in order, each tag with its replacement: what comes
before the cursor never matters to the bytes after it.
-/

namespace TaggedConfig

/-- A tag with the bytes between the tag before it, or the start of the buffer, and itself. -/
structure Segment where
  literal : Bytes
  kind : Tag.Kind
  content : Bytes
  deriving DecidableEq, Repr

/-- The segments of a buffer and what follows its last tag. -/
structure Segmentation where
  segments : List Segment
  /-- The bytes after the last tag, up to an opening that no brace closes. -/
  rest : Bytes
  /-- Whether there is such an opening. -/
  unclosed : Bool
  deriving DecidableEq, Repr

namespace Cursor

/-- The segments that searching finds at or after the cursor. The buffer stays as it is. -/
def segmentation (cursor : Cursor) : Segmentation :=
  match _found : cursor.search with
  | .exhausted => ⟨[], cursor.data.drop cursor.position, false⟩
  | .unclosed offset =>
      ⟨[], (cursor.data.drop cursor.position).take (offset - cursor.position), true⟩
  | .tag tag =>
      let literal := (cursor.data.drop cursor.position).take (tag.start - cursor.position)
      let later := cursor.advance.segmentation
      { later with
        segments := ⟨literal, tag.kind, tag.content cursor.data⟩ :: later.segments }
termination_by cursor.remaining
decreasing_by
  have bounds := search_bounds _found
  simp only [Tag.stop, Tag.contentStop, Tag.contentStart] at bounds
  simp only [remaining, advance, _found, Tag.stop, Tag.contentStop, Tag.contentStart]
  omega

end Cursor

/-- The bytes with which a tag of a kind opens. -/
def Tag.Kind.opening (kind : Tag.Kind) : Bytes :=
  byte '$' :: byte '{' :: (ascii kind.keyword ++ [byte ':'])

theorem Tag.Kind.length_opening (kind : Tag.Kind) : kind.opening.length = Tag.openingSize := by
  cases kind <;> rfl

/-- The bytes of a segment: its literal bytes, then its tag. -/
def Segment.bytes (segment : Segment) : Bytes :=
  segment.literal ++ (segment.kind.opening ++ (segment.content ++ [byte '}']))

namespace Segmentation

/-- The segments of a whole buffer. -/
def ofBytes (data : Bytes) : Segmentation := (Cursor.ofBytes data).segmentation

/-- The bytes of the segments with each tag replaced, after some bytes that are there
already. An opening that no brace closes fails with the number of bytes before it.
-/
def assembleAfter {m : Type → Type} [Monad m] {ε : Type} (before : Bytes)
    (unclosed : Nat → ε) (replace : Tag.Kind → Bytes → ExceptT ε m Bytes)
    (segmentation : Segmentation)
    : ExceptT ε m Bytes := do
  let parts ← segmentation.segments.mapM fun segment => do
    let replacement ← replace segment.kind segment.content
    pure (segment.literal ++ replacement)
  let output := before ++ parts.flatten ++ segmentation.rest
  if segmentation.unclosed then throw (unclosed output.length) else pure output

/-- The literal bytes of a buffer in order, with what each tag is replaced by between them.
Tags are replaced from left to right, and the first failure ends the work.
-/
def assemble {m : Type → Type} [Monad m] {ε : Type} (unclosed : Nat → ε)
    (replace : Tag.Kind → Bytes → ExceptT ε m Bytes) (segmentation : Segmentation)
    : ExceptT ε m Bytes :=
  segmentation.assembleAfter [] unclosed replace

end Segmentation

-----------------------------------------------------------------------------------------
-- A search sees the bytes from the cursor on and nothing else
-----------------------------------------------------------------------------------------

/-- Offsets only shift where a closing brace is found, by recursion on the bytes. -/
theorem Tag.closing?_add (openTags offset shift : Nat) (bytes : Bytes)
    : closing? openTags (offset + shift) bytes
      = (closing? openTags offset bytes).map (· + shift) := by
  induction bytes generalizing openTags offset with
  | nil => rfl
  | cons b rest ih =>
      have next (depth : Nat)
          : closing? depth (offset + shift + 1) rest
            = (closing? depth (offset + 1) rest).map (· + shift) := by
        rw [show offset + shift + 1 = offset + 1 + shift by omega, ih]
      unfold closing?
      split
      · cases openTags with
        | zero => rfl
        | succ openTags => exact next openTags
      · split
        · exact next (openTags + 1)
        · exact next openTags

/-- The same tag with more bytes before it. -/
def Tag.shift (shift : Nat) (tag : Tag) : Tag := { tag with start := tag.start + shift }

theorem Tag.stop_shift (shift : Nat) (tag : Tag) : (tag.shift shift).stop = shift + tag.stop := by
  simp only [Tag.stop, Tag.contentStop, Tag.contentStart, Tag.shift]
  omega

/-- The content of a tag does not depend on the bytes before the buffer. -/
theorem Tag.content_shift (before data : Bytes) (tag : Tag)
    : (tag.shift before.length).content (before ++ data) = tag.content data := by
  have place : (tag.shift before.length).contentStart = before.length + tag.contentStart := by
    simp only [Tag.contentStart, Tag.shift]
    omega
  rw [Tag.content, place, ← List.drop_drop, List.drop_left, Tag.content]
  rfl

/-- The bytes that open a tag are those of its kind. -/
theorem Tag.opening?_eq_some {bytes : Bytes} {kind : Tag.Kind} (h : opening? bytes = some kind)
    : ∃ rest, bytes = kind.opening ++ rest := by
  unfold opening? at h
  split at h
  · rename_i dollar brace a b c colon rest
    split at h
    · rename_i marks
      obtain ⟨rfl, rfl, rfl⟩ := marks
      split at h
      · rename_i letters
        obtain rfl : Kind.source = kind := by simpa using h
        exact ⟨rest, by simp [Kind.opening, Kind.keyword, ← letters]⟩
      · split at h
        · rename_i letters
          obtain rfl : Kind.variable = kind := by simpa using h
          exact ⟨rest, by simp [Kind.opening, Kind.keyword, ← letters]⟩
        · contradiction
    · contradiction
  · contradiction

/-- The offset of a closing brace is that of a brace, by recursion on the bytes. -/
theorem Tag.closing?_brace {openTags offset stop : Nat} {bytes : Bytes}
    (h : closing? openTags offset bytes = some stop)
    : ∃ rest, bytes.drop (stop - offset) = byte '}' :: rest := by
  induction bytes generalizing openTags offset with
  | nil => simp [closing?] at h
  | cons b rest ih =>
      have later {depth : Nat} (found : closing? depth (offset + 1) rest = some stop)
          : ∃ tail, (b :: rest).drop (stop - offset) = byte '}' :: tail := by
        have bounds := closing?_bounds found
        rw [show stop - offset = stop - (offset + 1) + 1 by omega, List.drop_succ_cons]
        exact ih found
      rw [closing?.eq_def] at h
      dsimp only at h
      split at h
      · rename_i brace
        split at h
        · simp only [Option.some.injEq] at h
          exact ⟨rest, by simp [← h, brace]⟩
        · exact later h
      · split at h <;> exact later h

namespace Cursor

/-- Offsets only shift where an opening is found, by recursion on the bytes. -/
theorem firstOpening?_add (offset shift : Nat) (bytes : Bytes)
    : firstOpening? (offset + shift) bytes
      = (firstOpening? offset bytes).map fun (start, kind) => (start + shift, kind) := by
  induction bytes generalizing offset with
  | nil => rfl
  | cons b rest ih =>
      unfold firstOpening?
      split
      · split <;> rfl
      · rw [show offset + shift + 1 = offset + 1 + shift by omega, ih]

/-- An opening is followed by at least one byte, by recursion on the bytes. -/
theorem firstOpening?_add_lt {offset start : Nat} {kind : Tag.Kind} {bytes : Bytes}
    (h : firstOpening? offset bytes = some (start, kind))
    : start + Tag.openingSize < offset + bytes.length := by
  induction bytes generalizing offset with
  | nil => simp [firstOpening?] at h
  | cons b rest ih =>
      unfold firstOpening? at h
      split at h
      · split at h
        · contradiction
        · rename_i more
          simp only [Option.some.injEq, Prod.mk.injEq] at h
          simp only [List.isEmpty_iff, List.drop_eq_nil_iff, Tag.openingSize] at more
          simp only [List.length_cons, Tag.openingSize]
          omega
      · have later := ih h
        simp only [List.length_cons]
        omega

/-- An opening that no brace closes lies within the buffer. -/
theorem search_unclosed_lt {cursor : Cursor} {offset : Nat}
    (h : cursor.search = .unclosed offset)
    : offset < cursor.data.length := by
  unfold search at h
  split at h
  · contradiction
  · rename_i start kind opening
    dsimp only at h
    split at h
    · have bound := firstOpening?_add_lt opening
      have after := firstOpening?_offset_le opening
      simp only [Outcome.unclosed.injEq] at h
      simp only [List.length_drop] at bound
      omega
    · contradiction

/-- An opening that is found begins with the bytes of its kind, by recursion. -/
theorem firstOpening?_opening {offset start : Nat} {kind : Tag.Kind} {bytes : Bytes}
    (h : firstOpening? offset bytes = some (start, kind))
    : Tag.opening? (bytes.drop (start - offset)) = some kind := by
  induction bytes generalizing offset with
  | nil => simp [firstOpening?] at h
  | cons b rest ih =>
      unfold firstOpening? at h
      split at h
      · rename_i opening
        split at h
        · contradiction
        · simp only [Option.some.injEq, Prod.mk.injEq] at h
          simpa [← h.1, ← h.2] using opening
      · have after := firstOpening?_offset_le h
        rw [show start - offset = start - (offset + 1) + 1 by omega, List.drop_succ_cons]
        exact ih h

/-- An opening that no brace closes is one. -/
theorem search_unclosed_opening {data : Bytes} {offset : Nat}
    (h : (ofBytes data).search = .unclosed offset)
    : (Tag.opening? (data.drop offset)).isSome := by
  unfold search at h
  split at h
  · contradiction
  · rename_i start kind opening
    dsimp only at h
    split at h
    · have opens := firstOpening?_opening opening
      simp only [Outcome.unclosed.injEq] at h
      subst h
      simp only [ofBytes, List.drop_zero, Nat.sub_zero] at opens
      simp [opens]
    · contradiction

/-- A tag that is found is its opening, its content and its brace, with all other bytes
before and after it.
-/
theorem search_tag_bytes {data : Bytes} {tag : Tag} (h : (ofBytes data).search = .tag tag)
    : data
      = data.take tag.start
        ++ (tag.kind.opening ++ (tag.content data ++ byte '}' :: data.drop tag.stop)) := by
  unfold search at h
  split at h
  · contradiction
  · rename_i start kind opening
    dsimp only at h
    split at h
    · contradiction
    · rename_i stop closing
      simp only [Outcome.tag.injEq] at h
      subst h
      obtain ⟨rest, opened⟩ := Tag.opening?_eq_some (firstOpening?_opening opening)
      obtain ⟨tail, closed⟩ := Tag.closing?_brace closing
      simp only [ofBytes, List.drop_zero, Nat.sub_zero] at opened closed
      have after : data.drop (start + Tag.openingSize) = rest := by
        rw [← List.drop_drop, opened, ← kind.length_opening, List.drop_left]
      have place : start + Tag.openingSize + (stop - (start + Tag.openingSize)) = stop :=
        Nat.add_sub_cancel' (Tag.closing?_bounds closing).1
      have beyond : data.drop (stop + 1) = tail := by
        rw [← place, ← List.drop_drop, ← List.drop_drop, closed, List.drop_one, List.tail_cons]
      rw [after] at closed
      have content : rest = rest.take (stop - (start + Tag.openingSize)) ++ byte '}' :: tail := by
        rw [← closed, List.take_append_drop]
      simp only [Tag.content, Tag.stop, Tag.contentStop, Tag.contentStart, after, place, beyond]
      rw [← content, ← opened, List.take_append_drop]

/-- The outcome of the same search with more bytes before the cursor. -/
def Outcome.shift (shift : Nat) : Outcome → Outcome
  | .tag found => .tag (found.shift shift)
  | .exhausted => .exhausted
  | .unclosed offset => .unclosed (offset + shift)

/-- Bytes before the cursor only shift what a search finds. -/
theorem search_append (before suffix : Bytes)
    : (⟨before ++ suffix, before.length⟩ : Cursor).search
      = (ofBytes suffix).search.shift before.length := by
  have opening := firstOpening?_add 0 before.length suffix
  rw [Nat.zero_add] at opening
  simp only [search, ofBytes, List.drop_left, opening, List.drop_zero]
  cases firstOpening? 0 suffix with
  | none => rfl
  | some found =>
      obtain ⟨start, kind⟩ := found
      have place : start + before.length + Tag.openingSize
          = start + Tag.openingSize + before.length := by omega
      have dropped : (before ++ suffix).drop (start + Tag.openingSize + before.length)
          = suffix.drop (start + Tag.openingSize) := by
        rw [Nat.add_comm _ before.length, ← List.drop_drop, List.drop_left]
      have closing := Tag.closing?_add 0 (start + Tag.openingSize) before.length
        (suffix.drop (start + Tag.openingSize))
      simp only [Option.map_some, place, dropped, closing]
      cases Tag.closing? 0 (start + Tag.openingSize)
        (suffix.drop (start + Tag.openingSize)) with
      | none => rfl
      | some stop =>
          simp only [Option.map_some, Outcome.shift, Tag.shift, Outcome.tag.injEq,
            Tag.mk.injEq, true_and]
          omega

-----------------------------------------------------------------------------------------
-- The segments of a buffer, tag by tag
-----------------------------------------------------------------------------------------

theorem segmentation_exhausted {cursor : Cursor} (h : cursor.search = .exhausted)
    : cursor.segmentation = ⟨[], cursor.data.drop cursor.position, false⟩ := by
  rw [segmentation]
  split <;> simp_all

theorem segmentation_unclosed {cursor : Cursor} {offset : Nat}
    (h : cursor.search = .unclosed offset)
    : cursor.segmentation
      = ⟨[], (cursor.data.drop cursor.position).take (offset - cursor.position), true⟩ := by
  rw [segmentation]
  split <;> simp_all

theorem segmentation_tag {cursor : Cursor} {tag : Tag} (h : cursor.search = .tag tag)
    : cursor.segmentation
      = { cursor.advance.segmentation with
          segments :=
            ⟨(cursor.data.drop cursor.position).take (tag.start - cursor.position), tag.kind,
              tag.content cursor.data⟩
            :: cursor.advance.segmentation.segments } := by
  rw [segmentation]
  split <;> simp_all

theorem advance_tag {cursor : Cursor} {tag : Tag} (h : cursor.search = .tag tag)
    : cursor.advance = ⟨cursor.data, tag.stop⟩ := by
  simp only [advance, h]

/-- After a tag fewer bytes are left to search. -/
theorem remaining_advance_lt {cursor : Cursor} {tag : Tag} (h : cursor.search = .tag tag)
    : cursor.advance.remaining < cursor.remaining := by
  have bounds := search_bounds h
  rw [advance_tag h]
  simp only [remaining, Tag.stop, Tag.contentStop, Tag.contentStart] at bounds ⊢
  omega

/-- The segments after the cursor do not depend on the bytes before it, by recursion on the
bytes after it: the tag that is found first is the same, and so are those after it.
-/
theorem segmentation_append (before suffix : Bytes)
    : (⟨before ++ suffix, before.length⟩ : Cursor).segmentation
      = Segmentation.ofBytes suffix := by
  have shifted := search_append before suffix
  cases found : (ofBytes suffix).search with
  | exhausted =>
      rw [found] at shifted
      rw [segmentation_exhausted shifted, Segmentation.ofBytes, segmentation_exhausted found]
      simp [ofBytes]
  | unclosed offset =>
      rw [found] at shifted
      rw [segmentation_unclosed shifted, Segmentation.ofBytes, segmentation_unclosed found]
      simp [ofBytes]
  | tag tag =>
      rw [found] at shifted
      have bounds := search_bounds found
      have stopLe : tag.stop ≤ suffix.length := bounds.2
      have shorter : suffix.length - tag.stop < suffix.length := by
        have positive : 0 < tag.stop := Nat.succ_pos _
        omega
      have later (start : Bytes)
          : (⟨start ++ suffix, start.length + tag.stop⟩ : Cursor).segmentation
            = Segmentation.ofBytes (suffix.drop tag.stop) := by
        have advanced := segmentation_append (start ++ suffix.take tag.stop)
          (suffix.drop tag.stop)
        rwa [List.append_assoc, List.take_append_drop, List.length_append, List.length_take,
          Nat.min_eq_left stopLe] at advanced
      have first := later []
      rw [List.length_nil, Nat.zero_add] at first
      rw [segmentation_tag shifted, Segmentation.ofBytes, segmentation_tag found,
        advance_tag shifted, advance_tag found, Tag.stop_shift, Tag.content_shift, later before]
      simp only [ofBytes, List.nil_append] at first ⊢
      simp [first, Tag.shift]
termination_by suffix.length

end Cursor

namespace Segmentation

open Cursor

theorem ofBytes_exhausted {data : Bytes} (h : (Cursor.ofBytes data).search = .exhausted)
    : ofBytes data = ⟨[], data, false⟩ :=
  segmentation_exhausted h

theorem ofBytes_unclosed {data : Bytes} {offset : Nat}
    (h : (Cursor.ofBytes data).search = .unclosed offset)
    : ofBytes data = ⟨[], data.take offset, true⟩ :=
  segmentation_unclosed h

/-- The segments of a buffer are its first tag and the segments of what follows it. -/
theorem ofBytes_tag {data : Bytes} {tag : Tag}
    (h : (Cursor.ofBytes data).search = .tag tag)
    : ofBytes data
      = { ofBytes (data.drop tag.stop) with
          segments :=
            ⟨data.take tag.start, tag.kind, tag.content data⟩
            :: (ofBytes (data.drop tag.stop)).segments } := by
  have later := segmentation_append (data.take tag.stop) (data.drop tag.stop)
  have stopLe : tag.stop ≤ data.length := (search_bounds h).2
  rw [List.take_append_drop, List.length_take, Nat.min_eq_left stopLe] at later
  rw [← later]
  refine (segmentation_tag h).trans ?_
  rw [advance_tag h]
  rfl

/-- The segments of a buffer make it up, by recursion on the buffer, up to an opening that
nothing closes.
-/
theorem bytes_ofBytes (data : Bytes)
    : ∃ tail,
        data = (ofBytes data).segments.flatMap Segment.bytes ++ (ofBytes data).rest ++ tail
        ∧ ((ofBytes data).unclosed = false → tail = [])
        ∧ ((ofBytes data).unclosed = true → (Tag.opening? tail).isSome) := by
  cases found : (Cursor.ofBytes data).search with
  | exhausted => exact ⟨[], by simp [ofBytes_exhausted found]⟩
  | unclosed offset =>
      rw [ofBytes_unclosed found]
      exact ⟨data.drop offset, by simp, by simp, fun _ => search_unclosed_opening found⟩
  | tag tag =>
      have shorter : data.length - tag.stop < data.length := by
        have stopLe : tag.stop ≤ data.length := (search_bounds found).2
        have positive : 0 < tag.stop := Nat.succ_pos _
        omega
      obtain ⟨tail, whole, closed, opened⟩ := bytes_ofBytes (data.drop tag.stop)
      rw [ofBytes_tag found]
      refine ⟨tail, ?_, closed, opened⟩
      calc
        data = data.take tag.start ++ (tag.kind.opening ++ (tag.content data
            ++ byte '}' :: data.drop tag.stop)) := search_tag_bytes found
        _ = _ := by
          conv => lhs; rw [whole]
          simp [Segment.bytes]
termination_by data.length

end Segmentation

-----------------------------------------------------------------------------------------
-- Replacement in place is replacement segment by segment
-----------------------------------------------------------------------------------------

namespace Cursor

section

variable {m : Type → Type} [Monad m] {ε : Type} (unclosed : Nat → ε)
  (replace : Tag.Kind → Bytes → ExceptT ε m Bytes)

theorem substitute_exhausted {cursor : Cursor} (h : cursor.search = .exhausted)
    : substitute unclosed replace cursor = pure cursor.data := by
  rw [substitute]
  split <;> simp_all

theorem substitute_unclosed {cursor : Cursor} {offset : Nat}
    (h : cursor.search = .unclosed offset)
    : substitute unclosed replace cursor = throw (unclosed offset) := by
  rw [substitute]
  split <;> simp_all

theorem substitute_tag {cursor : Cursor} {tag : Tag} (h : cursor.search = .tag tag)
    : substitute unclosed replace cursor
      = replace tag.kind (tag.content cursor.data) >>= fun replacement =>
          substitute unclosed replace (cursor.splice tag replacement) := by
  rw [substitute]
  split <;> simp_all

/-- A splice puts the cursor between all that is done and the bytes after the tag. -/
theorem splice_shift (before suffix replacement : Bytes) {tag : Tag}
    (startLe : tag.start ≤ suffix.length)
    : (⟨before ++ suffix, before.length⟩ : Cursor).splice (tag.shift before.length) replacement
      = ⟨before ++ suffix.take tag.start ++ replacement ++ suffix.drop tag.stop,
          (before ++ suffix.take tag.start ++ replacement).length⟩ := by
  have taken : (before ++ suffix).take (tag.shift before.length).start
      = before ++ suffix.take tag.start := by
    rw [Tag.shift, Nat.add_comm, List.take_length_add_append]
  have dropped : (before ++ suffix).drop (tag.shift before.length).stop
      = suffix.drop tag.stop := by
    rw [Tag.stop_shift, ← List.drop_drop, List.drop_left]
  simp only [splice, taken, dropped, Cursor.mk.injEq, true_and]
  simp only [Tag.shift, List.length_append, List.length_take, Nat.min_eq_left startLe]
  omega

/-- Replacing the tags after the cursor gives what is before it, then the segments of what
is after it with each tag replaced, by recursion on the bytes after the cursor.
-/
theorem substitute_append [LawfulMonad m] (before suffix : Bytes)
    : substitute unclosed replace ⟨before ++ suffix, before.length⟩
      = (Segmentation.ofBytes suffix).assembleAfter before unclosed replace := by
  have shifted := search_append before suffix
  cases found : (ofBytes suffix).search with
  | exhausted =>
      rw [found] at shifted
      rw [substitute_exhausted _ _ shifted, Segmentation.ofBytes_exhausted found]
      simp [Segmentation.assembleAfter]
  | unclosed offset =>
      rw [found] at shifted
      have within : offset < suffix.length := search_unclosed_lt found
      rw [substitute_unclosed _ _ shifted, Segmentation.ofBytes_unclosed found]
      simp [Segmentation.assembleAfter, Nat.min_eq_left (Nat.le_of_lt within),
        Nat.add_comm before.length]
  | tag tag =>
      rw [found] at shifted
      have bounds := search_bounds found
      have stopLe : tag.stop ≤ suffix.length := bounds.2
      have startLe : tag.start ≤ suffix.length := by
        simp only [Tag.stop, Tag.contentStop, Tag.contentStart] at stopLe
        omega
      have shorter : suffix.length - tag.stop < suffix.length := by
        have positive : 0 < tag.stop := Nat.succ_pos _
        omega
      rw [substitute_tag _ _ shifted, Segmentation.ofBytes_tag found, Tag.content_shift]
      simp only [Segmentation.assembleAfter, List.mapM_cons, bind_assoc, pure_bind]
      refine bind_congr fun replacement => ?_
      rw [splice_shift _ _ _ startLe, substitute_append]
      simp only [Segmentation.assembleAfter, List.flatten_cons, List.append_assoc]
termination_by suffix.length

end

end Cursor

end TaggedConfig
