import TaggedConfig.Proofs.Tag.Segments

/-! Buffers whose tags are simple: complete, with plain contents.
Their segments are found byte by byte, and so is the buffer that has a value in the place of
each tag.
-/

namespace TaggedConfig

-----------------------------------------------------------------------------------------
-- Openings
-----------------------------------------------------------------------------------------

namespace Tag

theorem opening?_opening (kind : Kind) (rest : Bytes)
    : opening? (kind.opening ++ rest) = some kind := by
  cases kind <;> rfl

/-- An opening is there whatever follows. -/
theorem opening?_append {bytes : Bytes} {kind : Kind} (h : opening? bytes = some kind)
    (more : Bytes)
    : opening? (bytes ++ more) = some kind := by
  obtain ⟨rest, rfl⟩ := opening?_eq_some h
  rw [List.append_assoc, opening?_opening]

/-- An opening does not reach over a byte that none has. -/
theorem opening?_append_cons {bytes rest : Bytes} {b : UInt8} {kind : Kind}
    (absent : b ∉ kind.opening) (h : opening? (bytes ++ b :: rest) = some kind)
    : opening? bytes = some kind := by
  obtain ⟨tail, whole⟩ := opening?_eq_some h
  rcases List.append_eq_append_iff.mp whole with ⟨middle, start, after⟩ | ⟨middle, start, after⟩
  · cases middle with
    | nil =>
        rw [List.append_nil] at start
        rw [← start, ← List.append_nil kind.opening, opening?_opening]
    | cons c middle =>
        obtain ⟨rfl, -⟩ := List.cons.inj after
        exact absurd (by simp [start]) absent
  · rw [start, opening?_opening]

theorem brace_notMem_opening (kind : Kind) : byte '}' ∉ kind.opening := by
  cases kind <;> decide

theorem quote_notMem_opening (kind : Kind) : byte '"' ∉ kind.opening := by
  cases kind <;> decide

/-- Bytes in which no tag opens. -/
def NoOpening (bytes : Bytes) : Prop := ∀ offset, opening? (bytes.drop offset) = none

theorem NoOpening.tail {b : UInt8} {bytes : Bytes} (h : NoOpening (b :: bytes))
    : NoOpening bytes :=
  fun offset => h (offset + 1)

/-- Bytes without a dollar sign open no tag. -/
theorem noOpening_of_notMem {bytes : Bytes} (noDollar : byte '$' ∉ bytes) : NoOpening bytes := by
  intro offset
  cases opened : opening? (bytes.drop offset) with
  | none => rfl
  | some kind =>
      obtain ⟨rest, whole⟩ := opening?_eq_some opened
      have inside : byte '$' ∈ bytes.drop offset := by
        rw [whole]
        exact List.mem_cons_self
      exact absurd (List.mem_of_mem_drop inside) noDollar

/-- The first brace closes a tag whose content is plain, by induction on the content. -/
theorem closing?_plain {content : Bytes} (noBrace : byte '}' ∉ content)
    (noOpening : NoOpening content) (offset : Nat) (rest : Bytes)
    : closing? 0 offset (content ++ byte '}' :: rest) = some (offset + content.length) := by
  induction content generalizing offset with
  | nil => simp [closing?]
  | cons b content ih =>
      simp only [List.mem_cons, not_or] at noBrace
      have closed : opening? (b :: (content ++ byte '}' :: rest)) = none := by
        cases found : opening? (b :: (content ++ byte '}' :: rest)) with
        | none => rfl
        | some kind =>
            have opened : opening? (b :: content) = some kind :=
              opening?_append_cons (brace_notMem_opening kind) found
            exact absurd (noOpening 0) (by simp [opened])
      rw [List.cons_append, closing?]
      simp only [Ne.symm noBrace.1, if_false, closed, Option.isSome_none, Bool.false_eq_true]
      rw [ih noBrace.2 noOpening.tail, List.length_cons]
      congr 1
      omega

/-- Bytes whose tags are all complete, with plain contents of some sort. -/
inductive Complete (Content : Kind → Bytes → Prop) : Bytes → Prop
  | nil : Complete Content []
  | literal {b bytes} (closed : opening? (b :: bytes) = none) (more : Complete Content bytes)
    : Complete Content (b :: bytes)
  | tag {kind content rest} (noBrace : byte '}' ∉ content) (noOpening : NoOpening content)
    (allowed : Content kind content) (more : Complete Content rest)
    : Complete Content (kind.opening ++ (content ++ byte '}' :: rest))

/-- Bytes are such if every opening in them begins a tag of that sort, by recursion on the
bytes: what follows a tag is seen at larger offsets only.
-/
theorem complete_of_openings {Content : Kind → Bytes → Prop} {bytes : Bytes}
    (tags
      : ∀ offset kind,
          opening? (bytes.drop offset) = some kind →
            ∃ content rest,
              bytes.drop offset = kind.opening ++ (content ++ byte '}' :: rest)
              ∧ byte '}' ∉ content
              ∧ NoOpening content
              ∧ Content kind content)
    : Complete Content bytes := by
  cases found : opening? bytes with
  | some kind =>
      obtain ⟨content, rest, whole, noBrace, noOpening, allowed⟩ := tags 0 kind found
      rw [List.drop_zero] at whole
      have shorter : rest.length < bytes.length := by
        simp only [whole, List.length_append, List.length_cons]
        omega
      have dropped (offset : Nat)
          : bytes.drop (openingSize + (content.length + (1 + offset))) = rest.drop offset := by
        rw [whole, ← List.drop_drop, ← kind.length_opening, List.drop_left, ← List.drop_drop,
          List.drop_left, ← List.drop_drop, List.drop_one, List.tail_cons]
      have later : Complete Content rest := by
        refine complete_of_openings fun offset => ?_
        have inside := tags (openingSize + (content.length + (1 + offset)))
        rwa [dropped] at inside
      rw [whole]
      exact .tag noBrace noOpening allowed later
  | none =>
      cases bytes with
      | nil => exact .nil
      | cons b bytes =>
          exact .literal found (complete_of_openings fun offset => tags (offset + 1))
termination_by bytes.length

end Tag

-----------------------------------------------------------------------------------------
-- Segments byte by byte
-----------------------------------------------------------------------------------------

namespace Segmentation

/-- The segmentation with literal bytes before it. -/
def prepend (literal : Bytes) (segmentation : Segmentation) : Segmentation :=
  match segmentation.segments with
  | [] => { segmentation with rest := literal ++ segmentation.rest }
  | first :: others =>
      { segmentation with
        segments := { first with literal := literal ++ first.literal } :: others }

/-- The segmentation of two buffers, of which the first has no opening that is not closed. -/
def append (before after : Segmentation) : Segmentation :=
  { after.prepend before.rest with
    segments := before.segments ++ (after.prepend before.rest).segments }

/-- A segmentation without tags. -/
def literal (bytes : Bytes) : Segmentation := ⟨[], bytes, false⟩

theorem nil_append (after : Segmentation) : (literal []).append after = after := by
  rcases after with ⟨_ | ⟨first, others⟩, rest, unclosed⟩ <;> rfl

theorem append_assoc (before between after : Segmentation)
    : (before.append between).append after = before.append (between.append after) := by
  rcases between with ⟨_ | ⟨first, others⟩, rest, unclosed⟩ <;>
    rcases after with ⟨_ | ⟨first', others'⟩, rest', unclosed'⟩ <;>
    simp [append, prepend]

theorem ofBytes_nil : ofBytes [] = ⟨[], [], false⟩ := ofBytes_exhausted rfl

/-- A byte at which no tag opens is literal. -/
theorem ofBytes_cons {b : UInt8} {data : Bytes} (closed : Tag.opening? (b :: data) = none)
    : ofBytes (b :: data) = (literal [b]).append (ofBytes data) := by
  have search : (Cursor.ofBytes (b :: data)).search = (Cursor.ofBytes data).search.shift 1 := by
    refine Eq.trans ?_ (Cursor.search_append [b] data)
    simp [Cursor.search, Cursor.ofBytes, Cursor.firstOpening?, closed]
  cases found : (Cursor.ofBytes data).search with
  | exhausted =>
      rw [found] at search
      rw [ofBytes_exhausted search, ofBytes_exhausted found]
      rfl
  | unclosed offset =>
      rw [found] at search
      rw [ofBytes_unclosed search, ofBytes_unclosed found]
      rfl
  | tag tag =>
      rw [found] at search
      have stop : (b :: data).drop (tag.shift 1).stop = data.drop tag.stop := by
        rw [Tag.stop_shift, Nat.add_comm, List.drop_succ_cons]
      rw [ofBytes_tag search, ofBytes_tag found, stop]
      rfl

/-- A tag with a plain content is a segment. -/
theorem ofBytes_opening (kind : Tag.Kind) {content : Bytes} (noBrace : byte '}' ∉ content)
    (noOpening : Tag.NoOpening content) (rest : Bytes)
    : ofBytes (kind.opening ++ (content ++ byte '}' :: rest))
      = append ⟨[⟨[], kind, content⟩], [], false⟩ (ofBytes rest) := by
  have opened : Cursor.firstOpening? 0 (kind.opening ++ (content ++ byte '}' :: rest))
      = some (0, kind) := by
    have found := Tag.opening?_opening kind (content ++ byte '}' :: rest)
    cases kind <;>
      simp only [Tag.Kind.opening, List.cons_append] at found ⊢ <;>
      rw [Cursor.firstOpening?, found] <;>
      simp [Tag.openingSize, ascii, Tag.Kind.keyword]
  have dropped : (kind.opening ++ (content ++ byte '}' :: rest)).drop Tag.openingSize
      = content ++ byte '}' :: rest := by
    rw [← kind.length_opening, List.drop_left]
  have search : (Cursor.ofBytes (kind.opening ++ (content ++ byte '}' :: rest))).search
      = .tag ⟨kind, 0, content.length⟩ := by
    simp only [Cursor.search, Cursor.ofBytes, List.drop_zero, opened, Nat.zero_add, dropped,
      Tag.closing?_plain noBrace noOpening, Nat.add_sub_cancel_left]
  have after : (kind.opening ++ (content ++ byte '}' :: rest)).drop
      (⟨kind, 0, content.length⟩ : Tag).stop = rest := by
    simp only [Tag.stop, Tag.contentStop, Tag.contentStart, Nat.zero_add]
    rw [Nat.add_assoc, ← List.drop_drop, dropped, ← List.drop_drop, List.drop_left]
    rfl
  have inside : (⟨kind, 0, content.length⟩ : Tag).content
      (kind.opening ++ (content ++ byte '}' :: rest)) = content := by
    simp only [Tag.content, Tag.contentStart, Nat.zero_add, dropped, List.take_left]
  rw [ofBytes_tag search, after, inside]
  conv => rhs; rw [append, show (ofBytes rest).prepend [] = _ from nil_append (ofBytes rest)]
  rfl

/-- Bytes at which no tag opens are literal, by induction on them. -/
theorem ofBytes_literal {bytes rest : Bytes}
    (closed : ∀ offset < bytes.length, Tag.opening? ((bytes ++ rest).drop offset) = none)
    : ofBytes (bytes ++ rest) = (literal bytes).append (ofBytes rest) := by
  induction bytes with
  | nil => rw [nil_append, List.nil_append]
  | cons b bytes ih =>
      have first : Tag.opening? (b :: (bytes ++ rest)) = none := closed 0 (by simp)
      have later : ∀ offset < bytes.length, Tag.opening? ((bytes ++ rest).drop offset) = none :=
        fun offset within => closed (offset + 1) (by simpa using within)
      rw [List.cons_append, ofBytes_cons first, ih later, ← append_assoc]
      rfl

/-- Bytes whose tags are complete have segments of their own before a byte that no opening
has, by induction on the tags.
-/
theorem ofBytes_append_cons {Content : Tag.Kind → Bytes → Prop} {bytes rest : Bytes} {b : UInt8}
    (complete : Tag.Complete Content bytes) (absent : ∀ kind : Tag.Kind, b ∉ kind.opening)
    : ofBytes (bytes ++ b :: rest) = (ofBytes bytes).append (ofBytes (b :: rest)) := by
  induction complete with
  | nil =>
      rw [List.nil_append, ofBytes_nil]
      exact (nil_append _).symm
  | @literal c bytes closed _ ih =>
      have closed' : Tag.opening? (c :: (bytes ++ b :: rest)) = none := by
        cases opened : Tag.opening? (c :: (bytes ++ b :: rest)) with
        | none => rfl
        | some kind =>
            have inside : Tag.opening? (c :: bytes) = some kind :=
              Tag.opening?_append_cons (absent kind) opened
            rw [closed] at inside
            contradiction
      rw [List.cons_append, ofBytes_cons closed', ofBytes_cons closed, ih, append_assoc]
  | @tag kind content after noBrace noOpening _ _ ih =>
      rw [List.append_assoc, List.append_assoc, List.cons_append,
        ofBytes_opening kind noBrace noOpening, ofBytes_opening kind noBrace noOpening, ih,
        append_assoc]

-----------------------------------------------------------------------------------------
-- Filling in values
-----------------------------------------------------------------------------------------

/-- The buffer with a value in the place of each tag. -/
def fill (value : Bytes → Bytes) (segmentation : Segmentation) : Bytes :=
  segmentation.segments.flatMap (fun segment => segment.literal ++ value segment.content)
    ++ segmentation.rest

/-- The literal bytes before, between and after the tags. -/
def pieces (segmentation : Segmentation) : List Bytes :=
  segmentation.segments.map (·.literal) ++ [segmentation.rest]

theorem fill_append (value : Bytes → Bytes) (before after : Segmentation)
    : (before.append after).fill value = before.fill value ++ after.fill value := by
  rcases after with ⟨_ | ⟨first, others⟩, rest, unclosed⟩ <;> simp [append, prepend, fill]

theorem fill_literal (value : Bytes → Bytes) (bytes : Bytes)
    : (literal bytes).fill value = bytes := rfl

/-- Every tag is complete and names a variable, with a content of some sort. -/
structure Simple (Content : Bytes → Prop) (segmentation : Segmentation) : Prop where
  closed : segmentation.unclosed = false
  tags
    : ∀ segment ∈ segmentation.segments,
        segment.kind = .variable ∧ Content segment.content

theorem simple_append {Content : Bytes → Prop} {before after : Segmentation}
    (closed : before.unclosed = false)
    : (before.append after).Simple Content ↔ before.Simple Content ∧ after.Simple Content := by
  have ends : (before.append after).unclosed = after.unclosed := by
    rcases after with ⟨_ | ⟨first, others⟩, rest, unclosed⟩ <;> rfl
  have tags (P : Tag.Kind → Bytes → Prop)
      : (∀ segment ∈ (before.append after).segments, P segment.kind segment.content)
        ↔ (∀ segment ∈ before.segments, P segment.kind segment.content)
          ∧ ∀ segment ∈ after.segments, P segment.kind segment.content := by
    rcases after with ⟨_ | ⟨first, others⟩, rest, unclosed⟩ <;>
      simp [append, prepend, or_imp, forall_and]
  have split := tags fun kind content => kind = .variable ∧ Content content
  constructor
  · rintro ⟨afterClosed, whole⟩
    rw [ends] at afterClosed
    exact ⟨⟨closed, (split.mp whole).1⟩, ⟨afterClosed, (split.mp whole).2⟩⟩
  · rintro ⟨first, second⟩
    exact ⟨ends.trans second.closed, split.mpr ⟨first.tags, second.tags⟩⟩

theorem simple_literal (Content : Bytes → Prop) (bytes : Bytes)
    : (literal bytes).Simple Content where
  closed := rfl
  tags := by simp [literal]

/-- Bytes whose tags are complete and name variables are simple, by induction on the tags. -/
theorem simple_ofBytes {Content : Bytes → Prop} {bytes : Bytes}
    (complete : Tag.Complete (fun kind content => kind = .variable ∧ Content content) bytes)
    : (ofBytes bytes).Simple Content := by
  induction complete with
  | nil =>
      rw [ofBytes_nil]
      exact simple_literal Content []
  | @literal b bytes closed _ ih =>
      rw [ofBytes_cons closed]
      exact (simple_append rfl).mpr ⟨simple_literal Content [b], ih⟩
  | @tag kind content rest noBrace noOpening allowed _ ih =>
      rw [ofBytes_opening kind noBrace noOpening]
      refine (simple_append rfl).mpr ⟨⟨rfl, ?_⟩, ih⟩
      simpa using allowed

end Segmentation

end TaggedConfig
