import TaggedConfig.Proofs.Tag.Scanning

/-! The tags in the content of a tag.
The brace that closes a tag is counted out against all openings before it, and a scan of the content
counts anew for each tag that it meets. Main statement: the two agree on which openings are tags of
the content, and every one of these is closed.
-/

namespace TaggedConfig

namespace Tag

variable {data : Bytes} {start stop offset : Nat}

-----------------------------------------------------------------------------------------
-- Counts
-----------------------------------------------------------------------------------------

theorem countIn_add (P : Nat → Prop) [DecidablePred P] {middle : Nat} (first : start ≤ middle)
    (second : middle ≤ stop)
    : countIn P start stop = countIn P start middle + countIn P middle stop := by
  have ranges := @List.range'_append start (middle - start) (stop - middle) 1
  rw [Nat.one_mul, Nat.add_sub_cancel' first, Nat.add_comm (middle - start),
    Nat.sub_add_sub_cancel second first] at ranges
  rw [countIn, ← ranges, List.countP_append, countIn, countIn]

theorem countIn_eq_zero {P : Nat → Prop} [DecidablePred P]
    (none : ∀ offset, start ≤ offset → offset < stop → ¬P offset)
    : countIn P start stop = 0 := by
  rw [countIn, List.countP_eq_zero]
  intro offset member
  have within := List.mem_range'_1.mp member
  exact mt of_decide_eq_true (none offset within.1 (by omega))

/-- Offsets count the same when all of them are shifted. -/
theorem countIn_shift {P Q : Nat → Prop} [DecidablePred P] [DecidablePred Q] (shift : Nat)
    (same : ∀ offset < stop, P (shift + offset) ↔ Q offset)
    : countIn P shift (shift + stop) = countIn Q 0 stop := by
  have ranges : (List.range' 0 stop).map (shift + ·) = List.range' (shift + 0) stop :=
    List.map_add_range' ..
  rw [Nat.add_zero] at ranges
  rw [countIn, countIn, Nat.add_sub_cancel_left, Nat.sub_zero, ← ranges, List.countP_map]
  refine List.countP_congr fun offset member => ?_
  have within := List.mem_range'_1.mp member
  simpa using same offset (by omega)

/-- The last offset counts by itself. -/
theorem countIn_last (P : Nat → Prop) [DecidablePred P] (order : start ≤ stop)
    : countIn P start (stop + 1) = countIn P start stop + if P stop then 1 else 0 := by
  rw [countIn_add P order (Nat.le_succ stop), countIn_succ P (Nat.lt_succ_self stop), countIn_self,
    Nat.zero_add]

/-- Between the two offsets there are as many closing braces as openings. -/
def Even (data : Bytes) (start stop : Nat) : Prop :=
  countIn (BraceAt data) start stop = countIn (OpeningAt data) start stop

/-- Before a tag is closed there are no more braces than openings, by induction on the end: a brace
that would be one too many closes.
-/
theorem braces_le_openings (order : start ≤ stop)
    (goesOn : ∀ brace < stop, ¬Closes data start brace)
    : countIn (BraceAt data) start stop ≤ countIn (OpeningAt data) start stop := by
  induction stop, order using Nat.le_induction with
  | base => rw [countIn_self, countIn_self]
  | succ stop order ih =>
      have before := ih fun brace within => goesOn brace (Nat.lt_succ_of_lt within)
      rw [countIn_last _ order, countIn_last _ order]
      by_cases brace : BraceAt data stop
      · have uneven
            : countIn (BraceAt data) start stop ≠ countIn (OpeningAt data) start stop + 0 :=
          fun even => goesOn stop (Nat.lt_succ_self stop) ⟨order, brace, even⟩
        rw [if_pos brace]
        omega
      · rw [if_neg brace]
        omega

-----------------------------------------------------------------------------------------
-- Openings
-----------------------------------------------------------------------------------------

theorem BraceAt.lt_length (brace : BraceAt data offset) : offset < data.length :=
  (List.getElem?_eq_some_iff.mp brace).1

theorem OpeningAt.le_length (opens : OpeningAt data offset)
    : offset + openingSize ≤ data.length := by
  obtain ⟨kind, whole⟩ := opens
  have size := whole.length_le
  have positive := openingSize_pos
  rw [kind.length_opening, List.length_drop] at size
  omega

/-- Braces and openings do not share a byte with an opening before them. -/
theorem OpeningAt.disjoint (opens : OpeningAt data offset) {other : Nat} (after : offset < other)
    (within : other < offset + openingSize)
    : ¬OpeningAt data other ∧ ¬BraceAt data other := by
  obtain ⟨kind, rest, whole⟩ := opens
  have letter : kind.opening[other - offset]? = data[other]? := by
    have short : other - offset < kind.opening.length := by
      rw [kind.length_opening]
      omega
    rw [← List.getElem?_append_left short, whole, List.getElem?_drop,
      Nat.add_sub_cancel' (Nat.le_of_lt after)]
  have plain
      : kind.opening[other - offset]? ≠ some (byte '$')
        ∧ kind.opening[other - offset]? ≠ some (byte '}') := by
    have places
        : ∀ kind : Kind, ∀ place < openingSize,
            0 < place →
              kind.opening[place]? ≠ some (byte '$') ∧ kind.opening[place]? ≠ some (byte '}') := by
      intro kind
      cases kind <;> decide
    exact places kind _ (by omega) (by omega)
  rw [letter] at plain
  refine ⟨?_, plain.2⟩
  rintro ⟨kind', rest', whole'⟩
  refine plain.1 ?_
  rw [← Nat.add_zero other, ← List.getElem?_drop, ← whole']
  rfl

theorem not_openingAt_of_braceAt (brace : BraceAt data offset) : ¬OpeningAt data offset := by
  rintro ⟨kind, rest, whole⟩
  rw [BraceAt, ← Nat.add_zero offset, ← List.getElem?_drop, ← whole] at brace
  exact absurd (Option.some.inj brace) (by decide)

/-- An opening counts once, and there is no brace in it. -/
theorem OpeningAt.counts (opens : OpeningAt data offset) (before : start ≤ offset)
    (after : offset + openingSize ≤ stop)
    : countIn (OpeningAt data) start stop
        = countIn (OpeningAt data) start offset
          + countIn (OpeningAt data) (offset + openingSize) stop + 1
      ∧ countIn (BraceAt data) start stop
        = countIn (BraceAt data) start offset
          + countIn (BraceAt data) (offset + openingSize) stop := by
  have positive := openingSize_pos
  have split (P : Nat → Prop) [DecidablePred P]
      (none : ∀ other, offset + 1 ≤ other → other < offset + openingSize → ¬P other)
      : countIn P start stop
        = countIn P start offset + (if P offset then 1 else 0)
          + countIn P (offset + openingSize) stop := by
    rw [countIn_add P (show start ≤ offset + 1 by omega) (show offset + 1 ≤ stop by omega),
      countIn_last P before, countIn_add P (show offset + 1 ≤ offset + openingSize by omega) after,
      countIn_eq_zero none, Nat.zero_add]
  rw [split (OpeningAt data) fun other later within => (opens.disjoint later within).1,
    split (BraceAt data) fun other later within => (opens.disjoint later within).2,
    if_pos opens, if_neg fun brace => not_openingAt_of_braceAt brace opens]
  omega

-----------------------------------------------------------------------------------------
-- Balanced buffers
-----------------------------------------------------------------------------------------

/-- Braces and openings are paired: no brace comes too early and none is missing. -/
structure Balanced (data : Bytes) : Prop where
  early {offset : Nat}
    : offset ≤ data.length →
      countIn (BraceAt data) 0 offset ≤ countIn (OpeningAt data) 0 offset
  whole : Even data 0 data.length

/-- Every opening of a balanced buffer is closed in it: without its brace there would be too few in
the whole.
-/
theorem Balanced.exists_closes (balanced : Balanced data) (opens : OpeningAt data offset)
    : ∃ brace, Closes data (offset + openingSize) brace := by
  by_contra none
  have goesOn : ∀ brace < data.length, ¬Closes data (offset + openingSize) brace :=
    fun brace _ closes => none ⟨brace, closes⟩
  have within := opens.le_length
  have after := braces_le_openings within goesOn
  have before := balanced.early (Nat.le_trans (Nat.le_add_right offset _) within)
  have counts := opens.counts (Nat.zero_le offset) within
  have whole := balanced.whole
  rw [Even] at whole
  omega

/-- What a search finds from a place of a balanced buffer up to which it is even: nothing, if no
opening follows, or a tag that begins and ends at such places and has none between.
-/
inductive Balanced.Finds (cursor : Cursor) : Cursor.Outcome → Prop
  | exhausted (none : ∀ offset, cursor.position ≤ offset → ¬OpeningAt cursor.data offset)
    : Finds cursor .exhausted
  | tag {tag : Tag} (opens : OpeningAt cursor.data tag.start)
    (starts : Even cursor.data 0 tag.start) (stops : Even cursor.data 0 tag.stop)
    (inside
      : ∀ offset,
          cursor.position ≤ offset →
          OpeningAt cursor.data offset →
          Even cursor.data 0 offset →
            offset = tag.start ∨ tag.stop ≤ offset)
    : Finds cursor (.tag tag)

/-- What a search of a balanced buffer finds, by the grammar of tags. -/
theorem Balanced.finds_search (cursor : Cursor) (balanced : Balanced cursor.data)
    (even : Even cursor.data 0 cursor.position)
    : Balanced.Finds cursor cursor.search := by
  have scans := cursor.scans_search
  have candidate {offset : Nat} (after : cursor.position ≤ offset)
      (opens : OpeningAt cursor.data offset)
      : offset ∈ Cursor.openingsFrom cursor.data cursor.position := by
    obtain ⟨brace, closes⟩ := balanced.exists_closes opens
    exact ⟨after, Nat.lt_of_le_of_lt closes.le closes.brace.lt_length, opens⟩
  generalize cursor.search = outcome at scans ⊢
  generalize cursor.advance = next at scans
  cases scans with
  | exhausted none =>
      refine .exhausted fun offset after opens => ?_
      exact Set.notMem_empty _ (none ▸ candidate after opens)
  | unclosed first unclosed =>
      obtain ⟨brace, closes⟩ := balanced.exists_closes first.1.2.2
      exact absurd closes (unclosed brace)
  | @tag tag first opens closes =>
      have opening : OpeningAt cursor.data tag.start := ⟨tag.kind, opens⟩
      have after : cursor.position ≤ tag.start := first.1.1
      have within : tag.start ≤ cursor.data.length :=
        Nat.le_trans (Nat.le_add_right _ _) opening.le_length
      have counts {offset : Nat} (later : tag.contentStart ≤ offset) :=
        opening.counts (Nat.zero_le tag.start) later
      -- up to the tag there is no opening, hence no brace either
      have starts : Even cursor.data 0 tag.start := by
        have none : countIn (OpeningAt cursor.data) cursor.position tag.start = 0 :=
          countIn_eq_zero fun offset after before opens =>
            absurd (first.2 (candidate after opens)) (Nat.not_le.mpr before)
        have early := balanced.early within
        rw [Even] at even ⊢
        rw [countIn_add _ (Nat.zero_le _) after, countIn_add _ (Nat.zero_le _) after] at early ⊢
        omega
      refine .tag opening starts ?_ fun offset place opens even => ?_
      · have brace := closes.1.brace
        have pairs := closes.1.balanced
        have sums := counts closes.1.le
        rw [Even] at starts ⊢
        rw [stop, countIn_last _ (Nat.zero_le _), countIn_last _ (Nat.zero_le _), if_pos brace,
          if_neg (not_openingAt_of_braceAt brace)]
        simp only [contentStart] at pairs
        omega
      -- within the tag its own opening is one more than the braces
      · by_contra neither
        obtain ⟨other, before⟩ := not_or.mp neither
        have leastLe : tag.start ≤ offset := first.2 (candidate place opens)
        have later : tag.contentStart ≤ offset := by
          by_contra inside
          exact (opening.disjoint (by omega) (Nat.not_le.mp inside)).1 opens
        have notLast : offset ≠ tag.contentStop := by
          rintro rfl
          exact not_openingAt_of_braceAt closes.1.brace opens
        have below := braces_le_openings later fun brace earlier closes' => by
          have least := closes.2 closes'
          simp only [stop] at before
          omega
        have sums := counts later
        rw [Even] at even starts
        simp only [contentStart] at below
        omega

end Tag

namespace Cursor

open Tag

/-- Every outcome that is met in a balanced buffer comes of a search from a place up to which it is
even, by induction on the searches.
-/
theorem Meets.exists_even {cursor : Cursor} {outcome : Outcome} (meets : cursor.Meets outcome)
    (balanced : Balanced cursor.data) (even : Even cursor.data 0 cursor.position)
    : ∃ position,
        Even cursor.data 0 position
        ∧ ({ cursor with position } : Cursor).search = outcome := by
  induction meets with
  | now cursor => exact ⟨cursor.position, even, rfl⟩
  | @later cursor tag outcome found _ ih =>
      have finds := Balanced.finds_search cursor balanced even
      rw [found] at finds
      cases finds with
      | tag _ _ stops _ =>
          rw [advance_tag found] at ih
          exact ih balanced stops

/-- Every opening of a balanced buffer up to which it is even is the start of a tag that is met, by
recursion along the searches.
-/
theorem exists_meets_of_even (cursor : Cursor) (balanced : Balanced cursor.data)
    (even : Even cursor.data 0 cursor.position) {offset : Nat} (after : cursor.position ≤ offset)
    (opens : OpeningAt cursor.data offset) (level : Even cursor.data 0 offset)
    : ∃ tag, cursor.Meets (.tag tag) ∧ tag.start = offset := by
  have finds := Balanced.finds_search cursor balanced even
  generalize known : cursor.search = outcome at finds
  cases finds with
  | exhausted none => exact absurd opens (none offset after)
  | @tag tag _ _ stops inside =>
      rcases inside offset after opens level with rfl | later
      · exact ⟨tag, .of_search known, rfl⟩
      · have shorter := remaining_advance_lt known
        have same : cursor.advance.data = cursor.data := by rw [advance_tag known]
        have place : cursor.advance.position = tag.stop := by rw [advance_tag known]
        rw [← same] at balanced stops opens level
        rw [← place] at stops later
        obtain ⟨inner, meets, start⟩ :=
          exists_meets_of_even cursor.advance balanced stops later opens level
        exact ⟨inner, .later known meets, start⟩
termination_by cursor.remaining

end Cursor

-----------------------------------------------------------------------------------------
-- Contents
-----------------------------------------------------------------------------------------

namespace Tag

/-- An opening that is counted in the content of a tag when no other tag stands open there. -/
structure Embeds (data : Bytes) (tag : Tag) (offset : Nat) : Prop where
  after : tag.contentStart ≤ offset
  before : offset < tag.contentStop
  opens : OpeningAt data offset
  level : Even data tag.contentStart offset

variable {data : Bytes} {tag : Tag} {offset : Nat}

theorem length_content_le : (tag.content data).length ≤ tag.size := by
  rw [content, List.length_take]
  exact Nat.min_le_left _ _

theorem length_content (within : tag.contentStop ≤ data.length)
    : (tag.content data).length = tag.size := by
  rw [contentStop] at within
  rw [content, List.length_take, List.length_drop]
  omega

theorem braceAt_content (within : offset < tag.size)
    : BraceAt data (tag.contentStart + offset) ↔ BraceAt (tag.content data) offset := by
  rw [BraceAt, BraceAt, content, List.getElem?_take_of_lt within, List.getElem?_drop]

/-- The openings within a content are its own, since none runs over the brace at its end. -/
theorem openingAt_content (closed : BraceAt data tag.contentStop) (within : offset < tag.size)
    : OpeningAt data (tag.contentStart + offset) ↔ OpeningAt (tag.content data) offset := by
  have bytes
      : (tag.content data).drop offset
        = (data.drop (tag.contentStart + offset)).take (tag.size - offset) := by
    rw [content, List.drop_take, List.drop_drop]
  constructor
  · rintro ⟨kind, whole⟩
    refine ⟨kind, ?_⟩
    rw [OpensAt, bytes]
    refine List.prefix_take_iff.mpr ⟨whole, ?_⟩
    by_contra long
    rw [kind.length_opening] at long
    refine (OpeningAt.disjoint ⟨kind, whole⟩ ?_ ?_).2 closed <;> rw [contentStop] <;> omega
  · rintro ⟨kind, whole⟩
    rw [OpensAt, bytes] at whole
    exact ⟨kind, whole.trans (List.take_prefix _ _)⟩

theorem even_content (closed : BraceAt data tag.contentStop) (within : offset ≤ tag.size)
    : Even data tag.contentStart (tag.contentStart + offset)
      ↔ Even (tag.content data) 0 offset := by
  rw [Even, Even,
    countIn_shift _ fun other before => braceAt_content (Nat.lt_of_lt_of_le before within),
    countIn_shift _ fun other before => openingAt_content closed (Nat.lt_of_lt_of_le before within)]

/-- The content of a tag is balanced. -/
theorem balanced_content
    (closes : IsLeast {stop | Closes data tag.contentStart stop} tag.contentStop)
    : Balanced (tag.content data) := by
  have closed := closes.1.brace
  have size := length_content (Nat.le_of_lt closed.lt_length)
  refine ⟨fun {offset} within => ?_, ?_⟩
  · rw [size] at within
    have below := braces_le_openings (Nat.le_add_right tag.contentStart offset)
      fun brace earlier closes' => by
        have least := closes.2 closes'
        rw [contentStop] at least
        omega
    rwa [countIn_shift _ fun other before => braceAt_content (Nat.lt_of_lt_of_le before within),
      countIn_shift _ fun other before =>
        openingAt_content closed (Nat.lt_of_lt_of_le before within)] at below
  · rw [size, ← even_content closed (Nat.le_refl tag.size)]
    exact closes.1.balanced

end Tag

namespace Cursor

open Tag

/-- The tags that come to be scanned when the contents of tags are scanned in turn, each with the
buffer in which it is found.
-/
inductive Reaches (cursor : Cursor) : Bytes → Tag → Prop
  | found {tag : Tag} (found : cursor.search = .tag tag) : Reaches cursor cursor.data tag
  | inside {data : Bytes} {tag inner : Tag} (reaches : Reaches cursor data tag)
    (meets : (ofBytes (tag.content data)).Meets (.tag inner))
    : Reaches cursor (tag.content data) inner

/-- A tag that is reached is found by some search. -/
theorem Reaches.exists_search {cursor : Cursor} {data : Bytes} {tag : Tag}
    (reaches : cursor.Reaches data tag)
    : ∃ position, (⟨data, position⟩ : Cursor).search = .tag tag := by
  cases reaches with
  | found found => exact ⟨cursor.position, found⟩
  | inside _ meets => exact meets.exists_search

theorem closes_of_search {cursor : Cursor} {tag : Tag} (found : cursor.search = .tag tag)
    : IsLeast {stop | Closes cursor.data tag.contentStart stop} tag.contentStop := by
  have scans := cursor.scans_search
  rw [found] at scans
  generalize cursor.advance = next at scans
  cases scans with
  | tag _ _ closes => exact closes

/-- A scan of the content of a tag leaves no tag open, and the tags that it meets are those that are
embedded in the content.
-/
theorem scan_content {cursor : Cursor} {data : Bytes} {tag : Tag}
    (reaches : cursor.Reaches data tag)
    : (∀ offset, ¬(ofBytes (tag.content data)).Meets (.unclosed offset))
      ∧ ∀ offset,
          tag.Embeds data offset
          ↔ ∃ inner,
              (ofBytes (tag.content data)).Meets (.tag inner)
              ∧ tag.contentStart + inner.start = offset := by
  obtain ⟨position, found⟩ := reaches.exists_search
  have closes := closes_of_search found
  have closed := closes.1.brace
  have balanced := balanced_content closes
  have ground : Tag.Even (tag.content data) 0 0 := by rw [Tag.Even, countIn_self, countIn_self]
  refine ⟨fun offset meets => ?_, fun offset => ⟨?_, ?_⟩⟩
  · obtain ⟨place, even, unclosed⟩ := meets.exists_even balanced ground
    have finds := Balanced.finds_search ⟨tag.content data, place⟩ balanced even
    rw [show (⟨tag.content data, place⟩ : Cursor).search = .unclosed offset from unclosed] at finds
    cases finds
  · rintro ⟨after, before, opens, level⟩
    obtain ⟨inside, rfl⟩ := Nat.exists_eq_add_of_le after
    rw [contentStop] at before
    have within : inside < tag.size := by omega
    obtain ⟨inner, meets, rfl⟩ := exists_meets_of_even (ofBytes (tag.content data)) balanced ground
      (Nat.zero_le inside) ((openingAt_content closed within).mp opens)
      ((even_content closed (Nat.le_of_lt within)).mp level)
    exact ⟨inner, meets, rfl⟩
  · rintro ⟨inner, meets, rfl⟩
    obtain ⟨place, even, search⟩ := meets.exists_even balanced ground
    have finds := Balanced.finds_search ⟨tag.content data, place⟩ balanced even
    rw [show (⟨tag.content data, place⟩ : Cursor).search = .tag inner from search] at finds
    cases finds with
    | tag opens starts _ _ =>
        have positive := openingSize_pos
        have within : inner.start < tag.size := by
          have bound := Nat.le_trans opens.le_length length_content_le
          omega
        exact ⟨Nat.le_add_right _ _, by rw [contentStop]; omega,
          (openingAt_content closed within).mpr opens,
          (even_content closed (Nat.le_of_lt within)).mpr starts⟩

end Cursor

end TaggedConfig
