import Mathlib.Logic.Function.Iterate
import Mathlib.Order.Bounds.Basic
import Mathlib.Order.Nat
import TaggedConfig.Proofs.Tag.Walking

/-! The grammar of tags in terms of offsets.
A tag begins at the first opening that is followed by a byte, and ends at the first brace before
which its content has as many braces as openings. A search finds these tags and no others.
-/

namespace TaggedConfig

namespace Tag

/-- The bytes of an opening of the kind stand at the offset. -/
def OpensAt (data : Bytes) (kind : Kind) (offset : Nat) : Prop :=
  kind.opening <+: data.drop offset

/-- An opening stands at the offset. -/
def OpeningAt (data : Bytes) (offset : Nat) : Prop := ∃ kind, OpensAt data kind offset

theorem opensAt_iff {data : Bytes} {kind : Kind} {offset : Nat}
    : OpensAt data kind offset ↔ opening? (data.drop offset) = some kind := by
  constructor
  · rintro ⟨rest, whole⟩
    rw [← whole, opening?_opening]
  · intro opened
    obtain ⟨rest, whole⟩ := opening?_eq_some opened
    exact ⟨rest, whole.symm⟩

theorem OpensAt.unique {data : Bytes} {kind kind' : Kind} {offset : Nat}
    (opens : OpensAt data kind offset) (opens' : OpensAt data kind' offset)
    : kind = kind' := by
  rw [opensAt_iff] at opens opens'
  exact Option.some.inj (opens.symm.trans opens')

theorem openingAt_iff {data : Bytes} {offset : Nat}
    : OpeningAt data offset ↔ (opening? (data.drop offset)).isSome := by
  simp only [OpeningAt, opensAt_iff, Option.isSome_iff_exists]

instance (data : Bytes) : DecidablePred (OpeningAt data) := fun _ =>
  decidable_of_iff' _ openingAt_iff

/-- A closing brace stands at the offset. -/
def BraceAt (data : Bytes) (offset : Nat) : Prop := data[offset]? = some (byte '}')

instance (data : Bytes) : DecidablePred (BraceAt data) := fun offset =>
  inferInstanceAs (Decidable (data[offset]? = some (byte '}')))

/-- The number of offsets from the first to the second, without that one, of which `P` holds. -/
def countIn (P : Nat → Prop) [DecidablePred P] (start stop : Nat) : Nat :=
  (List.range' start (stop - start)).countP P

/-- A brace at `stop` leaves no tag open of those that open from `start` on, `openTags` of which
stood open before.
-/
structure Balances (data : Bytes) (openTags start stop : Nat) : Prop where
  le : start ≤ stop
  brace : BraceAt data stop
  balanced : countIn (BraceAt data) start stop = countIn (OpeningAt data) start stop + openTags

/-- A brace at `stop` closes a tag whose content begins at `start`: the content has as many braces
as openings.
-/
abbrev Closes (data : Bytes) (start stop : Nat) : Prop := Balances data 0 start stop

-----------------------------------------------------------------------------------------
-- Closing braces
-----------------------------------------------------------------------------------------

theorem countIn_self (P : Nat → Prop) [DecidablePred P] (start : Nat)
    : countIn P start start = 0 := by
  rw [countIn, Nat.sub_self, List.range'_zero, List.countP_nil]

theorem countIn_succ (P : Nat → Prop) [DecidablePred P] {start stop : Nat} (before : start < stop)
    : countIn P start stop = countIn P (start + 1) stop + if P start then 1 else 0 := by
  rw [countIn, show stop - start = stop - (start + 1) + 1 by omega, List.range'_succ,
    List.countP_cons, countIn]
  simp only [decide_eq_true_eq]

variable {data : Bytes} {openTags start stop : Nat}

/-- Without tags that stand open, a brace closes at once. -/
theorem balances_self_iff
    : Balances data openTags start start ↔ BraceAt data start ∧ openTags = 0 := by
  constructor
  · rintro ⟨-, brace, balanced⟩
    rw [countIn_self, countIn_self, Nat.zero_add] at balanced
    exact ⟨brace, balanced.symm⟩
  · rintro ⟨brace, rfl⟩
    exact ⟨Nat.le_refl start, brace, by rw [countIn_self, countIn_self]⟩

/-- The tags that stand open after an offset are those before it, with one that opens there and
without one that is closed there.
-/
theorem balances_succ_iff {openTags' : Nat} (goesOn : ¬Balances data openTags start start)
    (step
      : openTags + (if OpeningAt data start then 1 else 0)
        = openTags' + if BraceAt data start then 1 else 0)
    : Balances data openTags start stop ↔ Balances data openTags' (start + 1) stop := by
  have balanced (before : start < stop)
      : countIn (BraceAt data) start stop = countIn (OpeningAt data) start stop + openTags
        ↔ countIn (BraceAt data) (start + 1) stop
          = countIn (OpeningAt data) (start + 1) stop + openTags' := by
    rw [countIn_succ _ before, countIn_succ _ before]
    omega
  constructor
  · rintro ⟨le, brace, counts⟩
    have before : start < stop := by
      rcases Nat.lt_or_eq_of_le le with before | rfl
      · exact before
      · exact absurd ⟨le, brace, counts⟩ goesOn
    exact ⟨before, brace, (balanced before).mp counts⟩
  · rintro ⟨le, brace, counts⟩
    exact ⟨Nat.le_of_succ_le le, brace, (balanced le).mpr counts⟩

/-- The closing brace that is found is the first that closes, by induction on the bytes from the
offset on.
-/
theorem closing?_eq_some_iff
    : closing? openTags start (data.drop start) = some stop
      ↔ IsLeast {brace | Balances data openTags start brace} stop := by
  generalize whole : data.drop start = bytes
  induction bytes generalizing openTags start with
  | nil =>
      refine iff_of_false nofun fun least => ?_
      have none : data[start + (stop - start)]? = none := by
        rw [← List.getElem?_drop, whole, List.getElem?_nil]
      have brace : data[stop]? = some (byte '}') := least.1.brace
      rw [Nat.add_sub_cancel' least.1.le, brace] at none
      contradiction
  | cons b rest ih =>
      have here : data[start]? = some b := by
        rw [← Nat.add_zero start, ← List.getElem?_drop, whole]
        rfl
      have later : data.drop (start + 1) = rest := by rw [← List.drop_drop, whole]; rfl
      have next {openTags' : Nat} (goesOn : ¬Balances data openTags start start)
          (step
            : openTags + (if OpeningAt data start then 1 else 0)
              = openTags' + if BraceAt data start then 1 else 0)
          : closing? openTags' (start + 1) rest = some stop
            ↔ IsLeast {brace | Balances data openTags start brace} stop := by
        simp only [balances_succ_iff goesOn step]
        exact ih later
      have braceAt : BraceAt data start ↔ b = byte '}' := by rw [BraceAt, here, Option.some.injEq]
      have openingAt : OpeningAt data start ↔ (opening? (b :: rest)).isSome := by
        rw [openingAt_iff, whole]
      rw [closing?.eq_def]
      dsimp only
      split
      · rename_i brace
        have closes : BraceAt data start := braceAt.mpr brace
        cases openTags with
        | zero =>
            have least : IsLeast {brace | Balances data 0 start brace} start :=
              ⟨balances_self_iff.mpr ⟨closes, rfl⟩, fun _ balances => balances.le⟩
            rw [Option.some.injEq]
            exact ⟨fun same => same ▸ least, least.unique⟩
        | succ openTags =>
            have closed : ¬OpeningAt data start := by
              rw [openingAt, opening?_eq_none (by rw [brace]; decide)]
              exact Bool.false_ne_true
            refine next (fun balances => ?_) (by rw [if_neg closed, if_pos closes])
            exact absurd (balances_self_iff.mp balances).2 (Nat.succ_ne_zero openTags)
      · rename_i noBrace
        have goesOn : ¬Balances data openTags start start := fun balances =>
          noBrace (braceAt.mp (balances_self_iff.mp balances).1)
        have stays : ¬BraceAt data start := mt braceAt.mp noBrace
        split
        · rename_i opens
          exact next goesOn (by rw [if_pos (openingAt.mpr opens), if_neg stays])
        · rename_i closed
          exact next goesOn (by rw [if_neg (mt openingAt.mp closed), if_neg stays])

/-- A tag is left open if no brace closes it. -/
theorem closing?_eq_none_iff
    : closing? openTags start (data.drop start) = none
      ↔ ∀ stop, ¬Balances data openTags start stop := by
  rw [Option.eq_none_iff_forall_ne_some]
  constructor
  · intro none stop balances
    classical
    have least := Nat.isLeast_find (p := Balances data openTags start) ⟨stop, balances⟩
    exact none _ (closing?_eq_some_iff.mpr least)
  · intro unbalanced stop found
    exact unbalanced stop (closing?_eq_some_iff.mp found).1

end Tag

-----------------------------------------------------------------------------------------
-- First openings
-----------------------------------------------------------------------------------------

namespace Cursor

/-- The offsets from one on at which a tag may begin: an opening stands there and is followed by at
least one byte.
-/
def openingsFrom (data : Bytes) (start : Nat) : Set Nat :=
  {offset | start ≤ offset ∧ offset + Tag.openingSize < data.length ∧ Tag.OpeningAt data offset}

variable {data : Bytes} {start offset : Nat} {kind : Tag.Kind}

/-- No opening is missed, by induction on the bytes from the start on. -/
theorem firstOpening?_le {start : Nat} (opening : offset ∈ openingsFrom data start)
    : ∃ first kind,
        firstOpening? start (data.drop start) = some (first, kind) ∧ first ≤ offset := by
  generalize whole : data.drop start = bytes
  induction bytes generalizing start with
  | nil =>
      have bound := List.drop_eq_nil_iff.mp whole
      have after : start ≤ offset := opening.1
      have inside : offset + Tag.openingSize < data.length := opening.2.1
      omega
  | cons b rest ih =>
      obtain ⟨after, inside, opens⟩ := opening
      have size := congrArg List.length whole
      rw [List.length_drop, List.length_cons] at size
      unfold firstOpening?
      split
      · rename_i kind opened
        have more : ¬(rest.drop (Tag.openingSize - 1)).isEmpty := by
          have positive := Tag.openingSize_pos
          rw [List.isEmpty_iff, List.drop_eq_nil_iff]
          omega
        exact ⟨start, kind, if_neg more, after⟩
      · rename_i closed
        have later : start ≠ offset := by
          rintro rfl
          rw [Tag.openingAt_iff, whole, closed] at opens
          contradiction
        refine ih ⟨by omega, inside, opens⟩ ?_
        rw [← List.drop_drop, whole, List.drop_one, List.tail_cons]

theorem firstOpening?_eq_some_iff
    : firstOpening? start (data.drop start) = some (offset, kind)
      ↔ IsLeast (openingsFrom data start) offset ∧ Tag.OpensAt data kind offset := by
  have found {first : Nat} {kind : Tag.Kind}
      (found : firstOpening? start (data.drop start) = some (first, kind))
      : IsLeast (openingsFrom data start) first ∧ Tag.OpensAt data kind first := by
    have after := firstOpening?_offset_le found
    have inside := firstOpening?_add_lt found
    have opened := firstOpening?_opening found
    rw [List.drop_drop, Nat.add_sub_cancel' after, ← Tag.opensAt_iff] at opened
    refine ⟨⟨⟨after, ?_, kind, opened⟩, fun other opening => ?_⟩, opened⟩
    · rw [List.length_drop] at inside
      omega
    · obtain ⟨_, _, same, le⟩ := firstOpening?_le opening
      obtain ⟨rfl, rfl⟩ := Prod.mk.inj (Option.some.inj (found.symm.trans same))
      exact le
  refine ⟨found, fun ⟨least, opens⟩ => ?_⟩
  obtain ⟨first, kind', known, -⟩ := firstOpening?_le least.1
  obtain ⟨least', opens'⟩ := found known
  obtain rfl := least'.unique least
  rw [known, opens.unique opens']

theorem firstOpening?_eq_none_iff
    : firstOpening? start (data.drop start) = none ↔ openingsFrom data start = ∅ := by
  rw [Set.eq_empty_iff_forall_notMem]
  constructor
  · intro none offset opening
    obtain ⟨first, kind, known, -⟩ := firstOpening?_le opening
    cases none.symm.trans known
  · intro empty
    rw [Option.eq_none_iff_forall_ne_some]
    rintro ⟨first, kind⟩ known
    exact empty first (firstOpening?_eq_some_iff.mp known).1.1

-----------------------------------------------------------------------------------------
-- Searches
-----------------------------------------------------------------------------------------

/-- What the grammar says of a search: its outcome and the cursor that it leaves. -/
inductive Scans (cursor : Cursor) : Outcome → Cursor → Prop
  | exhausted (none : openingsFrom cursor.data cursor.position = ∅)
    : Scans cursor .exhausted
        { cursor with
          position := max cursor.position (cursor.data.length - Tag.openingSize) }
  | tag {tag : Tag} (first : IsLeast (openingsFrom cursor.data cursor.position) tag.start)
    (opens : Tag.OpensAt cursor.data tag.kind tag.start)
    (closes : IsLeast {stop | Tag.Closes cursor.data tag.contentStart stop} tag.contentStop)
    : Scans cursor (.tag tag) { cursor with position := tag.stop }
  | unclosed {offset : Nat}
    (first : IsLeast (openingsFrom cursor.data cursor.position) offset)
    (unclosed : ∀ stop, ¬Tag.Closes cursor.data (offset + Tag.openingSize) stop)
    : Scans cursor (.unclosed offset) { cursor with position := offset }

/-- A search does what the grammar says. -/
theorem scans_search (cursor : Cursor) : cursor.Scans cursor.search cursor.advance := by
  unfold advance search
  cases opening : firstOpening? cursor.position (cursor.data.drop cursor.position) with
  | none => exact .exhausted (firstOpening?_eq_none_iff.mp opening)
  | some found =>
      obtain ⟨start, kind⟩ := found
      obtain ⟨first, opens⟩ := firstOpening?_eq_some_iff.mp opening
      cases closing : Tag.closing? 0 (start + Tag.openingSize)
        (cursor.data.drop (start + Tag.openingSize)) with
      | none =>
          simp only [closing]
          exact .unclosed first (Tag.closing?_eq_none_iff.mp closing)
      | some stop =>
          simp only [closing]
          have place : start + Tag.openingSize + (stop - (start + Tag.openingSize)) = stop :=
            Nat.add_sub_cancel' (Tag.closing?_bounds closing).1
          refine .tag first opens ?_
          simp only [Tag.contentStop, Tag.contentStart, place]
          exact Tag.closing?_eq_some_iff.mp closing

/-- The grammar allows one outcome only. -/
theorem Scans.unique {cursor after after' : Cursor} {outcome outcome' : Outcome}
    (scans : cursor.Scans outcome after) (scans' : cursor.Scans outcome' after')
    : outcome = outcome' ∧ after = after' := by
  have opens {offset : Nat} (first : IsLeast (openingsFrom cursor.data cursor.position) offset)
      : openingsFrom cursor.data cursor.position ≠ ∅ :=
    Set.nonempty_iff_ne_empty.mp ⟨offset, first.1⟩
  cases scans with
  | exhausted none =>
      cases scans' with
      | exhausted => exact ⟨rfl, rfl⟩
      | tag first => exact absurd none (opens first)
      | unclosed first => exact absurd none (opens first)
  | @tag tag first kind closes =>
      cases scans' with
      | exhausted none => exact absurd none (opens first)
      | @tag tag' first' kind' closes' =>
          obtain ⟨_, start, size⟩ := tag
          obtain ⟨_, start', size'⟩ := tag'
          obtain rfl : start = start' := first.unique first'
          obtain rfl := kind.unique kind'
          obtain rfl : size = size' := Nat.add_left_cancel (closes.unique closes')
          exact ⟨rfl, rfl⟩
      | unclosed first' unclosed =>
          obtain rfl := first.unique first'
          exact absurd closes.1 (unclosed _)
  | unclosed first unclosed =>
      cases scans' with
      | exhausted none => exact absurd none (opens first)
      | tag first' _ closes =>
          obtain rfl := first.unique first'
          exact absurd closes.1 (unclosed _)
      | unclosed first' =>
          obtain rfl := first.unique first'
          exact ⟨rfl, rfl⟩

/-- A search from an opening that is never closed finds that opening and stays there. -/
theorem search_unclosed_again {cursor : Cursor} {offset : Nat}
    (unclosed : cursor.search = .unclosed offset)
    : ({ cursor with position := offset } : Cursor).search = .unclosed offset := by
  have scans := cursor.scans_search
  rw [unclosed] at scans
  generalize cursor.advance = after at scans
  cases scans with
  | unclosed first stays =>
      have here : IsLeast (openingsFrom cursor.data offset) offset :=
        ⟨⟨Nat.le_refl offset, first.1.2⟩, fun _ opening => opening.1⟩
      have again
          : ({ cursor with position := offset } : Cursor).Scans (.unclosed offset)
              { cursor with position := offset } :=
        .unclosed here stays
      exact ((scans_search _).unique again).1

/-- At an opening that is never closed all searches fail alike, by induction on their number. -/
theorem iterate_advance_unclosed {cursor : Cursor} {offset : Nat}
    (unclosed : cursor.search = .unclosed offset) (calls : Nat)
    : (advance^[calls] cursor).search = .unclosed offset
      ∧ advance^[calls + 1] cursor = { cursor with position := offset } := by
  have moved {other : Cursor} (known : other.search = .unclosed offset)
      : other.advance = { other with position := offset } := by
    rw [advance, known]
  induction calls with
  | zero => exact ⟨unclosed, moved unclosed⟩
  | succ calls ih =>
      have again := search_unclosed_again unclosed
      rw [Function.iterate_succ_apply' advance (calls + 1), ih.2]
      exact ⟨again, moved again⟩

/-- A search comes to what the grammar of tags says and to nothing else. It can be done by offset
without asking for a byte that the buffer does not have, and it leaves the buffer as it is. At an
opening that is never closed the cursor stays, so that every later search fails in the same way.
-/
theorem search_follows_grammar (cursor : Cursor)
    : (∀ outcome after,
        cursor.Scans outcome after ↔ cursor.search = outcome ∧ cursor.advance = after)
      ∧ cursor.walk = .ok (cursor.search, cursor.advance)
      ∧ cursor.advance.data = cursor.data
      ∧ ∀ offset,
          cursor.search = .unclosed offset →
            ∀ calls,
              (advance^[calls] cursor).search = .unclosed offset
              ∧ advance^[calls + 1] cursor = { cursor with position := offset } := by
  have scans := cursor.scans_search
  refine ⟨fun outcome after => ⟨scans.unique, ?_⟩, cursor.walk_eq, ?_,
    fun offset unclosed calls => ?_⟩
  · rintro ⟨rfl, rfl⟩
    exact scans
  · unfold advance
    split <;> rfl
  · exact iterate_advance_unclosed unclosed calls

/-- A tag within the content of another, both of them closed. -/
def nestedTag : Bytes := ascii "x$\x7bSRC:a$\x7bENV:B\x7d\x7d."

/-- The same without the brace of the outer tag. -/
def unclosedTag : Bytes := ascii "x$\x7bSRC:a$\x7bENV:B\x7d."

/-- A tag within a tag is passed together with its brace. Without a brace of its own the outer one
is never closed, however often it is searched for.
-/
theorem search_follows_grammar_nested
    : (ofBytes nestedTag).Scans (.tag ⟨.source, 1, 9⟩) ⟨nestedTag, 17⟩
      ∧ (ofBytes unclosedTag).search = .unclosed 1
      ∧ (advance^[3] (ofBytes unclosedTag)).search = .unclosed 1 := by
  have stuck : (ofBytes unclosedTag).search = .unclosed 1 := by decide +kernel
  obtain ⟨scans, -⟩ := search_follows_grammar (ofBytes nestedTag)
  obtain ⟨-, -, -, again⟩ := search_follows_grammar (ofBytes unclosedTag)
  exact ⟨(scans _ _).mpr ⟨by decide +kernel, by decide +kernel⟩, stuck, (again 1 stuck 3).1⟩

end Cursor

end TaggedConfig
