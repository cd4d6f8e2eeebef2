import TaggedConfig.Json.Token
import TaggedConfig.Proofs.Comment.Tokens
import TaggedConfig.Proofs.Outcome
import TaggedConfig.Proofs.Text.Utf8

/-! Bodies of JSON strings: what may stand between the quotes, and what it decodes to.
A body reads the same wherever it stands, so bodies that follow one another read one by one.
-/

namespace TaggedConfig

/-- Parts of a string that follow one another are a part of it, by induction on the first. -/
theorem Comment.QuotedBody.append {first second : Bytes} (before : QuotedBody first)
    (after : QuotedBody second)
    : QuotedBody (first ++ second) := by
  induction before with
  | nil => exact after
  | plain noQuote noBackslash _ ih => exact .plain noQuote noBackslash ih
  | escaped _ ih => exact .escaped ih

/-- A string ends at one quote only. -/
theorem Comment.QuotedBody.unique {first second firstRest secondRest : Bytes}
    (inside : QuotedBody first) (other : QuotedBody second)
    (same : first ++ byte '"' :: firstRest = second ++ byte '"' :: secondRest)
    : first = second ∧ firstRest = secondRest := by
  have spans := (quotedSpan_append inside (Or.inl rfl)).symm.trans
    ((congrArg quotedSpan same).trans (quotedSpan_append other (Or.inl rfl)))
  simpa using spans

/-- No quote ends a string that lasts to the end of the document, by induction on what would
come before the quote.
-/
theorem Comment.QuotedBody.unended {body ending : Bytes} (inside : QuotedBody body)
    (lasting : ending = [] ∨ ending = [byte '\\']) {other rest : Bytes} (closed : QuotedBody other)
    : body ++ ending ≠ other ++ byte '"' :: rest := by
  induction closed generalizing body with
  | nil =>
      intro same
      cases inside with
      | nil =>
          rcases lasting with rfl | rfl
          · contradiction
          · exact absurd (List.cons.inj same).1 (by decide)
      | plain noQuote => exact noQuote (List.cons.inj same).1
      | escaped => exact absurd (List.cons.inj same).1 (by decide)
  | plain noQuote noBackslash _ ih =>
      intro same
      cases inside with
      | nil =>
          rcases lasting with rfl | rfl
          · contradiction
          · exact noBackslash (List.cons.inj same).1.symm
      | plain _ _ more => exact ih more (List.cons.inj same).2
      | escaped => exact noBackslash (List.cons.inj same).1.symm
  | escaped _ ih =>
      intro same
      cases inside with
      | nil => rcases lasting with rfl | rfl <;> simp at same
      | plain _ noBackslash => exact noBackslash (List.cons.inj same).1
      | escaped more => exact ih more (List.cons.inj (List.cons.inj same).2).2

namespace Json

namespace Quoted

open Comment (QuotedBody)

/-- A part of a string without a quote that ends it, which can be passed over wherever it
stands and whatever follows. The comment tokens see it as a part of a string too.
-/
structure Passable (body : Bytes) : Prop where
  quoted : QuotedBody body
  pass (offset : Nat) (rest : Bytes)
    : Quoted.pass offset (body ++ rest) = Quoted.pass (offset + body.length) rest

/-- As `Passable`, with the bytes that the part decodes to. -/
structure Body (body decoded : Bytes) : Prop extends Passable body where
  decode (offset : Nat) (rest : Bytes)
    : Quoted.decode offset (body ++ rest)
      = (Quoted.decode (offset + body.length) rest).map
          fun (bytes, stop) => (decoded ++ bytes, stop)

namespace Passable

theorem nil : Passable [] where
  quoted := .nil
  pass _ _ := rfl

theorem append {first second : Bytes} (before : Passable first) (after : Passable second)
    : Passable (first ++ second) where
  quoted := before.quoted.append after.quoted
  pass offset rest := by
    rw [List.append_assoc, before.pass, after.pass, List.length_append, Nat.add_assoc]

theorem plain {b : UInt8} (noQuote : b ≠ byte '"') (noBackslash : b ≠ byte '\\')
    (noControl : ¬ b < byte ' ')
    : Passable [b] where
  quoted := .plain noQuote noBackslash .nil
  pass offset rest := by
    rw [List.singleton_append, Quoted.pass.eq_def]
    simp [noQuote, noBackslash, noControl]

theorem pass_quote {body : Bytes} (passable : Passable body) (offset : Nat) (rest : Bytes)
    : Quoted.pass offset (body ++ byte '"' :: rest) = .ok (offset + body.length + 1) := by
  rw [passable.pass, Quoted.pass.eq_def]
  simp

theorem letter {letter : UInt8} (short : (shortEscape? letter).isSome)
    : Passable [byte '\\', letter] where
  quoted := .escaped .nil
  pass offset rest := by
    simp [Quoted.pass, short, show byte '\\' ≠ byte '"' by decide]

end Passable

-----------------------------------------------------------------------------------------
-- Escapes
-----------------------------------------------------------------------------------------

/-- Hexadecimal digits are neither quotes nor backslashes. -/
theorem quotedBody_of_hex {digits : Bytes} (hex : ∀ digit ∈ digits, (hexValue? digit).isSome)
    : QuotedBody digits := by
  induction digits with
  | nil => exact .nil
  | cons digit digits ih =>
      simp only [List.forall_mem_cons] at hex
      refine .plain ?_ ?_ (ih hex.2)
      · rintro rfl
        exact absurd hex.1 (by decide)
      · rintro rfl
        exact absurd hex.1 (by decide)

/-- A code unit takes four hexadecimal digits and does not depend on what follows. -/
theorem fourHex_eq_ok {offset unit : Nat} {bytes : Bytes} (h : fourHex offset bytes = .ok unit)
    : ∃ digits rest,
        bytes = digits ++ rest
        ∧ digits.length = 4
        ∧ (∀ digit ∈ digits, (hexValue? digit).isSome)
        ∧ ∀ offset rest, fourHex offset (digits ++ rest) = .ok unit := by
  unfold fourHex at h
  split at h
  · rename_i a b c d rest
    split at h
    · rename_i first second third fourth
      refine ⟨[a, b, c, d], rest, rfl, rfl, by simp [first, second, third, fourth], ?_⟩
      intro offset rest
      simp only [fourHex, List.cons_append, first, second, third, fourth]
      exact h
    · contradiction
  · contradiction

/-- Passing over an escape by code unit takes its six bytes. -/
theorem Passable.unit {digits : Bytes} (four : digits.length = 4)
    (hex : ∀ digit ∈ digits, (hexValue? digit).isSome)
    (read : ∀ offset rest, ∃ unit, fourHex offset (digits ++ rest) = .ok unit)
    : Passable (byte '\\' :: byte 'u' :: digits) where
  quoted := .escaped (quotedBody_of_hex hex)
  pass offset rest := by
    obtain ⟨unit, found⟩ := read (offset + 2) rest
    have dropped : (digits ++ rest).drop 4 = rest := by rw [← four, List.drop_left]
    rw [List.cons_append, List.cons_append, Quoted.pass]
    simp only [show byte '\\' ≠ byte '"' by decide, if_false, if_true,
      show (shortEscape? (byte 'u')).isSome = false by decide, found, dropped,
      List.length_cons, four, Bool.false_eq_true]

/-- The second half of a surrogate pair takes six bytes and does not depend on what follows. -/
theorem secondUnit_eq_ok {offset unit : Nat} {bytes : Bytes}
    (h : secondUnit offset bytes = .ok unit)
    : ∃ digits rest,
        bytes = byte '\\' :: byte 'u' :: (digits ++ rest)
        ∧ digits.length = 4
        ∧ (∀ digit ∈ digits, (hexValue? digit).isSome)
        ∧ (∀ offset rest, ∃ unit, fourHex offset (digits ++ rest) = .ok unit)
        ∧ ∀ offset rest,
            secondUnit offset (byte '\\' :: byte 'u' :: (digits ++ rest)) = .ok unit := by
  unfold secondUnit at h
  split at h
  · contradiction
  · split at h
    · split at h
      · contradiction
      · split at h
        · rename_i backslash _ letter rest isUnit
          subst backslash isUnit
          obtain ⟨value, found, low⟩ := Outcome.bind_eq_ok.mp h
          obtain ⟨digits, rest, rfl, four, hex, read⟩ := fourHex_eq_ok found
          refine ⟨digits, rest, rfl, four, hex, fun _ _ => ⟨_, read _ _⟩, ?_⟩
          intro offset rest
          simp only [secondUnit, if_true, read, Outcome.ok_bind]
          split at low
          · rename_i isLow
            rw [if_pos isLow]
            exact low
          · contradiction
        · contradiction
    · contradiction

/-- An escape, after its backslash, and the character it stands for whatever follows. -/
structure Escape (taken : Bytes) (c : Char) : Prop where
  passable : Passable (byte '\\' :: taken)
  read (offset : Nat) (rest : Bytes) : escape offset (taken ++ rest) = .ok (c, taken.length)

/-- The digits of an escape by code units are one or two groups of four. -/
theorem unitEscape_eq_ok {offset size : Nat} {bytes : Bytes} {c : Char}
    (h : unitEscape offset bytes = .ok (c, size))
    : ∃ taken rest,
        bytes = taken ++ rest
        ∧ taken.length = size
        ∧ Passable (byte '\\' :: byte 'u' :: taken)
        ∧ ∀ offset rest, unitEscape offset (taken ++ rest) = .ok (c, size) := by
  obtain ⟨unit, found, h⟩ := Outcome.bind_eq_ok.mp h
  obtain ⟨digits, rest, rfl, four, hex, read⟩ := fourHex_eq_ok found
  have first := Passable.unit four hex fun _ _ => ⟨_, read _ _⟩
  split at h
  · contradiction
  · rename_i notLow
    split at h
    · rename_i isHigh
      obtain ⟨second, low, paired⟩ := Outcome.bind_eq_ok.mp h
      rw [← four, List.drop_left] at low
      obtain ⟨lows, rest, rfl, lowFour, lowHex, lowOk, lowRead⟩ := secondUnit_eq_ok low
      obtain ⟨rfl, rfl⟩ : _ = c ∧ 10 = size := by simpa using paired
      refine ⟨digits ++ byte '\\' :: byte 'u' :: lows, rest, by simp, by simp [four, lowFour],
        first.append (.unit lowFour lowHex lowOk), ?_⟩
      intro offset rest
      have dropped : (digits ++ byte '\\' :: byte 'u' :: (lows ++ rest)).drop 4
          = byte '\\' :: byte 'u' :: (lows ++ rest) := by rw [← four, List.drop_left]
      simp [unitEscape, read, notLow, isHigh, dropped, lowRead]
    · rename_i notHigh
      obtain ⟨rfl, rfl⟩ : _ = c ∧ 4 = size := by simpa using h
      refine ⟨digits, rest, rfl, four, first, ?_⟩
      intro offset rest
      simp [unitEscape, read, notLow, notHigh]

/-- An escape that is read is an escape wherever it stands. -/
theorem escape_eq_ok {offset size : Nat} {bytes : Bytes} {c : Char}
    (h : escape offset bytes = .ok (c, size))
    : ∃ taken rest, bytes = taken ++ rest ∧ taken.length = size ∧ Escape taken c := by
  cases bytes with
  | nil => contradiction
  | cons letter bytes =>
      cases short : shortEscape? letter with
      | some d =>
          obtain ⟨rfl, rfl⟩ : d = c ∧ 1 = size := by simpa [escape, short] using h
          refine ⟨[letter], bytes, rfl, rfl, .letter (by simp [short]), ?_⟩
          intro offset rest
          simp [escape, short]
      | none =>
          simp only [escape, short] at h
          split at h
          · rename_i isUnit
            subst isUnit
            obtain ⟨⟨d, taken⟩, read, sized⟩ := Outcome.bind_eq_ok.mp h
            obtain ⟨digits, rest, rfl, length, passable, found⟩ := unitEscape_eq_ok read
            obtain ⟨rfl, rfl⟩ : d = c ∧ taken + 1 = size := by simpa using sized
            refine ⟨byte 'u' :: digits, rest, rfl, by simp [length], passable, ?_⟩
            intro offset rest
            simp [escape, short, found, length]
          · contradiction

-----------------------------------------------------------------------------------------
-- Bodies
-----------------------------------------------------------------------------------------

namespace Body

theorem nil : Body [] [] where
  toPassable := .nil
  decode offset rest := by
    simp only [List.nil_append, List.length_nil, Nat.add_zero]
    cases Quoted.decode offset rest <;> rfl

/-- Parts that follow one another decode to what they decode to, one after the other. -/
theorem append {first second firstDecoded secondDecoded : Bytes}
    (before : Body first firstDecoded) (after : Body second secondDecoded)
    : Body (first ++ second) (firstDecoded ++ secondDecoded) where
  toPassable := before.toPassable.append after.toPassable
  decode offset rest := by
    rw [List.append_assoc, before.decode, after.decode, List.length_append, Nat.add_assoc]
    cases Quoted.decode (offset + (first.length + second.length)) rest <;> simp

/-- A byte that is no quote, backslash or control character stands for itself. -/
theorem plain {b : UInt8} (noQuote : b ≠ byte '"') (noBackslash : b ≠ byte '\\')
    (noControl : ¬ b < byte ' ')
    : Body [b] [b] where
  toPassable := .plain noQuote noBackslash noControl
  decode offset rest := by
    rw [List.singleton_append, Quoted.decode, if_neg noQuote, if_neg noBackslash, if_neg noControl]
    cases Quoted.decode (offset + 1) rest <;> rfl

/-- Bytes that all stand for themselves. -/
theorem ofPlain {bytes : Bytes}
    (plain : ∀ b ∈ bytes, b ≠ byte '"' ∧ b ≠ byte '\\' ∧ ¬ b < byte ' ')
    : Body bytes bytes := by
  induction bytes with
  | nil => exact nil
  | cons b bytes ih =>
      simp only [List.forall_mem_cons] at plain
      obtain ⟨noQuote, noBackslash, noControl⟩ := plain.1
      exact (Body.plain noQuote noBackslash noControl).append (ih plain.2)

/-- An escape stands for its character. -/
theorem ofEscape {taken : Bytes} {c : Char} (escape : Escape taken c)
    : Body (byte '\\' :: taken) (String.utf8EncodeChar c) where
  toPassable := escape.passable
  decode offset rest := by
    have dropped : (taken ++ rest).drop taken.length = rest := List.drop_left
    rw [List.cons_append, Quoted.decode, if_neg (by decide), if_pos rfl]
    simp only [escape.read, dropped]
    rw [List.length_cons, show offset + (taken.length + 1) = offset + 1 + taken.length by omega]
    cases Quoted.decode (offset + 1 + taken.length) rest <;> rfl

end Body

/-- A string that decodes is a body up to its closing quote, by recursion on its bytes. -/
theorem decode_eq_ok {offset stop : Nat} {bytes decoded : Bytes}
    (h : decode offset bytes = .ok (decoded, stop))
    : ∃ body rest,
        bytes = body ++ byte '"' :: rest
        ∧ stop = offset + body.length + 1
        ∧ Body body decoded := by
  fun_induction Quoted.decode offset bytes generalizing decoded stop with
  | case1 => contradiction
  | case2 offset rest =>
      obtain ⟨rfl, rfl⟩ : [] = decoded ∧ offset + 1 = stop := by simpa using h
      exact ⟨[], rest, rfl, rfl, .nil⟩
  | case3 => contradiction
  | case4 offset rest c size escaped _ ih =>
      obtain ⟨⟨inner, innerStop⟩, found, joined⟩ := Outcome.bind_eq_ok.mp h
      obtain ⟨taken, after, rfl, rfl, escape⟩ := escape_eq_ok escaped
      rw [List.drop_left] at found ih
      obtain ⟨body, rest, rfl, rfl, inside⟩ := ih found
      obtain ⟨rfl, rfl⟩ : _ = decoded ∧ _ = stop := by simpa using joined
      refine ⟨byte '\\' :: taken ++ body, rest, by simp, ?_, (Body.ofEscape escape).append inside⟩
      simp only [List.length_append, List.length_cons]
      omega
  | case5 => contradiction
  | case6 offset b rest noQuote noBackslash noControl ih =>
      obtain ⟨⟨inner, innerStop⟩, found, joined⟩ := Outcome.bind_eq_ok.mp h
      obtain ⟨body, rest, rfl, rfl, inside⟩ := ih found
      obtain ⟨rfl, rfl⟩ : _ = decoded ∧ _ = stop := by simpa using joined
      refine ⟨b :: body, rest, rfl, ?_, (Body.plain noQuote noBackslash noControl).append inside⟩
      rw [List.length_cons]
      omega

/-- A string that can be passed over is passable up to its closing quote, by recursion on
its bytes.
-/
theorem pass_eq_ok {offset stop : Nat} {bytes : Bytes} (h : pass offset bytes = .ok stop)
    : ∃ body rest,
        bytes = body ++ byte '"' :: rest
        ∧ stop = offset + body.length + 1
        ∧ Passable body := by
  fun_induction Quoted.pass offset bytes with
  | case1 => contradiction
  | case2 offset rest =>
      obtain rfl : offset + 1 = stop := by simpa using h
      exact ⟨[], rest, rfl, rfl, .nil⟩
  | case3 => contradiction
  | case4 offset letter rest short _ ih =>
      obtain ⟨body, rest, rfl, rfl, inside⟩ := ih h
      refine ⟨byte '\\' :: letter :: body, rest, rfl, ?_, (Passable.letter short).append inside⟩
      simp only [List.length_cons]
      omega
  | case5 => contradiction
  | case6 offset rest unit found _ _ ih =>
      obtain ⟨digits, after, rfl, four, hex, read⟩ := fourHex_eq_ok found
      rw [← four, List.drop_left] at h ih
      obtain ⟨body, rest, rfl, rfl, inside⟩ := ih h
      refine ⟨byte '\\' :: byte 'u' :: digits ++ body, rest, by simp, ?_,
        (Passable.unit four hex fun _ _ => ⟨_, read _ _⟩).append inside⟩
      simp only [List.length_append, List.length_cons]
      omega
  | case7 => contradiction
  | case8 => contradiction
  | case9 offset b rest noQuote noBackslash noControl ih =>
      obtain ⟨body, rest, rfl, rfl, inside⟩ := ih h
      refine ⟨b :: body, rest, rfl, ?_,
        (Passable.plain noQuote noBackslash noControl).append inside⟩
      rw [List.length_cons]
      omega

-----------------------------------------------------------------------------------------
-- Texts
-----------------------------------------------------------------------------------------

/-- A part of a string that reads as a text wherever it stands. -/
def Reads (body : Bytes) (text : String) : Prop :=
  ∃ decoded, Body body decoded ∧ Utf8.decode? decoded = some text

/-- A string that is read is a part that reads as its text, up to its closing quote. -/
theorem read_eq_ok {offset stop : Nat} {bytes : Bytes} {text : String}
    (h : read offset bytes = .ok (text, stop))
    : ∃ body rest,
        bytes = body ++ byte '"' :: rest
        ∧ stop = offset + body.length + 1
        ∧ Reads body text := by
  obtain ⟨⟨decoded, innerStop⟩, found, repaired⟩ := Outcome.bind_eq_ok.mp h
  obtain ⟨body, rest, rfl, rfl, inside⟩ := decode_eq_ok found
  simp only at repaired
  split at repaired
  · contradiction
  · rename_i noFault
    obtain ⟨rfl, rfl⟩ : _ = text ∧ _ = stop := by simpa using repaired
    exact ⟨body, rest, rfl, rfl, decoded, inside,
      Utf8.decode?_eq_some.mpr ⟨Utf8.firstFault?_eq_none.mp noFault, rfl⟩⟩

namespace Reads

/-- What reads as a text is read as it up to a closing quote. -/
theorem read {body : Bytes} {text : String} (reads : Reads body text) (offset : Nat)
    (rest : Bytes)
    : Quoted.read offset (body ++ byte '"' :: rest) = .ok (text, offset + body.length + 1) := by
  obtain ⟨decoded, inside, wellFormed⟩ := reads
  obtain ⟨whole, rfl⟩ := Utf8.decode?_eq_some.mp wellFormed
  have noFault : Utf8.firstFault? 0 decoded = none := Utf8.firstFault?_eq_none.mpr whole
  simp [Quoted.read, inside.decode, Quoted.decode, noFault]

/-- Parts that follow one another read as their texts, one after the other. -/
theorem append {first second : Bytes} {firstText secondText : String}
    (before : Reads first firstText) (after : Reads second secondText)
    : Reads (first ++ second) (firstText ++ secondText) := by
  obtain ⟨firstDecoded, firstBody, firstRead⟩ := before
  obtain ⟨secondDecoded, secondBody, secondRead⟩ := after
  obtain ⟨firstWhole, rfl⟩ := Utf8.decode?_eq_some.mp firstRead
  obtain ⟨secondWhole, rfl⟩ := Utf8.decode?_eq_some.mp secondRead
  refine ⟨_, firstBody.append secondBody, Utf8.decode?_eq_some.mpr ⟨?_, ?_⟩⟩
  · rw [Utf8.characters_append firstWhole]
    simp [firstWhole, secondWhole]
  · exact Utf8.repair_append firstWhole _

/-- Plain bytes read as the text that they encode. -/
theorem ofPlain {bytes : Bytes} {text : String}
    (plain : ∀ b ∈ bytes, b ≠ byte '"' ∧ b ≠ byte '\\' ∧ ¬ b < byte ' ')
    (encoded : Utf8.decode? bytes = some text)
    : Reads bytes text :=
  ⟨bytes, .ofPlain plain, encoded⟩

theorem passable {body : Bytes} {text : String} (reads : Reads body text) : Passable body :=
  reads.elim fun _ inside => inside.1.toPassable

end Reads

end Quoted

namespace Lexeme

open Quoted

/-- A passable part makes up a string of its size with its quotes. -/
theorem ofQuoted_passable {body : Bytes} (passable : Passable body) (offset : Nat)
    (rest : Bytes)
    : ofQuoted offset (body ++ byte '"' :: rest)
      = ⟨offset, offset + body.length + 2,
          (read (offset + 1) (body ++ byte '"' :: rest)).map (·.1), .ok ()⟩ := by
  simp only [ofQuoted, passable.pass_quote]
  congr 1
  omega

/-- A part that reads as a text makes up a string that reads as it. -/
theorem ofQuoted_reads {body : Bytes} {text : String} (reads : Reads body text) (offset : Nat)
    (rest : Bytes)
    : ofQuoted offset (body ++ byte '"' :: rest)
      = ⟨offset, offset + body.length + 2, .ok text, .ok ()⟩ := by
  rw [ofQuoted_passable reads.passable, reads.read]
  rfl

end Lexeme

end Json

end TaggedConfig
