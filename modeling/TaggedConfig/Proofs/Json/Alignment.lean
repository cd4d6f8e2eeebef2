import TaggedConfig.Proofs.Json.Similarity

/-! JSON texts that agree outside of their strings.
No token but a string reaches over a quote, so the tokens of such texts are of the same
sorts, and those that are no strings are the same but for where they stand.
-/

namespace TaggedConfig.Json

open Comment (QuotedBody)

/-- Texts that are the same outside of strings, with bodies of strings that correspond. A
string that does not end takes all of the rest, and then that does not matter.
-/
inductive Aligned (Fills : Bytes → Bytes → Prop) : Bytes → Bytes → Prop
  | nil : Aligned Fills [] []
  | plain {b text other} (noQuote : b ≠ byte '"') (more : Aligned Fills text other)
    : Aligned Fills (b :: text) (b :: other)
  | quoted {body body' text other} (inside : QuotedBody body) (fills : Fills body body')
    (more : Aligned Fills text other)
    : Aligned Fills (byte '"' :: (body ++ byte '"' :: text))
        (byte '"' :: (body' ++ byte '"' :: other))
  | unclosed {text other}
    (unended : ∀ body rest, QuotedBody body → text ≠ body ++ byte '"' :: rest)
    : Aligned Fills (byte '"' :: text) (byte '"' :: other)

variable {Fills : Bytes → Bytes → Prop}

/-- Aligned texts begin with the same byte, and are aligned after it unless it is a quote. -/
theorem Aligned.head {b : UInt8} {text other : Bytes} (aligned : Aligned Fills (b :: text) other)
    : ∃ rest, other = b :: rest ∧ (b ≠ byte '"' → Aligned Fills text rest) := by
  cases aligned with
  | plain _ more => exact ⟨_, rfl, fun _ => more⟩
  | quoted => exact ⟨_, rfl, fun noQuote => absurd rfl noQuote⟩
  | unclosed => exact ⟨_, rfl, fun noQuote => absurd rfl noQuote⟩

theorem Aligned.eq_nil {other : Bytes} (aligned : Aligned Fills [] other) : other = [] := by
  cases aligned
  rfl

-----------------------------------------------------------------------------------------
-- Numerals
-----------------------------------------------------------------------------------------

namespace Numeral

/-- Aligned texts begin with the same digits and are aligned after them. -/
theorem digits_aligned {text other : Bytes} (aligned : Aligned Fills text other)
    {ds : List Nat} {rest : Bytes} (h : digits text = (ds, rest))
    : rest = text.drop ds.length
      ∧ digits other = (ds, other.drop ds.length)
      ∧ Aligned Fills rest (other.drop ds.length) := by
  have quote : isDigit (byte '"') = false := by decide
  induction aligned generalizing ds with
  | nil =>
      obtain ⟨rfl, rfl⟩ : [] = ds ∧ [] = rest := by simpa [digits] using h
      exact ⟨rfl, rfl, .nil⟩
  | @plain b text other noQuote more ih =>
      cases digit : isDigit b with
      | false =>
          obtain ⟨rfl, rfl⟩ : [] = ds ∧ b :: text = rest := by simpa [digits, digit] using h
          simpa [digits, digit] using Aligned.plain noQuote more
      | true =>
          obtain ⟨rfl, rfl⟩ : (b.toNat - 48) :: (digits text).1 = ds ∧ (digits text).2 = rest := by
            simpa [digits, digit] using h
          obtain ⟨dropped, same, tail⟩ := ih rfl
          refine ⟨dropped, ?_, tail⟩
          simpa [digits, digit] using same
  | quoted inside fills more =>
      obtain ⟨rfl, rfl⟩ : [] = ds ∧ _ = rest := by simpa [digits, quote] using h
      simpa [digits, quote] using Aligned.quoted inside fills more
  | unclosed unended =>
      obtain ⟨rfl, rfl⟩ : [] = ds ∧ _ = rest := by simpa [digits, quote] using h
      simpa [digits, quote] using Aligned.unclosed unended

/-- The second scan takes as many bytes as the first and finds the same parts, and the texts
are aligned after them.
-/
def Follows (Fills : Bytes → Bytes → Prop) (offset offset' : Nat) (text other : Bytes)
    (numeral : Numeral) (outcome : Except Stuck Numeral)
    : Prop :=
  ∃ size,
    numeral.stop = offset + size
    ∧ outcome = .ok { numeral with stop := offset' + size }
    ∧ Aligned Fills (text.drop size) (other.drop size)

/-- The sign of an exponent: whether it is negative, how many bytes there are before the
digits, with the letter, and the rest.
-/
def exponentSign : Bytes → Bool × Nat × Bytes
  | [] => (false, 1, [])
  | sign :: rest =>
      if sign = byte '+' then (false, 2, rest)
      else if sign = byte '-' then (true, 2, rest)
      else (false, 1, sign :: rest)

/-- An exponent is its letter, its sign and at least one digit. -/
theorem scanExponent_eq_ok {numeral scanned : Numeral} {offset : Nat} {letter : UInt8}
    {text : Bytes} (exponent : letter = byte 'e' ∨ letter = byte 'E')
    : scanExponent numeral offset (letter :: text) = .ok scanned
      ↔ ∃ ds rest,
          digits (exponentSign text).2.2 = (ds, rest)
          ∧ ds ≠ []
          ∧ scanned
            = { numeral with
                exponent := some ((exponentSign text).1, ds)
                stop := offset + (exponentSign text).2.1 + ds.length } := by
  cases text with
  | nil => simp [scanExponent, exponentSign, exponent, digits]
  | cons sign text =>
      by_cases plus : sign = byte '+'
      · simp only [scanExponent, exponentSign, if_pos exponent, if_pos plus]
        rcases digits text with ⟨_ | ⟨d, ds⟩, _ | ⟨b, rest⟩⟩ <;> simp [eq_comm]
      · by_cases minus : sign = byte '-'
        · simp only [scanExponent, exponentSign, if_pos exponent, if_neg plus, if_pos minus]
          rcases digits text with ⟨_ | ⟨d, ds⟩, _ | ⟨b, rest⟩⟩ <;> simp [eq_comm]
        · simp only [scanExponent, exponentSign, if_pos exponent, if_neg plus, if_neg minus]
          rcases digits (sign :: text) with ⟨_ | ⟨d, ds⟩, _ | ⟨b, rest⟩⟩ <;> simp [eq_comm]

theorem exponentSign_aligned {text other : Bytes} (aligned : Aligned Fills text other)
    : ∃ negative size,
        exponentSign text = (negative, size + 1, text.drop size)
        ∧ exponentSign other = (negative, size + 1, other.drop size)
        ∧ Aligned Fills (text.drop size) (other.drop size) := by
  cases text with
  | nil =>
      obtain rfl := aligned.eq_nil
      exact ⟨false, 0, rfl, rfl, .nil⟩
  | cons sign text =>
      obtain ⟨other, rfl, tail⟩ := aligned.head
      by_cases plus : sign = byte '+'
      · exact ⟨false, 1, by simp [exponentSign, plus], by simp [exponentSign, plus],
          tail (by rw [plus]; decide)⟩
      · by_cases minus : sign = byte '-'
        · exact ⟨true, 1, by rw [exponentSign, if_neg plus, if_pos minus]; rfl,
            by rw [exponentSign, if_neg plus, if_pos minus]; rfl, tail (by rw [minus]; decide)⟩
        · exact ⟨false, 0, by simp [exponentSign, plus, minus],
            by simp [exponentSign, plus, minus], aligned⟩

theorem scanExponent_aligned {text other : Bytes} (aligned : Aligned Fills text other)
    {numeral scanned : Numeral} {offset : Nat} (h : scanExponent numeral offset text = .ok scanned)
    (offset' stop' : Nat)
    : Follows Fills offset offset' text other scanned
        (scanExponent { numeral with stop := stop' } offset' other) := by
  cases text with
  | nil =>
      obtain rfl := aligned.eq_nil
      obtain rfl : { numeral with stop := offset } = scanned := by simpa [scanExponent] using h
      exact ⟨0, rfl, rfl, .nil⟩
  | cons letter text =>
      obtain ⟨other, rfl, tail⟩ := aligned.head
      by_cases exponent : letter = byte 'e' ∨ letter = byte 'E'
      · have tail := tail (by rcases exponent with rfl | rfl <;> decide)
        obtain ⟨ds, rest, found, some, rfl⟩ := (scanExponent_eq_ok exponent).mp h
        obtain ⟨negative, size, signed, signed', after⟩ := exponentSign_aligned tail
        rw [signed] at found
        obtain ⟨rfl, found', after⟩ := digits_aligned after found
        refine ⟨size + 1 + ds.length, ?_, ?_, ?_⟩
        · simp only [signed]
          omega
        · refine (scanExponent_eq_ok exponent).mpr ⟨ds, _, by rw [signed']; exact found', some, ?_⟩
          simp only [signed, signed']
          congr 1
          omega
        · rw [Nat.add_right_comm, List.drop_succ_cons, List.drop_succ_cons, ← List.drop_drop,
            ← List.drop_drop]
          exact after
      · simp only [scanExponent, if_neg exponent, Outcome.pure_eq_ok, Except.ok.injEq] at h
        subst h
        exact ⟨0, rfl, by simp [scanExponent, exponent], aligned⟩

/-- A scan that takes more bytes before the rest that is scanned alike. -/
theorem Follows.after {text other : Bytes} {offset offset' taken : Nat} {numeral : Numeral}
    {outcome : Except Stuck Numeral}
    (follows
      : Follows Fills (offset + taken) (offset' + taken) (text.drop taken) (other.drop taken)
          numeral outcome)
    : Follows Fills offset offset' text other numeral outcome := by
  obtain ⟨size, stop, same, rest⟩ := follows
  rw [List.drop_drop, List.drop_drop] at rest
  refine ⟨taken + size, by omega, ?_, rest⟩
  rw [same, Nat.add_assoc]

theorem scanFraction_aligned {text other : Bytes} (aligned : Aligned Fills text other)
    {numeral scanned : Numeral} {offset : Nat} (h : scanFraction numeral offset text = .ok scanned)
    (offset' stop' : Nat)
    : Follows Fills offset offset' text other scanned
        (scanFraction { numeral with stop := stop' } offset' other) := by
  cases text with
  | nil =>
      obtain rfl := aligned.eq_nil
      obtain rfl : { numeral with stop := offset } = scanned := by simpa [scanFraction] using h
      exact ⟨0, rfl, rfl, .nil⟩
  | cons point text =>
      obtain ⟨other, rfl, tail⟩ := aligned.head
      by_cases fraction : point = byte '.'
      · have tail := tail (by rw [fraction]; decide)
        rcases found : digits text with ⟨ds, rest⟩
        obtain ⟨rfl, found', after⟩ := digits_aligned tail found
        cases ds with
        | nil => cases text <;> simp [scanFraction, fraction, found] at h
        | cons d ds =>
            simp only [scanFraction, if_pos fraction, found] at h
            simp only [scanFraction, if_pos fraction, found']
            have follows := scanExponent_aligned after h (offset' + 1 + (d :: ds).length) stop'
            have place (start : Nat)
                : start + ((d :: ds).length + 1) = start + 1 + (d :: ds).length := by omega
            refine @Follows.after Fills _ _ _ _ ((d :: ds).length + 1) _ _ ?_
            rw [List.drop_succ_cons, List.drop_succ_cons, place, place]
            exact follows
      · simp only [scanFraction, if_neg fraction] at h ⊢
        exact scanExponent_aligned aligned h offset' stop'

/-- A numeral has at least a digit, and a zero that stands first stands alone. -/
theorem scanWhole_eq_ok {negative : Bool} {offset : Nat} {text : Bytes} {scanned : Numeral}
    : scanWhole negative offset text = .ok scanned
      ↔ ∃ d ds rest,
          digits text = (d :: ds, rest)
          ∧ (d = 0 → ds = [])
          ∧ scanFraction ⟨negative, d :: ds, none, none, offset⟩ (offset + (d :: ds).length) rest
            = .ok scanned := by
  unfold scanWhole
  rcases digits text with ⟨_ | ⟨_ | d, _ | ⟨e, ds⟩⟩, _ | ⟨b, rest⟩⟩ <;> simp

theorem scanWhole_aligned {text other : Bytes} (aligned : Aligned Fills text other)
    {negative : Bool} {scanned : Numeral} {offset : Nat}
    (h : scanWhole negative offset text = .ok scanned) (offset' : Nat)
    : Follows Fills offset offset' text other scanned (scanWhole negative offset' other)
      ∧ offset < scanned.stop := by
  obtain ⟨d, ds, rest, found, zero, fraction⟩ := scanWhole_eq_ok.mp h
  obtain ⟨rfl, found', after⟩ := digits_aligned aligned found
  have follows := scanFraction_aligned after fraction (offset' + (d :: ds).length) offset'
  obtain ⟨size, stop, same, tail⟩ := follows
  rw [scanWhole_eq_ok.mpr ⟨d, ds, _, found', zero, same⟩]
  refine ⟨Follows.after ⟨size, stop, rfl, tail⟩, ?_⟩
  rw [stop, List.length_cons]
  omega

/-- Aligned texts begin with the same numeral, if they begin with one. -/
theorem scan_aligned {text other : Bytes} (aligned : Aligned Fills text other)
    {scanned : Numeral} {offset : Nat} (h : scan offset text = .ok scanned) (offset' : Nat)
    : Follows Fills offset offset' text other scanned (scan offset' other)
      ∧ offset < scanned.stop := by
  cases text with
  | nil => contradiction
  | cons sign text =>
      obtain ⟨other, rfl, tail⟩ := aligned.head
      by_cases negative : sign = byte '-'
      · simp only [scan, if_pos negative] at h ⊢
        obtain ⟨follows, positive⟩ :=
          scanWhole_aligned (tail (by rw [negative]; decide)) h (offset' + 1)
        exact ⟨@Follows.after Fills (sign :: text) (sign :: other) _ _ 1 _ _ follows, by omega⟩
      · simp only [scan, if_neg negative] at h ⊢
        exact scanWhole_aligned aligned h offset'

/-- The number of a numeral does not depend on where it ends. -/
theorem value_stop {numeral : Numeral} {number : Number} (h : numeral.value = .ok number)
    (stop : Nat)
    : { numeral with stop }.value = .ok number := by
  obtain ⟨negative, whole, fraction, exponent, old⟩ := numeral
  -- The end only tells where a number that is out of range is found to be so.
  simp only [value] at h ⊢
  split at h
  · exact h
  · split at h
    · split at h
      · exact h
      · contradiction
    · rename_i negative ds _
      rcases absorbed : absorb exponentLimit 0 ds with ⟨n, _ | ⟨d, excess⟩⟩
      · simp only [absorbed] at h ⊢
        split at h
        · exact h
        · contradiction
      · simp only [absorbed] at h ⊢
        split at h
        · contradiction
        · rename_i within
          rw [if_neg within]
          exact h

end Numeral

-----------------------------------------------------------------------------------------
-- Tokens
-----------------------------------------------------------------------------------------

/-- Aligned texts begin with the same word, by induction on the word. -/
theorem matchWord_aligned {word : Bytes} (noQuote : byte '"' ∉ word) {text other : Bytes}
    (aligned : Aligned Fills text other) {offset : Nat} (h : matchWord offset word text = .ok ())
    (offset' : Nat)
    : matchWord offset' word other = .ok ()
      ∧ Aligned Fills (text.drop word.length) (other.drop word.length) := by
  induction word generalizing text other offset offset' with
  | nil => exact ⟨rfl, aligned⟩
  | cons letter word ih =>
      simp only [List.mem_cons, not_or] at noQuote
      cases text with
      | nil => contradiction
      | cons b text =>
          obtain ⟨other, rfl, tail⟩ := aligned.head
          by_cases same : b = letter
          · simp only [matchWord, if_pos same] at h ⊢
            exact ih noQuote.2 (tail (by rw [same]; exact Ne.symm noQuote.1)) h (offset' + 1)
          · simp [matchWord, same] at h

section

variable {Related : Lexeme String → Lexeme String → Prop}

/-- Tokens that begin with the same byte, no quote, and end after as many bytes. -/
def BeginAlike (Fills : Bytes → Bytes → Prop) (Related : Lexeme String → Lexeme String → Prop)
    (offset offset' : Nat) (text other : Bytes) (token token' : Token)
    : Prop :=
  ∃ size size',
    token.stop? = some (offset + 1 + size)
    ∧ token'.stop? = some (offset' + 1 + size')
    ∧ token.Similar Related token'
    ∧ Aligned Fills (text.drop size) (other.drop size')

theorem ofNumeral_aligned {b : UInt8} {text other : Bytes} (noQuote : b ≠ byte '"')
    (aligned : Aligned Fills text other) {offset : Nat}
    (usable : (Lexeme.ofNumeral offset (b :: text)).stop?.isSome) (offset' : Nat)
    : BeginAlike Fills Related offset offset' text other
        (.scalar (.ofNumeral offset (b :: text))) (.scalar (.ofNumeral offset' (b :: other))) := by
  cases scanned : Numeral.scan offset (b :: text) with
  | error stuck => cases stuck <;> simp [Lexeme.ofNumeral, scanned, Lexeme.stop?] at usable
  | ok numeral =>
      obtain ⟨⟨size, stop, scanned', tail⟩, positive⟩ :=
        Numeral.scan_aligned (.plain noQuote aligned) scanned offset'
      obtain ⟨size, rfl⟩ : ∃ smaller, size = smaller + 1 := ⟨size - 1, by omega⟩
      refine ⟨size, size, ?_, ?_, .scalar ⟨?_, ?_⟩ ?_, tail⟩
      · simp only [Token.stop?, Lexeme.ofNumeral, scanned, Lexeme.stop?, stop]
        congr 1
        omega
      · simp only [Token.stop?, Lexeme.ofNumeral, scanned', Lexeme.stop?]
        congr 1
        omega
      · simp [Lexeme.ofNumeral, scanned, Lexeme.stop?]
      · simp [Lexeme.ofNumeral, scanned', Lexeme.stop?]
      · intro value reading
        simp only [Lexeme.ofNumeral, scanned] at reading
        cases number : numeral.value with
        | error fault => simp [number] at reading
        | ok number' =>
            simp only [Lexeme.ofNumeral, scanned', Numeral.value_stop number]
            simpa [number] using reading

/-- The words have letters only, one byte for each. -/
theorem wordOf?_letters {b : UInt8} {word : String} {value : Scalar}
    (h : wordOf? b = some (word, value))
    : byte '"' ∉ ascii word ∧ ∃ size, word.length = size + 1 ∧ (ascii word).length = size + 1 := by
  unfold wordOf? at h
  split at h
  · obtain ⟨rfl, -⟩ := Prod.mk.inj (Option.some.inj h)
    exact ⟨by decide, 3, rfl, rfl⟩
  · split at h
    · obtain ⟨rfl, -⟩ := Prod.mk.inj (Option.some.inj h)
      exact ⟨by decide, 3, rfl, rfl⟩
    · split at h
      · obtain ⟨rfl, -⟩ := Prod.mk.inj (Option.some.inj h)
        exact ⟨by decide, 4, rfl, rfl⟩
      · contradiction

theorem ofWord_aligned {b : UInt8} {text other : Bytes} (noQuote : b ≠ byte '"')
    (aligned : Aligned Fills text other) {word : String} {value : Scalar}
    (found : wordOf? b = some (word, value)) {offset : Nat}
    (usable : (Lexeme.ofWord offset word value (b :: text)).stop?.isSome) (offset' : Nat)
    : BeginAlike Fills Related offset offset' text other
        (.scalar (.ofWord offset word value (b :: text)))
        (.scalar (.ofWord offset' word value (b :: other))) := by
  obtain ⟨letters, size, length, bytes⟩ := wordOf?_letters found
  cases matched : matchWord offset (ascii word) (b :: text) with
  | error fault => simp [Lexeme.ofWord, matched, Lexeme.stop?] at usable
  | ok _ =>
      obtain ⟨matched', tail⟩ :=
        matchWord_aligned letters (.plain noQuote aligned) matched offset'
      rw [bytes, List.drop_succ_cons, List.drop_succ_cons] at tail
      refine ⟨size, size, ?_, ?_, .scalar ⟨?_, ?_⟩ ?_, tail⟩
      · simp only [Token.stop?, Lexeme.ofWord, matched, Lexeme.stop?, length]
        congr 1
        omega
      · simp only [Token.stop?, Lexeme.ofWord, matched', Lexeme.stop?, length]
        congr 1
        omega
      · simp [Lexeme.ofWord, matched, Lexeme.stop?]
      · simp [Lexeme.ofWord, matched', Lexeme.stop?]
      · intro scalar reading
        simpa [Lexeme.ofWord, matched, matched'] using reading

/-- Aligned texts that begin with a byte, no quote, begin with similar tokens. -/
theorem begun_aligned {b : UInt8} {text other : Bytes} (noQuote : b ≠ byte '"')
    (aligned : Aligned Fills text other) {offset : Nat}
    (usable : (Token.begun offset b text).stop?.isSome) (offset' : Nat)
    : BeginAlike Fills Related offset offset' text other (.begun offset b text)
        (.begun offset' b other) := by
  unfold Token.begun at usable ⊢
  cases punctuation : Mark.ofByte? b with
  | some mark => exact ⟨0, 0, rfl, rfl, .mark, aligned⟩
  | none =>
      simp only [punctuation, if_neg noQuote] at usable ⊢
      by_cases numeral : b = byte '-' || isDigit b
      · simp only [if_pos numeral] at usable ⊢
        exact ofNumeral_aligned noQuote aligned usable offset'
      · simp only [if_neg numeral] at usable ⊢
        cases found : wordOf? b with
        | none => simp [found, Token.stop?] at usable
        | some word =>
            simp only [found] at usable ⊢
            exact ofWord_aligned noQuote aligned found usable offset'

end

theorem Token.usable_begun (offset : Nat) (b : UInt8) (text : Bytes)
    : (Token.begun offset b text).Usable ↔ (Token.begun offset b text).stop?.isSome := by
  unfold Token.begun
  repeat' split
  all_goals rfl

/-- The bytes between the quotes of a string. -/
def Lexeme.body (text : Bytes) (lexeme : Lexeme String) : Bytes :=
  (text.drop (lexeme.start + 1)).take (lexeme.stop - lexeme.start - 2)

/-- The string with its body read by other rules. -/
def Lexeme.rereading (read : Bytes → Except Fault String) (text : Bytes)
    (lexeme : Lexeme String)
    : Lexeme String :=
  { lexeme with reading := read (lexeme.body text) }

/-- The second body can take the place of the first: it ends at no quote and can be passed
over if the first can, and it says what rereading makes of the first if that can be read.
-/
structure Refills (read : Bytes → Except Fault String) (body body' : Bytes) : Prop where
  quoted : QuotedBody body → QuotedBody body'
  passable : Quoted.Passable body → Quoted.Passable body'
  reads (text : String)
    : Quoted.Reads body text → ∃ filled, read body = .ok filled ∧ Quoted.Reads body' filled

section

variable {read : Bytes → Except Fault String} {whole : Bytes}

/-- Aligned texts that begin with a quote begin with strings, the second of which says what
rereading makes of the first.
-/
theorem ofQuoted_aligned {text other : Bytes} {offset : Nat}
    (place : whole.drop offset = byte '"' :: text)
    (aligned : Aligned (Refills read) (byte '"' :: text) (byte '"' :: other))
    (usable : (Lexeme.ofQuoted offset text).stop?.isSome) (offset' : Nat)
    : BeginAlike (Refills read) (Lexeme.ChangedTo (Lexeme.rereading read whole)) offset offset'
        text other (.string (.ofQuoted offset text)) (.string (.ofQuoted offset' other)) := by
  have passed : ∃ stop, Quoted.pass (offset + 1) text = .ok stop := by
    unfold Lexeme.ofQuoted at usable
    split at usable
    · exact ⟨_, by assumption⟩
    · contradiction
  obtain ⟨stop, passed⟩ := passed
  obtain ⟨body, rest, rfl, -, passable⟩ := Quoted.pass_eq_ok passed
  generalize first : byte '"' :: (body ++ byte '"' :: rest) = start at aligned
  generalize second : byte '"' :: other = start' at aligned
  cases aligned with
  | nil => contradiction
  | plain noQuote => exact absurd (List.cons.inj first).1.symm noQuote
  | unclosed unended =>
      exact absurd (List.cons.inj first).2.symm (unended body rest passable.quoted)
  | @quoted inner inner' text' other' inside fills more =>
      obtain ⟨rfl, rfl⟩ := passable.quoted.unique inside (List.cons.inj first).2
      obtain rfl := (List.cons.inj second).2
      have passable' := fills.passable passable
      have inPlace : whole.drop (offset + 1) = body ++ byte '"' :: rest := by
        rw [← List.drop_drop, place, List.drop_one, List.tail_cons]
      rw [Lexeme.ofQuoted_passable passable, Lexeme.ofQuoted_passable passable']
      refine ⟨body.length + 1, inner'.length + 1, ?_, ?_, .string ⟨rfl, rfl⟩ ?_, ?_⟩
      · simp only [Token.stop?, Lexeme.stop?]
        congr 1
        omega
      · simp only [Token.stop?, Lexeme.stop?]
        congr 1
        omega
      · intro text reading
        obtain ⟨⟨_, stop⟩, read, rfl⟩ := Outcome.map_eq_ok.mp reading
        obtain ⟨body', rest', same, -, reads⟩ := Quoted.read_eq_ok read
        obtain ⟨rfl, -⟩ := passable.quoted.unique reads.passable.quoted same
        obtain ⟨filled, reread, reads'⟩ := fills.reads _ reads
        refine ⟨filled, ?_, by simp [reads'.read]⟩
        simpa [Lexeme.rereading, Lexeme.body, inPlace, Nat.add_assoc] using reread
      · simpa using more

/-- Aligned texts that begin with a byte begin with similar tokens. -/
theorem begin_aligned {b : UInt8} {text other : Bytes} {offset : Nat}
    (place : whole.drop offset = b :: text)
    (aligned : Aligned (Refills read) (b :: text) (b :: other))
    (usable : (Token.begun offset b text).stop?.isSome) (offset' : Nat)
    : BeginAlike (Refills read) (Lexeme.ChangedTo (Lexeme.rereading read whole)) offset offset'
        text other (.begun offset b text) (.begun offset' b other) := by
  by_cases quote : b = byte '"'
  · subst quote
    exact ofQuoted_aligned place aligned usable offset'
  · obtain ⟨rest, same, tail⟩ := aligned.head
    obtain rfl := (List.cons.inj same).2
    exact begun_aligned quote (tail quote) usable offset'

/-- Aligned texts have similar tokens, if those of the first are all usable, by recursion on
the first. The strings of the second say what rereading makes of those of the first.
-/
theorem tokensFrom_aligned {offset : Nat} {text other : Bytes}
    (place : whole.drop offset = text) (aligned : Aligned (Refills read) text other)
    (usable : ∀ token ∈ tokensFrom offset text, token.Usable) (offset' : Nat)
    : List.Forall₂ (Token.Similar (Lexeme.ChangedTo (Lexeme.rereading read whole)))
        (tokensFrom offset text) (tokensFrom offset' other) := by
  fun_induction tokensFrom offset text generalizing other offset' with
  | case1 offset =>
      obtain rfl := aligned.eq_nil
      rw [tokensFrom]
      exact .cons .finish .nil
  | case2 offset b text space ih =>
      obtain ⟨other, rfl, tail⟩ := aligned.head
      have noQuote : b ≠ byte '"' := by
        rintro rfl
        exact absurd space (by decide)
      have next : whole.drop (offset + 1) = text := by
        rw [← List.drop_drop, place, List.drop_one, List.tail_cons]
      rw [tokensFrom, if_pos space]
      exact ih next (tail noQuote) usable (offset' + 1)
  | case3 offset b text noSpace token stop found =>
      rename_i ih
      obtain ⟨other, rfl, _⟩ := aligned.head
      obtain ⟨size, size', stop?, stop?', similar, rest⟩ :=
        begin_aligned place aligned (Option.isSome_iff_exists.mpr ⟨stop, found⟩) offset'
      obtain rfl : offset + 1 + size = stop := Option.some.inj (stop?.symm.trans found)
      have taken : offset + 1 + size - offset - 1 = size := by omega
      have taken' : offset' + 1 + size' - offset' - 1 = size' := by omega
      simp only [taken] at ih usable ⊢
      simp only [List.forall_mem_cons] at usable
      have next : whole.drop (offset + 1 + size) = text.drop size := by
        rw [← List.drop_drop, ← List.drop_drop, place, List.drop_one, List.tail_cons]
      rw [tokensFrom.eq_def offset']
      simp only [if_neg noSpace, stop?', taken']
      exact .cons similar (ih next rest usable.2 _)
  | case4 offset b text noSpace token =>
      rename_i stuck
      have passed := (Token.usable_begun offset b text).mp (usable token List.mem_cons_self)
      rw [stuck] at passed
      contradiction

end

/-- A text that is aligned with one that has a value has the value of that one with its
strings reread.
-/
theorem decode_aligned {read : Bytes → Except Fault String} {text other : Bytes} {value : Json}
    (aligned : Aligned (Refills read) text other) (h : decode text = .ok value)
    : ∃ reread,
        ((Document.ofBytes text).mapStrings (Lexeme.rereading read text)).read = .ok reread
        ∧ decode other = .ok reread :=
  Document.read_ofTokens_similar (fun _ => honest_of_mem_tokensFrom)
    (tokensFrom_aligned List.drop_zero aligned (usable_of_decode h) 0) h

end TaggedConfig.Json
