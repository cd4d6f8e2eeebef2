import TaggedConfig.Proofs.Json.Alignment
import TaggedConfig.Proofs.Json.PlacelessReading

/-! Words and numerals of a JSON text, up to where they stand.
They are found in runs of bytes that are no white space, no punctuation, no quote and no slash.
What breaks a run off makes no difference to them.
-/

namespace TaggedConfig.Json

/-- The bytes that are no part of words and numerals: white space, punctuation, quotes and
slashes.
-/
def outer : Bytes := ascii " \t\n\r[]\x7b\x7d,:\"/"

/-- No word or numeral before the rest goes on in it. -/
def Breaks (rest : Bytes) : Prop := ∀ b, rest.head? = some b → b ∈ outer

-----------------------------------------------------------------------------------------
-- Numerals and words end with their run
-----------------------------------------------------------------------------------------

theorem outer_cases
    : ∀ b ∈ outer, isSpace b ∨ (Mark.ofByte? b).isSome ∨ b = byte '"' ∨ b = byte '/' := by
  decide +kernel

theorem outer_not_digit : ∀ b ∈ outer, isDigit b = false := by decide +kernel

section

variable {rest : Bytes}

/-- What breaks a run is empty or begins with a byte of no run. -/
theorem Breaks.cases (breaks : Breaks rest)
    : rest = [] ∨ ∃ b tail, rest = b :: tail ∧ b ∈ outer := by
  cases rest with
  | nil => exact Or.inl rfl
  | cons b tail => exact Or.inr ⟨b, tail, rfl, breaks b rfl⟩

namespace Numeral

theorem digits_append (breaks : Breaks rest) (text : Bytes)
    : digits (text ++ rest) = ((digits text).1, (digits text).2 ++ rest) := by
  induction text with
  | nil =>
      rcases breaks.cases with rfl | ⟨b, tail, rfl, known⟩
      · rfl
      · simp [digits, outer_not_digit b known]
  | cons c text ih =>
      rw [digits, digits, Prod.mk.injEq] at ih
      cases digit : isDigit c <;> simp [digits, digit, ih]

theorem exponentSign_append (breaks : Breaks rest) (text : Bytes)
    : exponentSign (text ++ rest)
      = ((exponentSign text).1, (exponentSign text).2.1, (exponentSign text).2.2 ++ rest) := by
  cases text with
  | nil =>
      rcases breaks.cases with rfl | ⟨b, tail, rfl, known⟩
      · rfl
      · have noPlus : b ≠ byte '+' := ne_of_mem_of_not_mem known (by decide)
        have noMinus : b ≠ byte '-' := ne_of_mem_of_not_mem known (by decide)
        simp [exponentSign, noPlus, noMinus]
  | cons sign text =>
      simp only [List.cons_append, exponentSign]
      split
      · rfl
      · split <;> rfl

theorem scanExponent_append (breaks : Breaks rest) (text : Bytes) {numeral scanned : Numeral}
    {offset : Nat}
    : scanExponent numeral offset (text ++ rest) = .ok scanned
      ↔ scanExponent numeral offset text = .ok scanned := by
  cases text with
  | nil =>
      rcases breaks.cases with rfl | ⟨b, tail, rfl, known⟩
      · rfl
      · have small : b ≠ byte 'e' := ne_of_mem_of_not_mem known (by decide)
        have large : b ≠ byte 'E' := ne_of_mem_of_not_mem known (by decide)
        simp [scanExponent, small, large]
  | cons letter text =>
      by_cases exponent : letter = byte 'e' ∨ letter = byte 'E'
      · rcases found : digits (exponentSign text).2.2 with ⟨ds, left⟩
        rw [List.cons_append, scanExponent_eq_ok exponent, scanExponent_eq_ok exponent,
          exponentSign_append breaks, digits_append breaks, found]
        simp
      · simp [scanExponent, exponent]

theorem scanFraction_append (breaks : Breaks rest) (text : Bytes) {numeral scanned : Numeral}
    {offset : Nat}
    : scanFraction numeral offset (text ++ rest) = .ok scanned
      ↔ scanFraction numeral offset text = .ok scanned := by
  cases text with
  | nil =>
      rcases breaks.cases with rfl | ⟨b, tail, rfl, known⟩
      · rfl
      · have noPoint : b ≠ byte '.' := ne_of_mem_of_not_mem known (by decide)
        rw [List.nil_append, scanFraction.eq_2, if_neg noPoint]
        exact scanExponent_append breaks []
  | cons point text =>
      by_cases fraction : point = byte '.'
      · simp only [List.cons_append, scanFraction, if_pos fraction, digits_append breaks]
        rcases digits text with ⟨_ | ⟨d, ds⟩, left⟩
        · cases left <;> cases rest <;> simp
        · exact scanExponent_append breaks left
      · simp only [List.cons_append, scanFraction, if_neg fraction]
        exact scanExponent_append breaks (point :: text)

theorem scanWhole_append (breaks : Breaks rest) (text : Bytes) {negative : Bool}
    {scanned : Numeral} {offset : Nat}
    : scanWhole negative offset (text ++ rest) = .ok scanned
      ↔ scanWhole negative offset text = .ok scanned := by
  rcases found : digits text with ⟨whole, left⟩
  simp only [scanWhole_eq_ok, digits_append breaks, found, Prod.mk.injEq]
  constructor
  · rintro ⟨d, ds, _, ⟨rfl, rfl⟩, zero, fraction⟩
    exact ⟨d, ds, left, ⟨rfl, rfl⟩, zero, (scanFraction_append breaks left).mp fraction⟩
  · rintro ⟨d, ds, _, ⟨rfl, rfl⟩, zero, fraction⟩
    exact ⟨d, ds, _, ⟨rfl, rfl⟩, zero, (scanFraction_append breaks left).mpr fraction⟩

/-- The same numeral is scanned whatever breaks it off. -/
theorem scan_append (breaks : Breaks rest) (b : UInt8) (text : Bytes) {scanned : Numeral}
    {offset : Nat}
    : scan offset (b :: text ++ rest) = .ok scanned ↔ scan offset (b :: text) = .ok scanned := by
  rw [List.cons_append, scan, scan]
  split
  · exact scanWhole_append breaks text
  · exact scanWhole_append breaks (b :: text)

theorem length_digits (text : Bytes)
    : (digits text).1.length + (digits text).2.length = text.length := by
  rw [digits, List.length_map, ← List.length_append, List.takeWhile_append_dropWhile]

theorem length_exponentSign (text : Bytes)
    : (exponentSign text).2.1 + (exponentSign text).2.2.length = text.length + 1 := by
  cases text with
  | nil => rfl
  | cons sign text =>
      rw [exponentSign]
      split
      · simp only [List.length_cons]
        omega
      · split <;> simp only [List.length_cons] <;> omega

theorem scanExponent_stop_le {text : Bytes} {numeral scanned : Numeral} {offset : Nat}
    (h : scanExponent numeral offset text = .ok scanned)
    : scanned.stop ≤ offset + text.length := by
  cases text with
  | nil =>
      obtain rfl := Except.ok.inj h
      exact Nat.le_refl _
  | cons letter text =>
      by_cases exponent : letter = byte 'e' ∨ letter = byte 'E'
      · obtain ⟨ds, left, found, -, rfl⟩ := (scanExponent_eq_ok exponent).mp h
        have signLength := length_exponentSign text
        have digitsLength := length_digits (exponentSign text).2.2
        rw [found] at digitsLength
        simp only [List.length_cons] at digitsLength ⊢
        omega
      · simp only [scanExponent, if_neg exponent, Outcome.pure_eq_ok, Except.ok.injEq] at h
        subst h
        exact Nat.le_add_right _ _

theorem scanFraction_stop_le {text : Bytes} {numeral scanned : Numeral} {offset : Nat}
    (h : scanFraction numeral offset text = .ok scanned)
    : scanned.stop ≤ offset + text.length := by
  cases text with
  | nil =>
      obtain rfl := Except.ok.inj h
      exact Nat.le_refl _
  | cons point text =>
      by_cases fraction : point = byte '.'
      · have digitsLength := length_digits text
        rcases found : digits text with ⟨_ | ⟨d, ds⟩, left⟩
        · cases left <;> simp [scanFraction, fraction, found] at h
        · simp only [scanFraction, if_pos fraction, found] at h
          have within := scanExponent_stop_le h
          rw [found] at digitsLength
          simp only [List.length_cons] at digitsLength within ⊢
          omega
      · rw [scanFraction, if_neg fraction] at h
        exact scanExponent_stop_le h

theorem scanWhole_stop_le {text : Bytes} {negative : Bool} {scanned : Numeral} {offset : Nat}
    (h : scanWhole negative offset text = .ok scanned)
    : scanned.stop ≤ offset + text.length := by
  obtain ⟨d, ds, left, found, -, fraction⟩ := scanWhole_eq_ok.mp h
  have digitsLength := length_digits text
  have within := scanFraction_stop_le fraction
  rw [found] at digitsLength
  simp only [List.length_cons] at digitsLength within
  omega

/-- A numeral does not end after the bytes in which it is scanned. -/
theorem scan_stop_le {text : Bytes} {scanned : Numeral} {offset : Nat}
    (h : scan offset text = .ok scanned)
    : scanned.stop ≤ offset + text.length := by
  cases text with
  | nil => contradiction
  | cons sign text =>
      rw [scan] at h
      split at h
      · have within := scanWhole_stop_le h
        rw [List.length_cons]
        omega
      · exact scanWhole_stop_le h

end Numeral

/-- The letters of a word come next if and only if they begin the bytes, by induction on them. -/
theorem matchWord_eq_ok {word bytes : Bytes} {offset : Nat}
    : matchWord offset word bytes = .ok () ↔ word <+: bytes := by
  induction word generalizing bytes offset with
  | nil => simp [matchWord]
  | cons letter word ih =>
      cases bytes with
      | nil => simp [matchWord]
      | cons b bytes =>
          by_cases same : b = letter
          · simp [matchWord, same, ih]
          · simp [matchWord, same, Ne.symm same]

/-- A word begins a run that is broken off if it begins the run itself. -/
theorem prefix_append_iff (breaks : Breaks rest) {word text : Bytes}
    (letters : ∀ letter ∈ word, letter ∉ outer)
    : word <+: text ++ rest ↔ word <+: text := by
  refine ⟨fun begins => ?_, fun begins => begins.trans (List.prefix_append _ _)⟩
  rcases List.prefix_or_prefix_of_prefix begins (List.prefix_append text rest) with
    within | ⟨left, rfl⟩
  · exact within
  · have begins := (List.prefix_append_right_inj text).mp begins
    cases left with
    | nil => simp
    | cons letter left =>
        obtain ⟨tail, rfl⟩ := begins
        exact absurd (breaks letter rfl) (letters letter (by simp))

end

-----------------------------------------------------------------------------------------
-- The tokens of a piece
-----------------------------------------------------------------------------------------

/-- The lexeme gives what another one does and has its size, but it stands at an offset. -/
structure Lexeme.Moved {α : Type} (offset : Nat) (lexeme alone : Lexeme α) : Prop where
  reading : lexeme.reading.toOption = alone.reading.toOption
  passing : lexeme.passing.toOption = alone.passing.toOption
  stop : alone.passing = .ok () → lexeme.stop = offset + alone.stop

/-- As `Lexeme.Moved`, for tokens. -/
structure Token.Moved (offset : Nat) (token alone : Token) : Prop where
  placeless : token.placeless = alone.placeless
  stop? : token.stop? = alone.stop?.map (offset + ·)

/-- Without places, lexemes are told apart only by what they give. -/
theorem Lexeme.Moved.placeless {α : Type} {lexeme alone : Lexeme α} {offset : Nat}
    (moved : lexeme.Moved offset alone)
    : lexeme.placeless = alone.placeless := by
  have same {β : Type} {result result' : Except Fault β}
      (given : result.toOption = result'.toOption)
      : result.mapError (fun _ => unreached) = result'.mapError fun _ => unreached := by
    cases result with
    | error =>
        cases result' with
        | error => rfl
        | ok => contradiction
    | ok =>
        cases result' with
        | error => contradiction
        | ok => exact congrArg Except.ok (Option.some.inj given)
  rw [Lexeme.placeless, Lexeme.placeless, same moved.reading, same moved.passing]

theorem Lexeme.Moved.stop? {α : Type} {lexeme alone : Lexeme α} {offset : Nat}
    (moved : lexeme.Moved offset alone)
    : lexeme.stop? = alone.stop?.map (offset + ·) := by
  have passing := moved.passing
  have stop := moved.stop
  unfold Lexeme.stop?
  cases known : alone.passing with
  | error fault =>
      rw [known] at passing
      cases here : lexeme.passing with
      | error fault' => rfl
      | ok => simp [here] at passing
  | ok =>
      rw [known] at passing stop
      rw [Outcome.toOption_eq_some.mp passing, stop rfl]
      rfl

theorem Token.Moved.scalar {lexeme alone : Lexeme Scalar} {offset : Nat}
    (moved : lexeme.Moved offset alone)
    : Token.Moved offset (.scalar lexeme) (.scalar alone) :=
  ⟨congrArg Token.scalar moved.placeless, moved.stop?⟩

theorem Token.Moved.string {lexeme alone : Lexeme String} {offset : Nat}
    (moved : lexeme.Moved offset alone)
    : Token.Moved offset (.string lexeme) (.string alone) :=
  ⟨congrArg Token.string moved.placeless, moved.stop?⟩

-----------------------------------------------------------------------------------------
-- Numerals and words wherever they stand
-----------------------------------------------------------------------------------------

theorem aligned_self {Fills : Bytes → Bytes → Prop} {text : Bytes} (noQuote : byte '"' ∉ text)
    : Aligned Fills text text := by
  induction text with
  | nil => exact .nil
  | cons b text ih =>
      rw [List.mem_cons, not_or] at noQuote
      exact .plain (Ne.symm noQuote.1) (ih noQuote.2)

/-- A numeral is the same wherever it stands. -/
theorem Numeral.scan_moved {text : Bytes} (noQuote : byte '"' ∉ text) {numeral : Numeral}
    {offset : Nat} (h : scan offset text = .ok numeral) (offset' : Nat)
    : ∃ size,
        0 < size
        ∧ numeral.stop = offset + size
        ∧ scan offset' text = .ok { numeral with stop := offset' + size } := by
  have aligned : Aligned (fun _ _ => False) text text := aligned_self noQuote
  obtain ⟨⟨size, stop, same, -⟩, positive⟩ := scan_aligned aligned h offset'
  exact ⟨size, by omega, stop, same⟩

/-- Where a numeral ends makes no difference to its number. -/
theorem Numeral.toOption_value_stop (numeral : Numeral) (stop : Nat)
    : { numeral with stop }.value.toOption = numeral.value.toOption := by
  refine Option.ext fun number => ?_
  rw [Outcome.toOption_eq_some, Outcome.toOption_eq_some]
  exact ⟨fun known => value_stop known numeral.stop, fun known => value_stop known stop⟩

namespace Lexeme

theorem ofNumeral_scanned {offset : Nat} {bytes : Bytes} {numeral : Numeral}
    (scanned : Numeral.scan offset bytes = .ok numeral)
    : (ofNumeral offset bytes).reading.toOption = numeral.value.toOption.map Scalar.number
      ∧ (ofNumeral offset bytes).passing = .ok ()
      ∧ (ofNumeral offset bytes).stop = numeral.stop := by
  cases known : numeral.value <;> simp [ofNumeral, scanned, known]

theorem ofNumeral_stuck {offset : Nat} {bytes : Bytes} {stuck : Numeral.Stuck}
    (scanned : Numeral.scan offset bytes = .error stuck)
    : (ofNumeral offset bytes).reading.toOption = none
      ∧ (ofNumeral offset bytes).passing.toOption = none := by
  cases stuck <;> simp [ofNumeral, scanned]

variable {b : UInt8} {run rest : Bytes}

/-- The numeral that begins a run does not depend on its place and on what breaks the run. -/
theorem ofNumeral_moved (noQuote : byte '"' ∉ b :: run) (breaks : Breaks rest) (offset : Nat)
    : Lexeme.Moved offset (.ofNumeral offset (b :: run ++ rest)) (.ofNumeral 0 (b :: run)) := by
  cases alone : Numeral.scan 0 (b :: run) with
  | ok numeral =>
      obtain ⟨size, -, stop, same⟩ := Numeral.scan_moved noQuote alone offset
      obtain ⟨reading, passing, stops⟩ := ofNumeral_scanned alone
      obtain ⟨reading', passing', stops'⟩ :=
        ofNumeral_scanned ((Numeral.scan_append breaks b run).mpr same)
      refine ⟨?_, by rw [passing, passing'], fun _ => by rw [stops, stops', stop, Nat.zero_add]⟩
      rw [reading, reading', Numeral.toOption_value_stop]
  | error stuck =>
      cases scanned : Numeral.scan offset (b :: run ++ rest) with
      | ok numeral =>
          obtain ⟨size, -, -, same⟩ :=
            Numeral.scan_moved noQuote ((Numeral.scan_append breaks b run).mp scanned) 0
          rw [alone] at same
          contradiction
      | error stuck' =>
          obtain ⟨reading, passing⟩ := ofNumeral_stuck alone
          obtain ⟨reading', passing'⟩ := ofNumeral_stuck scanned
          refine ⟨by rw [reading, reading'], by rw [passing, passing'], fun passes => ?_⟩
          rw [passes] at passing
          contradiction

theorem toOption_matchWord (offset : Nat) (word bytes : Bytes)
    : (matchWord offset word bytes).toOption = some () ↔ word <+: bytes := by
  rw [Outcome.toOption_eq_some, matchWord_eq_ok]

/-- The word that begins a run does not depend on its place and on what breaks the run. -/
theorem ofWord_moved {word : String} (letters : ∀ letter ∈ ascii word, letter ∉ outer)
    (value : Scalar) (breaks : Breaks rest) (offset : Nat)
    : Lexeme.Moved offset (.ofWord offset word value (run ++ rest)) (.ofWord 0 word value run) := by
  have matched
      : (matchWord offset (ascii word) (run ++ rest)).toOption
        = (matchWord 0 (ascii word) run).toOption := by
    refine Option.ext fun _ => ?_
    rw [toOption_matchWord, toOption_matchWord, prefix_append_iff breaks letters]
  refine ⟨?_, matched, fun _ => ?_⟩
  · simp only [ofWord, Outcome.toOption_map, matched]
  · simp only [ofWord, Nat.zero_add]

end Lexeme

theorem mem_outer_of_isSpace {b : UInt8} (space : isSpace b) : b ∈ outer := by
  simp only [isSpace, Bool.or_eq_true, decide_eq_true_eq] at space
  rcases space with ((rfl | rfl) | rfl) | rfl <;> decide

theorem mem_outer_of_mark {b : UInt8} (mark : (Mark.ofByte? b).isSome) : b ∈ outer := by
  unfold Mark.ofByte? at mark
  repeat' split at mark
  all_goals first | contradiction | (subst b; decide)

theorem isSpace_eq_false_of_inner {b : UInt8} (inner : b ∉ outer) : isSpace b = false :=
  Bool.not_eq_true _ ▸ fun space => inner (mem_outer_of_isSpace space)

theorem isSpace_eq_false_of_mark {b : UInt8} (mark : (Mark.ofByte? b).isSome)
    : isSpace b = false := by
  unfold Mark.ofByte? at mark
  repeat' split at mark
  all_goals first | contradiction | (subst b; decide)

/-- The words have only letters that a run may have. -/
theorem wordOf?_inner {b : UInt8} {word : String} {value : Scalar}
    (h : wordOf? b = some (word, value))
    : ∀ letter ∈ ascii word, letter ∉ outer := by
  have known : word = "null" ∨ word = "true" ∨ word = "false" := by grind [wordOf?]
  rcases known with rfl | rfl | rfl <;> decide +kernel

theorem Lexeme.stop?_eq_some {α : Type} {lexeme : Lexeme α} {stop : Nat}
    : lexeme.stop? = some stop ↔ lexeme.passing = .ok () ∧ lexeme.stop = stop := by
  unfold Lexeme.stop?
  cases lexeme.passing <;> simp

section

variable {b : UInt8} {run rest : Bytes}

theorem Lexeme.stop_ofNumeral (noQuote : byte '"' ∉ b :: run) {stop : Nat}
    (found : (ofNumeral 0 (b :: run)).stop? = some stop)
    : ∃ size, stop = size + 1 ∧ size ≤ run.length := by
  obtain ⟨passes, rfl⟩ := stop?_eq_some.mp found
  cases scanned : Numeral.scan 0 (b :: run) with
  | error stuck =>
      have stays := (ofNumeral_stuck scanned).2
      rw [passes] at stays
      contradiction
  | ok numeral =>
      obtain ⟨size, positive, stop, -⟩ := Numeral.scan_moved noQuote scanned 0
      have within := Numeral.scan_stop_le scanned
      rw [List.length_cons] at within
      rw [(ofNumeral_scanned scanned).2.2]
      exact ⟨size - 1, by omega, by omega⟩

theorem Lexeme.stop_ofWord {word : String} {value : Scalar} (known : wordOf? b = some (word, value))
    {stop : Nat} (found : (ofWord 0 word value (b :: run)).stop? = some stop)
    : ∃ size, stop = size + 1 ∧ size ≤ run.length := by
  obtain ⟨matched, rfl⟩ := stop?_eq_some.mp found
  obtain ⟨-, size, length, bytes⟩ := wordOf?_letters known
  have within := (matchWord_eq_ok.mp matched).length_le
  rw [bytes, List.length_cons] at within
  exact ⟨size, by simp [ofWord, length], by omega⟩

/-- A byte of a run begins a numeral, a word or nothing. -/
theorem Token.begun_inner (inner : b ∉ outer) (offset : Nat) (rest : Bytes)
    : Token.begun offset b rest
      = if b = byte '-' || isDigit b then .scalar (.ofNumeral offset (b :: rest))
        else
          match wordOf? b with
          | some (word, value) => .scalar (.ofWord offset word value (b :: rest))
          | none => .stray offset := by
  have noMark : Mark.ofByte? b = none := by
    rw [← Option.not_isSome_iff_eq_none]
    exact fun mark => inner (mem_outer_of_mark mark)
  have noQuote : b ≠ byte '"' := fun same => inner (same ▸ by decide)
  unfold Token.begun
  rw [noMark]
  exact if_neg noQuote

/-- The token that begins a run does not depend on its place and on what breaks the run. -/
theorem Token.begun_moved (inner : ∀ c ∈ b :: run, c ∉ outer) (breaks : Breaks rest)
    (offset : Nat)
    : (Token.begun offset b (run ++ rest)).Moved offset (.begun 0 b run) := by
  have noQuote : byte '"' ∉ b :: run := fun member => inner _ member (by decide)
  have first : b ∉ outer := inner b List.mem_cons_self
  rw [begun_inner first, begun_inner first]
  split
  · exact .scalar (Lexeme.ofNumeral_moved noQuote breaks offset)
  · cases known : wordOf? b with
    | none => exact ⟨rfl, rfl⟩
    | some word =>
        have moved := @Lexeme.ofWord_moved (b :: run) rest word.1 (wordOf?_inner known) word.2
          breaks offset
        exact .scalar moved

/-- The token that begins a run standing alone takes a byte of it and no more than there are. -/
theorem Token.stop_begun (inner : ∀ c ∈ b :: run, c ∉ outer) {stop : Nat}
    (found : (Token.begun 0 b run).stop? = some stop)
    : ∃ size, stop = size + 1 ∧ size ≤ run.length := by
  have noQuote : byte '"' ∉ b :: run := fun member => inner _ member (by decide)
  rw [begun_inner (inner b List.mem_cons_self)] at found
  split at found
  · exact Lexeme.stop_ofNumeral noQuote found
  · cases known : wordOf? b with
    | none => simp [known, Token.stop?] at found
    | some word =>
        rw [known] at found
        exact Lexeme.stop_ofWord known found

end

end TaggedConfig.Json
