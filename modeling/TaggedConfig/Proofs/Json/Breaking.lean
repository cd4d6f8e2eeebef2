import TaggedConfig.Json.Decode
import TaggedConfig.Proofs.Json.StringBody

/-! A JSON text that has a value goes wrong at no token of it.
Where building breaks off, the tree has a part that nobody can read, and what encloses that
part cannot be read either.
-/

namespace TaggedConfig.Json

-----------------------------------------------------------------------------------------
-- Nodes that have no value
-----------------------------------------------------------------------------------------

/-- A node without a value, however deep it may be nested. -/
def Node.Unreadable (node : Node) : Prop := ∀ room value, node.read room ≠ .ok value

/-- A lexeme that can be passed over if it can be read. -/
def Lexeme.Honest {α : Type} (lexeme : Lexeme α) : Prop :=
  ∀ value, lexeme.reading = .ok value → lexeme.stop?.isSome

/-- A token whose lexeme, if it has one, can be passed over if it can be read. -/
def Token.Honest : Token → Prop
  | .scalar lexeme => lexeme.Honest
  | .string lexeme => lexeme.Honest
  | .mark _ _ | .stray _ | .finish _ => True

/-- A token after which the text is read on, or the end of the text. -/
def Token.Usable : Token → Prop
  | .finish _ => True
  | token => token.stop?.isSome

namespace Node

theorem unreadable_scalar {lexeme : Lexeme Scalar} (honest : lexeme.Honest)
    (stuck : lexeme.stop? = none)
    : Unreadable (.scalar lexeme) := by
  intro room value h
  obtain ⟨scalar, reading, -⟩ := Outcome.map_eq_ok.mp h
  simpa [stuck] using honest scalar reading

theorem unreadable_string {lexeme : Lexeme String} (honest : lexeme.Honest)
    (stuck : lexeme.stop? = none)
    : Unreadable (.string lexeme) := by
  intro room value h
  obtain ⟨text, reading, -⟩ := Outcome.map_eq_ok.mp h
  simpa [stuck] using honest text reading

/-- An array that does not end with its bracket has no value. -/
theorem unreadable_array {start : Nat} {items : List Node} {ending : Ending}
    (faulty : ending.arrayFault?.isSome)
    : Unreadable (.array start items ending) := by
  intro room value h
  obtain ⟨fault, found⟩ := Option.isSome_iff_exists.mp faulty
  rw [Node.read] at h
  split at h
  · contradiction
  · obtain ⟨values, -, h⟩ := Outcome.bind_eq_ok.mp h
    obtain ⟨_, guarded, _⟩ := Outcome.bind_eq_ok.mp h
    simp [found, guardFault] at guarded

/-- An object that does not end with its brace has no value. -/
theorem unreadable_object {start : Nat} {members : List (Name × Node)} {ending : Ending}
    (faulty : ending.objectFault?.isSome)
    : Unreadable (.object start members ending) := by
  intro room value h
  obtain ⟨fault, found⟩ := Option.isSome_iff_exists.mp faulty
  rw [Node.read] at h
  split at h
  · contradiction
  · obtain ⟨values, -, h⟩ := Outcome.bind_eq_ok.mp h
    obtain ⟨_, guarded, _⟩ := Outcome.bind_eq_ok.mp h
    simp [found, guardFault] at guarded

theorem unreadable_absent (offset : Nat) : Unreadable (.absent offset) := by
  intro room value h
  simp [Node.read] at h

theorem unreadable_finish (offset : Nat) : Unreadable (.finish offset) := by
  intro room value h
  simp [Node.read] at h

theorem unreadable_cut : Unreadable .cut := by
  intro room value h
  simp [Node.read] at h

end Node

-----------------------------------------------------------------------------------------
-- States that end without a value
-----------------------------------------------------------------------------------------

namespace Document

/-- A frame that does not end with its own bracket makes up a node without a value. -/
theorem Frame.unreadable_close {ending : Ending} (array : ending.arrayFault?.isSome)
    (object : ending.objectFault?.isSome) (frame : Frame)
    : (frame.close ending).Unreadable := by
  cases frame with
  | array start items => exact Node.unreadable_array array
  | object start members => exact Node.unreadable_object object
  | member start members name => exact Node.unreadable_object object

namespace State

/-- A state that has not broken off, or has with a root that has no value. -/
def Sane (state : State) : Prop := ∀ root, state = .broken root → root.Unreadable

theorem sane_building (frames : List Frame) (stage : Stage) : Sane (.building frames stage) :=
  nofun

theorem sane_put (node : Node) (frames : List Frame) : Sane (.put node frames) := by
  cases frames <;> exact nofun

/-- Breaking off leaves a root without a value, by induction on the frames around it. -/
theorem sane_breakOff {node : Node} (unreadable : node.Unreadable) (frames : List Frame)
    : Sane (.breakOff node frames) := by
  rintro root ⟨rfl⟩
  induction frames generalizing node with
  | nil => exact unreadable
  | cons frame frames ih => exact ih ((frame.add node).unreadable_close rfl rfl)

theorem sane_breakEnding {ending : Ending} (array : ending.arrayFault?.isSome)
    (object : ending.objectFault?.isSome) (frames : List Frame)
    : Sane (.breakEnding ending frames) := by
  cases frames with
  | nil =>
      rintro root ⟨rfl⟩
      exact Node.unreadable_cut
  | cons frame frames => exact sane_breakOff (frame.unreadable_close array object) frames

end State

theorem sane_stepValue {token : Token} (honest : token.Honest) (frames : List Frame)
    : (stepValue frames token).Sane := by
  unfold stepValue
  split
  · split
    · exact State.sane_put _ _
    · rename_i stuck
      exact State.sane_breakOff (Node.unreadable_scalar honest stuck) _
  · split
    · exact State.sane_put _ _
    · rename_i stuck
      exact State.sane_breakOff (Node.unreadable_string honest stuck) _
  · exact State.sane_building _ _
  · exact State.sane_building _ _
  · exact State.sane_breakOff (Node.unreadable_absent _) _
  · exact State.sane_breakOff (Node.unreadable_absent _) _
  · exact State.sane_breakOff (Node.unreadable_finish _) _

theorem sane_stepName (first : Bool) (frames : List Frame) (token : Token)
    : (stepName first frames token).Sane := by
  unfold stepName
  split
  · split
    · exact State.sane_building _ _
    · exact State.sane_breakOff (Node.unreadable_object rfl) _
    · exact State.sane_breakEnding rfl rfl _
  · cases first <;> exact State.sane_breakEnding rfl rfl _
  · split
    · exact State.sane_put _ _
    · exact State.sane_breakEnding rfl rfl _
  · exact State.sane_breakEnding rfl rfl _

theorem sane_stepColon (lexeme : Lexeme String) (frames : List Frame) (token : Token)
    : (stepColon lexeme frames token).Sane := by
  unfold stepColon
  split
  · split
    · exact State.sane_building _ _
    · exact State.sane_breakOff (Node.unreadable_object rfl) _
    · exact State.sane_breakOff (Node.unreadable_object rfl) _
    · exact State.sane_breakOff (Node.unreadable_object rfl) _
  · exact State.sane_breakEnding rfl rfl _

theorem sane_stepSeparator (frames : List Frame) (token : Token)
    : (stepSeparator frames token).Sane := by
  unfold stepSeparator
  split
  · exact State.sane_building _ _
  · exact State.sane_building _ _
  · exact State.sane_put _ _
  · exact State.sane_put _ _
  · exact State.sane_breakEnding rfl rfl _
  · exact State.sane_breakEnding rfl rfl _

/-- A state that has broken off stays so without a value, whatever comes next. -/
theorem State.Sane.step {state : State} (sane : state.Sane) {token : Token}
    (honest : token.Honest)
    : (state.step token).Sane := by
  unfold State.step
  split
  · split
    · exact State.sane_put _ _
    · exact State.sane_breakEnding rfl rfl _
    · exact State.sane_breakEnding rfl rfl _
    · exact sane_stepValue honest _
    · exact sane_stepValue honest _
    · exact sane_stepValue honest _
    · exact sane_stepName _ _ _
    · exact sane_stepName _ _ _
    · exact sane_stepColon _ _ _
    · exact sane_stepSeparator _ _
  · exact nofun
  · exact nofun
  · exact sane

-----------------------------------------------------------------------------------------
-- Tokens at which the text goes wrong
-----------------------------------------------------------------------------------------

/-- A state from which no value comes any more. -/
def State.Over : State → Prop
  | .broken _ | .followed _ _ => True
  | .building _ _ | .complete _ => False

theorem State.over_breakEnding (ending : Ending) (frames : List Frame)
    : State.Over (.breakEnding ending frames) := by
  cases frames <;> trivial

theorem over_stepValue {token : Token} (unusable : ¬ token.Usable) (frames : List Frame)
    : (stepValue frames token).Over := by
  cases token with
  | mark => simp [Token.Usable, Token.stop?] at unusable
  | finish => simp [Token.Usable] at unusable
  | stray => trivial
  | scalar lexeme =>
      have stuck : lexeme.stop? = none := by simpa [Token.Usable, Token.stop?] using unusable
      simp [stepValue, stuck, State.breakOff, State.Over]
  | string lexeme =>
      have stuck : lexeme.stop? = none := by simpa [Token.Usable, Token.stop?] using unusable
      simp [stepValue, stuck, State.breakOff, State.Over]

theorem over_stepName {token : Token} (unusable : ¬ token.Usable) (first : Bool)
    (frames : List Frame)
    : (stepName first frames token).Over := by
  cases token with
  | mark => simp [Token.Usable, Token.stop?] at unusable
  | finish => simp [Token.Usable] at unusable
  | stray | scalar => exact State.over_breakEnding _ _
  | string lexeme =>
      have stuck : lexeme.stop? = none := by simpa [Token.Usable, Token.stop?] using unusable
      simp only [stepName, stuck]
      split
      · contradiction
      · trivial
      · exact State.over_breakEnding _ _

theorem over_stepColon {token : Token} (unusable : ¬ token.Usable) (lexeme : Lexeme String)
    (frames : List Frame)
    : (stepColon lexeme frames token).Over := by
  cases token with
  | mark => simp [Token.Usable, Token.stop?] at unusable
  | finish => simp [Token.Usable] at unusable
  | stray | scalar | string =>
      unfold stepColon
      split
      · trivial
      · exact State.over_breakEnding _ _

theorem over_stepSeparator {token : Token} (unusable : ¬ token.Usable) (frames : List Frame)
    : (stepSeparator frames token).Over := by
  cases token with
  | mark => simp [Token.Usable, Token.stop?] at unusable
  | finish => simp [Token.Usable] at unusable
  | stray | scalar | string => exact State.over_breakEnding _ _

/-- Whatever the state, no value comes after a token that cannot be passed over. -/
theorem State.over_step {token : Token} (unusable : ¬ token.Usable) (state : State)
    : (state.step token).Over := by
  unfold State.step
  split
  · split
    · simp [Token.Usable, Token.stop?] at unusable
    · simp [Token.Usable] at unusable
    · simp [Token.Usable, Token.stop?] at unusable
    · exact over_stepValue unusable _
    · exact over_stepValue unusable _
    · exact over_stepValue unusable _
    · exact over_stepName unusable _ _
    · exact over_stepName unusable _ _
    · exact over_stepColon unusable _ _
    · exact over_stepSeparator unusable _
  · simp [Token.Usable] at unusable
  · trivial
  · rename_i noFrames noRoot _
    cases state with
    | building frames stage => exact (noFrames frames stage rfl).elim
    | complete root => exact (noRoot root rfl).elim
    | broken | followed => trivial

theorem State.Over.step {state : State} (done : state.Over) (token : Token)
    : (state.step token).Over := by
  cases state with
  | building | complete => contradiction
  | broken | followed => trivial

/-- The tokens that are still to come keep a state sane, by induction on them. -/
theorem State.Sane.foldl {state : State} (sane : state.Sane) {tokens : List Token}
    (honest : ∀ token ∈ tokens, token.Honest)
    : (tokens.foldl State.step state).Sane := by
  induction tokens generalizing state with
  | nil => exact sane
  | cons token tokens ih =>
      simp only [List.forall_mem_cons] at honest
      exact ih (sane.step honest.1) honest.2

/-- Only a state with a whole tree has a value. -/
theorem State.Sane.complete_of_read {state : State} (sane : state.Sane) {value : Json}
    (h : state.document.read = .ok value)
    : ∃ root, state = .complete root ∧ root.read nestingLimit = .ok value := by
  obtain ⟨whole, rootRead, rest⟩ := Outcome.bind_eq_ok.mp h
  obtain ⟨_, trailing, same⟩ := Outcome.bind_eq_ok.mp rest
  obtain rfl : whole = value := by simpa using same
  cases state with
  | building frames stage => exact (Node.unreadable_cut _ _ rootRead).elim
  | broken root => exact (sane root rfl _ _ rootRead).elim
  | followed root offset => simp [State.document, Document.trailingFault?, guardFault] at trailing
  | complete root => exact ⟨root, rfl, rootRead⟩

/-- Once a state is over, no token sequence leads to a value, by induction on it. -/
theorem State.Over.read_ne_ok {state : State} (done : state.Over) (sane : state.Sane)
    {tokens : List Token} (honest : ∀ token ∈ tokens, token.Honest) (value : Json)
    : (tokens.foldl State.step state).document.read ≠ .ok value := by
  induction tokens generalizing state with
  | nil =>
      intro read
      obtain ⟨root, rfl, -⟩ := sane.complete_of_read read
      exact done
  | cons token tokens ih =>
      simp only [List.forall_mem_cons] at honest
      exact ih (done.step token) (sane.step honest.1) honest.2

/-- If a sequence of tokens has a value, each of them is usable, by induction on it. -/
theorem usable_of_read {tokens : List Token} (honest : ∀ token ∈ tokens, token.Honest)
    {state : State} (sane : state.Sane) {value : Json}
    (read : (tokens.foldl State.step state).document.read = .ok value)
    : ∀ token ∈ tokens, token.Usable := by
  induction tokens generalizing state with
  | nil => simp
  | cons token tokens ih =>
      simp only [List.forall_mem_cons] at honest ⊢
      refine ⟨?_, ih honest.2 (sane.step honest.1) read⟩
      by_cases usable : token.Usable
      · exact usable
      · exact absurd read
          ((State.over_step usable state).read_ne_ok (sane.step honest.1) honest.2 value)

end Document

-----------------------------------------------------------------------------------------
-- The tokens of a text are honest
-----------------------------------------------------------------------------------------

theorem Lexeme.honest_ofWord (offset : Nat) (word : String) (value : Scalar) (bytes : Bytes)
    : (Lexeme.ofWord offset word value bytes).Honest := by
  intro scalar reading
  obtain ⟨_, matched, -⟩ := Outcome.map_eq_ok.mp reading
  simp [Lexeme.ofWord, Lexeme.stop?, matched]

theorem Lexeme.honest_ofNumeral (offset : Nat) (bytes : Bytes)
    : (Lexeme.ofNumeral offset bytes).Honest := by
  intro scalar reading
  unfold Lexeme.ofNumeral at reading ⊢
  split at reading
  · contradiction
  · contradiction
  · rfl

/-- A string that is read has a body, and that can be passed over. -/
theorem Lexeme.honest_ofQuoted (offset : Nat) (bytes : Bytes)
    : (Lexeme.ofQuoted offset bytes).Honest := by
  intro text reading
  have read : ∃ stop, Quoted.read (offset + 1) bytes = .ok (text, stop) := by
    unfold Lexeme.ofQuoted at reading
    split at reading <;>
      obtain ⟨⟨_, stop⟩, read, rfl⟩ := Outcome.map_eq_ok.mp reading <;>
      exact ⟨stop, read⟩
  obtain ⟨stop, read⟩ := read
  obtain ⟨body, rest, rfl, -, reads⟩ := Quoted.read_eq_ok read
  simp [Lexeme.ofQuoted_reads reads, Lexeme.stop?]

theorem Token.honest_begun (offset : Nat) (b : UInt8) (rest : Bytes)
    : (Token.begun offset b rest).Honest := by
  unfold Token.begun
  split
  · trivial
  · split
    · exact Lexeme.honest_ofQuoted _ _
    · split
      · exact Lexeme.honest_ofNumeral _ _
      · split
        · exact Lexeme.honest_ofWord _ _ _ _
        · trivial

/-- Every token of a text is begun somewhere or is its end, by recursion on the text. -/
theorem exists_begun_of_mem {offset : Nat} {bytes : Bytes} {token : Token}
    (member : token ∈ tokensFrom offset bytes)
    : (∃ start b rest, token = .begun start b rest) ∨ ∃ stop, token = .finish stop := by
  fun_induction tokensFrom offset bytes with
  | case1 offset => exact Or.inr ⟨offset, List.mem_singleton.mp member⟩
  | case2 offset b rest space ih => exact ih member
  | case3 offset b rest noSpace begun stop found ih =>
      rcases List.mem_cons.mp member with rfl | member
      · exact Or.inl ⟨offset, b, rest, rfl⟩
      · exact ih member
  | case4 offset b rest noSpace begun stuck =>
      exact Or.inl ⟨offset, b, rest, List.mem_singleton.mp member⟩

theorem honest_of_mem_tokensFrom {offset : Nat} {bytes : Bytes} {token : Token}
    (member : token ∈ tokensFrom offset bytes)
    : token.Honest := by
  rcases exists_begun_of_mem member with ⟨start, b, rest, rfl⟩ | ⟨stop, rfl⟩
  · exact Token.honest_begun start b rest
  · trivial

theorem usable_of_decode {text : Bytes} {value : Json} (h : decode text = .ok value)
    : ∀ token ∈ tokens text, token.Usable :=
  Document.usable_of_read (fun _ => honest_of_mem_tokensFrom)
    (Document.State.sane_building [] .value) h

end TaggedConfig.Json
