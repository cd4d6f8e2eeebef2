import Mathlib.Data.List.Forall2
import TaggedConfig.Json.Decode
import TaggedConfig.Proofs.Json.Breaking

/-! JSON texts with the same structure, up to where things stand and what their strings say.
Building takes similar tokens to similar trees, so what is known of the strings of one text
carries over to the other.
-/

namespace TaggedConfig.Json

/-- The two lexemes can be passed over. -/
def Lexeme.Passed {α : Type} (lexeme other : Lexeme α) : Prop :=
  lexeme.stop?.isSome ∧ other.stop?.isSome

/-- The second lexeme reads as the first one does, if that can be read. -/
def Lexeme.ReadsAs {α : Type} (lexeme other : Lexeme α) : Prop :=
  ∀ value, lexeme.reading = .ok value → other.reading = .ok value

section

variable (Related : Lexeme String → Lexeme String → Prop)

/-- Tokens of one sort, which reading goes on after. -/
inductive Token.Similar : Token → Token → Prop
  | mark {mark offset offset'} : Token.Similar (.mark mark offset) (.mark mark offset')
  | scalar {lexeme lexeme'} (passed : lexeme.Passed lexeme')
    (same : lexeme.ReadsAs lexeme')
    : Token.Similar (.scalar lexeme) (.scalar lexeme')
  | string {lexeme lexeme'} (passed : lexeme.Passed lexeme') (related : Related lexeme lexeme')
    : Token.Similar (.string lexeme) (.string lexeme')
  | finish {offset offset'} : Token.Similar (.finish offset) (.finish offset')

mutual

/-- Trees of one structure in which nothing is missing but parts that were not reached. -/
inductive Node.Similar : Node → Node → Prop
  | scalar {lexeme lexeme'} (same : lexeme.ReadsAs lexeme')
    : Node.Similar (.scalar lexeme) (.scalar lexeme')
  | string {lexeme lexeme'} (related : Related lexeme lexeme')
    : Node.Similar (.string lexeme) (.string lexeme')
  | array {start start' items items' stop stop'} (parts : SimilarItems items items')
    : Node.Similar (.array start items (.closed stop)) (.array start' items' (.closed stop'))
  | object {start start' members members' stop stop'}
    (parts : SimilarMembers members members')
    : Node.Similar (.object start members (.closed stop))
        (.object start' members' (.closed stop'))
  | cut : Node.Similar .cut .cut

inductive SimilarItems : List Node → List Node → Prop
  | nil : SimilarItems [] []
  | cons {item item' items items'} (first : Node.Similar item item')
    (others : SimilarItems items items')
    : SimilarItems (item :: items) (item' :: items')

inductive SimilarMembers : List (Name × Node) → List (Name × Node) → Prop
  | nil : SimilarMembers [] []
  | cons {name name' colon colon' node node' members members'} (named : Related name name')
    (first : Node.Similar node node') (others : SimilarMembers members members')
    : SimilarMembers ((⟨name, .colon colon⟩, node) :: members)
        ((⟨name', .colon colon'⟩, node') :: members')

end

end

variable {Related : Lexeme String → Lexeme String → Prop}

theorem SimilarItems.append {items items' others others' : List Node}
    (more : SimilarItems Related others others')
    : SimilarItems Related items items' →
        SimilarItems Related (items ++ others) (items' ++ others')
  | .nil => more
  | .cons first rest => .cons first (append more rest)

theorem SimilarMembers.append {members members' others others' : List (Name × Node)}
    (more : SimilarMembers Related others others')
    : SimilarMembers Related members members' →
        SimilarMembers Related (members ++ others) (members' ++ others')
  | .nil => more
  | .cons named first rest => .cons named first (append more rest)

namespace Document

section

variable (Related)

/-- Frames with similar parts so far. -/
inductive Frame.Similar : Frame → Frame → Prop
  | array {start start' items items'}
    (parts : SimilarItems Related items.reverse items'.reverse)
    : Frame.Similar (.array start items) (.array start' items')
  | object {start start' members members'}
    (parts : SimilarMembers Related members.reverse members'.reverse)
    : Frame.Similar (.object start members) (.object start' members')
  | member {start start' members members' name name' colon colon'}
    (parts : SimilarMembers Related members.reverse members'.reverse)
    (named : Related name name')
    : Frame.Similar (.member start members ⟨name, .colon colon⟩)
        (.member start' members' ⟨name', .colon colon'⟩)

/-- Stages at which the same may come next. -/
inductive Stage.Similar : Stage → Stage → Prop
  | value : Stage.Similar .value .value
  | firstItem : Stage.Similar .firstItem .firstItem
  | nextItem : Stage.Similar .nextItem .nextItem
  | firstName : Stage.Similar .firstName .firstName
  | nextName : Stage.Similar .nextName .nextName
  | separator : Stage.Similar .separator .separator
  | colon {name name'} (named : Related name name') : Stage.Similar (.colon name) (.colon name')

/-- States with similar trees, unless both are past all hope. -/
inductive State.Similar : State → State → Prop
  | building {frames frames' stage stage'}
    (around : List.Forall₂ (Frame.Similar Related) frames frames')
    (next : Stage.Similar Related stage stage')
    : State.Similar (.building frames stage) (.building frames' stage')
  | complete {root root'} (whole : Node.Similar Related root root')
    : State.Similar (.complete root) (.complete root')
  | broken {root root'} : State.Similar (.broken root) (.broken root')
  | followed {root root' offset offset'}
    : State.Similar (.followed root offset) (.followed root' offset')

end

theorem Frame.Similar.close {frame frame' : Frame} (similar : frame.Similar Related frame')
    (stop stop' : Nat)
    : Node.Similar Related (frame.close (.closed stop)) (frame'.close (.closed stop')) := by
  cases similar with
  | array parts => exact .array parts
  | object parts => exact .object parts
  | member parts named => exact .object (.append (.cons named .cut .nil) parts)

theorem Frame.Similar.add {frame frame' : Frame} (similar : frame.Similar Related frame')
    {node node' : Node} (part : Node.Similar Related node node')
    : (frame.add node).Similar Related (frame'.add node') := by
  cases similar with
  | array parts =>
      refine .array ?_
      simp only [List.reverse_cons]
      exact .append (.cons part .nil) parts
  | object parts => exact .object parts
  | member parts named =>
      refine .object ?_
      simp only [List.reverse_cons]
      exact .append (.cons named part .nil) parts

section

variable {frames frames' : List Frame}

theorem State.similar_put {node node' : Node} (part : Node.Similar Related node node')
    (around : List.Forall₂ (Frame.Similar Related) frames frames')
    : State.Similar Related (.put node frames) (.put node' frames') := by
  cases around with
  | nil => exact .complete part
  | cons frame around => exact .building (.cons (frame.add part) around) .separator

theorem State.similar_breakEnding (ending ending' : Ending)
    (around : List.Forall₂ (Frame.Similar Related) frames frames')
    : State.Similar Related (.breakEnding ending frames) (.breakEnding ending' frames') := by
  cases around <;> exact .broken

theorem stepValue_similar {token token' : Token} (same : token.Similar Related token')
    (around : List.Forall₂ (Frame.Similar Related) frames frames')
    : State.Similar Related (stepValue frames token) (stepValue frames' token') := by
  cases same with
  | @mark mark offset offset' =>
      cases mark with
      | beginArray => exact .building (.cons (.array .nil) around) .firstItem
      | beginObject => exact .building (.cons (.object .nil) around) .firstName
      | endArray | endObject | comma | colon => exact .broken
  | scalar passed reading =>
      obtain ⟨stop, found⟩ := Option.isSome_iff_exists.mp passed.1
      obtain ⟨stop', found'⟩ := Option.isSome_iff_exists.mp passed.2
      simp only [stepValue, found, found']
      exact State.similar_put (.scalar reading) around
  | string passed related =>
      obtain ⟨stop, found⟩ := Option.isSome_iff_exists.mp passed.1
      obtain ⟨stop', found'⟩ := Option.isSome_iff_exists.mp passed.2
      simp only [stepValue, found, found']
      exact State.similar_put (.string related) around
  | finish => exact .broken

theorem stepName_similar {token token' : Token} (same : token.Similar Related token')
    (around : List.Forall₂ (Frame.Similar Related) frames frames') (first : Bool)
    : State.Similar Related (stepName first frames token) (stepName first frames' token') := by
  cases same with
  | @mark mark offset offset' =>
      cases mark with
      | endObject =>
          cases first with
          | false => exact State.similar_breakEnding _ _ around
          | true =>
              cases around with
              | nil => exact .broken
              | cons frame around => exact State.similar_put (frame.close _ _) around
      | beginArray | endArray | beginObject | comma | colon =>
          exact State.similar_breakEnding _ _ around
  | scalar => exact State.similar_breakEnding _ _ around
  | string passed related =>
      obtain ⟨stop, found⟩ := Option.isSome_iff_exists.mp passed.1
      obtain ⟨stop', found'⟩ := Option.isSome_iff_exists.mp passed.2
      simp only [stepName, found, found']
      exact .building around (.colon related)
  | finish => exact State.similar_breakEnding _ _ around

theorem stepColon_similar {token token' : Token} (same : token.Similar Related token')
    (around : List.Forall₂ (Frame.Similar Related) frames frames')
    {name name' : Lexeme String} (named : Related name name')
    : State.Similar Related (stepColon name frames token) (stepColon name' frames' token') := by
  cases around with
  | nil => exact .broken
  | cons frame around =>
      cases frame with
      | array parts => exact State.similar_breakEnding _ _ (.cons (.array parts) around)
      | member parts key => exact State.similar_breakEnding _ _ (.cons (.member parts key) around)
      | object parts =>
          cases same with
          | @mark mark offset offset' =>
              cases mark with
              | colon => exact .building (.cons (.member parts named) around) .value
              | beginArray | endArray | beginObject | endObject | comma => exact .broken
          | scalar | string | finish => exact .broken

theorem stepSeparator_similar {token token' : Token} (same : token.Similar Related token')
    (around : List.Forall₂ (Frame.Similar Related) frames frames')
    : State.Similar Related (stepSeparator frames token) (stepSeparator frames' token') := by
  cases same with
  | @mark mark offset offset' =>
      cases around with
      | nil => cases mark <;> first | exact .broken | exact .building .nil .nextName
      | cons frame around =>
          cases mark with
          | comma =>
              cases frame with
              | array parts => exact .building (.cons (.array parts) around) .nextItem
              | object parts => exact .building (.cons (.object parts) around) .nextName
              | member parts named => exact .building (.cons (.member parts named) around) .nextName
          | endArray =>
              cases frame with
              | array parts => exact State.similar_put (.array parts) around
              | object | member => exact .broken
          | endObject =>
              cases frame with
              | object parts => exact State.similar_put (.object parts) around
              | array | member => exact .broken
          | beginArray | beginObject | colon => exact .broken
  | scalar | string | finish => exact State.similar_breakEnding _ _ around

/-- In the place of an item, a bracket that does not close the array begins or breaks one. -/
theorem step_item {stage : Stage} (item : stage = .firstItem ∨ stage = .nextItem) {mark : Mark}
    (other : mark ≠ .endArray) (frames : List Frame) (offset : Nat)
    : State.step (.building frames stage) (.mark mark offset)
      = stepValue frames (.mark mark offset) := by
  rcases item with rfl | rfl <;> cases mark <;> first | rfl | contradiction

/-- Similar tokens take similar states to similar states, by the stage of the first. -/
theorem State.Similar.step {state state' : State} (similar : state.Similar Related state')
    {token token' : Token} (same : token.Similar Related token')
    : (state.step token).Similar Related (state'.step token') := by
  cases similar with
  | broken => exact .broken
  | followed => exact .followed
  | complete whole =>
      cases same with
      | finish => exact .complete whole
      | mark | scalar | string => exact .followed
  | @building frames frames' stage stage' around next =>
      cases next with
      | colon named => exact stepColon_similar same around named
      | value => exact stepValue_similar same around
      | firstName => exact stepName_similar same around true
      | nextName => exact stepName_similar same around false
      | separator => exact stepSeparator_similar same around
      | firstItem =>
          cases same with
          | @mark mark offset offset' =>
              by_cases closing : mark = .endArray
              · subst closing
                cases around with
                | nil => exact .broken
                | cons frame around => exact State.similar_put (frame.close _ _) around
              · rw [step_item (Or.inl rfl) closing, step_item (Or.inl rfl) closing]
                exact stepValue_similar .mark around
          | scalar passed reading => exact stepValue_similar (.scalar passed reading) around
          | string passed related => exact stepValue_similar (.string passed related) around
          | finish => exact State.similar_breakEnding _ _ around
      | nextItem =>
          cases same with
          | @mark mark offset offset' =>
              by_cases closing : mark = .endArray
              · subst closing
                exact State.similar_breakEnding _ _ around
              · rw [step_item (Or.inr rfl) closing, step_item (Or.inr rfl) closing]
                exact stepValue_similar .mark around
          | scalar passed reading => exact stepValue_similar (.scalar passed reading) around
          | string passed related => exact stepValue_similar (.string passed related) around
          | finish => exact stepValue_similar .finish around

/-- Similar token sequences lead similar states to similar states, by induction on them. -/
theorem State.Similar.foldl {tokens tokens' : List Token}
    (same : List.Forall₂ (Token.Similar Related) tokens tokens') {state state' : State}
    (similar : state.Similar Related state')
    : (tokens.foldl State.step state).Similar Related (tokens'.foldl State.step state') := by
  induction same generalizing state state' with
  | nil => exact similar
  | cons first _ ih => exact ih (similar.step first)

end

end Document

-----------------------------------------------------------------------------------------
-- Reading trees whose strings were changed
-----------------------------------------------------------------------------------------

mutual

/-- The tree with every string changed, names included. -/
def Node.mapStrings (change : Lexeme String → Lexeme String) : Node → Node
  | .string lexeme => .string (change lexeme)
  | .array start items ending => .array start (mapItems change items) ending
  | .object start members ending => .object start (mapMembers change members) ending
  | .scalar lexeme => .scalar lexeme
  | .absent offset => .absent offset
  | .finish offset => .finish offset
  | .cut => .cut

def mapItems (change : Lexeme String → Lexeme String) : List Node → List Node
  | [] => []
  | item :: items => item.mapStrings change :: mapItems change items

def mapMembers (change : Lexeme String → Lexeme String)
    : List (Name × Node) → List (Name × Node)
  | [] => []
  | (name, node) :: members =>
      ({ name with lexeme := change name.lexeme }, node.mapStrings change)
      :: mapMembers change members

end

/-- A document with every string changed. -/
def Document.mapStrings (change : Lexeme String → Lexeme String) (document : Document)
    : Document :=
  { document with root := document.root.mapStrings change }

/-- The second lexeme reads as the first one does when changed, if the first can be read. -/
def Lexeme.ChangedTo (change : Lexeme String → Lexeme String) (lexeme lexeme' : Lexeme String)
    : Prop :=
  ∀ text, lexeme.reading = .ok text →
    ∃ changed, (change lexeme).reading = .ok changed ∧ lexeme'.reading = .ok changed

section

variable {change : Lexeme String → Lexeme String}

mutual

/-- A tree with changed strings reads as the changed tree, by recursion on their likeness. -/
theorem Node.Similar.read {node node' : Node} {room : Nat} {value : Json}
    : node.Similar (Lexeme.ChangedTo change) node' →
        node.read room = .ok value →
          ∃ changed,
            (node.mapStrings change).read room = .ok changed
            ∧ node'.read room = .ok changed
  | .scalar same, h => by
      obtain ⟨scalar, reading, rfl⟩ := Outcome.map_eq_ok.mp h
      exact ⟨_, h, by simp [Node.read, same scalar reading]⟩
  | .string related, h => by
      obtain ⟨text, reading, -⟩ := Outcome.map_eq_ok.mp h
      obtain ⟨changed, first, second⟩ := related text reading
      refine ⟨.string changed, ?_, ?_⟩
      · simp [Node.mapStrings, Node.read, first]
      · simp [Node.read, second]
  | .array parts, h => by
      rw [Node.read] at h
      split at h
      · contradiction
      · rename_i deep
        obtain ⟨values, reading, _⟩ := Outcome.bind_eq_ok.mp h
        obtain ⟨changed, first, second⟩ := SimilarItems.read parts reading
        refine ⟨.array changed, ?_, ?_⟩
        · simp [Node.mapStrings, Node.read, deep, first, Ending.arrayFault?, guardFault]
        · simp [Node.read, deep, second, Ending.arrayFault?, guardFault]
  | .object parts, h => by
      rw [Node.read] at h
      split at h
      · contradiction
      · rename_i deep
        obtain ⟨values, reading, _⟩ := Outcome.bind_eq_ok.mp h
        obtain ⟨changed, first, second⟩ := SimilarMembers.read parts reading
        refine ⟨.ofMembers changed, ?_, ?_⟩
        · simp [Node.mapStrings, Node.read, deep, first, Ending.objectFault?, guardFault]
        · simp [Node.read, deep, second, Ending.objectFault?, guardFault]
  | .cut, h => by simp [Node.read] at h

theorem SimilarItems.read {items items' : List Node} {room : Nat} {values : List Json}
    : SimilarItems (Lexeme.ChangedTo change) items items' →
        readItems room items = .ok values →
          ∃ changed,
            readItems room (mapItems change items) = .ok changed
            ∧ readItems room items' = .ok changed
  | .nil, h => ⟨values, h, h⟩
  | .cons first others, h => by
      obtain ⟨value, reading, h⟩ := Outcome.bind_eq_ok.mp h
      obtain ⟨values, later, _⟩ := Outcome.bind_eq_ok.mp h
      obtain ⟨changed, changedRead, otherRead⟩ := Node.Similar.read first reading
      obtain ⟨rest, changedRest, otherRest⟩ := SimilarItems.read others later
      exact ⟨changed :: rest, by simp [mapItems, readItems, changedRead, changedRest],
        by simp [readItems, otherRead, otherRest]⟩

theorem SimilarMembers.read {members members' : List (Name × Node)} {room : Nat}
    {values : List (String × Json)}
    : SimilarMembers (Lexeme.ChangedTo change) members members' →
        readMembers room members = .ok values →
          ∃ changed,
            readMembers room (mapMembers change members) = .ok changed
            ∧ readMembers room members' = .ok changed
  | .nil, h => ⟨values, h, h⟩
  | .cons named first others, h => by
      obtain ⟨key, keyRead, h⟩ := Outcome.bind_eq_ok.mp h
      obtain ⟨_, colon, h⟩ := Outcome.bind_eq_ok.mp h
      obtain ⟨value, reading, h⟩ := Outcome.bind_eq_ok.mp h
      obtain ⟨values, later, _⟩ := Outcome.bind_eq_ok.mp h
      obtain ⟨name, changedName, otherName⟩ := named key keyRead
      obtain ⟨changed, changedRead, otherRead⟩ := Node.Similar.read first reading
      obtain ⟨rest, changedRest, otherRest⟩ := SimilarMembers.read others later
      refine ⟨(name, changed) :: rest, ?_, ?_⟩
      · simp [mapMembers, readMembers, changedName, changedRead, changedRest, Follow.fault?,
          guardFault]
      · simp [readMembers, otherName, otherRead, otherRest, Follow.fault?, guardFault]

end

/-- If a sequence of tokens has a value, a similar one whose strings are those of the first
with a change has the value of the changed document.
-/
theorem Document.read_ofTokens_similar {tokens tokens' : List Token}
    (honest : ∀ token ∈ tokens, token.Honest)
    (same : List.Forall₂ (Token.Similar (Lexeme.ChangedTo change)) tokens tokens')
    {value : Json} (h : (ofTokens tokens).read = .ok value)
    : ∃ changed,
        ((ofTokens tokens).mapStrings change).read = .ok changed
        ∧ (ofTokens tokens').read = .ok changed := by
  have start
      : State.Similar (Lexeme.ChangedTo change) (.building [] .value) (.building [] .value) :=
    .building .nil .value
  have similar := start.foldl same
  have sane := (State.sane_building [] .value).foldl honest
  obtain ⟨root, whole, rootRead⟩ := sane.complete_of_read h
  rw [whole] at similar
  generalize ended : tokens'.foldl State.step (.building [] .value) = state' at similar
  cases similar with
  | complete likeness =>
      obtain ⟨changed, first, second⟩ := likeness.read rootRead
      refine ⟨changed, ?_, ?_⟩
      · simp [ofTokens, whole, mapStrings, State.document, read, first, trailingFault?, guardFault]
      · simp [ofTokens, ended, State.document, read, second, trailingFault?, guardFault]

end

end TaggedConfig.Json
