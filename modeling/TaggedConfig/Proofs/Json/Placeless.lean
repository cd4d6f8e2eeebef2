import TaggedConfig.Proofs.Json.Similarity

/-! JSON texts up to where things stand in them.
Offsets tell where a text is faulty and nothing else. So the tree of a text can be built from its
tokens as if each of them stood at the beginning.
-/

namespace TaggedConfig.Json

-----------------------------------------------------------------------------------------
-- Trees as if all of their parts stood at the beginning
-----------------------------------------------------------------------------------------

/-- A lexeme without its place. All faults are the same. -/
def Lexeme.placeless {α : Type} (lexeme : Lexeme α) : Lexeme α where
  start := 0
  stop := 0
  reading := lexeme.reading.mapError fun _ => unreached
  passing := lexeme.passing.mapError fun _ => unreached

def Token.placeless : Token → Token
  | .mark punctuation _ => .mark punctuation 0
  | .scalar lexeme => .scalar lexeme.placeless
  | .string lexeme => .string lexeme.placeless
  | .stray _ => .stray 0
  | .finish _ => .finish 0

/-- An ending without its place. A closing bracket at the beginning ends after one byte. -/
def Ending.placeless : Ending → Ending
  | .closed _ => .closed 1
  | .afterComma _ => .afterComma 0
  | .stray _ => .stray 0
  | .noName _ => .noName 0
  | .finish _ => .finish 0
  | .finishAfterComma _ => .finishAfterComma 0
  | .cut => .cut

def Follow.placeless : Follow → Follow
  | .colon _ => .colon 0
  | .closing _ => .closing 0
  | .stray _ => .stray 0
  | .finish _ => .finish 0
  | .cut => .cut

def Name.placeless (name : Name) : Name where
  lexeme := name.lexeme.placeless
  follow := name.follow.placeless

mutual

def Node.placeless : Node → Node
  | .scalar lexeme => .scalar lexeme.placeless
  | .string lexeme => .string lexeme.placeless
  | .array _ items ending => .array 0 (placelessItems items) ending.placeless
  | .object _ members ending => .object 0 (placelessMembers members) ending.placeless
  | .absent _ => .absent 0
  | .finish _ => .finish 0
  | .cut => .cut

def placelessItems : List Node → List Node
  | [] => []
  | item :: items => item.placeless :: placelessItems items

def placelessMembers : List (Name × Node) → List (Name × Node)
  | [] => []
  | (name, node) :: members => (name.placeless, node.placeless) :: placelessMembers members

end

theorem placelessItems_eq_map (items : List Node)
    : placelessItems items = items.map Node.placeless := by
  induction items with
  | nil => rfl
  | cons item items ih => simp [placelessItems, ih]

theorem placelessMembers_eq_map (members : List (Name × Node))
    : placelessMembers members = members.map (Prod.map Name.placeless Node.placeless) := by
  induction members with
  | nil => rfl
  | cons member members ih =>
      rw [placelessMembers, ih]
      rfl

@[simp] theorem Lexeme.stop?_placeless {α : Type} (lexeme : Lexeme α)
    : lexeme.placeless.stop? = lexeme.stop?.map fun _ => 0 := by
  unfold stop? placeless
  cases lexeme.passing <;> rfl

@[simp] theorem Token.start_placeless (token : Token) : token.placeless.start = 0 := by
  cases token <;> rfl

namespace Document

def placeless (document : Document) : Document where
  root := document.root.placeless
  trailing := document.trailing.map fun _ => 0

def Frame.placeless : Frame → Frame
  | .array _ items => .array 0 (placelessItems items)
  | .object _ members => .object 0 (placelessMembers members)
  | .member _ members name => .member 0 (placelessMembers members) name.placeless

def Stage.placeless : Stage → Stage
  | .colon lexeme => .colon lexeme.placeless
  | stage => stage

def State.placeless : State → State
  | .building frames stage => .building (frames.map Frame.placeless) stage.placeless
  | .complete root => .complete root.placeless
  | .followed root _ => .followed root.placeless 0
  | .broken root => .broken root.placeless

-----------------------------------------------------------------------------------------
-- Building takes no notice of places
-----------------------------------------------------------------------------------------

theorem Frame.placeless_close (frame : Frame) (ending : Ending)
    : (frame.close ending).placeless = frame.placeless.close ending.placeless := by
  cases frame <;>
    simp [close, Frame.placeless, Node.placeless, placelessItems_eq_map, placelessMembers_eq_map]

theorem Frame.placeless_add (frame : Frame) (node : Node)
    : (frame.add node).placeless = frame.placeless.add node.placeless := by
  cases frame <;> rfl

theorem State.placeless_put (node : Node) (frames : List Frame)
    : (State.put node frames).placeless
      = State.put node.placeless (frames.map Frame.placeless) := by
  cases frames with
  | nil => rfl
  | cons frame frames =>
      simp [put, State.placeless, Frame.placeless_add, Stage.placeless]

/-- Breaking off takes no notice of places, by induction on the frames. -/
theorem State.placeless_breakOff (node : Node) (frames : List Frame)
    : (State.breakOff node frames).placeless
      = State.breakOff node.placeless (frames.map Frame.placeless) := by
  simp only [breakOff, State.placeless]
  induction frames generalizing node with
  | nil => rfl
  | cons frame frames ih =>
      rw [List.foldl_cons, ih, Frame.placeless_close, Frame.placeless_add]
      rfl

theorem State.placeless_breakEnding (ending : Ending) (frames : List Frame)
    : (State.breakEnding ending frames).placeless
      = State.breakEnding ending.placeless (frames.map Frame.placeless) := by
  cases frames with
  | nil => rfl
  | cons frame frames => simp [breakEnding, State.placeless_breakOff, Frame.placeless_close]

/-- A closing bracket ends a frame at the beginning too. -/
theorem State.placeless_close (frame : Frame) (frames : List Frame) (offset : Nat)
    : (State.put (frame.close (.closed (offset + 1))) frames).placeless
      = State.put (frame.placeless.close (.closed (0 + 1))) (frames.map Frame.placeless) := by
  rw [State.placeless_put, Frame.placeless_close]
  rfl

theorem placeless_stepValue (frames : List Frame) (token : Token)
    : (stepValue frames token).placeless
      = stepValue (frames.map Frame.placeless) token.placeless := by
  cases token with
  | mark mark offset =>
      cases mark with
      | beginArray | beginObject => rfl
      | endArray | endObject | comma | colon => exact State.placeless_breakOff _ _
  | scalar lexeme =>
      simp only [stepValue, Token.placeless, Lexeme.stop?_placeless]
      cases lexeme.stop? with
      | none => exact State.placeless_breakOff _ _
      | some stop => exact State.placeless_put _ _
  | string lexeme =>
      simp only [stepValue, Token.placeless, Lexeme.stop?_placeless]
      cases lexeme.stop? with
      | none => exact State.placeless_breakOff _ _
      | some stop => exact State.placeless_put _ _
  | stray | finish => exact State.placeless_breakOff _ _

theorem placeless_stepName (first : Bool) (frames : List Frame) (token : Token)
    : (stepName first frames token).placeless
      = stepName first (frames.map Frame.placeless) token.placeless := by
  cases token with
  | string lexeme =>
      simp only [stepName, Token.placeless, Lexeme.stop?_placeless]
      cases lexeme.stop? with
      | some stop => rfl
      | none =>
          cases frames with
          | nil => rfl
          | cons frame frames =>
              cases frame with
              | array | member => exact State.placeless_breakEnding _ (_ :: _)
              | object start members =>
                  simp [State.placeless_breakOff, Node.placeless, Frame.placeless,
                    placelessMembers_eq_map, Name.placeless, Follow.placeless, Ending.placeless]
  | finish offset => cases first <;> exact State.placeless_breakEnding _ _
  | mark mark offset =>
      cases mark with
      | endObject =>
          cases first with
          | false => exact State.placeless_breakEnding _ _
          | true =>
              cases frames with
              | nil => rfl
              | cons frame frames => exact State.placeless_close frame frames offset
      | beginArray | endArray | beginObject | comma | colon =>
          exact State.placeless_breakEnding _ _
  | scalar | stray => exact State.placeless_breakEnding _ _

theorem placeless_stepColon (lexeme : Lexeme String) (frames : List Frame) (token : Token)
    : (stepColon lexeme frames token).placeless
      = stepColon lexeme.placeless (frames.map Frame.placeless) token.placeless := by
  cases frames with
  | nil => rfl
  | cons frame frames =>
      cases frame with
      | array | member => exact State.placeless_breakEnding _ (_ :: _)
      | object start members =>
          have broken (follow : Follow)
              : (State.breakOff
                  (.object start (members.reverse ++ [(⟨lexeme, follow⟩, .cut)]) .cut)
                  frames).placeless
                = State.breakOff
                  (.object 0
                    ((placelessMembers members).reverse
                      ++ [(⟨lexeme.placeless, follow.placeless⟩, .cut)]) .cut)
                  (frames.map Frame.placeless) := by
            simp [State.placeless_breakOff, Node.placeless, placelessMembers_eq_map,
              Name.placeless, Ending.placeless]
          cases token with
          | mark mark offset =>
              cases mark with
              | colon => rfl
              | beginArray | endArray | beginObject | endObject | comma => exact broken _
          | scalar | string | stray | finish => exact broken _

theorem placeless_stepSeparator (frames : List Frame) (token : Token)
    : (stepSeparator frames token).placeless
      = stepSeparator (frames.map Frame.placeless) token.placeless := by
  cases token with
  | scalar | string | stray | finish => exact State.placeless_breakEnding _ _
  | mark mark offset =>
      cases frames with
      | nil => cases mark <;> rfl
      | cons frame frames =>
          cases mark with
          | comma => cases frame <;> rfl
          | endArray =>
              cases frame with
              | array start items => exact State.placeless_close _ frames offset
              | object | member => exact State.placeless_breakEnding _ (_ :: _)
          | endObject =>
              cases frame with
              | object start members => exact State.placeless_close _ frames offset
              | array | member => exact State.placeless_breakEnding _ (_ :: _)
          | beginArray | beginObject | colon => exact State.placeless_breakEnding _ (_ :: _)

/-- A token takes no notice of places, by the stage. -/
theorem State.placeless_step (state : State) (token : Token)
    : (state.step token).placeless = state.placeless.step token.placeless := by
  cases state with
  | broken | followed => rfl
  | complete root =>
      cases token with
      | finish => rfl
      | mark | scalar | string | stray => rfl
  | building frames stage =>
      cases stage with
      | value => exact placeless_stepValue frames token
      | firstName => exact placeless_stepName true frames token
      | nextName => exact placeless_stepName false frames token
      | colon lexeme => exact placeless_stepColon lexeme frames token
      | separator => exact placeless_stepSeparator frames token
      | firstItem =>
          cases token with
          | finish offset => exact State.placeless_breakEnding _ frames
          | scalar lexeme => exact placeless_stepValue frames (.scalar lexeme)
          | string lexeme => exact placeless_stepValue frames (.string lexeme)
          | stray offset => exact placeless_stepValue frames (.stray offset)
          | mark mark offset =>
              by_cases closing : mark = .endArray
              · subst closing
                cases frames with
                | nil => rfl
                | cons frame frames => exact State.placeless_close frame frames offset
              · rw [step_item (Or.inl rfl) closing, State.placeless, Token.placeless,
                  Stage.placeless, step_item (Or.inl rfl) closing]
                · exact placeless_stepValue frames (.mark mark offset)
                · exact nofun
      | nextItem =>
          cases token with
          | finish offset => exact placeless_stepValue frames (.finish offset)
          | scalar lexeme => exact placeless_stepValue frames (.scalar lexeme)
          | string lexeme => exact placeless_stepValue frames (.string lexeme)
          | stray offset => exact placeless_stepValue frames (.stray offset)
          | mark mark offset =>
              by_cases closing : mark = .endArray
              · subst closing
                exact State.placeless_breakEnding _ frames
              · rw [step_item (Or.inr rfl) closing, State.placeless, Token.placeless,
                  Stage.placeless, step_item (Or.inr rfl) closing]
                · exact placeless_stepValue frames (.mark mark offset)
                · exact nofun

/-- The document of a state takes no notice of places. -/
theorem State.placeless_document (state : State)
    : state.document.placeless = state.placeless.document := by
  cases state <;> rfl

/-- A document takes no notice of places. -/
theorem placeless_ofTokens (tokens : List Token)
    : (ofTokens tokens).placeless = ofTokens (tokens.map Token.placeless) := by
  have folded (state : State)
      : (tokens.foldl State.step state).placeless
        = (tokens.map Token.placeless).foldl State.step state.placeless := by
    induction tokens generalizing state with
    | nil => rfl
    | cons token tokens ih =>
        rw [List.foldl_cons, ih, State.placeless_step]
        rfl
  rw [ofTokens, State.placeless_document, folded]
  rfl

end Document

end TaggedConfig.Json
