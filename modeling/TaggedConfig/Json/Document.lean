import TaggedConfig.Json.Token

/-! The structure of a JSON text as a tree with offsets.
A text that breaks off or goes wrong has a tree too: what was there up to that point, the
situation at it, and `cut` for all that would have followed.
-/

namespace TaggedConfig.Json

/-- How an array or object ends. -/
inductive Ending where
  /-- With its closing bracket; the offset is the one after it. -/
  | closed (stop : Nat)
  /-- With its closing bracket, but right after a comma. -/
  | afterComma (offset : Nat)
  /-- At something that is neither a comma nor the closing bracket. -/
  | stray (offset : Nat)
  /-- At something that is no name, where a name has to be. -/
  | noName (offset : Nat)
  /-- At the end of the text. -/
  | finish (offset : Nat)
  /-- At the end of the text, where a name has to be after a comma. -/
  | finishAfterComma (offset : Nat)
  /-- Within its last part. -/
  | cut
  deriving DecidableEq, Repr

/-- What follows the name of a member. -/
inductive Follow where
  | colon (offset : Nat)
  | closing (offset : Nat)
  | stray (offset : Nat)
  | finish (offset : Nat)
  | cut
  deriving DecidableEq, Repr

/-- The name of a member as it stands in the text. -/
structure Name where
  lexeme : Lexeme String
  follow : Follow

/-- A value as it stands in the text. -/
inductive Node where
  | scalar (lexeme : Lexeme Scalar)
  | string (lexeme : Lexeme String)
  | array (start : Nat) (items : List Node) (ending : Ending)
  | object (start : Nat) (members : List (Name × Node)) (ending : Ending)
  /-- Something that begins no value. -/
  | absent (offset : Nat)
  /-- The end of the text in the place of a value. -/
  | finish (offset : Nat)
  /-- The place of a value that the text does not reach. -/
  | cut

/-- The offset at which a value starts. -/
def Node.start : Node → Nat
  | .scalar lexeme => lexeme.start
  | .string lexeme => lexeme.start
  | .array start _ _ | .object start _ _ | .absent start | .finish start => start
  | .cut => 0

/-- A text: its value, and the offset of what follows the value. -/
structure Document where
  root : Node
  trailing : Option Nat

namespace Document

/-- An array or object that stands open, with its parts so far, last first. -/
inductive Frame where
  | array (start : Nat) (items : List Node)
  | object (start : Nat) (members : List (Name × Node))
  | member (start : Nat) (members : List (Name × Node)) (name : Name)

/-- What may come next. -/
inductive Stage where
  | value
  | firstItem
  | nextItem
  | firstName
  | nextName
  | colon (lexeme : Lexeme String)
  | separator
  deriving Inhabited

/-- The state of building. -/
inductive State where
  | building (frames : List Frame) (stage : Stage)
  | complete (root : Node)
  | followed (root : Node) (offset : Nat)
  | broken (root : Node)

/-- The value that a frame makes up with a given ending. -/
def Frame.close (ending : Ending) : Frame → Node
  | .array start items => .array start items.reverse ending
  | .object start members => .object start members.reverse ending
  | .member start members name => .object start (members.reverse ++ [(name, .cut)]) ending

/-- Adds a value to a frame. -/
def Frame.add (node : Node) : Frame → Frame
  | .array start items => .array start (node :: items)
  | .member start members name => .object start ((name, node) :: members)
  | .object start members => .object start members

/-- Puts a whole value into its place. -/
def State.put (node : Node) : List Frame → State
  | [] => .complete node
  | frame :: frames => .building (frame.add node :: frames) .separator

/-- Puts a value into its place and breaks off there. -/
def State.breakOff (node : Node) (frames : List Frame) : State :=
  .broken (frames.foldl (fun inner frame => (frame.add inner).close .cut) node)

/-- Ends the innermost array or object and breaks off there. -/
def State.breakEnding (ending : Ending) : List Frame → State
  | [] => .broken .cut
  | frame :: frames => State.breakOff (frame.close ending) frames

/-- A token in the place of a value. -/
def stepValue (frames : List Frame) : Token → State
  | .scalar lexeme =>
      match lexeme.stop? with
      | some _ => .put (.scalar lexeme) frames
      | none => .breakOff (.scalar lexeme) frames
  | .string lexeme =>
      match lexeme.stop? with
      | some _ => .put (.string lexeme) frames
      | none => .breakOff (.string lexeme) frames
  | .mark .beginArray offset => .building (.array offset [] :: frames) .firstItem
  | .mark .beginObject offset => .building (.object offset [] :: frames) .firstName
  | .mark _ offset | .stray offset => .breakOff (.absent offset) frames
  | .finish offset => .breakOff (.finish offset) frames

/-- A token in the place of a name, which is the first of its object or not. -/
def stepName (first : Bool) (frames : List Frame) : Token → State
  | .string lexeme =>
      match lexeme.stop?, frames with
      | some _, _ => .building frames (.colon lexeme)
      | none, .object start members :: frames =>
          .breakOff (.object start (members.reverse ++ [(⟨lexeme, .cut⟩, .cut)]) .cut) frames
      | none, frames => .breakEnding .cut frames
  | .finish offset =>
      .breakEnding (if first then .finish offset else .finishAfterComma offset) frames
  | .mark .endObject offset =>
      match first, frames with
      | true, frame :: frames => .put (frame.close (.closed (offset + 1))) frames
      | _, frames => .breakEnding (.afterComma offset) frames
  | token => .breakEnding (.noName token.start) frames

/-- A token after a name, which has to be a colon. -/
def stepColon (lexeme : Lexeme String) (frames : List Frame) (token : Token) : State :=
  match frames with
  | .object start members :: frames =>
      let broken (follow : Follow) : State :=
        .breakOff (.object start (members.reverse ++ [(⟨lexeme, follow⟩, .cut)]) .cut) frames
      match token with
      | .mark .colon offset =>
          .building (.member start members ⟨lexeme, .colon offset⟩ :: frames) .value
      | .mark .endObject offset => broken (.closing offset)
      | .finish offset => broken (.finish offset)
      | token => broken (.stray token.start)
  | frames => .breakEnding .cut frames

/-- A token after a part of an array or object. -/
def stepSeparator (frames : List Frame) (token : Token) : State :=
  match token, frames with
  | .mark .comma _, .array start items :: frames =>
      .building (.array start items :: frames) .nextItem
  | .mark .comma _, frames => .building frames .nextName
  | .mark .endArray offset, .array start items :: frames =>
      .put ((Frame.array start items).close (.closed (offset + 1))) frames
  | .mark .endObject offset, .object start members :: frames =>
      .put ((Frame.object start members).close (.closed (offset + 1))) frames
  | .finish offset, frames => .breakEnding (.finish offset) frames
  | token, frames => .breakEnding (.stray token.start) frames

/-- Takes in the next token. -/
def State.step : State → Token → State
  | .building frames stage, token =>
      match stage, token, frames with
      | .firstItem, .mark .endArray offset, frame :: frames =>
          .put (frame.close (.closed (offset + 1))) frames
      | .firstItem, .finish offset, frames => .breakEnding (.finish offset) frames
      | .nextItem, .mark .endArray offset, frames => .breakEnding (.afterComma offset) frames
      | .value, token, frames | .firstItem, token, frames | .nextItem, token, frames =>
          stepValue frames token
      | .firstName, token, frames => stepName true frames token
      | .nextName, token, frames => stepName false frames token
      | .colon lexeme, token, frames => stepColon lexeme frames token
      | .separator, token, frames => stepSeparator frames token
  | .complete root, .finish _ => .complete root
  | .complete root, token => .followed root token.start
  | state, _ => state

/-- The document of the tokens that were taken in. -/
def State.document : State → Document
  | .complete root | .broken root => ⟨root, none⟩
  | .followed root offset => ⟨root, some offset⟩
  | .building _ _ => ⟨.cut, none⟩

/-- The document of a token sequence. -/
def ofTokens (tokens : List Token) : Document :=
  (tokens.foldl State.step (.building [] .value)).document

/-- The document of a text. -/
def ofBytes (text : Bytes) : Document := ofTokens (tokens text)

end Document

end TaggedConfig.Json
