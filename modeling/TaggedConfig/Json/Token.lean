import TaggedConfig.Json.Numeral
import TaggedConfig.Json.Quoted

/-! Tokens of a JSON text with their offsets.
A token that cannot even be passed over is the last one, and so is the end of the text.
-/

namespace TaggedConfig.Json

/-- A token for a value or a name, with what reading it gives and whether it can be passed
over unread.
-/
structure Lexeme (α : Type) where
  start : Nat
  stop : Nat
  reading : Except Fault α
  passing : Except Fault Unit

/-- A value without parts. -/
inductive Scalar where
  | null
  | bool (value : Bool)
  | number (value : Number)
  deriving DecidableEq, Repr

/-- Punctuation. -/
inductive Mark where
  | beginArray
  | endArray
  | beginObject
  | endObject
  | comma
  | colon
  deriving DecidableEq, Repr

/-- A token. -/
inductive Token where
  | mark (mark : Mark) (offset : Nat)
  | scalar (lexeme : Lexeme Scalar)
  | string (lexeme : Lexeme String)
  | stray (offset : Nat)
  | finish (offset : Nat)

def Token.start : Token → Nat
  | .mark _ offset | .stray offset | .finish offset => offset
  | .scalar lexeme => lexeme.start
  | .string lexeme => lexeme.start

/-- Whether a byte separates tokens and means nothing. -/
def isSpace (b : UInt8) : Bool :=
  b = byte ' ' || b = byte '\n' || b = byte '\t' || b = byte '\r'

def Mark.ofByte? (b : UInt8) : Option Mark :=
  if b = byte '[' then some .beginArray
  else if b = byte ']' then some .endArray
  else if b = byte '\x7b' then some .beginObject
  else if b = byte '\x7d' then some .endObject
  else if b = byte ',' then some .comma
  else if b = byte ':' then some .colon
  else none

/-- The word that a letter begins and the value it stands for. -/
def wordOf? (b : UInt8) : Option (String × Scalar) :=
  if b = byte 'n' then some ("null", .null)
  else if b = byte 't' then some ("true", .bool true)
  else if b = byte 'f' then some ("false", .bool false)
  else none

/-- Checks that the letters of a word come next. -/
def matchWord (offset : Nat) : (word bytes : Bytes) → Except Fault Unit
  | [], _ => pure ()
  | _ :: _, [] => throw ⟨.endInValue, offset⟩
  | letter :: word, b :: rest =>
      if b = letter then matchWord (offset + 1) word rest
      else throw ⟨.badWord, offset + 1⟩

def Lexeme.ofWord (offset : Nat) (word : String) (value : Scalar) (bytes : Bytes)
    : Lexeme Scalar :=
  let outcome := matchWord offset (ascii word) bytes
  ⟨offset, offset + word.length, outcome.map fun _ => value, outcome⟩

/-- The lexeme of a numeral. The end of the text within it is a fault of the value, and of a
value passed over one of the numeral.
-/
def Lexeme.ofNumeral (offset : Nat) (bytes : Bytes) : Lexeme Scalar :=
  match Numeral.scan offset bytes with
  | .error (.finish stop) =>
      ⟨offset, stop, .error ⟨.endInValue, stop⟩, .error ⟨.badNumber, stop⟩⟩
  | .error (.bad stop) =>
      ⟨offset, stop, .error ⟨.badNumber, stop⟩, .error ⟨.badNumber, stop⟩⟩
  | .ok numeral =>
      let reading : Except Fault Scalar :=
        match numeral.value with
        | .ok value => .ok (Scalar.number value)
        | .error stop => .error ⟨.numberOutOfRange, stop⟩
      ⟨offset, numeral.stop, reading, .ok ()⟩

/-- The lexeme of a string, given the bytes after its opening quote. -/
def Lexeme.ofQuoted (offset : Nat) (bytes : Bytes) : Lexeme String :=
  let reading := (Quoted.read (offset + 1) bytes).map (·.1)
  match Quoted.pass (offset + 1) bytes with
  | .ok stop => ⟨offset, stop, reading, .ok ()⟩
  | .error fault => ⟨offset, fault.offset, reading, .error fault⟩

/-- The token that a byte begins which is no space. -/
def Token.begun (offset : Nat) (b : UInt8) (rest : Bytes) : Token :=
  match Mark.ofByte? b with
  | some punctuation => .mark punctuation offset
  | none =>
      if b = byte '"' then .string (.ofQuoted offset rest)
      else if b = byte '-' || isDigit b then .scalar (.ofNumeral offset (b :: rest))
      else
        match wordOf? b with
        | some (word, value) => .scalar (.ofWord offset word value (b :: rest))
        | none => .stray offset

/-- The offset after a lexeme that can be passed over. -/
def Lexeme.stop? {α : Type} (lexeme : Lexeme α) : Option Nat :=
  match lexeme.passing with
  | .ok _ => some lexeme.stop
  | .error _ => none

/-- The offset from which the text is read on after a token. -/
def Token.stop? : Token → Option Nat
  | .mark _ offset => some (offset + 1)
  | .scalar lexeme => lexeme.stop?
  | .string lexeme => lexeme.stop?
  | .stray _ | .finish _ => none

/-- The tokens of the bytes at `offset`. -/
def tokensFrom (offset : Nat) : Bytes → List Token
  | [] => [.finish offset]
  | b :: rest =>
      if isSpace b then tokensFrom (offset + 1) rest
      else
        let token := Token.begun offset b rest
        match token.stop? with
        | some stop => token :: tokensFrom stop (rest.drop (stop - offset - 1))
        | none => [token]
termination_by bytes => bytes.length
decreasing_by all_goals simp only [List.length_cons, List.length_drop]; omega

def tokens (text : Bytes) : List Token := tokensFrom 0 text

end TaggedConfig.Json
