import TaggedConfig.Json.Fault
import TaggedConfig.Text.Utf8

/-! Strings of a JSON text, from the byte after the opening quote.
Reading decodes escapes and characters; passing over a string checks only its shape.
-/

namespace TaggedConfig.Json.Quoted

/-- The character of an escape of one letter. -/
def shortEscape? (letter : UInt8) : Option Char :=
  if letter = byte '"' then some '"'
  else if letter = byte '\\' then some '\\'
  else if letter = byte '/' then some '/'
  else if letter = byte 'b' then some '\x08'
  else if letter = byte 'f' then some '\x0c'
  else if letter = byte 'n' then some '\n'
  else if letter = byte 'r' then some '\r'
  else if letter = byte 't' then some '\t'
  else none

/-- The number of four hexadecimal digits, which must be there. -/
def fourHex (offset : Nat) : Bytes → Except Fault Nat
  | a :: b :: c :: d :: _ =>
      match hexValue? a, hexValue? b, hexValue? c, hexValue? d with
      | some a, some b, some c, some d => pure (((a * 16 + b) * 16 + c) * 16 + d)
      | _, _, _, _ => throw ⟨.badEscape, offset + 4⟩
  | few => throw ⟨.endInString, offset + few.length⟩

/-- Whether a code unit is the first of a surrogate pair. -/
def isHighSurrogate (unit : Nat) : Bool := 0xD800 ≤ unit && unit ≤ 0xDBFF

/-- Whether a code unit is the second of a surrogate pair. -/
def isLowSurrogate (unit : Nat) : Bool := 0xDC00 ≤ unit && unit ≤ 0xDFFF

/-- The code unit of the second half of a surrogate pair, from its backslash on. -/
def secondUnit (offset : Nat) : Bytes → Except Fault Nat
  | [] => throw ⟨.endInString, offset⟩
  | mark :: rest =>
      if mark = byte '\\' then
        match rest with
        | [] => throw ⟨.endInString, offset + 1⟩
        | letter :: rest =>
            if letter = byte 'u' then do
              let unit ← fourHex (offset + 2) rest
              if isLowSurrogate unit then pure unit else throw ⟨.loneSurrogate, offset + 6⟩
            else throw ⟨.endOfSurrogatePair, offset + 2⟩
      else throw ⟨.endOfSurrogatePair, offset + 1⟩

/-- The character of an escape by code units, and how many bytes it takes after the `u`. -/
def unitEscape (offset : Nat) (bytes : Bytes) : Except Fault (Char × Nat) := do
  let unit ← fourHex offset bytes
  if isLowSurrogate unit then throw ⟨.loneSurrogate, offset + 4⟩
  else if isHighSurrogate unit then
    let second ← secondUnit (offset + 4) (bytes.drop 4)
    pure (Char.ofNat (0x10000 + (unit - 0xD800) * 0x400 + (second - 0xDC00)), 10)
  else pure (Char.ofNat unit, 4)

/-- The character of an escape, and how many bytes it takes after the backslash. -/
def escape (offset : Nat) : Bytes → Except Fault (Char × Nat)
  | [] => throw ⟨.endInString, offset⟩
  | letter :: rest =>
      match shortEscape? letter with
      | some c => pure (c, 1)
      | none =>
          if letter = byte 'u' then do
            let (c, size) ← unitEscape (offset + 1) rest
            pure (c, size + 1)
          else throw ⟨.badEscape, offset + 1⟩

/-- The bytes of a string with its escapes decoded, and the offset after its end. -/
def decode (offset : Nat) : Bytes → Except Fault (Bytes × Nat)
  | [] => throw ⟨.endInString, offset⟩
  | b :: rest =>
      if b = byte '"' then pure ([], offset + 1)
      else if b = byte '\\' then
        match escape (offset + 1) rest with
        | .error fault => throw fault
        | .ok (c, size) => do
            let (bytes, stop) ← decode (offset + 1 + size) (rest.drop size)
            pure (String.utf8EncodeChar c ++ bytes, stop)
      else if b < byte ' ' then throw ⟨.controlCharacter, offset + 1⟩
      else do
        let (bytes, stop) ← decode (offset + 1) rest
        pure (b :: bytes, stop)
termination_by bytes => bytes.length
decreasing_by all_goals simp only [List.length_cons, List.length_drop]; omega

/-- The text of a string and the offset after its end. A part that is no UTF-8 is reported as
far before that end as there are decoded bytes from it on.
-/
def read (offset : Nat) (bytes : Bytes) : Except Fault (String × Nat) := do
  let (decoded, stop) ← decode offset bytes
  match Utf8.firstFault? 0 decoded with
  | some valid => throw ⟨.notUnicode, stop - (decoded.length - valid)⟩
  | none => pure (Utf8.repair decoded, stop)

/-- The offset after the end of a string that is not read. -/
def pass (offset : Nat) : Bytes → Except Fault Nat
  | [] => throw ⟨.endInString, offset⟩
  | b :: rest =>
      if b = byte '"' then pure (offset + 1)
      else if b = byte '\\' then
        match rest with
        | [] => throw ⟨.endInString, offset + 1⟩
        | letter :: rest =>
            if (shortEscape? letter).isSome then pass (offset + 2) rest
            else if letter = byte 'u' then
              match fourHex (offset + 2) rest with
              | .error fault => throw fault
              | .ok _ => pass (offset + 6) (rest.drop 4)
            else throw ⟨.badEscape, offset + 2⟩
      else if b < byte ' ' then throw ⟨.controlCharacter, offset⟩
      else pass (offset + 1) rest
termination_by bytes => bytes.length
decreasing_by all_goals simp only [List.length_cons, List.length_drop]; omega

end TaggedConfig.Json.Quoted
