import TaggedConfig.Text.Split
import TaggedConfig.Text.Utf8

/-! Form-encoded queries.
Parameters are joined by `&`, a name ends at the first `=`, a plus stands for a space and a
percent sign before two hexadecimal digits for a byte.
-/

namespace TaggedConfig.Query

/-- Decodes the bytes of a name or value. A percent sign that two hexadecimal digits do not
follow stands for itself.
-/
def unescape : Bytes → Bytes
  | [] => []
  | b :: rest =>
      if b = byte '+' then byte ' ' :: unescape rest
      else if b = byte '%' then
        match rest with
        | high :: low :: after =>
            match hexValue? high, hexValue? low with
            | some h, some l => UInt8.ofNat (h * 16 + l) :: unescape after
            | _, _ => b :: unescape (high :: low :: after)
        | [low] => b :: unescape [low]
        | [] => [b]
      else b :: unescape rest

/-- The text of a name or value as it is written in a query. -/
def decodeText (raw : List Char) : String :=
  Utf8.repair (unescape (Utf8.encode (String.ofList raw)))

/-- The name and value of one parameter; without `=` the value is empty. -/
def parameter (raw : List Char) : String × String :=
  match Text.splitFirst? '=' raw with
  | some (name, value) => (decodeText name, decodeText value)
  | none => (decodeText raw, "")

/-- The parameters of a query in order; an empty one is skipped. -/
def parameters (query : List Char) : List (String × String) :=
  ((Text.pieces '&' query).filter (! ·.isEmpty)).map parameter

/-- The value of the first parameter of a name. -/
def first? (name : String) (parameters : List (String × String)) : Option String :=
  (parameters.find? (·.1 = name)).map (·.2)

/-- Of the parameters named in `names`, the name of each one that comes after another of the
same name. Names in `seen` have come already.
-/
def repeated (names seen : List String) : List (String × String) → List String
  | [] => []
  | (name, _) :: rest =>
      if names.contains name then
        if seen.contains name then name :: repeated names seen rest
        else repeated names (name :: seen) rest
      else repeated names seen rest

end TaggedConfig.Query
