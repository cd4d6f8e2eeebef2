import TaggedConfig.Text.Split

/-! Network addresses as texts.
The older form has four decimal numbers; the newer one has groups of hexadecimal digits, of
which one run of zeros may be left out.
-/

namespace TaggedConfig.Text

/-- Whether characters write a number of at most 255 without needless zeros. -/
def isOctet (digits : List Char) : Bool :=
  !digits.isEmpty && digits.length ≤ 3 && digits.all Char.isDigit
    && (digits.length = 1 || digits.head? ≠ some '0')
    && digits.foldl (fun n c => n * 10 + (c.toNat - 48)) 0 ≤ 255

/-- Whether characters write an address of four numbers. -/
def isAddress4 (text : List Char) : Bool :=
  let octets := pieces '.' text
  octets.length = 4 && octets.all isOctet

/-- Whether characters write a group of an address. -/
def isGroup (digits : List Char) : Bool :=
  !digits.isEmpty && digits.length ≤ 4
    && digits.all fun c =>
      c.isDigit || ('a' ≤ c && c ≤ 'f') || ('A' ≤ c && c ≤ 'F')

/-- The number of groups that characters write between colons. Where an address ends, the
last two may be written as an address of four numbers.
-/
def groupCount? (atEnd : Bool) (text : List Char) : Option Nat :=
  if text.isEmpty then some 0
  else
    let parts := pieces ':' text
    let last := parts.getLast?.getD []
    if parts.all isGroup then some parts.length
    else if atEnd && parts.dropLast.all isGroup && isAddress4 last then some (parts.length + 1)
    else none

/-- The text before and after the first two colons in a row. -/
def splitGap? : List Char → Option (List Char × List Char)
  | ':' :: ':' :: rest => some ([], rest)
  | c :: rest => (splitGap? rest).map fun (before, after) => (c :: before, after)
  | [] => none

/-- Whether characters write an address of eight groups. A gap stands for at least one. -/
def isAddress6 (text : List Char) : Bool :=
  match splitGap? text with
  | none => groupCount? true text = some 8
  | some (before, after) =>
      match groupCount? false before, groupCount? true after with
      | some a, some b => a + b ≤ 7
      | _, _ => false

end TaggedConfig.Text
