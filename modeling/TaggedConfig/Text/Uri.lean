import TaggedConfig.Text.Address

/-! References to resources and the absolute addresses that they stand for.
A reference is read part by part; the first character that has no place in its part is a fault.
-/

namespace TaggedConfig.Text

/-- What is wrong with a reference. -/
inductive UriFaultKind where
  | strayCharacter
  | badOctet
  | badAddress
  deriving DecidableEq, Repr

/-- A fault of a reference and its offset. -/
structure UriFault where
  kind : UriFaultKind
  offset : Nat
  deriving DecidableEq, Repr

def UriFault.message (fault : UriFault) : String :=
  let what :=
    match fault.kind with
    | .strayCharacter => "unexpected character"
    | .badOctet => "invalid percent-encoded octet"
    | .badAddress => "invalid IPv6 address"
  s!"{what} at index {fault.offset}"

/-- A reference by its parts. -/
structure Uri where
  scheme : Option (List Char)
  authority : Option (List Char)
  path : List Char
  query : Option (List Char)
  fragment : Option (List Char)
  deriving DecidableEq, Repr

namespace Uri

/-- Letters, digits and marks that mean nothing but themselves. -/
def isUnreserved (c : Char) : Bool := c.isAlphanum || ['-', '.', '_', '~'].contains c

/-- Marks that can part what a component holds. -/
def isDelimiter (c : Char) : Bool := "!$&'()*+,;=".toList.contains c

def isSchemeChar (c : Char) : Bool := c.isAlphanum || ['+', '-', '.'].contains c

def isHostChar (c : Char) : Bool := isUnreserved c || isDelimiter c

/-- Characters of users and of hosts with their ports. -/
def isUserChar (c : Char) : Bool := isHostChar c || c = ':'

/-- Characters of the first part of a path when no scheme comes before it. -/
def isFirstChar (c : Char) : Bool := isHostChar c || c = '@'

def isPathChar (c : Char) : Bool := isFirstChar c || c = ':' || c = '/'

def isQueryChar (c : Char) : Bool := isPathChar c || c = '?'

/-- Whether a character is a hexadecimal digit. -/
def isHexDigit (c : Char) : Bool :=
  c.isDigit || ('a' ≤ c && c ≤ 'f') || ('A' ≤ c && c ≤ 'F')

/-- The characters of a kind at the start of a text, among which octets may be written in
hexadecimal after a percent sign, and the text after them.
-/
def take (kind : Char → Bool) (offset : Nat)
    : List Char → Except UriFault (List Char × List Char)
  | '%' :: rest =>
      match rest with
      | a :: b :: rest =>
          if isHexDigit a && isHexDigit b then do
            let (taken, rest) ← take kind (offset + 3) rest
            pure ('%' :: a :: b :: taken, rest)
          else throw ⟨.badOctet, offset⟩
      | _ => throw ⟨.badOctet, offset⟩
  | c :: rest =>
      if kind c then do
        let (taken, rest) ← take kind (offset + 1) rest
        pure (c :: taken, rest)
      else pure ([], c :: rest)
  | [] => pure ([], [])

/-- Reads an optional part that a mark begins. -/
def readPart (mark : Char) (offset : Nat) (text : List Char)
    : Except UriFault (Option (List Char) × Nat × List Char) :=
  match text with
  | c :: rest =>
      if c = mark then do
        let (part, rest) ← take isQueryChar (offset + 1) rest
        pure (some part, offset + 1 + part.length, rest)
      else pure (none, offset, text)
  | [] => pure (none, offset, text)

/-- Reads what follows a path. -/
def readEnd (uri : Uri) (offset : Nat) (text : List Char) : Except UriFault Uri := do
  let (query, offset, rest) ← readPart '?' offset text
  let (fragment, offset, rest) ← readPart '#' offset rest
  if rest.isEmpty then pure { uri with query, fragment }
  else throw ⟨.strayCharacter, offset⟩

def readPath (uri : Uri) (offset : Nat) (text : List Char) : Except UriFault Uri := do
  let (path, rest) ← take isPathChar offset text
  readEnd { uri with path } (offset + path.length) rest

/-- Reads a path that is empty or begins with a slash. -/
def readRootedPath (uri : Uri) (offset : Nat) (text : List Char) : Except UriFault Uri := do
  let (path, _) ← take isPathChar offset text
  if path.isEmpty || path.head? = some '/' then readPath uri offset text
  else throw ⟨.strayCharacter, offset⟩

/-- The fault of a port that is not made of digits, or of a second colon. -/
def portFault? (offset : Nat) (host : List Char) : Option UriFault :=
  match splitFirst? ':' host with
  | none => none
  | some (name, port) =>
      let bad := (port.takeWhile Char.isDigit).length
      if bad = port.length then none
      else if port.contains ':' then some ⟨.strayCharacter, offset + name.length⟩
      else some ⟨.strayCharacter, offset + name.length + 1 + bad⟩

/-- Reads a host in brackets after its bracket, with a port. -/
def readLiteral (offset : Nat) (text : List Char)
    : Except UriFault (List Char × List Char) := do
  match splitFirst? ']' text with
  | none => throw ⟨.badAddress, offset⟩
  | some (address, rest) =>
      if !isAddress6 address then throw ⟨.badAddress, offset⟩
      let port := rest.takeWhile fun c => c = ':' || c.isDigit
      pure ('[' :: address ++ ']' :: port, rest.drop port.length)

/-- Reads an authority after its slashes, and what follows it. -/
def readAuthority (uri : Uri) (offset : Nat) (text : List Char) : Except UriFault Uri := do
  let (first, rest) ← take isUserChar offset text
  let (user, host, rest) ←
    match first, rest with
    | first, '@' :: '[' :: rest => do
        let (host, rest) ← readLiteral (offset + first.length + 2) rest
        pure (first ++ ['@'], host, rest)
    | first, '@' :: rest => do
        let (host, rest) ← take isUserChar (offset + first.length + 1) rest
        pure (first ++ ['@'], host, rest)
    | [], '[' :: rest => do
        let (host, rest) ← readLiteral (offset + 1) rest
        pure ([], host, rest)
    | first, rest => pure ([], first, rest)
  match host.head?, portFault? (offset + user.length) host with
  | some '[', _ | _, none =>
      let authority := user ++ host
      readRootedPath { uri with authority := some authority } (offset + authority.length) rest
  | _, some fault => throw fault

/-- The reference that a text writes. -/
def parse (text : String) : Except UriFault Uri :=
  let empty : Uri := ⟨none, none, [], none, none⟩
  let characters := text.toList
  let scheme := characters.takeWhile isSchemeChar
  match scheme, characters.drop scheme.length with
  | c :: _, ':' :: rest =>
      if !c.isAlpha then throw ⟨.strayCharacter, 0⟩
      else
        let uri := { empty with scheme := some scheme }
        match rest with
        | '/' :: '/' :: rest => readAuthority uri (scheme.length + 3) rest
        | rest => readPath uri (scheme.length + 1) rest
  | [], ':' :: _ => throw ⟨.strayCharacter, 0⟩
  | [], '/' :: '/' :: rest => readAuthority empty 2 rest
  | _, _ => do
      let (first, rest) ← take isFirstChar 0 characters
      if rest.head? = some ':' then throw ⟨.strayCharacter, first.length⟩
      else readPath empty 0 characters

/-- Whether a text writes a reference. -/
def isReference (text : String) : Bool := (parse text).isOk

/-- Whether a text writes a reference with a scheme. -/
def isAbsolute (text : String) : Bool :=
  match parse text with
  | .ok uri => uri.scheme.isSome
  | .error _ => false

/-- Drops the parts of a path that are dots, and with two dots the part before. -/
def withoutDots (path : List Char) : List Char :=
  let parts := pieces '/' path
  let ends := parts.getLast?.any fun part => part = ['.'] || part = ['.', '.']
  let kept :=
    parts.foldl
      (fun (kept : List (List Char)) part =>
        if part = ['.'] then kept
        else if part = ['.', '.'] then
          if kept.length ≤ 1 then kept else kept.dropLast
        else kept ++ [part])
      []
  join '/' (if ends then kept ++ [[]] else kept)

/-- The path of a relative reference, from the directory of the base. -/
def mergePath (base : Uri) (path : List Char) : List Char :=
  if base.authority.isSome && base.path.isEmpty then '/' :: path
  else (base.path.reverse.dropWhile (· ≠ '/')).reverse ++ path

/-- What a reference stands for, seen from a base. -/
def resolve (base uri : Uri) : Uri :=
  if uri.scheme.isSome then { uri with path := withoutDots uri.path }
  else if uri.authority.isSome then
    { uri with scheme := base.scheme, path := withoutDots uri.path }
  else if uri.path.isEmpty then
    { base with
      query := uri.query <|> base.query, fragment := uri.fragment }
  else
    let path := if uri.path.head? = some '/' then uri.path else mergePath base uri.path
    { uri with scheme := base.scheme, authority := base.authority, path := withoutDots path }

/-- The value of a hexadecimal digit. -/
def hexValue (c : Char) : Nat :=
  if c.isDigit then c.toNat - 48 else if 'a' ≤ c then c.toNat - 87 else c.toNat - 55

/-- A text in which no octet is written in hexadecimal without need, and capitals are used
where one is.
-/
def plainOctets : List Char → List Char
  | '%' :: a :: b :: rest =>
      let c := Char.ofNat (hexValue a * 16 + hexValue b)
      if isUnreserved c then c :: plainOctets rest
      else '%' :: a.toUpper :: b.toUpper :: plainOctets rest
  | c :: rest => c :: plainOctets rest
  | [] => []

/-- The normal form of a reference. -/
def normalize (uri : Uri) : Uri :=
  { uri with
    scheme := uri.scheme.map (·.map Char.toLower)
    authority := uri.authority.map fun text => plainOctets (text.map Char.toLower)
    path := plainOctets uri.path
    query := uri.query.map plainOctets
    fragment := uri.fragment.map plainOctets }

def text (uri : Uri) : String :=
  let part (mark : List Char) (value : Option (List Char)) : List Char :=
    (value.map (mark ++ ·)).getD []
  let scheme := (uri.scheme.map (· ++ [':'])).getD []
  String.ofList
    (scheme ++ part ['/', '/'] uri.authority ++ uri.path ++ part ['?'] uri.query
      ++ part ['#'] uri.fragment)

def withoutFragment (uri : Uri) : Uri := { uri with fragment := none }

end Uri

end TaggedConfig.Text
