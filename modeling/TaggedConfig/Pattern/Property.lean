import TaggedConfig.Pattern.CharSet
import TaggedConfig.Text.Category.Letterlike
import TaggedConfig.Text.Script
import TaggedConfig.Text.Split

/-! Sets of characters by the names of their Unicode properties.
Capitals, blanks, hyphens and underscores in a name do not count, nor does a leading `is`.
-/

namespace TaggedConfig.CharSet

/-- The categories and groups of categories with their names. -/
def categoryNames : List (List String × List Text.Category) :=
  [(["lu", "uppercaseletter"], [.uppercaseLetter]),
    (["ll", "lowercaseletter"], [.lowercaseLetter]),
    (["lt", "titlecaseletter"], [.titlecaseLetter]),
    (["lm", "modifierletter"], [.modifierLetter]),
    (["lo", "otherletter"], [.otherLetter]),
    (["l", "letter"], Text.Category.letters),
    (["lc", "casedletter"], [.uppercaseLetter, .lowercaseLetter, .titlecaseLetter]),
    (["mn", "nonspacingmark"], [.nonspacingMark]),
    (["mc", "spacingmark"], [.spacingMark]),
    (["me", "enclosingmark"], [.enclosingMark]),
    (["m", "mark", "combiningmark"], Text.Category.marks),
    (["nd", "decimalnumber", "digit"], [.decimalNumber]),
    (["nl", "letternumber"], [.letterNumber]),
    (["no", "othernumber"], [.otherNumber]),
    (["n", "number"], Text.Category.numbers),
    (["pc", "connectorpunctuation"], [.connectorPunctuation]),
    (["pd", "dashpunctuation"], [.dashPunctuation]),
    (["ps", "openpunctuation"], [.openPunctuation]),
    (["pe", "closepunctuation"], [.closePunctuation]),
    (["pi", "initialpunctuation"], [.initialPunctuation]),
    (["pf", "finalpunctuation"], [.finalPunctuation]),
    (["po", "otherpunctuation"], [.otherPunctuation]),
    (["p", "punctuation", "punct"], Text.Category.punctuation),
    (["sm", "mathsymbol"], [.mathSymbol]),
    (["sc", "currencysymbol"], [.currencySymbol]),
    (["sk", "modifiersymbol"], [.modifierSymbol]),
    (["so", "othersymbol"], [.otherSymbol]),
    (["s", "symbol"], Text.Category.symbols),
    (["zs", "spaceseparator"], [.spaceSeparator]),
    (["zl", "lineseparator"], [.lineSeparator]),
    (["zp", "paragraphseparator"], [.paragraphSeparator]),
    (["z", "separator"], Text.Category.separators),
    (["cc", "control", "cntrl"], [.control]),
    (["cf", "format"], [.format]),
    (["cs", "surrogate"], [.surrogate]),
    (["co", "privateuse"], [.privateUse]),
    (["cn", "unassigned"], [.unassigned]),
    (["c", "other"], Text.Category.others)]

/-- The set of a category or a group of them. -/
def ofCategoryName? (name : String) : Option CharSet :=
  match name with
  | "any" => some all
  | "assigned" => some (complement (ofCategory .unassigned))
  | "ascii" => some (range '\x00' '\x7f')
  | name =>
      (categoryNames.find? fun (names, _) => names.contains name).map fun (_, categories) =>
        ofCategories categories

/-- The set of a property that a character has or has not. -/
def ofFlagName? (name : String) : Option CharSet :=
  match name with
  | "alpha" | "alphabetic" =>
      some (ofList [ofCategories Text.Category.letters, ofCategory .letterNumber,
        points Text.Category.alphabeticMarks])
  | "lower" | "lowercase" =>
      some (union (ofCategory .lowercaseLetter) (points Text.Category.smallLetterlike))
  | "upper" | "uppercase" =>
      some (union (ofCategory .uppercaseLetter) (points Text.Category.capitalLetterlike))
  | "space" | "whitespace" | "wspace" => some blank
  | "ahex" | "asciihexdigit" => some hexDigits
  | "joinc" | "joincontrol" => some joinControls
  | _ => none

def ofScriptName? (name : String) : Option CharSet := (Text.script? name).map points

def plainName (name : List Char) : String :=
  let spare (c : Char) : Bool := c = ' ' || c = '-' || c = '_' || 0x80 ≤ c.toNat
  let kept := (name.filter (! spare ·)).map Char.toLower
  let unmarked :=
    match name with
    | i :: s :: _ => if i.toLower = 'i' && s.toLower = 's' then kept.drop 2 else kept
    | _ => kept
  String.ofList (if kept = ['i', 's', 'c'] then kept else unmarked)

/-- The set of a name alone, which may be of a property, a category or a script. -/
def ofPropertyName? (name : List Char) : Option CharSet :=
  let name := plainName name
  ofFlagName? name <|> ofCategoryName? name <|> ofScriptName? name

/-- The set of a name and a value. -/
def ofPropertyValue? (name value : List Char) : Option CharSet :=
  match plainName name with
  | "gc" | "generalcategory" => ofCategoryName? (plainName value)
  | "sc" | "script" => ofScriptName? (plainName value)
  | _ => none

/-- The text before and after an equals sign with a mark before it, if there is one. -/
def splitInequality? : List Char → Option (List Char × List Char)
  | '!' :: '=' :: rest => some ([], rest)
  | c :: rest => (splitInequality? rest).map fun (before, after) => (c :: before, after)
  | [] => none

/-- The set of what stands in the braces of a property. -/
def ofProperty? (text : List Char) : Option CharSet :=
  match splitInequality? text with
  | some (name, value) => (ofPropertyValue? name value).map complement
  | none =>
      match Text.splitFirst? ':' text <|> Text.splitFirst? '=' text with
      | some (name, value) => ofPropertyValue? name value
      | none => ofPropertyName? text

/-- The set of a name between colons within brackets. -/
def ofAsciiName? (name : String) : Option CharSet :=
  match name with
  | "alnum" => some (union letters digits)
  | "alpha" => some letters
  | "ascii" => some (range '\x00' '\x7f')
  | "blank" => some (union (single '\t') (single ' '))
  | "cntrl" => some (union (range '\x00' '\x1f') (single '\x7f'))
  | "digit" => some digits
  | "graph" => some (range '!' '~')
  | "lower" => some smalls
  | "print" => some (range ' ' '~')
  | "punct" => some (ofList [range '!' '/', range ':' '@', range '[' '\x60', range '\x7b' '~'])
  | "space" => some (union (range '\t' '\r') (single ' '))
  | "upper" => some capitals
  | "word" => some wordLetters
  | "xdigit" => some hexDigits
  | _ => none

end TaggedConfig.CharSet
