import TaggedConfig.Text.Blank
import TaggedConfig.Text.Category
import TaggedConfig.Text.Fold

/-! Sets of characters as patterns write them.
A set can be closed under changes of case; a complement is taken after that.
-/

namespace TaggedConfig

/-- A set of characters. -/
inductive CharSet where
  | empty
  | range (first last : Char)
  | ofCategory (category : Text.Category)
  | points (spans : Text.CodePoints)
  | blank
  | union (a b : CharSet)
  | intersection (a b : CharSet)
  | complement (a : CharSet)
  /-- The members of `a` and all that differs from one only in case. -/
  | folded (a : CharSet)
  deriving DecidableEq, Repr

namespace CharSet

/-- Whether a character is in a set. -/
def contains (c : Char) : CharSet → Bool
  | empty => false
  | range first last => first ≤ c && c ≤ last
  | ofCategory category => Text.Category.ofChar c = category
  | points spans => spans.contains c
  | blank => Text.isBlank c
  | union a b => a.contains c || b.contains c
  | intersection a b => a.contains c && b.contains c
  | complement a => !a.contains c
  | folded a => (Text.caseVariants c.toNat).any fun n => a.contains (Char.ofNat n)

/-- The set of one character. -/
def single (c : Char) : CharSet := range c c

/-- The union of sets. -/
def ofList (sets : List CharSet) : CharSet := sets.foldr union empty

def ofCategories (categories : List Text.Category) : CharSet := ofList (categories.map ofCategory)

/-- The members of one set that are not in another. -/
def difference (a b : CharSet) : CharSet := intersection a (complement b)

/-- The members of just one of two sets. -/
def symmetricDifference (a b : CharSet) : CharSet := union (difference a b) (difference b a)

/-- Closes a set under changes of case if case does not count. -/
def foldIf (ignoreCase : Bool) (a : CharSet) : CharSet := if ignoreCase then folded a else a

def complementIf (negated : Bool) (a : CharSet) : CharSet := if negated then complement a else a

/-- Every character. -/
def all : CharSet := complement empty

/-- Every character but the end of a line. -/
def anyOnLine : CharSet := complement (single '\n')

/-- The decimal digits of ASCII. -/
def digits : CharSet := range '0' '9'

/-- The capital letters of ASCII. -/
def capitals : CharSet := range 'A' 'Z'

/-- The small letters of ASCII. -/
def smalls : CharSet := range 'a' 'z'

def letters : CharSet := union capitals smalls

/-- Letters and digits of ASCII and the underscore. -/
def wordLetters : CharSet := ofList [letters, digits, single '_']

def hexDigits : CharSet := ofList [digits, range 'A' 'F', range 'a' 'f']

/-- The blanks and line ends that count as space where class letters mean ASCII. -/
def spaces : CharSet :=
  ofList [range '\t' '\r', single ' ', single '\u00a0', single '\u2003', single '\u2029',
    single '\ufeff']

/-- Letters in circles and squares, which have no category of letters. -/
def enclosedLetters : Text.CodePoints :=
  [(0x24B6, 0x24E9, 1), (0x1F130, 0x1F149, 1), (0x1F150, 0x1F169, 1), (0x1F170, 0x1F189, 1)]

/-- The two controls that part and join letters without showing. -/
def joinControls : CharSet := range '\u200c' '\u200d'

def wordCharacters : CharSet :=
  ofList [ofCategories Text.Category.letters, ofCategories Text.Category.marks,
    ofCategory .decimalNumber, ofCategory .letterNumber, ofCategory .connectorPunctuation,
    joinControls, points enclosedLetters]

end CharSet

end TaggedConfig
