import TaggedConfig.Text.Category.Letter
import TaggedConfig.Text.Category.Mark
import TaggedConfig.Text.Category.Number
import TaggedConfig.Text.Category.Other
import TaggedConfig.Text.Category.Punctuation
import TaggedConfig.Text.Category.Symbol

/-! The general categories of Unicode.
Each code point has one; what is in no table is unassigned.
-/

namespace TaggedConfig.Text

/-- A general category. -/
inductive Category where
  | uppercaseLetter
  | lowercaseLetter
  | titlecaseLetter
  | modifierLetter
  | otherLetter
  | nonspacingMark
  | spacingMark
  | enclosingMark
  | decimalNumber
  | letterNumber
  | otherNumber
  | connectorPunctuation
  | dashPunctuation
  | openPunctuation
  | closePunctuation
  | initialPunctuation
  | finalPunctuation
  | otherPunctuation
  | mathSymbol
  | currencySymbol
  | modifierSymbol
  | otherSymbol
  | spaceSeparator
  | lineSeparator
  | paragraphSeparator
  | control
  | format
  | surrogate
  | privateUse
  | unassigned
  deriving DecidableEq, Repr

namespace Category

/-- The categories with their code points, but for the one of what is left. -/
def tables : List (Category × CodePoints) :=
  [(.lowercaseLetter, lowercaseLetters), (.uppercaseLetter, uppercaseLetters),
    (.titlecaseLetter, titlecaseLetters), (.modifierLetter, modifierLetters),
    (.otherLetter, otherLetters), (.nonspacingMark, nonspacingMarks),
    (.spacingMark, spacingMarks), (.enclosingMark, enclosingMarks),
    (.decimalNumber, decimalDigits), (.letterNumber, letterNumbers),
    (.otherNumber, otherNumbers), (.connectorPunctuation, connectors),
    (.dashPunctuation, dashes), (.openPunctuation, openBrackets),
    (.closePunctuation, closeBrackets), (.initialPunctuation, initialQuotes),
    (.finalPunctuation, finalQuotes), (.otherPunctuation, otherMarks),
    (.mathSymbol, mathSymbols), (.currencySymbol, currencySymbols),
    (.modifierSymbol, modifierSymbols), (.otherSymbol, otherSymbols),
    (.spaceSeparator, spaces), (.lineSeparator, lineSeparators),
    (.paragraphSeparator, paragraphSeparators), (.control, controls), (.format, formats),
    (.surrogate, surrogates), (.privateUse, privatePoints)]

def ofChar (c : Char) : Category :=
  match tables.find? fun (_, points) => points.contains c with
  | some (category, _) => category
  | none => .unassigned

def letters : List Category :=
  [.uppercaseLetter, .lowercaseLetter, .titlecaseLetter, .modifierLetter, .otherLetter]

def marks : List Category := [.nonspacingMark, .spacingMark, .enclosingMark]

def numbers : List Category := [.decimalNumber, .letterNumber, .otherNumber]

def punctuation : List Category :=
  [.connectorPunctuation, .dashPunctuation, .openPunctuation, .closePunctuation,
    .initialPunctuation, .finalPunctuation, .otherPunctuation]

def symbols : List Category :=
  [.mathSymbol, .currencySymbol, .modifierSymbol, .otherSymbol]

def separators : List Category := [.spaceSeparator, .lineSeparator, .paragraphSeparator]

/-- What is none of these. -/
def others : List Category := [.control, .format, .surrogate, .privateUse, .unassigned]

end Category

end TaggedConfig.Text
