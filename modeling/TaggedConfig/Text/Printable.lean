import TaggedConfig.Text.Category

/-! The characters that show by themselves on a line.
Controls, formats, separators, surrogates, private and unassigned code points do not, nor do
marks that combine with the character before them.
-/

namespace TaggedConfig.Text

/-- Categories of characters that do not show by themselves. -/
def hiddenCategories : List Category :=
  [.nonspacingMark, .enclosingMark] ++ Category.separators ++ Category.others

/-- The letters that fill the place of another one and show nothing. -/
def fillers : CodePoints := [(0x115F, 0x1160, 1), (0x3164, 0x3164, 1), (0xFFA0, 0xFFA0, 1)]

/-- Whether a character shows by itself. The space does. -/
def isPrintable (c : Char) : Bool :=
  c = ' ' ||
    !(hiddenCategories.contains (Category.ofChar c) || Category.joining.contains c
      || fillers.contains c)

end TaggedConfig.Text
