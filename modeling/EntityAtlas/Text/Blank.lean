/-!
# Blanks around a text

What counts as blank when a text is trimmed, and trimming itself.
-/

namespace EntityAtlas.Text

/-- A blank of the ASCII range: the space, the tab, and the line, page and carriage controls. -/
def isBlank (c : Char) : Bool :=
  c = ' ' || (0x09 ≤ c.toNat && c.toNat ≤ 0x0d)

/-- Removes blanks at both ends. -/
def trimmed (s : List Char) : List Char :=
  ((s.dropWhile isBlank).reverse.dropWhile isBlank).reverse

end EntityAtlas.Text
