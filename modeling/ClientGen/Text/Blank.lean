import ClientGen.Text.Run

/-!
# White space

The characters that trimming removes: those with the `White_Space` property of the Unicode
standard, which includes line breaks and the wide spaces but no zero width space.
-/

namespace ClientGen.Text

/-- Every white space code point. -/
def blankRuns : List Run := [
  ⟨0x9, 0xd, 1⟩, ⟨0x20, 0x20, 1⟩, ⟨0x85, 0x85, 1⟩, ⟨0xa0, 0xa0, 1⟩,
  ⟨0x1680, 0x1680, 1⟩, ⟨0x2000, 0x200a, 1⟩, ⟨0x2028, 0x2029, 1⟩, ⟨0x202f, 0x202f, 1⟩,
  ⟨0x205f, 0x205f, 1⟩, ⟨0x3000, 0x3000, 1⟩]

/-- Is the character white space? -/
def isBlank (c : Char) : Bool :=
  Run.holds blankRuns c.toNat

/-- Drops the white space at the start. -/
def trimStart (cs : List Char) : List Char :=
  cs.dropWhile isBlank

/-- Drops the white space at the end. -/
def trimEnd (cs : List Char) : List Char :=
  (cs.reverse.dropWhile isBlank).reverse

/-- Drops the white space at both ends. -/
def trim (cs : List Char) : List Char :=
  trimEnd (trimStart cs)

end ClientGen.Text
