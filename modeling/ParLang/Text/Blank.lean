import ParLang.Text.Range

/-!
# Blanks

The characters with the property White_Space. They separate tokens, and number text is trimmed of
them.
-/

namespace ParLang.Text

/-- Every range of blanks. -/
def blankRanges : List Range :=
  [⟨9, 13⟩, ⟨32, 32⟩, ⟨133, 133⟩, ⟨160, 160⟩, ⟨5760, 5760⟩, ⟨8192, 8202⟩, ⟨8232, 8233⟩,
    ⟨8239, 8239⟩, ⟨8287, 8287⟩, ⟨12288, 12288⟩]

/-- `c` has the property White_Space. -/
def isBlank (c : Char) : Bool :=
  Range.anyContains blankRanges c.toNat

end ParLang.Text
