/-!
# Blank characters

The characters that separate words without being seen: the ASCII blanks, the next-line control, and
the space, line and paragraph separators.
-/

namespace HttpServer.Text

def blankRanges : List (Nat × Nat) :=
  [(0x09, 0x0D), (0x20, 0x20), (0x85, 0x85), (0xA0, 0xA0), (0x1680, 0x1680), (0x2000, 0x200A),
    (0x2028, 0x2029), (0x202F, 0x202F), (0x205F, 0x205F), (0x3000, 0x3000)]

def isBlank (character : Char) : Bool :=
  blankRanges.any fun range => range.1 ≤ character.toNat && character.toNat ≤ range.2

def isBlankText (text : String) : Bool := text.toList.all isBlank

end HttpServer.Text
