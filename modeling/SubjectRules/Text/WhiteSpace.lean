import SubjectRules.Text.CodeSet
import SubjectRules.Text.Words

/-!
# White space

The characters with the property White_Space, and what trimming and collapsing make
of them.
-/

namespace SubjectRules.Text

def whiteSpace : CodeSet :=
  ⟨[(0x9, 0xD), (0x20, 0x20), (0x85, 0x85), (0xA0, 0xA0), (0x1680, 0x1680), (0x2000, 0x200A),
    (0x2028, 0x2029), (0x202F, 0x202F), (0x205F, 0x205F), (0x3000, 0x3000)]⟩

def isWhiteSpace (c : Char) : Bool := whiteSpace.has c

def trim (s : String) : String := String.ofList (trimmed isWhiteSpace s.toList)

def collapseWhiteSpace (s : String) : String :=
  String.ofList ([' '].intercalate (words isWhiteSpace s.toList))

theorem isWhiteSpace_space : isWhiteSpace ' ' = true := rfl

end SubjectRules.Text
