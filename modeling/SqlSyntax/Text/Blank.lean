import SqlSyntax.Text.CharSet

/-!
# Blank characters and trimming

The blanks are the 25 characters of the Unicode property `White_Space`. Trimming
takes them from both ends of a text and leaves those inside.
-/
namespace SqlSyntax

/-- Code points from 128 on with the property `White_Space`. -/
def blankBeyondAscii : CharSet where
  ranges := [
    (0x85, 0x85), (0xA0, 0xA0), (0x1680, 0x1680), (0x2000, 0x200A), (0x2028, 0x2029),
    (0x202F, 0x202F), (0x205F, 0x205F), (0x3000, 0x3000)]

def isBlank (c : Char) : Bool :=
  if isAscii c then c = ' ' || ('\t' ≤ c && c ≤ '\r') else blankBeyondAscii.contains c

def trimStart (cs : List Char) : List Char := cs.dropWhile isBlank

def trimEnd (cs : List Char) : List Char := (cs.reverse.dropWhile isBlank).reverse

def trim (cs : List Char) : List Char := trimEnd (trimStart cs)

@[simp] theorem trim_nil : trim [] = [] := rfl

end SqlSyntax
