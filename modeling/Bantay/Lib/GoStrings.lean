import Mathlib.Data.String.Basic

/-!
# Blanks of Texts

`strings.TrimSpace`, on texts and on lists of characters.
-/

namespace Bantay.Lib

/-- `unicode.IsSpace` -/
def isUnicodeSpace (c : Char) : Bool :=
  c.toNat ∈ [0x9, 0xa, 0xb, 0xc, 0xd, 0x20, 0x85, 0xa0, 0x1680, 0x2028, 0x2029, 0x202f, 0x205f,
    0x3000] || (0x2000 ≤ c.toNat && c.toNat ≤ 0x200a)

def trimChars (text : List Char) : List Char :=
  ((text.dropWhile isUnicodeSpace).reverse.dropWhile isUnicodeSpace).reverse

def trimSpace (s : String) : String := String.ofList (trimChars s.toList)

end Bantay.Lib
