/-!
# White space at the ends of a text

White space is the Unicode property of that name: twenty-five characters, of
which six are ASCII. Trimming removes them at both ends and nowhere else.
-/

namespace BookLookup

/-- Whether a character has the Unicode property White_Space. -/
def isBlank (symbol : Char) : Bool :=
  let code := symbol.toNat
  (0x09 ≤ code && code ≤ 0x0D) || code == 0x20 || code == 0x85 ||
    code == 0xA0 || code == 0x1680 || (0x2000 ≤ code && code ≤ 0x200A) ||
    code == 0x2028 || code == 0x2029 || code == 0x202F || code == 0x205F ||
    code == 0x3000

/-- A text without the white space at its end. -/
def trimEnd (text : List Char) : List Char :=
  (text.reverse.dropWhile isBlank).reverse

/-- A text without the white space at its two ends. -/
def trim (text : List Char) : List Char :=
  trimEnd (text.dropWhile isBlank)

@[simp] theorem trim_nil : trim [] = [] := rfl

/-- A string without the white space at its two ends. -/
def trimmed (text : String) : String :=
  String.ofList (trim text.toList)

/-- The trimmed text, unless nothing is left of it. -/
def nonBlank? (text : String) : Option String :=
  if trimmed text = "" then none else some (trimmed text)

end BookLookup
