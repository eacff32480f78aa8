/-! White space as the Unicode property defines it, and text freed of it at its
two ends. Every reader and every check of this library uses this one class. -/

namespace BotKeeper.Text

/-- The twenty-five characters with the Unicode property White_Space. -/
def isBlank (c : Char) : Bool :=
  let code := c.toNat
  (9 ≤ code && code ≤ 13) || code == 0x20 || code == 0x85 || code == 0xA0 || code == 0x1680 ||
    (0x2000 ≤ code && code ≤ 0x200A) || code == 0x2028 || code == 0x2029 || code == 0x202F ||
    code == 0x205F || code == 0x3000

/-- The printable characters of ASCII are no white space. -/
theorem not_blank_of_printable {c : Char} (above : 32 < c.toNat) (below : c.toNat < 127) :
    isBlank c = false := by
  simp only [isBlank, Bool.or_eq_false_iff, Bool.and_eq_false_iff, decide_eq_false_iff_not,
    beq_eq_false_iff_ne]
  omega

def dropBlanks (text : List Char) : List Char :=
  text.dropWhile isBlank

/-- The text without its last characters of class `drop`. -/
def trimEndWhile (drop : Char → Bool) (text : List Char) : List Char :=
  (text.reverse.dropWhile drop).reverse

def trimEnd (text : List Char) : List Char :=
  trimEndWhile isBlank text

def trim (text : List Char) : List Char :=
  trimEnd (dropBlanks text)

def allBlank (text : List Char) : Bool :=
  text.all isBlank

def isLineEnd (c : Char) : Bool :=
  c == '\r' || c == '\n'

def trimLineEnd (text : List Char) : List Char :=
  trimEndWhile isLineEnd text

end BotKeeper.Text
