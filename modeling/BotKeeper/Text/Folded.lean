/-! Letters compared without regard to case, by simple case folding. The only
letters outside ASCII that fold to an ASCII letter are the Kelvin sign and the
long s. -/

namespace BotKeeper.Text

/-- Whether `c` folds to the lower-case ASCII letter `letter`. -/
def foldsTo (letter c : Char) : Bool :=
  c == letter || c == letter.toUpper ||
    (letter == 'k' && c == '\u212A') || (letter == 's' && c == '\u017F')

/-- What follows `word` (in lower case) at the head of the text, in any case. -/
def afterFolded? : List Char → List Char → Option (List Char)
  | [], text => some text
  | _ :: _, [] => none
  | letter :: word, c :: text => if foldsTo letter c then afterFolded? word text else none

end BotKeeper.Text
