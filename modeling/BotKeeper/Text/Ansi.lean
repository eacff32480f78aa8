/-! Terminal escape sequences and their removal. A sequence is the escape
character with one character of its own class, or the escape character, a left
bracket, parameters, intermediates and one final character. The three classes
after the bracket are disjoint, so a sequence at a given place has one length. -/

namespace BotKeeper.Ansi

def escape : Char := '\x1b'

/-- The characters that form a sequence together with the escape character alone. -/
def isShort (c : Char) : Bool :=
  ('@' ≤ c && c ≤ 'Z') || ('\\' ≤ c && c ≤ '_')

def isParameter (c : Char) : Bool :=
  '0' ≤ c && c ≤ '?'

def isIntermediate (c : Char) : Bool :=
  ' ' ≤ c && c ≤ '/'

def isFinal (c : Char) : Bool :=
  '@' ≤ c && c ≤ '~'

/-- What follows parameters, intermediates and a final character. -/
def afterBracket? (text : List Char) : Option (List Char) :=
  match (text.dropWhile isParameter).dropWhile isIntermediate with
  | c :: rest => if isFinal c then some rest else none
  | [] => none

/-- What follows the sequence at the head of the text, if one stands there. -/
def afterSequence? : List Char → Option (List Char)
  | first :: second :: rest =>
    if first = escape then
      if second = '[' then afterBracket? rest
      else if isShort second then some rest
      else none
    else none
  | _ => none

theorem length_dropWhile_le (drop : Char → Bool) (text : List Char) :
    (text.dropWhile drop).length ≤ text.length :=
  (List.dropWhile_sublist drop).length_le

theorem afterBracket?_shorter {text rest : List Char} (found : afterBracket? text = some rest) :
    rest.length < text.length := by
  unfold afterBracket? at found
  have first := length_dropWhile_le isParameter text
  have second := length_dropWhile_le isIntermediate (text.dropWhile isParameter)
  split at found
  · rename_i c tail same
    rw [same] at second
    split at found
    · cases found
      simp only [List.length_cons] at second
      omega
    · cases found
  · cases found

theorem afterSequence?_shorter {text rest : List Char} (found : afterSequence? text = some rest) :
    rest.length < text.length := by
  unfold afterSequence? at found
  split at found
  · split at found
    · split at found
      · have shorter := afterBracket?_shorter found
        simp only [List.length_cons]
        omega
      · split at found
        · cases found
          simp only [List.length_cons]
          omega
        · cases found
    · cases found
  · cases found

/-- The text without its sequences, found from left to right. What remains is
not looked at again, so two halves may meet and form a new sequence. -/
def strip (text : List Char) : List Char :=
  match text with
  | [] => []
  | c :: rest =>
    match _found : afterSequence? (c :: rest) with
    | some after => strip after
    | none => c :: strip rest
termination_by text.length
decreasing_by
  · exact afterSequence?_shorter _found
  · simp

end BotKeeper.Ansi
