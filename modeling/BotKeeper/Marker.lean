import BotKeeper.Text.Blank
import BotKeeper.Text.Folded
import BotKeeper.Text.Numeral

/-! The phrases by which a bot announces its state. A recogniser looks at one
place of a line; a search tries it at every place from left to right and takes
the first that answers, so each phrase is found at its leftmost complete
occurrence. -/

namespace BotKeeper.Marker
open Text

/-- The answer of `recognise` at the leftmost place of the line where it has one. -/
def firstAnswer? (recognise : List Char → Option α) : List Char → Option α
  | [] => recognise []
  | c :: rest =>
    match recognise (c :: rest) with
    | some answer => some answer
    | none => firstAnswer? recognise rest

/-- What follows `word` at the head of the text, letter by letter. -/
def after? (word : String) (text : List Char) : Option (List Char) :=
  word.toList.isPrefixOf? text

/-- What follows the white space at the head of the text, at least one character of it. -/
def afterBlanks? : List Char → Option (List Char)
  | c :: rest => if isBlank c then some (dropBlanks rest) else none
  | [] => none

/-- The words in any case, each after the first separated by at least one white space. -/
def afterPhrase? : List String → List Char → Option (List Char)
  | [], text => some text
  | [word], text => afterFolded? word.toList text
  | word :: words, text => do
    let rest ← afterFolded? word.toList text
    let rest ← afterBlanks? rest
    afterPhrase? words rest

def isColon (c : Char) : Bool :=
  c == ':' || c == '：'

/-! The login code, given directly, as a link, or as the place of a picture. -/

/-- The first word of the text, white space before it skipped. -/
def firstWord? (text : List Char) : Option (List Char) :=
  match (dropBlanks text).takeWhile (fun c => !isBlank c) with
  | [] => none
  | word => some word

def opensCode (c : Char) : Bool :=
  isBlank c || c == ']'

def codeAfterOpening? : List Char → Option (List Char)
  | c :: rest => if opensCode c then (after? "QR:" rest).bind firstWord? else none
  | [] => none

/-- The code after the short marker, at the start of the line or after an opening. -/
def shortCode? (line : List Char) : Option (List Char) :=
  match (after? "QR:" line).bind firstWord? with
  | some code => some code
  | none => firstAnswer? codeAfterOpening? line

def linkAt? (text : List Char) : Option (List Char) :=
  match after? "二维码解码URL" text with
  | some (c :: rest) => if isColon c then firstWord? rest else none
  | _ => none

/-- The rest of the line without the white space around it; of a rest that is all
white space, its last character that is no line feed. No line feed lies inside. -/
def savedAs? (rest : List Char) : Option (List Char) :=
  match trimEnd (dropBlanks rest) with
  | [] => (rest.reverse.find? (· != '\n')).map ([·])
  | place => if place.contains '\n' then none else some place

def savedAt? (text : List Char) : Option (List Char) :=
  (after? "二维码已保存到" text).bind savedAs?

/-- The payload of a login code, by the first of the three forms that occurs. -/
def qrPayload? (line : List Char) : Option (List Char) :=
  (shortCode? line).orElse fun _ =>
    (firstAnswer? linkAt? line).orElse fun _ => firstAnswer? savedAt? line

/-! The failed quick login, in two languages. -/

def isSeparator (c : Char) : Bool :=
  isBlank c || isColon c || c == ',' || c == '-'

/-- The message that follows a marker: all that is left of the line, which may not
hold a line feed. -/
def message? (rest : List Char) : Option (List Char) :=
  let message := rest.dropWhile isSeparator
  if message.contains '\n' then none else some message

/-- What follows one of the words for a failure. -/
def afterFailure? (text : List Char) : Option (List Char) :=
  (afterFolded? "error".toList text).orElse fun _ =>
    (afterFolded? "failed".toList text).orElse fun _ => afterFolded? "failure".toList text

def quickLoginAt? (text : List Char) : Option (List Char) := do
  let rest ← afterFolded? "quick".toList text
  let rest ← afterFolded? "login".toList (dropBlanks rest)
  let rest ← afterFailure? (dropBlanks rest)
  message? rest

def quickLoginChineseAt? (text : List Char) : Option (List Char) :=
  ((after? "快速登录错误" text).orElse fun _ => after? "快速登录失败" text).bind message?

/-- What follows the marker, separators skipped. -/
def quickLoginMessage? (line : List Char) : Option (List Char) :=
  (firstAnswer? quickLoginAt? line).orElse fun _ => firstAnswer? quickLoginChineseAt? line

/-! The successful login and the account it names. -/

/-- The first run of digits in the text, if it has five to twelve of them. -/
def accountDigits? (text : List Char) : Option (List Char) :=
  let digits := (text.dropWhile fun c => !isDigit c).takeWhile isDigit
  if 5 ≤ digits.length && digits.length ≤ 12 then some digits else none

def loginAt? (text : List Char) : Option (List Char) :=
  (afterPhrase? ["login", "success"] text).bind accountDigits?

def loginChineseAt? (text : List Char) : Option (List Char) :=
  (after? "登录成功" text).bind accountDigits?

def loginDigits? (line : List Char) : Option (List Char) :=
  (firstAnswer? loginAt? line).orElse fun _ => firstAnswer? loginChineseAt? line

/-! The account that went offline. -/

def offlineAt? (text : List Char) : Option (List Char) :=
  (after? "账号状态变更为离线" text).orElse fun _ =>
    afterPhrase? ["account", "status", "changed", "to", "offline"] text

def saysOffline (line : List Char) : Bool :=
  (firstAnswer? offlineAt? line).isSome

end BotKeeper.Marker
