import BotKeeper.Text.Hidden

/-! Text quoted for a message, with everything in it visible: quotes, backslashes
and four controls have short escapes, and other hidden characters their codes. -/

namespace BotKeeper.Text

/-- The code in hexadecimal digits, between braces. -/
def codeEscape (c : Char) : List Char :=
  "\\u\x7b".toList ++ Nat.toDigits 16 c.toNat ++ ['\x7d']

def shown (c : Char) : List Char :=
  match c with
  | '\x00' => ['\\', '0']
  | '\t' => ['\\', 't']
  | '\r' => ['\\', 'r']
  | '\n' => ['\\', 'n']
  | '"' => ['\\', '"']
  | '\\' => ['\\', '\\']
  | c => if isHidden c then codeEscape c else [c]

def quoted (text : String) : String :=
  .ofList ('"' :: text.toList.flatMap shown ++ ['"'])

end BotKeeper.Text
