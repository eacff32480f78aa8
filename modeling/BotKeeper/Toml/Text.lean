import BotKeeper.Toml.Scan

/-! Strings of a TOML document: basic ones with escapes and literal ones without,
each in one line or, between triple quotes, in several. -/

namespace BotKeeper.Toml

def codeEscape? (width : Nat) (text : List Char) : Option (Char × List Char) :=
  let digits := text.take width
  if digits.length = width ∧ digits.all isHexadecimal then
    let code := digitsValue 16 digits
    if code.isValidChar then some (Char.ofNat code, text.drop width) else none
  else none

/-- The character that an escape stands for; its backslash has been read. -/
def escape? : Reader Char
  | 'b' :: rest => some ('\x08', rest)
  | 't' :: rest => some ('\t', rest)
  | 'n' :: rest => some ('\n', rest)
  | 'f' :: rest => some ('\x0c', rest)
  | 'r' :: rest => some ('\r', rest)
  | 'e' :: rest => some ('\x1b', rest)
  | '"' :: rest => some ('"', rest)
  | '\\' :: rest => some ('\\', rest)
  | 'x' :: rest => codeEscape? 2 rest
  | 'u' :: rest => codeEscape? 4 rest
  | 'U' :: rest => codeEscape? 8 rest
  | _ => none

/-- What follows a backslash at the end of a line: all blanks and line ends after it. -/
def afterContinuation? (fuel : Nat) (text : List Char) : Option (List Char) :=
  (afterLineEnd? (skipSpaces text)).map (skipBlankLines fuel)
where
  skipBlankLines : Nat → List Char → List Char
    | 0, text => text
    | fuel + 1, text =>
      match afterLineEnd? (skipSpaces text) with
      | some rest => skipBlankLines fuel rest
      | none => skipSpaces text

/-- A quote inside a string of several lines: up to two stand for themselves, and
three end the string after those that are left of up to five. -/
def closing? (quote : Char) (text : List Char) : List Char ⊕ (List Char × List Char) :=
  let run := min 5 (text.takeWhile (· == quote)).length
  if run < 3 then .inl (text.take run)
  else .inr (text.take (run - 3), text.drop run)

def basic : Nat → Reader (List Char)
  | 0, _ => none
  | fuel + 1, text =>
    match text with
    | '"' :: rest => some ([], rest)
    | '\\' :: rest => do
      let (c, rest) ← escape? rest
      let (content, rest) ← basic fuel rest
      return (c :: content, rest)
    | c :: rest =>
      if isControl c then none
      else do
        let (content, rest) ← basic fuel rest
        return (c :: content, rest)
    | [] => none

def literal (text : List Char) : Option (List Char × List Char) :=
  let content := text.takeWhile fun c => c != '\x27' && !isControl c
  match text.drop content.length with
  | '\x27' :: rest => some (content, rest)
  | _ => none

/-- The content of a string in several lines, up to its three closing quotes. Line
ends become line feeds. -/
def several (quote : Char) : Nat → Reader (List Char)
  | 0, _ => none
  | fuel + 1, text =>
    match text with
    | [] => none
    | c :: rest =>
      if c = quote then
        match closing? quote text with
        | .inr closed => some closed
        | .inl quotes => do
          let (content, rest) ← several quote fuel (text.drop quotes.length)
          return (quotes ++ content, rest)
      else if quote = '"' ∧ c = '\\' then
        match afterContinuation? fuel rest with
        | some rest => several quote fuel rest
        | none => do
          let (escaped, rest) ← escape? rest
          let (content, rest) ← several quote fuel rest
          return (escaped :: content, rest)
      else
        match afterLineEnd? text with
        | some rest => do
          let (content, rest) ← several quote fuel rest
          return ('\n' :: content, rest)
        | none =>
          if isControl c then none
          else do
            let (content, rest) ← several quote fuel rest
            return (c :: content, rest)

/-- A line end right after the opening quotes is no content. -/
def afterOpening (text : List Char) : List Char :=
  (afterLineEnd? text).getD text

def lineText (text : List Char) : Option (String × List Char) := do
  let (content, rest) ← match text with
    | '"' :: rest => basic (rest.length + 1) rest
    | '\x27' :: rest => literal rest
    | _ => none
  return (.ofList content, rest)

def string (text : List Char) : Option (String × List Char) :=
  match text with
  | '"' :: '"' :: '"' :: rest => do
    let (content, rest) ← several '"' (rest.length + 1) (afterOpening rest)
    return (.ofList content, rest)
  | '\x27' :: '\x27' :: '\x27' :: rest => do
    let (content, rest) ← several '\x27' (rest.length + 1) (afterOpening rest)
    return (.ofList content, rest)
  | text => lineText text

end BotKeeper.Toml
