/-! Lexical structure of TOML: characters with byte offsets, and tokens. `\r\n` is one
character, and an initial byte order mark is skipped. -/
namespace Reckoner.Toml

structure Mark where
  offset : Nat
  char : Char
  deriving DecidableEq, Repr

def marksFrom (offset : Nat) (out : Array Mark) : List Char → Array Mark
  | [] => out
  | '\r' :: '\n' :: cs => marksFrom (offset + 2) (out.push ⟨offset, '\n'⟩) cs
  | c :: cs => marksFrom (offset + c.utf8Size) (out.push ⟨offset, c⟩) cs

def marks (source : String) : List Mark :=
  match (marksFrom 0 #[] source.toList).toList with
  | ⟨_, '\uFEFF'⟩ :: rest => rest
  | all => all

inductive Token where
  | blank (text : String)
  | newline
  | comment
  | equals
  | dot
  | comma
  | colon
  | plus
  | openBrace
  | closeBrace
  | openBracket
  | closeBracket
  /-- Letters, digits, `-` and `_`: a key, a number or a keyword. -/
  | bare (text : String)
  | string (text : String) (multiline : Bool)
  deriving DecidableEq, Repr

structure Lexeme where
  start : Nat
  token : Token
  deriving DecidableEq, Repr

def isBareChar (c : Char) : Bool := c.isAlphanum || c == '-' || c == '_'

def isGapChar (c : Char) : Bool := c == ' ' || c == '\t'

/-- Characters allowed unescaped in a string. -/
def isTextChar (c : Char) : Bool := c == '\t' || (0x20 ≤ c.toNat && c.toNat != 0x7F)

def isCommentChar (c : Char) : Bool := c == '\t' || 0x20 ≤ c.toNat

def hexValue? (c : Char) : Option Nat :=
  if c.isDigit then some (c.toNat - '0'.toNat)
  else if 'a' ≤ c && c ≤ 'f' then some (c.toNat - 'a'.toNat + 10)
  else if 'A' ≤ c && c ≤ 'F' then some (c.toNat - 'A'.toNat + 10)
  else none

def charOfHex? (digits : List Mark) : Option Char := do
  let n ← digits.foldlM (fun n m => return 16 * n + (← hexValue? m.char)) 0
  if n.isValidChar then some (Char.ofNat n) else none

/-- Progress of a line-ending backslash: none, before the line feed, or skipping blanks after it. -/
inductive Gap where
  | none
  | line
  | after
  deriving DecidableEq, Repr

/-- Contents of a string and the remaining input; `out` is reversed. Escapes require double
quotes, line feeds triple ones. Up to two quotes before the closing three belong to the
contents. -/
def readBody (quote : Char) (multiline : Bool) (gap : Gap) (out : List Char) :
    List Mark → Option (List Char × List Mark)
  | [] => .none
  | m :: rest =>
    if gap = .line then
      if m.char = '\n' then readBody quote multiline .after out rest
      else if isGapChar m.char then readBody quote multiline .line out rest
      else .none
    else if gap = .after ∧ (m.char = '\n' ∨ isGapChar m.char) then
      readBody quote multiline .after out rest
    else if m.char = quote then
      if !multiline then some (out.reverse, rest)
      else
        let quotes := ((m :: rest).takeWhile (·.char == quote)).length
        if quotes < 3 then readBody quote multiline .none (quote :: out) rest
        else
          let kept := min (quotes - 3) 2
          some (out.reverse ++ List.replicate kept quote, (m :: rest).drop (kept + 3))
    else if m.char = '\n' then
      if multiline then readBody quote multiline .none ('\n' :: out) rest else .none
    else if m.char = '\\' ∧ quote = '"' then
      match rest with
      | [] => .none
      | e :: rest =>
        match e.char with
        | '"' => readBody quote multiline .none ('"' :: out) rest
        | '\\' => readBody quote multiline .none ('\\' :: out) rest
        | 'b' => readBody quote multiline .none ('\x08' :: out) rest
        | 'f' => readBody quote multiline .none ('\x0c' :: out) rest
        | 'n' => readBody quote multiline .none ('\n' :: out) rest
        | 'r' => readBody quote multiline .none ('\r' :: out) rest
        | 't' => readBody quote multiline .none ('\t' :: out) rest
        | 'u' =>
          match rest with
          | a :: b :: c :: d :: rest =>
            match charOfHex? [a, b, c, d] with
            | some x => readBody quote multiline .none (x :: out) rest
            | .none => .none
          | _ => .none
        | 'U' =>
          match rest with
          | a :: b :: c :: d :: i :: j :: k :: l :: rest =>
            match charOfHex? [a, b, c, d, i, j, k, l] with
            | some x => readBody quote multiline .none (x :: out) rest
            | .none => .none
          | _ => .none
        | '\n' => if multiline then readBody quote multiline .after out rest else .none
        | c =>
          if multiline && isGapChar c then readBody quote multiline .line out rest else .none
    else if isTextChar m.char then readBody quote multiline .none (m.char :: out) rest
    else .none

/-- After the first quote. A line feed directly after triple quotes is dropped. -/
def readString (quote : Char) (rest : List Mark) : Option (Token × List Mark) :=
  let body (multiline : Bool) (rest : List Mark) : Option (Token × List Mark) :=
    (readBody quote multiline .none [] rest).map fun (cs, rest) =>
      (.string (String.ofList cs) multiline, rest)
  match (rest.takeWhile (·.char == quote)).length with
  | 0 => body false rest
  | 1 => some (.string "" false, rest.drop 1)
  | _ =>
    match rest.drop 2 with
    | ⟨_, '\n'⟩ :: rest => body true rest
    | rest => body true rest

def textOf (run : List Mark) : String := String.ofList (run.map Mark.char)

def punctuation? : Char → Option Token
  | '\n' => some .newline
  | '=' => some .equals
  | '.' => some .dot
  | ',' => some .comma
  | ':' => some .colon
  | '+' => some .plus
  | '{' => some .openBrace
  | '}' => some .closeBrace
  | '[' => some .openBracket
  | ']' => some .closeBracket
  | _ => none

def readToken (m : Mark) (rest : List Mark) : Option (Token × List Mark) :=
  match punctuation? m.char with
  | some t => some (t, rest)
  | none =>
    if isGapChar m.char then
      some (.blank (textOf (m :: rest.takeWhile (isGapChar ·.char))),
        rest.dropWhile (isGapChar ·.char))
    else if m.char = '#' then some (.comment, rest.dropWhile (isCommentChar ·.char))
    else if m.char = '\'' ∨ m.char = '"' then readString m.char rest
    else if isBareChar m.char then
      some (.bare (textOf (m :: rest.takeWhile (isBareChar ·.char))),
        rest.dropWhile (isBareChar ·.char))
    else none

/-- Every token takes a character, so the number of characters is sufficient fuel. -/
def scanWithin : Nat → Array Lexeme → List Mark → Option (Array Lexeme)
  | _, out, [] => some out
  | 0, _, _ :: _ => none
  | n + 1, out, m :: rest =>
    match readToken m rest with
    | some (t, rest) => scanWithin n (out.push ⟨m.offset, t⟩) rest
    | none => none

def scan (source : String) : Option (List Lexeme) :=
  let ms := marks source
  (scanWithin ms.length #[] ms).map Array.toList

end Reckoner.Toml
