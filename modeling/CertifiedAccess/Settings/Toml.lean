import CertifiedAccess.Bytes

/-!
The TOML that flat settings are written in: lines of a key and a value, where a value is an integer, a
truth value or an array of strings. Keys, numbers, strings, comments and white space follow TOML 1.0 in
full. Tables, dates, floats and other arrays are refused, since no setting could take them.

A loop whose turns each take a character or more is given as fuel a number that is no smaller than the
number of characters left, and hands it on to the loops within it.
-/
namespace CertifiedAccess.Toml

inductive Value where
  | integer (n : Int)
  | boolean (b : Bool)
  | strings (texts : List String)
  deriving DecidableEq

abbrev Input := List Char

def isBlank (c : Char) : Bool := c == ' ' || c == '\t'

/-- Characters of comments: all but the control characters other than the tab. -/
def isCommentChar (c : Char) : Bool :=
  c == '\t' || (32 ≤ c.toNat && c.toNat != 127)

/-- The quote of strings in which nothing is escaped. -/
def literalQuote : Char := Char.ofNat 39

def skipBlanks (input : Input) : Input := input.dropWhile isBlank

def newline? : Input → Option Input
  | '\n' :: rest => some rest
  | '\r' :: '\n' :: rest => some rest
  | _ => none

/-- The input behind what may follow a value on its line: blanks, a comment, and the line's end. -/
def lineEnd? (input : Input) : Option Input :=
  let rest := skipBlanks input
  let rest := if rest.head? = some '#' then rest.dropWhile isCommentChar else rest
  if rest.isEmpty then some [] else newline? rest

/-- The input behind blanks, line breaks and comments, which may stand between the elements of an array;
`inComment` tells whether a comment has begun. -/
def skipTrivia (inComment : Bool) : Input → Input
  | [] => []
  | '\n' :: rest => skipTrivia false rest
  | '\r' :: '\n' :: rest => skipTrivia false rest
  | c :: rest =>
    if inComment then if isCommentChar c then skipTrivia true rest else c :: rest
    else if isBlank c then skipTrivia false rest
    else if c = '#' then skipTrivia true rest
    else c :: rest

/-- The character that one letter behind a backslash stands for. -/
def shortEscape? : Char → Option Char
  | 'b' => some (Char.ofNat 8)
  | 't' => some '\t'
  | 'n' => some '\n'
  | 'f' => some (Char.ofNat 12)
  | 'r' => some '\r'
  | '"' => some '"'
  | '\\' => some '\\'
  | _ => none

/-- The character whose code point the first `count` characters give in hexadecimal. -/
def codePoint? (count : Nat) (input : Input) : Option Char := do
  let values ← (input.take count).mapM Bytes.hexValue?
  let n := values.foldl (fun n v => 16 * n + v) 0
  if h : n.isValidChar then if values.length = count then some (Char.ofNatAux n h) else none
  else none

/-- The character that is written behind a backslash, and the input behind it. -/
def escape? : Input → Option (Char × Input)
  | 'u' :: rest => (codePoint? 4 rest).map fun c => (c, rest.drop 4)
  | 'U' :: rest => (codePoint? 8 rest).map fun c => (c, rest.drop 8)
  | c :: rest => (shortEscape? c).map fun e => (e, rest)
  | [] => none

def isBasicChar (c : Char) : Bool :=
  isCommentChar c && c != '"' && c != '\\'

def isLiteralChar (c : Char) : Bool :=
  isCommentChar c && c != literalQuote

/-- A text held last character first, and the input behind it. -/
def finish (done : List Char) (rest : Input) : String × Input :=
  (String.ofList done.reverse, rest)

def basic? : Nat → List Char → Input → Option (String × Input)
  | fuel + 1, done, c :: rest =>
    if c = '"' then some (finish done rest)
    else if c = '\\' then
      match escape? rest with
      | some (e, rest) => basic? fuel (e :: done) rest
      | none => none
    else if isBasicChar c then basic? fuel (c :: done) rest
    else none
  | _, _, _ => none

def literal? (input : Input) : Option (String × Input) :=
  match input.dropWhile isLiteralChar with
  | c :: rest =>
    if c = literalQuote then some (String.ofList (input.takeWhile isLiteralChar), rest) else none
  | [] => none

def skipBreaks : Input → Input
  | [] => []
  | '\r' :: '\n' :: rest => skipBreaks rest
  | c :: rest => if isBlank c || c == '\n' then skipBreaks rest else c :: rest

/-- The input behind a line break that a backslash takes away, with all blanks and breaks after it. -/
def foldedBreak? (input : Input) : Option Input :=
  (newline? (skipBlanks input)).map skipBreaks

/-- The end of a string in triple quotes: as many as two more quotes belong to the text. -/
def tripleEnd? (quote : Char) (done : List Char) (input : Input) : Option (String × Input) :=
  let count := (input.takeWhile (· == quote)).length
  if count < 3 then none
  else
    let extra := min (count - 3) 2
    some (finish (List.replicate extra quote ++ done) (input.drop (3 + extra)))

/-- A string up to three double quotes. A line break of either kind is read as a line feed. -/
def multiline? : Nat → List Char → Input → Option (String × Input)
  | 0, _, _ => none
  | fuel + 1, done, input =>
    match tripleEnd? '"' done input, newline? input, input with
    | some result, _, _ => some result
    | none, some rest, _ => multiline? fuel ('\n' :: done) rest
    | none, none, '\\' :: rest =>
      match foldedBreak? rest, escape? rest with
      | some rest, _ => multiline? fuel done rest
      | none, some (e, rest) => multiline? fuel (e :: done) rest
      | none, none => none
    | none, none, c :: rest =>
      if isBasicChar c || c = '"' then multiline? fuel (c :: done) rest else none
    | none, none, [] => none

/-- A string up to three single quotes. A line break of either kind is read as a line feed. -/
def multilineLiteral? : Nat → List Char → Input → Option (String × Input)
  | 0, _, _ => none
  | fuel + 1, done, input =>
    match tripleEnd? literalQuote done input, newline? input, input with
    | some result, _, _ => some result
    | none, some rest, _ => multilineLiteral? fuel ('\n' :: done) rest
    | none, none, c :: rest => if isCommentChar c then multilineLiteral? fuel (c :: done) rest else none
    | none, none, [] => none

/-- A line break right behind three opening quotes is not part of the text. -/
def afterOpening (input : Input) : Input := (newline? input).getD input

def lineString? (fuel : Nat) : Input → Option (String × Input)
  | [] => none
  | c :: rest =>
    if c = '"' then basic? fuel [] rest
    else if c = literalQuote then literal? rest
    else none

def string? (fuel : Nat) (input : Input) : Option (String × Input) :=
  if input.take 3 = ['"', '"', '"'] then multiline? fuel [] (afterOpening (input.drop 3))
  else if input.take 3 = [literalQuote, literalQuote, literalQuote] then
    multilineLiteral? fuel [] (afterOpening (input.drop 3))
  else lineString? fuel input

/-- The rest of an array of strings; a comma may follow the last one. -/
def strings? : Nat → List String → Input → Option (List String × Input)
  | 0, _, _ => none
  | fuel + 1, done, input =>
    match skipTrivia false input with
    | ']' :: rest => some (done.reverse, rest)
    | element =>
      match string? fuel element with
      | none => none
      | some (text, rest) =>
        match skipTrivia false rest with
        | ',' :: rest => strings? fuel (text :: done) rest
        | ']' :: rest => some ((text :: done).reverse, rest)
        | _ => none

/-- The value of digits in a base. Single underscores may stand between digits. -/
def digits? (base : Nat) : Nat → Bool → List Char → Option Nat
  | n, afterDigit, [] => if afterDigit then some n else none
  | n, afterDigit, c :: rest =>
    if c = '_' then if afterDigit then digits? base n false rest else none
    else
      match Bytes.hexValue? c with
      | some v => if v < base then digits? base (base * n + v) true rest else none
      | none => none

/-- A decimal number without a sign: no zero in front of other digits. -/
def decimal? : List Char → Option Nat
  | ['0'] => some 0
  | '0' :: _ => none
  | digits => digits? 10 0 false digits

/-- An integer of 64 bits: decimal with a sign or not, or in a base that is named. -/
def integer? (word : List Char) : Option Int :=
  let value : Option Int :=
    match word with
    | '0' :: 'x' :: digits => (digits? 16 0 false digits).map Int.ofNat
    | '0' :: 'o' :: digits => (digits? 8 0 false digits).map Int.ofNat
    | '0' :: 'b' :: digits => (digits? 2 0 false digits).map Int.ofNat
    | '+' :: digits => (decimal? digits).map Int.ofNat
    | '-' :: digits => (decimal? digits).map fun n => -Int.ofNat n
    | digits => (decimal? digits).map Int.ofNat
  value.filter fun n => decide (Int64.minValue.toInt ≤ n ∧ n ≤ Int64.maxValue.toInt)

/-- Characters of words: numbers and truth values, and what looks like them. -/
def isWordChar (c : Char) : Bool := c.isAlphanum || "+-_.:".toList.contains c

def value? (fuel : Nat) : Input → Option (Value × Input)
  | '[' :: rest => (strings? fuel [] rest).map fun (texts, rest) => (.strings texts, rest)
  | input =>
    let word := input.takeWhile isWordChar
    let rest := input.dropWhile isWordChar
    if word = "true".toList then some (.boolean true, rest)
    else if word = "false".toList then some (.boolean false, rest)
    else (integer? word).map fun n => (.integer n, rest)

def isBareKeyChar (c : Char) : Bool := c.isAlphanum || c == '_' || c == '-'

/-- A key, bare or in quotes, and the input behind it. -/
def key? (fuel : Nat) (input : Input) : Option (String × Input) :=
  let bare := input.takeWhile isBareKeyChar
  if bare.isEmpty then lineString? fuel input
  else some (String.ofList bare, input.drop bare.length)

/-- A key with its value, and the input behind their line. -/
def entry? (fuel : Nat) (input : Input) : Option ((String × Value) × Input) := do
  let (key, rest) ← key? fuel input
  match skipBlanks rest with
  | '=' :: rest =>
    let (value, rest) ← value? fuel (skipBlanks rest)
    let rest ← lineEnd? rest
    some ((key, value), rest)
  | _ => none

/-- The entries of a document, behind those that are done (held last first). No key comes twice. -/
def entries? : Nat → List (String × Value) → Input → Option (List (String × Value))
  | _, done, [] => some done.reverse
  | 0, _, _ => none
  | fuel + 1, done, input =>
    match lineEnd? input with
    | some rest => entries? fuel done rest
    | none =>
      match entry? (fuel + 1) (skipBlanks input) with
      | some (entry, rest) =>
        if done.any fun other => other.1 == entry.1 then none else entries? fuel (entry :: done) rest
      | none => none

/-- The keys and values of a document, in order. A byte order mark in front is no part of it. -/
def document? (text : String) : Option (List (String × Value)) :=
  let chars := text.toList
  let input := if chars.head? = some (Char.ofNat 0xFEFF) then chars.drop 1 else chars
  entries? input.length [] input

end CertifiedAccess.Toml
