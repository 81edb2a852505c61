import Entrypoint.Source.TokenTree
import Entrypoint.Text.Quoted
import Entrypoint.Text.Split

/-! From characters to token trees. A lexeme is a token or a bracket; brackets are matched
afterwards. Comments and blanks separate lexemes, and a documentation comment stands for the
attribute it abbreviates. -/

namespace Entrypoint

/-- A token or one bracket. -/
inductive Lexeme
  | opening (delimiter : Delimiter)
  | closing (delimiter : Delimiter)
  | leaf (tree : TokenTree)

namespace Lexeme

/-- A blank of source text. The marks of writing direction are blank too. -/
def isBlank (c : Char) : Bool := Text.isBlank c || c == '\u200e' || c == '\u200f'

/-- The characters of operators, and the quote of lifetimes. -/
def punctuation : List Char := "~!@#$%^&*-=+|;:,<.>/?'".toList

/-- The text begins with an operator character that begins no comment. -/
def startsPunct : List Char → Bool
  | '/' :: '/' :: _ | '/' :: '*' :: _ => false
  | c :: _ => punctuation.contains c
  | [] => false

/-! ### Comments -/

/-- The inside of a block comment and the text after it. Comments nest; `depth` counts the open
ones beyond the first. -/
def block? : Nat → List Char → Option (List Char × List Char)
  | _, [] => none
  | depth, '/' :: '*' :: rest =>
    (block? (depth + 1) rest).map fun r => ('/' :: '*' :: r.1, r.2)
  | 0, '*' :: '/' :: rest => some ([], rest)
  | depth + 1, '*' :: '/' :: rest =>
    (block? depth rest).map fun r => ('*' :: '/' :: r.1, r.2)
  | depth, c :: rest => (block? depth rest).map fun r => (c :: r.1, r.2)

/-- The rest of a line, and the text from its end on. A carriage return before the line feed
belongs to neither. -/
def restOfLine : List Char → List Char × List Char
  | [] => ([], [])
  | '\n' :: rest => ([], '\n' :: rest)
  | '\r' :: '\n' :: rest => ([], '\n' :: rest)
  | c :: rest => (c :: (restOfLine rest).1, (restOfLine rest).2)

/-- The text after a plain comment. Three slashes or a star after the opening begin documentation,
but a fourth slash or a third star does not. -/
def afterComment? : List Char → Option (List Char)
  | '/' :: '/' :: '/' :: '/' :: rest => some (restOfLine rest).2
  | '/' :: '/' :: '/' :: _ | '/' :: '/' :: '!' :: _ => none
  | '/' :: '/' :: rest => some (restOfLine rest).2
  | '/' :: '*' :: '*' :: '/' :: rest => some rest
  | '/' :: '*' :: '*' :: '*' :: rest => (block? 0 ('*' :: '*' :: rest)).map (·.2)
  | '/' :: '*' :: '*' :: _ | '/' :: '*' :: '!' :: _ => none
  | '/' :: '*' :: rest => (block? 0 rest).map (·.2)
  | _ => none

/-- Drops blanks and plain comments. The fuel is the number of characters. -/
def skip : Nat → List Char → List Char
  | 0, text => text
  | fuel + 1, text =>
    match afterComment? text with
    | some rest => skip fuel rest
    | none =>
      match text with
      | [] => []
      | c :: rest => if isBlank c then skip fuel rest else text

/-- Drops blanks and plain comments. -/
def skipAll (text : List Char) : List Char := skip (text.length + 1) text

/-- Every carriage return stands before a line feed. -/
def returnsPaired : List Char → Bool
  | [] => true
  | '\r' :: '\n' :: rest => returnsPaired rest
  | '\r' :: _ => false
  | _ :: rest => returnsPaired rest

/-- A documentation comment: whether it documents what encloses it, its text, and the text after. -/
def documentation? : List Char → Option (Bool × List Char × List Char)
  | '/' :: '/' :: '!' :: rest => some (true, restOfLine rest)
  | '/' :: '*' :: '!' :: rest => (block? 0 rest).map (true, ·)
  | '/' :: '/' :: '/' :: '/' :: _ => none
  | '/' :: '/' :: '/' :: rest => some (false, restOfLine rest)
  | '/' :: '*' :: '*' :: '*' :: _ => none
  | '/' :: '*' :: '*' :: rest => (block? 0 rest).map (false, ·)
  | _ => none

/-- The lexemes of the attribute that a documentation comment abbreviates. -/
def ofDocumentation (inner : Bool) (text : List Char) : List Lexeme :=
  .leaf (.punct '#' false) :: (if inner then [.leaf (.punct '!' false)] else []) ++
    [.opening .bracket] ++
    (TokenTree.ofWord "doc").map .leaf ++
    [.leaf (.punct '=' false), .leaf (.literal (Text.Quoted.literal (String.ofList text))),
      .closing .bracket]

/-! ### Literals -/

/-- The longest identifier at the start of a text, without a raw mark. -/
def plainWord? : List Char → Option (List Char × List Char)
  | [] => none
  | c :: rest =>
    if Text.isIdentStart c then
      some (c :: rest.takeWhile Text.isIdentContinue, rest.dropWhile Text.isIdentContinue)
    else none

/-- Drops the suffix of a literal. -/
def afterSuffix (text : List Char) : List Char := ((plainWord? text).map (·.2)).getD text

/-- What the inside of a quoted literal may hold. -/
inductive Quoting
  | text
  | bytes
  | terminated
  deriving DecidableEq

/-- The text after the code of a character in braces, and the code. -/
def code? (count value : Nat) : List Char → Option (Nat × List Char)
  | [] => none
  | '_' :: rest => if count = 0 then none else code? count value rest
  | '\x7d' :: rest =>
    if count = 0 ∨ ¬value.isValidChar then none else some (value, rest)
  | c :: rest =>
    match Text.Quoted.hexValue? c with
    | some d => if count = 6 then none else code? (count + 1) (value * 16 + d) rest
    | none => none

/-- The text after an escape, which follows the backslash. -/
def afterEscape? (quoting : Quoting) : List Char → Option (List Char)
  | 'x' :: h :: l :: rest =>
    match Text.Quoted.hexValue? h, Text.Quoted.hexValue? l with
    | some h, some l =>
      match quoting with
      | .text => if h < 8 then some rest else none
      | .bytes => some rest
      | .terminated => if h = 0 ∧ l = 0 then none else some rest
    | _, _ => none
  | 'u' :: '\x7b' :: rest =>
    if quoting = .bytes then none
    else match code? 0 0 rest with
      | some (value, rest) => if quoting = .terminated ∧ value = 0 then none else some rest
      | none => none
  | c :: rest =>
    if ['n', 'r', 't', '\\', '\'', '"'].contains c || (c == '0' && quoting != .terminated) then
      some rest
    else none
  | [] => none

/-- The text after the blanks that follow a backslash at a line end; `last` is the character before.
A carriage return has its line feed, and something follows the blanks. -/
def afterContinuation? (last : Char) : List Char → Option (List Char)
  | [] => none
  | c :: rest =>
    if last = '\r' then if c = '\n' then afterContinuation? c rest else none
    else if c = ' ' ∨ c = '\t' ∨ c = '\n' ∨ c = '\r' then afterContinuation? c rest
    else some (c :: rest)

/-- A character that may stand for itself between quotes. -/
def isQuotable (quoting : Quoting) (c : Char) : Bool :=
  match quoting with
  | .text => true
  | .bytes => c.toNat < 128
  | .terminated => c != '\x00'

/-- The text after the closing quote. The fuel is the number of characters. -/
def afterQuoted? (quoting : Quoting) : Nat → List Char → Option (List Char)
  | 0, _ | _, [] => none
  | _, '"' :: rest => some rest
  | fuel + 1, '\r' :: '\n' :: rest => afterQuoted? quoting fuel rest
  | _, '\r' :: _ => none
  | fuel + 1, '\\' :: '\n' :: rest =>
    (afterContinuation? '\n' rest).bind (afterQuoted? quoting fuel)
  | fuel + 1, '\\' :: '\r' :: rest =>
    (afterContinuation? '\r' rest).bind (afterQuoted? quoting fuel)
  | fuel + 1, '\\' :: rest => (afterEscape? quoting rest).bind (afterQuoted? quoting fuel)
  | fuel + 1, c :: rest => if isQuotable quoting c then afterQuoted? quoting fuel rest else none

/-- The text after the closing quote and as many hashes as stood before the opening one. -/
def afterRaw? (quoting : Quoting) (hashes : List Char) : List Char → Option (List Char)
  | [] => none
  | '\r' :: '\n' :: rest => afterRaw? quoting hashes rest
  | '\r' :: _ => none
  | c :: rest =>
    if c = '"' ∧ hashes.isPrefixOf rest then some (rest.drop hashes.length)
    else if isQuotable quoting c then afterRaw? quoting hashes rest
    else none

/-- The text after a raw literal, from its hashes on. -/
def afterRawLiteral? (quoting : Quoting) (text : List Char) : Option (List Char) :=
  match text.takeWhile (· == '#'), text.dropWhile (· == '#') with
  | hashes, '"' :: inside => if hashes.length ≤ 255 then afterRaw? quoting hashes inside else none
  | _, _ => none

/-- The text after a quoted literal. -/
def afterQuotedLiteral? (quoting : Quoting) (text : List Char) : Option (List Char) :=
  afterQuoted? quoting (text.length + 1) text

/-- The text after a literal in quotes of any kind. -/
def afterString? : List Char → Option (List Char)
  | '"' :: rest => afterQuotedLiteral? .text rest
  | 'r' :: rest => afterRawLiteral? .text rest
  | 'b' :: '"' :: rest => afterQuotedLiteral? .bytes rest
  | 'b' :: 'r' :: rest => afterRawLiteral? .bytes rest
  | 'c' :: '"' :: rest => afterQuotedLiteral? .terminated rest
  | 'c' :: 'r' :: rest => afterRawLiteral? .terminated rest
  | _ => none

/-- The text after one character or escape and the closing single quote. -/
def afterCharacter? (quoting : Quoting) : List Char → Option (List Char)
  | '\\' :: rest =>
    match afterEscape? quoting rest with
    | some ('\'' :: rest) => some rest
    | _ => none
  | c :: '\'' :: rest => if isQuotable quoting c then some rest else none
  | _ => none

/-- The text after a character or byte literal. -/
def afterCharacterLiteral? : List Char → Option (List Char)
  | '\'' :: rest => afterCharacter? .text rest
  | 'b' :: '\'' :: rest => afterCharacter? .bytes rest
  | _ => none

/-- A decimal digit or an underscore. -/
def isDigitOrBar (c : Char) : Bool := c.isDigit || c == '_'

/-- The text after the exponent of a number, from its sign on. An exponent needs a digit. -/
def afterExponent? (text : List Char) : Option (List Char) :=
  let unsigned := match text.dropWhile (· == '_') with
    | '+' :: rest | '-' :: rest => rest
    | _ => text
  let digits := unsigned.takeWhile isDigitOrBar
  if digits.any Char.isDigit then some (unsigned.drop digits.length) else none

/-- The text after a number with a point or an exponent, without its suffix. A point before another
point or a name belongs to no number. -/
def afterFloat? : List Char → Option (List Char)
  | [] => none
  | first :: rest =>
    if !first.isDigit then none
    else match rest.dropWhile isDigitOrBar with
      | '.' :: after =>
        match after with
        | c :: _ =>
          if c = '.' ∨ Text.isIdentStart c then none else some (afterFraction after)
        | [] => some []
      | e :: after => if e = 'e' ∨ e = 'E' then afterExponent? after else none
      | [] => none
where
  /-- The text after the digits and the exponent behind a point. An exponent without digits is a
  suffix and not part of the number. -/
  afterFraction (after : List Char) : List Char :=
    let rest := after.dropWhile isDigitOrBar
    match rest with
    | 'e' :: exponent | 'E' :: exponent => (afterExponent? exponent).getD rest
    | _ => rest

/-- The text after the digits of an integer in a base. A decimal digit beyond the base is refused;
a letter beyond it ends the digits. `some` digit must be seen. -/
def afterDigits? (base : Nat) (seen : Bool) : List Char → Option (List Char)
  | [] => if seen then some [] else none
  | c :: rest =>
    if c = '_' then if !seen ∧ base = 10 then none else afterDigits? base seen rest
    else match Text.Quoted.hexValue? c with
      | some d =>
        if d < base then afterDigits? base true rest
        else if c.isDigit then none
        else if seen then some (c :: rest) else none
      | none => if seen then some (c :: rest) else none

/-- The text after an integer without its suffix. -/
def afterInteger? : List Char → Option (List Char)
  | '0' :: 'x' :: rest => afterDigits? 16 false rest
  | '0' :: 'o' :: rest => afterDigits? 8 false rest
  | '0' :: 'b' :: rest => afterDigits? 2 false rest
  | text => afterDigits? 10 false text

/-- The text after the suffix of a number, where the number must end. -/
def endNumber? (text : List Char) : Option (List Char) :=
  let rest := afterSuffix text
  match rest with
  | c :: _ => if Text.isIdentContinue c then none else some rest
  | [] => some []

/-- The text after a literal. -/
def afterLiteral? (text : List Char) : Option (List Char) :=
  ((afterString? text).map afterSuffix).orElse fun _ =>
    ((afterCharacterLiteral? text).map afterSuffix).orElse fun _ =>
      ((afterFloat? text).bind endNumber?).orElse fun _ =>
        (afterInteger? text).bind endNumber?

/-! ### Words and punctuation -/

/-- Beginnings of literals that are no words. -/
def literalStarts : List String :=
  ["r\"", "r#\"", "r##", "b\"", "b'", "br\"", "br#", "c\"", "cr\"", "cr#"]

/-- The word at the start of a text, raw or plain. -/
def anyWord? (text : List Char) : Option (Word × List Char) :=
  match text with
  | 'r' :: '#' :: raw =>
    (plainWord? raw).bind fun r =>
      (Word.ofText? (String.ofList ('r' :: '#' :: r.1))).map (·, r.2)
  | _ => (plainWord? text).bind fun r => (Word.ofText? (String.ofList r.1)).map (·, r.2)

/-- The word at the start of a text that begins no literal. -/
def word? (text : List Char) : Option (Word × List Char) :=
  if literalStarts.any fun s => s.toList.isPrefixOf text then none else anyWord? text

/-- The quote at the start of a lifetime. A word follows it, and no closing quote. -/
def startsLifetime (afterQuote : List Char) : Bool :=
  match anyWord? afterQuote with
  | none => false
  | some (_, '\'' :: _) => false
  | some (_, '#' :: _) => ['r', '#'].isPrefixOf afterQuote
  | some _ => true

/-- The operator character at the start of a text. -/
def punct? : List Char → Option (TokenTree × List Char)
  | [] => none
  | c :: rest =>
    if !startsPunct (c :: rest) then none
    else if c = '\'' then if startsLifetime rest then some (.punct c true, rest) else none
    else some (.punct c (startsPunct rest), rest)

/-- The token at the start of a text. -/
def leaf? (text : List Char) : Option (TokenTree × List Char) :=
  match afterLiteral? text with
  | some rest => some (.literal (String.ofList (text.take (text.length - rest.length))), rest)
  | none =>
    match punct? text with
    | some r => some r
    | none => (word? text).map fun r => (.word r.1, r.2)

/-- The literal that stands for a value in error. -/
def errorLiteral : List Char := "(/*ERROR*/)".toList

/-- The bracket a character is. -/
def bracket? : Char → Option Lexeme
  | '(' => some (.opening .paren)
  | '[' => some (.opening .bracket)
  | '\x7b' => some (.opening .brace)
  | ')' => some (.closing .paren)
  | ']' => some (.closing .bracket)
  | '\x7d' => some (.closing .brace)
  | _ => none

/-- The lexemes of a text. The fuel is the number of lexemes at most read. -/
def ofChars? : Nat → List Char → Option (List Lexeme)
  | 0, _ => none
  | fuel + 1, text =>
    match skipAll text with
    | [] => some []
    | c :: rest =>
      match documentation? (c :: rest) with
      | some (inner, doc, after) =>
        if returnsPaired doc then (ofChars? fuel after).map (ofDocumentation inner doc ++ ·)
        else none
      | none =>
        if errorLiteral.isPrefixOf (c :: rest) then
          (ofChars? fuel (rest.drop (errorLiteral.length - 1))).map
            (.leaf (.literal (String.ofList errorLiteral)) :: ·)
        else match bracket? c with
          | some b => (ofChars? fuel rest).map (b :: ·)
          | none => (leaf? (c :: rest)).bind fun r => (ofChars? fuel r.2).map (.leaf r.1 :: ·)

/-- Matches brackets. The stack holds the open groups with the trees before them, in reverse, as
are the trees of the innermost group. -/
def assemble : List (Delimiter × List TokenTree) → List TokenTree → List Lexeme →
    Option (List TokenTree)
  | [], trees, [] => some trees.reverse
  | _ :: _, _, [] => none
  | stack, trees, .leaf tree :: rest => assemble stack (tree :: trees) rest
  | stack, trees, .opening d :: rest => assemble ((d, trees) :: stack) [] rest
  | [], _, .closing _ :: _ => none
  | (d', outer) :: stack, trees, .closing d :: rest =>
    if d = d' then assemble stack (.group d trees.reverse :: outer) rest else none

end Lexeme

/-- The token trees of a text. -/
def TokenTree.ofChars? (text : List Char) : Option (List TokenTree) :=
  let text := Text.dropMark text
  (Lexeme.ofChars? (text.length + 1) text).bind (Lexeme.assemble [] [])

/-- The token trees of a string. -/
def TokenTree.ofText? (text : String) : Option (List TokenTree) := ofChars? text.toList

end Entrypoint
