set_option autoImplicit false

namespace Thumbnailing

inductive SyntaxFault where
  | openQuote
  | openBrace
  | openCalculation
  | openBackquote
  | unexpected (found : String) (expected : Option String)
  | loopVariable
  | functionName
  | streamNumber
  deriving DecidableEq, Repr

def SyntaxFault.message : SyntaxFault → String
  | .openQuote => "Unterminated quoted string"
  | .openBrace => "Missing '\x7d'"
  | .openCalculation => "Missing '))'"
  | .openBackquote => "EOF in backquote substitution"
  | .unexpected found none => found ++ " unexpected"
  | .unexpected found (some expected) => found ++ " unexpected (expecting " ++ expected ++ ")"
  | .loopVariable => "Bad for loop variable"
  | .functionName => "Bad function name"
  | .streamNumber => "Bad fd number"

structure Refusal where
  fault : SyntaxFault
  line : Nat
  deriving DecidableEq, Repr

inductive Piece where
  | literal (content : List Char)
  | parameter (name : String)
  | length (name : String)
  | adjusted (name operator : String) (operand : List Char)
  | unusable
  | calculation (expression : List Char)
  | output (script : List Char) (line : Nat)
  deriving DecidableEq, Repr

structure Segment where
  piece : Piece
  quoted : Bool
  deriving DecidableEq, Repr

abbrev Word := List Segment

structure Reader where
  rest : List Char
  line : Nat
  deriving DecidableEq, Repr

namespace Reader

def skip (reader : Reader) (count : Nat) : Reader :=
  ⟨reader.rest.drop count, reader.line + (reader.rest.take count).count '\n'⟩

def endedBy (reader : Reader) (fault : SyntaxFault) : Refusal :=
  ⟨fault, (reader.skip reader.rest.length).line⟩

end Reader

namespace Word

def isBlank (c : Char) : Bool := c == ' ' || c == '\t'

def endsWord (c : Char) : Bool := isBlank c || "\n;&|()<>".toList.contains c

def startsName (c : Char) : Bool := c.isAlpha || c == '_'

def isNameChar (c : Char) : Bool := c.isAlphanum || c == '_'

def isName (name : List Char) : Bool := name.head?.any startsName && name.all isNameChar

def isSignName (c : Char) : Bool := "@*#?$!-".toList.contains c

def quotationLength (quote : Char) : List Char → Nat
  | [] => 0
  | '\\' :: c :: rest =>
    if quote = '\'' then (if c = quote then 2 else quotationLength quote rest + 2)
    else quotationLength quote rest + 2
  | c :: rest => if c = quote then 1 else quotationLength quote rest + 1

def enclosedLength (opens closes : List Char) (quotes : List Char) : Nat → Nat → List Char →
    Option Nat
  -- The length of a text up to the sign that closes it, or none. Nested pairs of signs, and the
  -- texts in any of the quotes, are passed over.
  | 0, _, _ | _, _, [] => none
  | fuel + 1, depth, c :: rest =>
    let passing (depth count : Nat) : Option Nat :=
      (enclosedLength opens closes quotes fuel depth ((c :: rest).drop count)).map (· + count)
    if c = '\\' then passing depth 2
    else if quotes.contains c then passing depth (quotationLength c rest + 1)
    else if closes.isPrefixOf (c :: rest) then
      if depth = 0 then some 0 else passing (depth - 1) closes.length
    else if opens.isPrefixOf (c :: rest) then passing (depth + 1) opens.length
    else passing depth 1

def quoteChars : List Char := ['\'', '"']

def scriptLength (text : List Char) : Option Nat :=
  enclosedLength ['('] [')'] quoteChars (text.length + 1) 0 text

def calculationLength (text : List Char) : Option Nat :=
  (enclosedLength ['('] [')'] [] (text.length + 1) 0 text).bind fun length =>
    if (text.drop (length + 1)).head? = some ')' then some length else none

def bracedLength (quoted : Bool) (text : List Char) : Option Nat :=
  enclosedLength ['$', '\x7b'] ['\x7d'] (if quoted then ['"'] else quoteChars)
    (text.length + 1) 0 text

def nameFrom (text : List Char) : List Char :=
  match text with
  | [] => []
  | c :: rest =>
    if isSignName c then [c]
    else if c.isDigit then c :: rest.takeWhile Char.isDigit
    else if startsName c then c :: rest.takeWhile isNameChar
    else []

def operators : List String :=
  [":-", ":=", ":+", ":?", "%%", "##", "-", "=", "+", "?", "%", "#"]

def adjusted (name rest : List Char) : Piece :=
  match operators.find? fun operator => operator.toList.isPrefixOf rest with
  | some operator =>
    if name.isEmpty then .unusable
    else .adjusted (String.ofList name) operator (rest.drop operator.length)
  | none => .unusable

def braced (inside : List Char) : Piece :=
  let name := nameFrom inside
  let measured := nameFrom (inside.drop 1)
  if inside.head? == some '#' && !measured.isEmpty && measured.length + 1 == inside.length then
    .length (String.ofList measured)
  else if !name.isEmpty && name.length == inside.length then .parameter (String.ofList name)
  else adjusted name (inside.drop name.length)

def expansion (quoted : Bool) (reader : Reader) : Except Refusal (Piece × Reader) :=
  match reader.rest with
  | '(' :: '(' :: inside =>
    match calculationLength inside with
    | some length => .ok (.calculation (inside.take length), reader.skip (length + 4))
    | none => .error (reader.endedBy .openCalculation)
  | '(' :: inside =>
    match scriptLength inside with
    | some length => .ok (.output (inside.take length) reader.line, reader.skip (length + 2))
    | none => .error (reader.endedBy (.unexpected "end of file" (some "\")\"")))
  | '\x7b' :: inside =>
    match bracedLength quoted inside with
    | some length => .ok (braced (inside.take length), reader.skip (length + 2))
    | none => .error (reader.endedBy .openBrace)
  | text =>
    let name := nameFrom text
    let name := if name.head?.any Char.isDigit then name.take 1 else name
    if name.isEmpty then .ok (.literal ['$'], reader)
    else .ok (.parameter (String.ofList name), reader.skip name.length)

def unprotected (quoted : Bool) : List Char → List Char
  | [] => []
  | '\\' :: c :: rest =>
    if ['\x60', '$', '\\'].contains c || (quoted && c == '"') then c :: unprotected quoted rest
    else '\\' :: c :: unprotected quoted rest
  | c :: rest => c :: unprotected quoted rest

def backquoted (quoted : Bool) (reader : Reader) : Except Refusal (Piece × Reader) :=
  match enclosedLength ['\x60', '\x60'] ['\x60'] [] (reader.rest.length + 1) 0 reader.rest with
  | some length =>
    .ok (.output (unprotected quoted (reader.rest.take length)) reader.line,
      reader.skip (length + 1))
  | none => .error (reader.endedBy .openBackquote)

inductive Place where
  | plain
  | quoted
  | document
  | operand
  | quotedOperand
  deriving DecidableEq, Repr

namespace Place

def isQuoted : Place → Bool
  | .plain | .operand => false
  | .quoted | .document | .quotedOperand => true

def endsAt (place : Place) (c : Char) : Bool :=
  match place with
  | .plain => endsWord c
  | .quoted => c == '"'
  | _ => false

def isSpecial (place : Place) (c : Char) : Bool :=
  place.endsAt c || ['$', '\x60', '\\'].contains c || (c == '"' && place != .document) ||
    (c == '\'' && !place.isQuoted)

def protects (place : Place) (c : Char) : Bool :=
  !place.isQuoted || ['$', '\x60', '\\'].contains c || (c == '"' && place != .document) ||
    (c == '\x7d' && place == .quotedOperand)

end Place

def protectedText (place : Place) (reader : Reader) : Word × Reader :=
  match reader.rest with
  | [] => ([⟨.literal ['\\'], true⟩], reader)
  | '\n' :: _ => ([], reader.skip 1)
  | c :: _ =>
    if place.protects c then ([⟨.literal [c], true⟩], reader.skip 1)
    else ([⟨.literal ['\\'], true⟩], reader)

def segmentsFrom : Nat → Place → Reader → Except Refusal (Word × Reader)
  | 0, _, reader => .ok ([], reader)
  | fuel + 1, place, reader => do
    let followed (segments : Word) (reader : Reader) : Except Refusal (Word × Reader) := do
      let (word, reader) ← segmentsFrom fuel place reader
      return (segments ++ word, reader)
    match reader.rest with
    | [] => if place = .quoted then throw ⟨.openQuote, reader.line⟩ else return ([], reader)
    | c :: rest =>
      let behind := reader.skip 1
      if place.endsAt c then return ([], if place = .quoted then behind else reader)
      else if !place.isSpecial c then
        let content := c :: rest.takeWhile fun c => !place.isSpecial c
        followed [⟨.literal content, place.isQuoted⟩] (reader.skip content.length)
      else
        match c with
        | '$' =>
          let (piece, reader) ← expansion place.isQuoted behind
          followed [⟨piece, place.isQuoted⟩] reader
        | '\x60' =>
          let (piece, reader) ← backquoted place.isQuoted behind
          followed [⟨piece, place.isQuoted⟩] reader
        | '\\' =>
          let (segments, reader) := protectedText place behind
          followed segments reader
        | '\'' =>
          let content := rest.takeWhile (· != '\'')
          if content.length = rest.length then throw (reader.endedBy .openQuote)
          followed [⟨.literal content, true⟩] (reader.skip (content.length + 2))
        | _ =>
          if place = .quotedOperand then followed [] behind
          else
            let (word, reader) ← segmentsFrom fuel .quoted behind
            followed (if word.isEmpty then [⟨.literal [], true⟩] else word) reader

def readAt (place : Place) (reader : Reader) : Except Refusal (Word × Reader) :=
  segmentsFrom (2 * reader.rest.length + 2) place reader

def plainText? : Word → Option String
  | [⟨.literal content, false⟩] => some (String.ofList content)
  | _ => none

def isQuoted (word : Word) : Bool := word.any Segment.quoted

end Word

end Thumbnailing
