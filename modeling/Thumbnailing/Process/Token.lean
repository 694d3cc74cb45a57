import Thumbnailing.Process.Word

set_option autoImplicit false

namespace Thumbnailing

inductive Arrow where
  | read
  | write
  | append
  | readWrite
  | join
  | document (content : Word)
  deriving DecidableEq, Repr

inductive Token where
  | word (word : Word)
  | mark (text : String)
  | arrow (stream : Nat) (arrow : Arrow)
  | finish
  | refused (refusal : Refusal)
  deriving DecidableEq, Repr

structure Located where
  token : Token
  line : Nat
  deriving DecidableEq, Repr

namespace Token

def marks : List String := ["&&", "||", ";;", ";", "&", "|", "(", ")", "\n"]

def isArrowHead (c : Char) : Bool := c == '<' || c == '>'

def linesFrom : Nat → List Char → List (List Char)
  | 0, _ | _, [] => []
  | fuel + 1, text =>
    let line := text.takeWhile (· != '\n')
    let whole := if line.length < text.length then line ++ ['\n'] else line
    whole :: linesFrom fuel (text.drop whole.length)

def linesOf (text : List Char) : List (List Char) := linesFrom (text.length + 1) text

def withoutEnd (line : List Char) : List Char := line.filter (· != '\n')

def dropTabs (line : List Char) : List Char := line.dropWhile (· == '\t')

def passedLine : List Char := ['\\', '\n']

structure Document where
  content : List Char
  distance : Nat
  rest : List Char

def takeDocument (indented : Bool) (limit : List Char) (text : List Char) : Document :=
  -- Takes a document out of what follows its arrow: it starts on the next line, behind other
  -- documents, and ends before the line that is its limit. In its place lines are left that are
  -- passed over.
  let current := text.takeWhile (· != '\n')
  let all := linesOf (text.drop (current.length + 1))
  let before := all.takeWhile (· == passedLine)
  let lines := (all.drop before.length).map fun line =>
    (if indented then dropTabs line else line, line)
  let content := lines.takeWhile fun line => withoutEnd line.1 != limit
  let passed := List.replicate (min lines.length (content.length + 1)) passedLine
  let after := (lines.drop (content.length + 1)).map Prod.snd
  { content := (content.map Prod.fst).flatten
    distance := before.length
    rest := current ++ (if current.length < text.length
      then '\n' :: (before ++ passed ++ after).flatten else []) }

def bareText (word : Word) : List Char :=
  word.flatMap fun segment =>
    match segment.piece with
    | .literal content => content
    | .parameter name => '$' :: name.toList
    | _ => []

def documentWord (literal : Bool) (content : List Char) (line : Nat) : Except Refusal Word :=
  if literal then .ok [⟨.literal content, true⟩]
  else (Word.readAt .document ⟨content, line⟩).map Prod.fst

def documentFrom (indented : Bool) (stream : Nat) (reader : Reader) :
    Except Refusal (Token × Reader) := do
  let (limit, reader) ← Word.readAt .plain
    (reader.skip (reader.rest.takeWhile Word.isBlank).length)
  let document := takeDocument indented (bareText limit) reader.rest
  let word ← documentWord (Word.isQuoted limit) document.content
    (reader.line + document.distance + 1)
  return (.arrow stream (.document word), { reader with rest := document.rest })

def arrows : List (String × Arrow) := [
  ("<&", .join), (">&", .join), ("<>", .readWrite), (">>", .append), (">|", .write),
  ("<", .read), (">", .write)]

def arrowFrom (number : Option Nat) (reader : Reader) : Except Refusal (Token × Reader) :=
  let stream := number.getD (if reader.rest.head? == some '<' then 0 else 1)
  if "<<-".toList.isPrefixOf reader.rest then documentFrom true stream (reader.skip 3)
  else if "<<".toList.isPrefixOf reader.rest then documentFrom false stream (reader.skip 2)
  else
    match arrows.find? fun entry => entry.1.toList.isPrefixOf reader.rest with
    | some (sign, target) => .ok (.arrow stream target, reader.skip sign.length)
    | none => .ok (.arrow stream .read, reader.skip 1)

def streamNumber? (text : List Char) : Option Nat :=
  match text with
  | digit :: head :: _ =>
    if digit.isDigit && isArrowHead head then some (digit.toNat - 48) else none
  | _ => none

def readToken (reader : Reader) : Except Refusal (Token × Reader) :=
  match streamNumber? reader.rest, marks.find? fun text => text.toList.isPrefixOf reader.rest with
  | some number, _ => arrowFrom (some number) (reader.skip 1)
  | none, some text => .ok (.mark text, reader.skip text.length)
  | none, none =>
    if reader.rest.head?.any isArrowHead then arrowFrom none reader
    else (Word.readAt .plain reader).map fun (read, reader) => (.word read, reader)

def tokensFrom : Nat → Reader → List Located
  | 0, reader => [⟨.finish, reader.line⟩]
  | fuel + 1, reader =>
    match reader.rest with
    | [] => [⟨.finish, reader.line⟩]
    | '\\' :: '\n' :: _ => tokensFrom fuel (reader.skip 2)
    | c :: rest =>
      if Word.isBlank c then tokensFrom fuel (reader.skip 1)
      else if c = '#' then
        tokensFrom fuel (reader.skip ((rest.takeWhile (· != '\n')).length + 1))
      else
        match readToken reader with
        | .ok (token, reader) => ⟨token, reader.line⟩ :: tokensFrom fuel reader
        | .error refusal => [⟨.refused refusal, refusal.line⟩]

def ofText (text : List Char) (line : Nat) : List Located :=
  tokensFrom (text.length + 1) ⟨text, line⟩

end Token

end Thumbnailing
