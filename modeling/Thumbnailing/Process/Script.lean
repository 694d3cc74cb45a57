import Thumbnailing.Process.Token

set_option autoImplicit false

namespace Thumbnailing

inductive Redirect where
  | join (stream : Nat) (target : Word)
  | file (stream : Nat) (arrow : Arrow) (path : Word)
  | document (stream : Nat) (content : Word)
  deriving DecidableEq, Repr

inductive Script where
  | nothing
  | command (line : Nat) (assignments : List (String × Word)) (words : List Word)
    (redirects : List Redirect)
  | sequence (first second : Script)
  | both (first second : Script)
  | either (first second : Script)
  | negated (body : Script)
  | piped (first second : Script)
  | background (body : Script)
  | repeated (whileFails : Bool) (condition body : Script)
  | choice (condition yes no : Script)
  | forEach (line : Nat) (name : String) (words : List Word) (body : Script)
  | matching (line : Nat) (subject : Word) (patterns : List Word) (yes no : Script)
  -- A plain group runs where it stands, any other one in a shell of its own.
  | group (line : Nat) (isPlain : Bool) (body : Script) (redirects : List Redirect)
  | define (name : String) (body : Script)
  | refused (refusal : Refusal)
  deriving Repr

abbrev Taken (Result : Type) := Result × List Located

namespace Script

def keywords : List String := [
  "!", "case", "do", "done", "elif", "else", "esac", "fi", "for", "if", "in", "then", "until",
  "while", "\x7b", "\x7d"]

def closers : List String := [
  ")", ";;", "do", "done", "elif", "else", "esac", "fi", "then", "\x7d"]

def keyword? : Token → Option String
  | .word content => (Word.plainText? content).filter keywords.contains
  | _ => none

def sign? (tokens : List Located) : Option String :=
  tokens.head?.bind fun located =>
    match located.token with
    | .mark text => some text
    | token => keyword? token

def inQuotes (text : String) : String := "\"" ++ text ++ "\""

def described (token : Token) : String :=
  match token with
  | .mark "\n" => "newline"
  | .mark text => inQuotes text
  | .arrow .. => "redirection"
  | .finish | .refused _ => "end of file"
  | .word _ =>
    match keyword? token with
    | some keyword => inQuotes keyword
    | none => "word"

def refuse {Result : Type} (tokens : List Located) (expected : Option String) :
    Except Refusal Result :=
  match tokens with
  | [] => .error ⟨.unexpected (described .finish) expected, 1⟩
  | ⟨.refused refusal, _⟩ :: _ => .error refusal
  | ⟨token, line⟩ :: _ => .error ⟨.unexpected (described token) expected, line⟩

def faultAt {Result : Type} (fault : SyntaxFault) (tokens : List Located) :
    Except Refusal Result :=
  match tokens with
  | [] => .error ⟨fault, 1⟩
  | ⟨.refused refusal, _⟩ :: _ => .error refusal
  | ⟨_, line⟩ :: _ => .error ⟨fault, line⟩

def expect (sign : String) (tokens : List Located) : Except Refusal (List Located) :=
  if sign? tokens == some sign then .ok tokens.tail else refuse tokens (some (inQuotes sign))

def isFinished : List Located → Bool
  | [] | ⟨.finish, _⟩ :: _ => true
  | _ => false

def isLineEnd (located : Located) : Bool := located.token == .mark "\n"

def skipLineEnds (tokens : List Located) : List Located := tokens.dropWhile isLineEnd

def lineOf (tokens : List Located) : Nat := (tokens.head?.map Located.line).getD 1

def assignment? : Word → Option (String × Word)
  | ⟨.literal content, false⟩ :: rest =>
    let name := content.takeWhile Word.isNameChar
    if name.head?.any Word.startsName && (content.drop name.length).head? == some '=' then
      some (String.ofList name,
        (if name.length + 1 = content.length then []
          else [⟨.literal (content.drop (name.length + 1)), false⟩]) ++ rest)
    else none
  | _ => none

def redirectFrom (stream : Nat) (arrow : Arrow) (rest : List Located) :
    Except Refusal (Taken Redirect) :=
  match arrow, rest with
  | .document content, rest => .ok (.document stream content, rest)
  | .join, ⟨.word target, _⟩ :: rest => .ok (.join stream target, rest)
  | arrow, ⟨.word path, _⟩ :: rest => .ok (.file stream arrow path, rest)
  | _, rest => refuse rest none

structure CommandParts where
  assignments : List (String × Word)
  words : List Word
  redirects : List Redirect

namespace CommandParts

def addWord (parts : CommandParts) (word : Word) : CommandParts :=
  match parts.words, assignment? word with
  | [], some assignment => { parts with assignments := parts.assignments ++ [assignment] }
  | _, _ => { parts with words := parts.words ++ [word] }

def addRedirect (parts : CommandParts) (redirect : Redirect) : CommandParts :=
  { parts with redirects := parts.redirects ++ [redirect] }

def functionName? (parts : CommandParts) : Option Word :=
  match parts with
  | ⟨[], [name], []⟩ => some name
  | _ => none

end CommandParts

def partsFrom : Nat → CommandParts → List Located → Except Refusal (Taken CommandParts)
  | 0, parts, tokens => .ok (parts, tokens)
  | fuel + 1, parts, tokens =>
    match tokens with
    | ⟨.word word, _⟩ :: rest => partsFrom fuel (parts.addWord word) rest
    | ⟨.arrow stream arrow, _⟩ :: rest => do
      let (redirect, rest) ← redirectFrom stream arrow rest
      partsFrom fuel (parts.addRedirect redirect) rest
    | tokens => .ok (parts, tokens)

def redirectsFrom : Nat → List Located → Except Refusal (Taken (List Redirect))
  | 0, tokens => .ok ([], tokens)
  | fuel + 1, ⟨.arrow stream arrow, _⟩ :: rest => do
    let (redirect, rest) ← redirectFrom stream arrow rest
    let (redirects, rest) ← redirectsFrom fuel rest
    return (redirect :: redirects, rest)
  | _, tokens => .ok ([], tokens)

def specialBuiltins : List String := [
  ".", ":", "break", "continue", "eval", "exec", "exit", "export", "readonly", "return", "set",
  "shift", "times", "trap", "unset"]

def functionName (name : Word) (tokens : List Located) : Except Refusal String :=
  match Word.plainText? name with
  | some text =>
    if Word.isName text.toList && !specialBuiltins.contains text then .ok text
    else faultAt .functionName tokens
  | none => faultAt .functionName tokens

def wordsFrom : List Located → List Word × List Located
  | ⟨.word word, _⟩ :: rest =>
    let (words, rest) := wordsFrom rest
    (word :: words, rest)
  | rest => ([], rest)

def allParameters : Word := [⟨.parameter "@", true⟩]

def loopWords (tokens : List Located) : Except Refusal (Taken (List Word)) :=
  let tokens := skipLineEnds tokens
  if sign? tokens == some "in" then
    let (words, rest) := wordsFrom tokens.tail
    if sign? rest == some ";" || sign? rest == some "\n" then .ok (words, rest.tail)
    else refuse rest none
  else .ok ([allParameters], if sign? tokens == some ";" then tokens.tail else tokens)

def patternsFrom : Nat → List Located → Except Refusal (Taken (List Word))
  | fuel + 1, ⟨.word word, _⟩ :: rest =>
    if sign? rest == some "|" then do
      let (patterns, rest) ← patternsFrom fuel rest.tail
      return (word :: patterns, rest)
    else .ok ([word], rest)
  | _, tokens => .ok ([], tokens.tail)

inductive Extent where
  | line
  | filled
  | possiblyEmpty
  deriving DecidableEq, Repr

mutual

def listFrom : Nat → Extent → List Located → Except Refusal (Taken Script)
  | 0, _, tokens => refuse tokens none
  | fuel + 1, extent, tokens => do
    let tokens := if extent = .line then tokens else skipLineEnds tokens
    if isFinished tokens then return (.nothing, tokens)
    if extent = .line ∧ sign? tokens = some "\n" then return (.nothing, tokens.tail)
    if extent = .possiblyEmpty ∧ (sign? tokens).any closers.contains then
      return (.nothing, tokens)
    let (first, rest) ← pipelineFrom fuel tokens
    let (first, rest) ← chainFrom fuel first rest
    let next : Extent := if extent = .line then .line else .possiblyEmpty
    if sign? rest = some "&" then
      let (second, rest) ← listFrom fuel next rest.tail
      return (.sequence (.background first) second, rest)
    else if sign? rest = some ";" then
      let (second, rest) ← listFrom fuel next rest.tail
      return (.sequence first second, rest)
    else if sign? rest = some "\n" ∨ isFinished rest then
      let (second, rest) ← listFrom fuel next rest
      return (.sequence first second, rest)
    else if extent = .line then refuse rest none
    else return (first, rest)

def chainFrom : Nat → Script → List Located → Except Refusal (Taken Script)
  | 0, _, tokens => refuse tokens none
  | fuel + 1, first, tokens => do
    if sign? tokens = some "&&" then
      let (second, rest) ← pipelineFrom fuel (skipLineEnds tokens.tail)
      chainFrom fuel (.both first second) rest
    else if sign? tokens = some "||" then
      let (second, rest) ← pipelineFrom fuel (skipLineEnds tokens.tail)
      chainFrom fuel (.either first second) rest
    else return (first, tokens)

def pipelineFrom : Nat → List Located → Except Refusal (Taken Script)
  | 0, tokens => refuse tokens none
  | fuel + 1, tokens => do
    if sign? tokens = some "!" then
      let (body, rest) ← pipeFrom fuel tokens.tail
      return (.negated body, rest)
    else pipeFrom fuel tokens

def pipeFrom : Nat → List Located → Except Refusal (Taken Script)
  | 0, tokens => refuse tokens none
  | fuel + 1, tokens => do
    let (first, rest) ← singleFrom fuel tokens
    if sign? rest = some "|" then
      let (second, rest) ← pipeFrom fuel (skipLineEnds rest.tail)
      return (.piped first second, rest)
    else return (first, rest)

def singleFrom : Nat → List Located → Except Refusal (Taken Script)
  | 0, tokens => refuse tokens none
  | fuel + 1, tokens => do
    let line := lineOf tokens
    let enclosed (read : List Located → Except Refusal (Taken Script)) :
        Except Refusal (Taken Script) := do
      let (body, rest) ← read tokens.tail
      let (redirects, rest) ← redirectsFrom rest.length rest
      return (if redirects.isEmpty then body else .group line true body redirects, rest)
    match sign? tokens with
    | some "if" => enclosed (choiceFrom fuel)
    | some "while" => enclosed (loopFrom fuel false)
    | some "until" => enclosed (loopFrom fuel true)
    | some "for" => enclosed (forFrom fuel line)
    | some "case" => enclosed (caseFrom fuel line)
    | some "\x7b" => enclosed fun tokens => do
      let (body, rest) ← listFrom fuel .filled tokens
      return (body, ← expect "\x7d" rest)
    | some "(" => do
      let (body, rest) ← listFrom fuel .filled tokens.tail
      let (redirects, rest) ← redirectsFrom rest.length (← expect ")" rest)
      return (.group line false body redirects, rest)
    | some _ => refuse tokens none
    | none =>
      match tokens with
      | ⟨.word _, _⟩ :: _ | ⟨.arrow .., _⟩ :: _ => plainFrom fuel line tokens
      | _ => refuse tokens none

def plainFrom : Nat → Nat → List Located → Except Refusal (Taken Script)
  | 0, _, tokens => refuse tokens none
  | fuel + 1, line, tokens => do
    let (parts, rest) ← partsFrom tokens.length ⟨[], [], []⟩ tokens
    match sign? rest, parts.functionName? with
    | some "(", some name =>
      let rest ← expect ")" rest.tail
      let name ← functionName name rest
      let (body, rest) ← singleFrom fuel (skipLineEnds rest)
      return (.define name body, rest)
    | _, _ => return (.command line parts.assignments parts.words parts.redirects, rest)

def choiceFrom : Nat → List Located → Except Refusal (Taken Script)
  | 0, tokens => refuse tokens none
  | fuel + 1, tokens => do
    let (condition, rest) ← listFrom fuel .filled tokens
    let (yes, rest) ← listFrom fuel .filled (← expect "then" rest)
    match sign? rest with
    | some "elif" =>
      let (no, rest) ← choiceFrom fuel rest.tail
      return (.choice condition yes no, rest)
    | some "else" =>
      let (no, rest) ← listFrom fuel .filled rest.tail
      return (.choice condition yes no, ← expect "fi" rest)
    | _ => return (.choice condition yes .nothing, ← expect "fi" rest)

def bodyFrom : Nat → List Located → Except Refusal (Taken Script)
  | 0, tokens => refuse tokens none
  | fuel + 1, tokens => do
    let (body, rest) ← listFrom fuel .filled (← expect "do" tokens)
    return (body, ← expect "done" rest)

def loopFrom : Nat → Bool → List Located → Except Refusal (Taken Script)
  | 0, _, tokens => refuse tokens none
  | fuel + 1, whileFails, tokens => do
    let (condition, rest) ← listFrom fuel .filled tokens
    let (body, rest) ← bodyFrom fuel rest
    return (.repeated whileFails condition body, rest)

def forFrom : Nat → Nat → List Located → Except Refusal (Taken Script)
  | 0, _, tokens => refuse tokens none
  | fuel + 1, line, tokens => do
    match tokens with
    | ⟨.word word, _⟩ :: rest =>
      match (Word.plainText? word).filter fun name => Word.isName name.toList with
      | some name =>
        let (words, rest) ← loopWords rest
        let (body, rest) ← bodyFrom fuel (skipLineEnds rest)
        return (.forEach line name words body, rest)
      | none => faultAt .loopVariable tokens
    | tokens => faultAt .loopVariable tokens

def caseFrom : Nat → Nat → List Located → Except Refusal (Taken Script)
  | 0, _, tokens => refuse tokens none
  | fuel + 1, line, tokens => do
    match tokens with
    | ⟨.word subject, _⟩ :: rest =>
      branchesFrom fuel line subject (← expect "in" (skipLineEnds rest))
    | tokens => refuse tokens (some "word")

def branchesFrom : Nat → Nat → Word → List Located → Except Refusal (Taken Script)
  | 0, _, _, tokens => refuse tokens none
  | fuel + 1, line, subject, tokens => do
    let tokens := skipLineEnds tokens
    if sign? tokens = some "esac" then return (.nothing, tokens.tail)
    let tokens := if sign? tokens = some "(" then tokens.tail else tokens
    let (patterns, rest) ← patternsFrom tokens.length tokens
    let (yes, rest) ← listFrom fuel .possiblyEmpty (← expect ")" rest)
    if sign? rest = some "esac" then
      return (.matching line subject patterns yes .nothing, rest.tail)
    let (no, rest) ← branchesFrom fuel line subject (← expect ";;" rest)
    return (.matching line subject patterns yes no, rest)

end

def isNothing : Script → Bool
  | .nothing => true
  | .sequence first second => first.isNothing && second.isNothing
  | _ => false

def refusal? : Script → Option Refusal
  | .refused refusal => some refusal
  | .sequence first second => first.refusal?.or second.refusal?
  | _ => none

def linesFrom : Nat → List Located → Script
  -- The lines of a script one after the other; what follows a fault is not read.
  | 0, _ => .nothing
  | fuel + 1, tokens =>
    match listFrom (16 * tokens.length + 16) .line tokens with
    | .error refusal => .refused refusal
    | .ok (script, rest) =>
      if isFinished rest then script else .sequence script (linesFrom fuel rest)

def ofText (text : List Char) (line : Nat) : Script :=
  let tokens := Token.ofText text line
  linesFrom (tokens.length + 1) tokens

end Script

end Thumbnailing
