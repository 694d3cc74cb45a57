import Thumbnailing.Failure

set_option autoImplicit false

namespace Thumbnailing

open Text

inductive OptionWords where
  | line (content : String)
  | listed (words : List String)
  deriving DecidableEq, Repr

namespace OptionWords

inductive SplitFault where
  | openQuotation
  | openEscape
  deriving DecidableEq, Repr

def SplitFault.message : SplitFault → String
  | .openQuotation => "No closing quotation"
  | .openEscape => "No escaped character"

def isSeparator (c : Char) : Bool := c == ' ' || c == '\t' || c == '\r' || c == '\n'

def isQuote (c : Char) : Bool := c == '\'' || c == '"'

/-- Where the next character stands: outside of quotes, inside a pair of them, or after a
backslash in either place. -/
inductive Context where
  | plain
  | quoted (mark : Char)
  | escaped (mark : Option Char)
  deriving DecidableEq, Repr

def Context.ofMark : Option Char → Context
  | none => .plain
  | some mark => .quoted mark

def extend (word : Option (List Char)) (chars : List Char) : Option (List Char) :=
  some (word.getD [] ++ chars)

def unescaped (mark : Option Char) (c : Char) : List Char :=
  -- What a backslash yields with the character after it: inside quotes it stays, unless it escapes
  -- the quote or itself.
  match mark with
  | none => [c]
  | some mark => if c = mark ∨ c = '\\' then [c] else ['\\', c]

def splitFrom : Context → Option (List Char) → List Char → Except SplitFault (List (List Char))
  | .plain, word, [] => .ok word.toList
  | .quoted _, _, [] => .error .openQuotation
  | .escaped _, _, [] => .error .openEscape
  | .plain, word, c :: rest =>
    if isSeparator c then do return word.toList ++ (← splitFrom .plain none rest)
    else if c = '\\' then splitFrom (.escaped none) word rest
    else if isQuote c then splitFrom (.quoted c) (extend word []) rest
    else splitFrom .plain (extend word [c]) rest
  | .quoted mark, word, c :: rest =>
    if c = mark then splitFrom .plain word rest
    else if c = '\\' ∧ mark = '"' then splitFrom (.escaped (some mark)) word rest
    else splitFrom (.quoted mark) (extend word [c]) rest
  | .escaped mark, word, c :: rest =>
    splitFrom (Context.ofMark mark) (extend word (unescaped mark c)) rest

def splitLine (line : String) : Except SplitFault (List String) :=
  (splitFrom .plain none line.toList).map fun words => words.map String.ofList

def split : OptionWords → Outcome (List String)
  | .listed words => .ok words
  | .line content =>
    match splitLine content with
    | .ok words => .ok words
    | .error fault =>
      .error <| .ofKind .invalidOptions
        ("Could not split options " ++ quoted content ++ ": " ++ fault.message)
        [("options", .text content)]

def splitOptional : Option OptionWords → Outcome (List String)
  | none => .ok []
  | some options => options.split

def isEmpty : OptionWords → Bool
  | .line content => content.isEmpty
  | .listed words => words.isEmpty

@[simp] theorem split_listed (words : List String) : split (.listed words) = .ok words := rfl

end OptionWords

end Thumbnailing
