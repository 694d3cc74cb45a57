import Thumbnailing.Failure
import Thumbnailing.Text.Characters
import Thumbnailing.Text.LetterCase

set_option autoImplicit false

namespace Thumbnailing

open Text

inductive Sign where
  | minus
  | plus
  deriving DecidableEq, Repr

namespace Sign

def symbol : Sign → String
  | .minus => "-"
  | .plus => "+"

def ofSymbol (symbol : String) : Outcome Sign :=
  if symbol = "-" then .ok .minus
  else if symbol = "+" then .ok .plus
  else .error (.unknownName .sign (.text symbol))

end Sign

structure Directive where
  name : String
  value : Option String
  sign : Sign
  extra : List String
  deriving DecidableEq, Repr

namespace Directive

def isSign (c : Char) : Bool := c == '-' || c == '+'

def withoutSigns (name : List Char) : List Char := name.dropWhile isSign

def underscoreOfHyphen (c : Char) : Char := if c = '-' then '_' else c

def hyphenOfUnderscore (c : Char) : Char := if c = '_' then '-' else c

def canonicalName (name : String) : String :=
  String.ofList ((lowercaseChars (withoutSigns name.toList)).map underscoreOfHyphen)

def writtenName (name : String) : String :=
  String.ofList ((lowercaseChars (withoutSigns name.toList)).map hyphenOfUnderscore)

def key (directive : Directive) : String := canonicalName directive.name

def flag (directive : Directive) : String := directive.sign.symbol ++ directive.name

def arguments (directive : Directive) : List String :=
  directive.value.toList ++ directive.extra

def isFlag (word : String) : Bool :=
  match word.toList with
  | [] => false
  | first :: rest => isSign first && !(rest.head?.any isDecimalDigit)

def signOf (flag : String) : Sign :=
  if flag.toList.head? = some '+' then .plus else .minus

def ofFlag (flag : String) (arguments : List String) : Directive :=
  ⟨writtenName flag, arguments.head?, signOf flag, arguments.tail⟩

@[simp] theorem ofFlag_arguments (flag : String) (arguments : List String) :
    (ofFlag flag arguments).arguments = arguments := by
  cases arguments <;> rfl

end Directive

end Thumbnailing
