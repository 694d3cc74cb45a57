import Thumbnailing.Number.Binary64
import Thumbnailing.Number.DecimalText
import Thumbnailing.Text.Printable

set_option autoImplicit false

namespace Thumbnailing

inductive Value where
  | null
  | boolean (truth : Bool)
  | integer (number : Int)
  | real (number : Binary64)
  | text (content : String)
  | list (items : List Value)
  | dictionary (entries : List (String × Value))
  deriving Repr, Inhabited

inductive Enclosure where
  | list
  | dictionary
  deriving DecidableEq, Repr

abbrev Entries := List (String × Value)

namespace Entries

def get? (entries : Entries) (key : String) : Option Value := List.lookup key entries

def put (entries : Entries) (key : String) (value : Value) : Entries :=
  -- Replaces the value of a key in its place, or appends a new entry.
  if entries.any fun entry => entry.1 == key then
    entries.map fun entry => if entry.1 == key then (key, value) else entry
  else entries ++ [(key, value)]

def remove (entries : Entries) (key : String) : Entries :=
  entries.filter fun entry => entry.1 != key

end Entries

namespace Value

def texts (items : List String) : Value := .list (items.map .text)

def optionalText : Option String → Value
  | none => .null
  | some content => .text content

def truthText (truth : Bool) : String := if truth then "True" else "False"

mutual

def quoted : Value → String
  | .null => "None"
  | .boolean truth => truthText truth
  | .integer number => integerText number
  | .real number => number.fullText
  | .text content => Text.quoted content
  | .list items => "[" ++ ", ".intercalate (quotedItems items) ++ "]"
  | .dictionary entries => "\x7b" ++ ", ".intercalate (quotedEntries entries) ++ "\x7d"

def quotedItems : List Value → List String
  | [] => []
  | item :: rest => quoted item :: quotedItems rest

def quotedEntries : List (String × Value) → List String
  | [] => []
  | (key, value) :: rest => (Text.quoted key ++ ": " ++ quoted value) :: quotedEntries rest

end

def display : Value → String
  | .text content => content
  | value => value.quoted

def text? : Value → Option String
  | .text content => some content
  | _ => none

def integer? : Value → Option Int
  | .integer number => some number
  | _ => none

def real? : Value → Option Binary64
  | .real number => some number
  | .integer number => some (.ofQuotient (number < 0) number.natAbs 1)
  | _ => none

def amount? : Value → Option Amount
  | .integer number => some (.whole number)
  | .real number => some (.real number)
  | _ => none

def ofAmount : Amount → Value
  | .whole n => .integer n
  | .real x => .real x

def truth? : Value → Option Bool
  | .boolean truth => some truth
  | _ => none

def items : Value → List Value
  | .list items => items
  | _ => []

def entry? : Value → Option (String × Value)
  | .list [.text key, value] => some (key, value)
  | _ => none

def entries : Value → Entries
  | .dictionary entries => entries
  | value => value.items.filterMap entry?

def field? (value : Value) (name : String) : Option Value := value.entries.get? name

def isNumber (value : Value) (number : Int) : Bool :=
  match value with
  | .integer n => n == number
  | .boolean truth => (if truth then 1 else 0) == number
  | .real x => (Binary64.ofInt number).toOption == some x ||
      (x.isZero && number == 0)
  | _ => false

def isVacant : Value → Bool
  | .null => true
  | .boolean truth => !truth
  | .integer number => number == 0
  | .real number => number.isZero
  | .text content => content.isEmpty
  | .list items => items.isEmpty
  | .dictionary entries => entries.isEmpty

end Value

end Thumbnailing
