import Thumbnailing.Process.Calculation
import Thumbnailing.Process.Pattern
import Thumbnailing.Process.Shell

set_option autoImplicit false

namespace Thumbnailing.Shell

def processNumber : Nat := 4711

def joiner (shell : Shell) : Bytes :=
  match shell.bindings.lookup "IFS" with
  | some separators => separators.take 1
  | none => [32]

def parameter? (shell : Shell) (name : String) : Option Bytes :=
  match name with
  | "#" => some (ascii (natText shell.parameters.length))
  | "?" => some (ascii (natText shell.status))
  | "$" => some (ascii (natText processNumber))
  | "!" => shell.jobs.head?.map fun job => ascii (natText job.number)
  | "-" => some (ascii (String.ofList (optionLetters.filter shell.options.contains)))
  | "@" | "*" => some (List.intercalate shell.joiner shell.parameters)
  | name =>
    match name.toNat? with
    | some 0 => some shell.name
    | some position => shell.parameters[position - 1]?
    | none => shell.bindings.lookup name

def valueOf (name : String) : ShellTask Bytes := do
  let shell ← get
  match shell.parameter? name with
  | some value => return value
  | none =>
    if shell.hasOption 'u' then abort (name ++ ": parameter not set") else return []

structure Fields where
  done : List Bytes
  current : Option Bytes
  -- Whether a blank has ended the last field, so that a separator can still belong to it.
  endedByBlank : Bool

namespace Fields

def empty : Fields := ⟨[], none, false⟩

def add (fields : Fields) (bytes : Bytes) : Fields :=
  { fields with current := some (bytes.reverse ++ fields.current.getD []) }

def close (endedByBlank : Bool) (fields : Fields) : Fields :=
  match fields.current with
  | some bytes => ⟨bytes.reverse :: fields.done, none, endedByBlank⟩
  | none => fields

def toList (fields : Fields) : List Bytes := (fields.close false).done.reverse

def isBlankByte (byte : UInt8) : Bool := byte == 32 || byte == 9 || byte == 10

def separate (fields : Fields) : Fields :=
  if fields.current.isSome then fields.close false
  else if fields.endedByBlank then { fields with endedByBlank := false }
  else { fields with done := [] :: fields.done }

def addSplit (separators : Bytes) : Fields → Bytes → Fields
  | fields, [] => fields
  | fields, byte :: rest =>
    addSplit separators
      (if !separators.contains byte then fields.add [byte]
      else if isBlankByte byte then fields.close true
      else fields.separate) rest

def addEach (add : Fields → Bytes → Fields) : Fields → List Bytes → Fields
  | fields, [] => fields
  | fields, [last] => add fields last
  | fields, first :: rest => addEach add ((add fields first).close false) rest

end Fields

abbrev Capture := List Char → Nat → ShellTask Bytes

abbrev Adder := Fields → Segment → ShellTask Fields

def wholeBy (add : Adder) (word : Word) : ShellTask Bytes := do
  let quoted := word.map fun segment => { segment with quoted := true }
  return List.intercalate [32] (← quoted.foldlM add Fields.empty).toList

def markedBy (add : Adder) (word : Word) : ShellTask (List MarkedByte) := do
  let parts ← word.mapM fun segment => do
    return (← wholeBy add [segment]).map fun byte => ⟨byte, segment.quoted⟩
  return parts.flatten

def withoutZeros (bytes : Bytes) : Bytes := bytes.filter (· != 0)

def withoutLineEnds (bytes : Bytes) : Bytes := (bytes.reverse.dropWhile (· == 10)).reverse

def innerWord (place : Word.Place) (text : List Char) : ShellTask Word := do
  match Word.readAt place ⟨text, (← get).line⟩ with
  | .ok (word, _) => return word
  | .error refusal => abort ("Syntax error: " ++ refusal.fault.message)

def calculate (add : Adder) (text : List Char) : ShellTask Bytes := do
  let expression := textOf (← wholeBy add (← innerWord .document text))
  let shell ← get
  let texts (name : String) : String := textOf ((shell.parameter? name).getD [])
  match Calculation.evaluate texts expression.toList with
  | .ok (value, assigned) =>
    for (name, value) in assigned.reverse do
      setVariable name (ascii (integerText value))
    return ascii (integerText value)
  | .error fault => abort (fault.message expression)

def absenceMessage (operator : String) (given : Bytes) : String :=
  if !given.isEmpty then textOf given
  else if operator = ":?" then "parameter not set or null"
  else "parameter not set"

def addSegment (capture : Capture) : Nat → Bool → Adder
  -- Adds what a segment stands for. Text in the braces of a parameter is split if it is not quoted;
  -- braces are followed only so deep.
  | depth, inBraces, fields, segment => do
    let shell ← get
    let separators := (shell.bindings.lookup "IFS").getD [32, 9, 10]
    let addTo (fields : Fields) (bytes : Bytes) : Fields :=
      if segment.quoted then fields.add bytes else fields.addSplit separators bytes
    let addParameter (name : String) : ShellTask Fields := do
      if name = "@" ∨ (name = "*" ∧ !segment.quoted) then
        return fields.addEach addTo shell.parameters
      else return addTo fields (← valueOf name)
    match depth, segment.piece with
    | _, .literal content =>
      let bytes := ascii (String.ofList content)
      return if inBraces then addTo fields bytes else fields.add bytes
    | _, .parameter name => addParameter name
    | _, .length name =>
      return addTo fields (ascii (natText (← valueOf name).length))
    | _, .output script line =>
      return addTo fields (withoutLineEnds (withoutZeros (← capture script line)))
    | _, .unusable => abort "Bad substitution"
    | 0, _ => return fields
    | depth + 1, .calculation expression =>
      return addTo fields (← calculate (addSegment capture depth false) expression)
    | depth + 1, .adjusted name operator operand => do
      let place : Word.Place := if segment.quoted then .quotedOperand else .operand
      let value := shell.parameter? name
      let isAbsent := match value with
        | none => true
        | some bytes => operator.startsWith ":" && bytes.isEmpty
      let operandFields : ShellTask Fields := do
        let start := if segment.quoted then fields.add [] else fields
        (← innerWord place operand).foldlM (addSegment capture depth true) start
      let operandWhole : ShellTask Bytes := do
        wholeBy (addSegment capture depth false) (← innerWord place operand)
      match operator with
      | "-" | ":-" => if isAbsent then operandFields else addParameter name
      | "+" | ":+" => if isAbsent then return addTo fields [] else operandFields
      | "=" | ":=" =>
        if isAbsent then
          let given ← operandWhole
          setVariable name given
          return addTo fields given
        else addParameter name
      | "?" | ":?" =>
        if isAbsent then abort (name ++ ": " ++ absenceMessage operator (← operandWhole))
        else addParameter name
      | operator =>
        let marked ← markedBy (addSegment capture depth false) (← innerWord .operand operand)
        return addTo fields (Pattern.cut operator (.ofMarked marked) (← valueOf name))

def deepest : Nat := 100

def adder (capture : Capture) : Adder := addSegment capture deepest false

def expand (capture : Capture) (word : Word) : ShellTask (List Bytes) := do
  return (← word.foldlM (adder capture) Fields.empty).toList

def expandWhole (capture : Capture) (word : Word) : ShellTask Bytes :=
  wholeBy (adder capture) word

def expandPattern (capture : Capture) (word : Word) : ShellTask Pattern := do
  return .ofMarked (← markedBy (adder capture) word)

end Thumbnailing.Shell
