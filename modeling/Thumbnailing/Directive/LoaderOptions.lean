import Thumbnailing.Directive.Basic
import Thumbnailing.Directive.Words
import Thumbnailing.Log.Record

set_option autoImplicit false

namespace Thumbnailing

structure Tokens where
  stray : List String
  directives : List Directive
  deriving DecidableEq, Repr

namespace Tokens

def directivesOf : List String → List Directive
  | [] => []
  | word :: rest =>
    if Directive.isFlag word then
      .ofFlag word (rest.takeWhile fun other => !Directive.isFlag other) :: directivesOf rest
    else directivesOf rest

def ofWords (words : List String) : Tokens :=
  ⟨words.takeWhile fun word => !Directive.isFlag word, directivesOf words⟩

def warnings (tokens : Tokens) : List LogRecord :=
  tokens.stray.map (.notAllowed .tokenizer)

def ofOptions (options : Option OptionWords) : Outcome Tokens :=
  (OptionWords.splitOptional options).map ofWords

end Tokens

inductive SourceOptions where
  | written (options : OptionWords)
  | table (entries : Entries)

namespace SourceOptions

def loaderValue (directive : Directive) : Value :=
  match directive.value with
  | some value => .text value
  | none => .boolean true

def entriesOf (directives : List Directive) : Entries :=
  -- The later of two directives with one key counts, in the earlier one's place.
  directives.foldl
    (fun entries directive => entries.put directive.key (loaderValue directive)) []

def loaderOptions : Option SourceOptions → Outcome (Entries × List LogRecord)
  | none => .ok ([], [])
  | some (.table entries) => .ok (entries, [])
  | some (.written options) => do
    let tokens ← Tokens.ofOptions (some options)
    return (entriesOf tokens.directives, tokens.warnings)

end SourceOptions

end Thumbnailing
