import Thumbnailing.Text.Characters

set_option autoImplicit false

namespace Thumbnailing

inductive PathRoot where
  | relative
  | absolute
  | doubled
  deriving DecidableEq, Repr

def PathRoot.text : PathRoot → String
  | .relative => ""
  | .absolute => "/"
  | .doubled => "//"

structure Path where
  root : PathRoot
  steps : List String
  deriving DecidableEq, Repr

namespace Path

def piecesOf : List Char → List (List Char)
  | [] => [[]]
  | '/' :: rest => [] :: piecesOf rest
  | c :: rest =>
    match piecesOf rest with
    | [] => [[c]]
    | first :: others => (c :: first) :: others

def rootOf (text : List Char) : PathRoot :=
  match (text.takeWhile (· == '/')).length with
  | 0 => .relative
  | 2 => .doubled
  | _ => .absolute

def isStep (piece : List Char) : Bool := !(piece.isEmpty || piece == ['.'])

def ofText (text : String) : Path :=
  ⟨rootOf text.toList, ((piecesOf text.toList).filter isStep).map String.ofList⟩

def text (path : Path) : String :=
  if path.root = .relative ∧ path.steps = [] then "."
  else path.root.text ++ "/".intercalate path.steps

def name (path : Path) : String := path.steps.getLastD ""

def child (path : Path) (name : String) : Path := { path with steps := path.steps ++ [name] }

def splitName (name : List Char) : List Char × List Char :=
  let last := (name.reverse.takeWhile (· != '.')).reverse
  let head := name.take (name.length - last.length - 1)
  if last.isEmpty || head.isEmpty then (name, []) else (head, '.' :: last)

def suffixOf (name : String) : String := String.ofList (splitName name.toList).2

def stemOf (name : String) : String := String.ofList (splitName name.toList).1

def suffix (path : Path) : String := suffixOf path.name

def stem (path : Path) : String := stemOf path.name

def collapse : List String → List String → List String
  | taken, [] => taken
  | taken, step :: rest =>
    collapse (if step = ".." then taken.dropLast else taken ++ [step]) rest

def absolute (folder path : Path) : Path :=
  match path.root with
  | .relative => ⟨folder.root, collapse [] (folder.steps ++ path.steps)⟩
  | root => ⟨root, collapse [] path.steps⟩

@[simp] theorem name_child (path : Path) (name : String) : (path.child name).name = name := by
  simp [Path.name, child]

end Path

end Thumbnailing
