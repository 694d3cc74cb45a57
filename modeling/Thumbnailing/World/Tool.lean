import Thumbnailing.World.Files

set_option autoImplicit false

namespace Thumbnailing

inductive CommandKind where
  | identify
  | frames
  | convert
  deriving DecidableEq, Repr

namespace CommandKind

def isNamedIdentify (word : String) : Bool :=
  (Path.piecesOf word.toList).getLast? == some "identify".toList

def frameCountFormat : String := "%n\n"

def ofWords (words : List String) : CommandKind :=
  if words.head?.any isNamedIdentify || words[1]? == some "identify" then
    if words.reverse[1]? == some frameCountFormat then .frames else .identify
  else .convert

end CommandKind

def ToolReplies.reply (replies : ToolReplies) : CommandKind → ToolReply
  | .identify => replies.identify
  | .frames => replies.frames
  | .convert => replies.convert

namespace Tool

def lookUp (searchPath : Option String) (program : String) : Task World (Option String) := do
  -- Where a program is found. Only a search path of one's own is worth a record.
  if let some path := searchPath then recordCall (.lookUp program path)
  return (← .read).machine.programs.lookup program

def outputPath (words : List String) : Path :=
  -- The path of the file that a command writes: its last word from the first slash on.
  .ofText (String.ofList ((words.getLastD "").toList.dropWhile (· != '/')))

def runCommand (words : List String) (timeout : Int) : Task World Bytes := do
  recordCall (.tool words timeout)
  let reply := (← .read).machine.replies.reply (.ofWords words)
  -- What the tool has written stays, however it ends.
  Files.leave (outputPath words) reply.left
  let order : ProcessOrder := ⟨words, [], .integer timeout, []⟩
  let report ← .ofOutcome (order.answer fun _ => reply.ending)
  return report.output

end Tool

end Thumbnailing
