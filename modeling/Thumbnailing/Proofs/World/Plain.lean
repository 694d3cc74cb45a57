import Thumbnailing.World.Basic

set_option autoImplicit false

namespace Thumbnailing

namespace Machine

def plainReplies : ToolReplies where
  identify := .output [0x34, 0x30, 0x78, 0x33, 0x30, 0x2C, 0x31]
  frames := .output [0x31, 0x0A]
  convert := .output []

def plain : Machine where
  programs := []
  searchPath := "/usr/bin:/bin"
  replies := plainReplies
  hasLibrary := true
  libraryProblem := ""
  hasFrameReader := true
  source := ⟨40, 30, 3, false, []⟩
  allPages := none
  libraryFaults := []

end Machine

namespace World

def plain : World where
  machine := .plain
  workingFolder := ["work"]
  files := ⟨[(["work"], .folder), (["tmp"], .folder)]⟩
  libraryLoaded := false
  pictureCount := 0
  calls := []
  log := []

def writing : World :=
  { plain with machine := { Machine.plain with
      replies := { Machine.plainReplies with convert := .writes [1, 2, 3] } } }

def animated : World :=
  { plain with machine := { Machine.plain with
      replies := { Machine.plainReplies with frames := .output [0x33, 0x0A] } } }

def holding (content : Bytes) : World :=
  { plain with files := ⟨[(["work"], .folder), (["work", "a.png"], .file content)]⟩ }

def transparent : World :=
  { plain with machine := { Machine.plain with source := ⟨40, 30, 4, true, []⟩ } }

def turned : World :=
  { plain with machine := { Machine.plain with
      source := ⟨40, 30, 3, false, [("orientation", .integer 6)]⟩ } }

def slow : World :=
  { plain with machine := { Machine.plain with
      replies := { Machine.plainReplies with identify := ⟨none, .ok none⟩ } } }

/-- The tool that converts pictures ends like this, after it has written a part of its output. -/
def torn (ending : ProcessEnding) : World :=
  { plain with machine := { Machine.plain with
      replies := { Machine.plainReplies with convert := ⟨some [1, 2], ending⟩ } } }

/-- Writing stops after two bytes, wherever that is. -/
def full : World :=
  { plain with machine := { Machine.plain with
      writeFaults := fun _ => some ⟨some 2, .reported "OSError"⟩ } }

/-- One question to the library fails, of this number. -/
def lapsing (number : Nat) : World :=
  { plain with machine := { Machine.plain with
      lapses := fun other => if other = number then some (.imageLibrary "broken") else none } }

def broken (method : String) : World :=
  { plain with machine := { Machine.plain with
      libraryFaults := [(method, .imageLibrary "broken")] } }

end World

end Thumbnailing
