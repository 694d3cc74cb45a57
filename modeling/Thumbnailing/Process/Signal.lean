import Thumbnailing.Number.DecimalText

set_option autoImplicit false

namespace Thumbnailing.Signal

def plainNames : List String := [
  -- Names from one on; where there is none, the number stands.
  "HUP", "INT", "QUIT", "ILL", "TRAP", "ABRT", "BUS", "FPE", "KILL", "USR1", "SEGV", "USR2",
  "PIPE", "ALRM", "TERM", "16", "CHLD", "CONT", "STOP", "TSTP", "TTIN", "TTOU", "URG", "XCPU",
  "XFSZ", "VTALRM", "PROF", "WINCH", "IO", "PWR", "SYS", "32", "33"]

def firstRealTime : Nat := 34

def lastRealTime : Nat := 64

def realTimeName (number : Nat) : String :=
  -- Signals between the first and the last one count from the nearer of the two.
  if number = firstRealTime then "RTMIN"
  else if number = lastRealTime then "RTMAX"
  else if number < 50 then "RTMIN+" ++ natText (number - firstRealTime)
  else "RTMAX-" ++ natText (lastRealTime - number)

def name (number : Nat) : String :=
  if number = 0 then "EXIT" else plainNames.getD (number - 1) (realTimeName number)

def numbers : List Nat := List.range (lastRealTime + 1)

def ofText? (lowest : Nat) (text : String) : Option Nat :=
  let chars := text.toList
  if !chars.isEmpty && chars.all Char.isDigit then
    let number := chars.foldl (fun value c => 10 * value + (c.toNat - 48)) 0
    if number ≤ lastRealTime then some number else none
  else
    let upper := String.ofList (chars.map Char.toUpper)
    numbers.find? fun number => lowest ≤ number && name number == upper

def harmless : List Nat := [0, 17, 18, 23, 28]

def stopping : List Nat := [19, 20, 21, 22]

def untrappable : List Nat := [9, 19]

def texts : List (Nat × String) := [
  (1, "Hangup"), (3, "Quit"), (4, "Illegal instruction"), (5, "Trace/breakpoint trap"),
  (6, "Aborted"), (7, "Bus error"), (8, "Floating point exception"), (9, "Killed"),
  (10, "User defined signal 1"), (11, "Segmentation fault"), (12, "User defined signal 2"),
  (14, "Alarm clock"), (15, "Terminated"), (16, "Stack fault"), (24, "CPU time limit exceeded"),
  (25, "File size limit exceeded"), (26, "Virtual timer expired"),
  (27, "Profiling timer expired"), (29, "I/O possible"), (30, "Power failure"),
  (31, "Bad system call")]

def text? (number : Nat) : Option String :=
  if firstRealTime ≤ number then some ("Real-time signal " ++ natText (number - firstRealTime))
  else texts.lookup number

def status (number : Nat) : Nat := 128 + number

end Thumbnailing.Signal
