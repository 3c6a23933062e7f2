import ArtifactPipeline.Text.Utf8

set_option autoImplicit false

namespace ArtifactPipeline.Signal

open Text (Octets)

def names : List String := [
  "HUP", "INT", "QUIT", "ILL", "TRAP", "ABRT", "BUS", "FPE", "KILL", "USR1", "SEGV", "USR2", "PIPE",
  "ALRM", "TERM", "STKFLT", "CHLD", "CONT", "STOP", "TSTP", "TTIN", "TTOU", "URG", "XCPU", "XFSZ",
  "VTALRM", "PROF", "WINCH", "POLL", "PWR", "SYS"
]

def description : Nat → String
  | 1 => "Hangup"
  | 2 => "Interrupt"
  | 3 => "Quit"
  | 4 => "Illegal instruction"
  | 5 => "Trace/breakpoint trap"
  | 6 => "Aborted"
  | 7 => "Bus error"
  | 8 => "Floating point exception"
  | 9 => "Killed"
  | 10 => "User defined signal 1"
  | 11 => "Segmentation fault"
  | 12 => "User defined signal 2"
  | 13 => "Broken pipe"
  | 14 => "Alarm clock"
  | 15 => "Terminated"
  | _ => "Unknown signal"

def nameOf? (number : Nat) : Option String :=
  if number = 0 then none else names[number - 1]?

def bound : Nat := 65

def ofText? (text : Octets) : Option Nat :=
  let upper := text.map Char.toUpper
  let bare := if "SIG".toList.isPrefixOf upper then upper.drop 3 else upper
  if !text.isEmpty && text.all Char.isDigit then
    (String.ofList text).toNat?.filter fun number => number < bound
  else (names.idxOf? (String.ofList bare)).map fun index => index + 1

end ArtifactPipeline.Signal
