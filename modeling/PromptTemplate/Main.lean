import PromptTemplate.CommandLine.Run
/-!
# PromptTemplate — the program

The surroundings of the system, and the entry point. The program has no
network of its own, so a schema that has to be requested cannot be had.
-/

namespace PromptTemplate

namespace CommandLine

/-- The content of a file of the system, if it can be read. -/
def readSystemFile (name : String) : IO (Option String) := do
  try return some (← IO.FS.readFile name)
  catch _ => return none

/-- Writes a file of the system, and says whether that was possible. -/
def writeSystemFile (name content : String) : IO Bool := do
  try
    IO.FS.writeFile name content
    return true
  catch _ => return false

/-- The surroundings of the system. -/
def system : Surroundings IO where
  read := readSystemFile
  write := writeSystemFile
  milliseconds := IO.monoMsNow
  transport := Schema.offline

end CommandLine

end PromptTemplate

/-- Runs the program: prints to standard output, and messages to standard
error. -/
def main (arguments : List String) : IO UInt32 := do
  let outcome ← PromptTemplate.CommandLine.run PromptTemplate.CommandLine.system arguments
  IO.print outcome.output
  for message in outcome.messages do
    IO.eprintln message
  return UInt32.ofNat outcome.exitCode
