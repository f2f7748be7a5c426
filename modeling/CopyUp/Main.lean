import CopyUp.Command.Execute
import CopyUp.Kernel.Script

/-!
# The command

Rehearses the command on a kernel that grants every call: it prints what a run, a seeding or a
listing would print on a file system where everything goes well, and touches nothing.
-/

namespace CopyUp.Command

/-- What the surroundings of the process preset. -/
def readPresets : IO Presets := do
  pure { base := ← IO.getEnv "OVLCHECK_BASE", threshold := ← IO.getEnv "RUST_LOG" }

/-- The text that some bytes encode. -/
def textOf (bytes : Bytes) : String := (String.fromUTF8? ⟨bytes.toArray⟩).getD ""

/-- Shows a completion on the streams of the process and hands on its exit code. -/
def Completion.present (completion : Completion) : IO UInt32 := do
  IO.print (textOf completion.out)
  for line in completion.log do
    IO.eprintln s!"[{line.severity.name}] {line.text}"
  IO.eprint (textOf completion.err)
  pure completion.exitCode.toUInt32

end CopyUp.Command

def main (words : List String) : IO UInt32 := do
  let presets ← CopyUp.Command.readPresets
  let rehearsal : CopyUp.Script := { entries := [] }
  (CopyUp.Command.execute {} presets words rehearsal).present
