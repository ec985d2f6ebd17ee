import Propositional.CommandLine

set_option autoImplicit false

/-!
# The program

Reads as much of the standard input as the arguments call for, and prints what
`CommandLine.run` says.
-/

namespace Propositional.Main

/-- Reads on until a line ends, or the input does. -/
partial def readLine (stream : IO.FS.Stream) (sofar : ByteArray) : IO ByteArray := do
  let chunk ← stream.read 4096
  let sofar := sofar ++ chunk
  if chunk.isEmpty || chunk.toList.contains 10 then return sofar
  readLine stream sofar

/-- The input that a request calls for. -/
def inputFor : CommandLine.Request → IO ByteArray
  | .tabulate ⟨none, _⟩ => do readLine (← IO.getStdin) .empty
  | _ => pure .empty

end Propositional.Main

/-- The entry point. -/
def main (args : List String) : IO UInt32 := do
  let request := Propositional.CommandLine.Request.ofArguments args
  let input ← Propositional.Main.inputFor request
  let exit := request.run input.toList
  IO.print exit.out
  IO.eprint exit.err
  return exit.code
