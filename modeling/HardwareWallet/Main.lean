import HardwareWallet.CommandLine.Run

namespace HardwareWallet.CommandLine

partial def readInput (stream : IO.FS.Stream) (read : String) : IO String := do
  let line ← stream.getLine
  if line.isEmpty || line = "\n" then return read
  readInput stream (read ++ line)

def readPin (stream : IO.FS.Stream) : IO (Option String) := do
  IO.eprint "Enter your device PIN: "
  let line ← stream.getLine
  return if line.isEmpty then none else some line.trimAsciiEnd.toString

def execute (arguments : List String) : IO UInt32 := do
  let stream ← IO.getStdin
  let input ← if "--stdin" ∈ arguments then readInput stream "" else pure ""
  let pin ← if asksPin arguments input then readPin stream else pure none
  let random ← IO.getRandomBytes 32
  match run {} arguments input pin random.toList with
  | .error e =>
    IO.eprintln e.message
    return 1
  | .ok outcome =>
    IO.print outcome.output
    return (outcome.status.getD 0).toUInt32

end HardwareWallet.CommandLine

def main (arguments : List String) : IO UInt32 :=
  HardwareWallet.CommandLine.execute arguments
