import ControlMachine.CommandLine

/- The program itself: files, the clock and the streams. -/
namespace ControlMachine

def errorNumber (code : UInt32) : UInt32 := if 0x80000000 ≤ code then 0 - code else code

def readFailure : IO.Error → ReadFailure
  | .noFileOrDirectory .. => .notFound
  | .permissionDenied .. => .denied
  | error@(.inappropriateType _ code _) | error@(.invalidArgument _ code _) =>
    match errorNumber code with
    | 20 => .notDirectory
    | 21 => .isDirectory
    | 36 => .nameTooLong
    | _ => .other (toString error)
  | error => .other (toString error)

def readFile (path : String) : IO (Except ReadFailure (List UInt8)) := do
  try
    return .ok (← IO.FS.readBinFile path).toList
  catch error =>
    return .error (readFailure error)

def surroundings (start : Nat) : World IO where
  read := readFile
  clock := do return ⟨UInt64.ofNat (((← IO.monoNanosNow) - start) / 1000)⟩
  pause micros := if micros = 0 then pure () else IO.sleep (UInt32.ofNat ((micros + 999) / 1000))

def usage : String :=
  "usage: run PROGRAM [--hex] [--steps N] [--config PATH] [--memory-size N] [--debug]\n" ++
  "           [--dump START:LEN]\n" ++
  "       disasm PROGRAM [--hex]\n"

def answer (args : List String) : IO UInt32 := do
  match Command.parse? args with
  | none =>
    (← IO.getStderr).putStr usage
    return 2
  | some command =>
    let output ← command.perform (surroundings (← IO.monoNanosNow))
    (← IO.getStdout).putStr output.stdout
    (← IO.getStderr).putStr output.stderr
    return output.exit

end ControlMachine

def main (args : List String) : IO UInt32 := ControlMachine.answer args
