import KernelWallet.Command.Run
import KernelWallet.Curve.Ed25519

/-! The program: arguments, environment, files and random bytes go in, and the report of the
command comes out. It has no network of its own. -/

namespace KernelWallet

/-- A transport on which no host replies. -/
def offline : Http.Transport IO := fun _ => return .dropped

/-- The text of a file; none if it cannot be read. -/
def readText? (path : String) : IO (Option String) := do
  try return some (← IO.FS.readFile path)
  catch _ => return none

/-- The surroundings of an invocation. The random bytes are as many as a command draws. -/
def Command.surroundings (i : Invocation) : IO Command.Surroundings := do
  let configFile ← i.config.mapM readText?
  let apiHosts ← IO.getEnv "MIXIN_API_HOST"
  let kernelHosts ← IO.getEnv "MIXIN_KERNEL_RPC"
  let random ← IO.getRandomBytes 64
  return { entropy := Entropy.cycle random.data.toList, configFile, apiHosts, kernelHosts }

end KernelWallet

open KernelWallet

/-- Ends with 0 for success, 1 for a command that failed and 2 for wrong arguments. -/
def main (args : List String) : IO UInt32 := do
  match Invocation.ofArguments? args with
  | none => return 2
  | some i =>
    let around ← Command.surroundings i
    let report ← Command.run Curve.ed25519 offline around i.command
    IO.print report.stdout
    IO.eprint report.stderr
    return if report.error.isNone then 0 else 1
