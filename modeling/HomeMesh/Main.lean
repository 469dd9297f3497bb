import HomeMesh.Simulation

/-!
# The simulator

Plays the script of the simulated house and shows its log.
-/

/-- Plays the script; the log goes to standard error. -/
def main (args : List String) : IO UInt32 := do
  let outcome := HomeMesh.Simulation.run
  for line in outcome.shown args do
    IO.eprintln line
  if let some fault := outcome.fault then
    IO.eprintln ("Error: " ++ fault.message)
  return outcome.exitCode
