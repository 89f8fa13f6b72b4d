import StrongAuth.Node.Basic

/-! # The expiry worker

A worker that sweeps expired authorisations again and again, if the configuration asks
for it. -/

namespace StrongAuth

inductive WorkerStart
  /-- No interval is configured. -/
  | disabled
  /-- The interval is zero, and the worker breaks down before its first sweep. -/
  | broken
  /-- It sweeps at once and after every interval. -/
  | running (interval : Time.Span)
  deriving DecidableEq, Repr

def Node.workerStart (node : Node) : WorkerStart :=
  match node.sweepInterval with
  | none => .disabled
  | some seconds =>
      if seconds = 0 then .broken else .running (.ofSeconds seconds.toNat)

/-- How many sweeps a worker has made when it has run for some time. -/
def WorkerStart.sweeps (runTime : Time.Span) : WorkerStart → Nat
  | .disabled | .broken => 0
  | .running interval => runTime.nanos / interval.nanos + 1

end StrongAuth
