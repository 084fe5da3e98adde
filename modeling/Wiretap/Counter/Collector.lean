import Wiretap.Counter.Registry

/-!
# Collecting from meters

A meter is an object with counters.  A collector registers meters under the names of modules and
reports them; a registration either keeps its meter alive or only looks at one that somebody else
holds.

## Main definitions

* `Meter` - counters that keep their values when read, or amounts since the last reading.
* `Collector` - meters with the registry of their sources.
* `Collector.register`, `Collector.report` - the two services of a collector.
* `Collector.add`, `Collector.release` - what the holders of the meters do.
-/

namespace Wiretap

/-- An object with counters. -/
inductive Meter where
  /-- Values that reading leaves as they are. -/
  | steady (counters : List Counter)
  /-- Amounts since the last reading. -/
  | tally (amounts : List (String × Nat))

namespace Meter

/-- Reads a meter. -/
def read : Meter → Meter × List Counter
  | steady counters => (steady counters, counters)
  | tally amounts =>
    (tally (amounts.map fun (name, _) => (name, 0)), amounts.map fun (name, n) => .count name n)

/-- The meter with more of an amount. -/
def add (name : String) (n : Nat) : Meter → Meter
  | steady counters => steady counters
  | tally amounts =>
    tally (amounts.map fun (other, m) => (other, if other = name then m + n else m))

end Meter

/-- A registration of a meter, which is known by its number. -/
structure MeterSource where
  meter : Nat
  /-- Whether the registration keeps the meter alive. -/
  owned : Bool
deriving DecidableEq, Repr

/-- Meters with the registry of their sources. -/
structure Collector where
  /-- The meters, each with whether somebody else holds it. -/
  meters : List (Meter × Bool) := []
  registry : Registry MeterSource := {}

namespace Collector

/-- Whether somebody other than the registry holds a meter. -/
def isHeld (c : Collector) (meter : Nat) : Bool := (c.meters[meter]?.map (·.2)).getD false

/-- Whether a source has lost its meter. -/
def isClosed (c : Collector) (s : MeterSource) : Bool := !s.owned && !c.isHeld s.meter

/-- The collector with a meter more, and the number of that. -/
def create (c : Collector) (meter : Meter) (held : Bool) : Collector × Nat :=
  ({ c with meters := c.meters ++ [(meter, held)] }, c.meters.length)

/-- Adds to an amount of a meter. -/
def add (c : Collector) (meter : Nat) (name : String) (n : Nat) : Collector :=
  { c with meters := c.meters.modify meter fun (m, held) => (m.add name n, held) }

/-- The collector after the holders of a meter have dropped it. -/
def release (c : Collector) (meter : Nat) : Collector :=
  { c with meters := c.meters.modify meter fun (m, _) => (m, false) }

/-- Registers a meter under the name of a module. -/
def register (c : Collector) (module : String) (source : MeterSource) : Collector × List String :=
  let (registry, warnings) := c.registry.register c.isClosed module source
  ({ c with registry }, warnings)

/-- Reads the meter of a source. -/
def readMeter (meters : List (Meter × Bool)) (s : MeterSource) :
    List (Meter × Bool) × List Counter :=
  match meters[s.meter]? with
  | some (m, held) => (meters.set s.meter (m.read.1, held), m.read.2)
  | none => (meters, [])

/-- Reads all sources that are open. -/
def report (c : Collector) : Collector × List (String × List Counter) :=
  let registry := c.registry.retain c.isClosed
  let (meters, readings) := Registry.readAll readMeter c.meters registry.sources
  ({ meters, registry }, readings)

/-! ### Histories -/

/-- A step in the history of a collector. -/
inductive Event where
  | create (meter : Meter) (held : Bool)
  | register (module : String) (source : MeterSource)
  | add (meter : Nat) (name : String) (n : Nat)
  | release (meter : Nat)
  | report

/-- The collector after a step, and what it reported. -/
def step (c : Collector) : Event → Collector × List (String × List Counter)
  | .create meter held => ((c.create meter held).1, [])
  | .register module source => ((c.register module source).1, [])
  | .add meter name n => (c.add meter name n, [])
  | .release meter => (c.release meter, [])
  | .report => c.report

/-- The collector after a history, and what it reported at each step. -/
def run (c : Collector) : List Event → Collector × List (List (String × List Counter))
  | [] => (c, [])
  | e :: es =>
    let (c, reported) := c.step e
    let (c, later) := c.run es
    (c, reported :: later)

@[simp] theorem modules_report (c : Collector) :
    c.report.2.map (·.1) = (c.registry.retain c.isClosed).modules :=
  Registry.modules_readAll readMeter c.meters (c.registry.retain c.isClosed).sources

end Collector

end Wiretap
