import Wiretap.Counter.Tenths

/-!
# Counters

What the parts of a running receiver report about themselves: named values, each of them either
a count since the last reading or a gauge of the present state.

## Main definitions

* `CounterValue`, `Counter` - a value, and a value with its name and kind.
* `CounterValue.text` - the text of a value in a report.
* `Counter.line` - a report of several counters in one line.
* `Counter.wrapped` - a count as a 64-bit register shows it.
-/

namespace Wiretap

/-- How a value is to be understood. -/
inductive CounterKind where
  /-- An amount since the last reading. -/
  | counted
  /-- A state at the time of reading. -/
  | gauged
deriving DecidableEq, Repr

/-- The name of a kind. -/
def CounterKind.name : CounterKind → String
  | counted => "Counted"
  | gauged => "Gauged"

/-- The value of a counter. -/
inductive CounterValue where
  | signed (value : Int)
  | unsigned (value : Nat)
  | float (value : Float)

/-- The text of a value; a fraction has one decimal. -/
def CounterValue.text : CounterValue → String
  | signed value => toString value
  | unsigned value => toString value
  | float value => Tenths.text value

/-- A named value. -/
structure Counter where
  name : String
  kind : CounterKind
  value : CounterValue

namespace Counter

/-- A count as a 64-bit register shows it, starting again at zero past the largest number. -/
def wrapped (n : Nat) : Nat := n % UInt64.size

/-- A count since the last reading. -/
def count (name : String) (n : Nat) : Counter := ⟨name, .counted, .unsigned (wrapped n)⟩

/-- A gauge of the present state. -/
def gauge (name : String) (n : Nat) : Counter := ⟨name, .gauged, .unsigned (wrapped n)⟩

/-- One line that reports the counters of a module. -/
def line (module : String) (counters : List Counter) : String :=
  module ++ ":" ++ String.join (counters.map fun c => " " ++ c.name ++ "=" ++ c.value.text)

end Counter

end Wiretap
