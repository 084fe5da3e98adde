import Wiretap.Counter.Basic

/-!
# Registries of counter sources

A registry names the sources of counters that are reported from time to time.  A name stands for
the source that was registered under it last, and a source that is closed is forgotten.

## Main definitions

* `Registry` - sources under the names of their modules, in the order of registration.
* `Registry.register` - a source takes over a name.
* `Registry.retain` - forgets the closed sources.
* `Registry.readAll` - reads all sources in order.

## Design notes

A registry does not hold its sources: whether one is closed, and what reading does to it, is told
by whoever keeps the state behind them.  Reading is a fold, since reading one source may change
what another one shows.
-/

namespace Wiretap

/-- Sources of counters under the names of their modules. -/
structure Registry (σ : Type) where
  sources : List (String × σ) := []
deriving Repr

/-- The warning when a name is taken over from a source that is still open. -/
def duplicateWarning (module : String) : String :=
  s!"Found duplicated counter source {module}, please check if the old one is correctly closed."

namespace Registry

variable {σ τ : Type}

/-- The names that are registered. -/
def modules (r : Registry σ) : List String := r.sources.map (·.1)

/-- The sources under a name that are still open. -/
def openUnder (r : Registry σ) (closed : σ → Bool) (module : String) : List (String × σ) :=
  r.sources.filter fun s => s.1 = module && !closed s.2

/-- The registry without its closed sources. -/
def retain (r : Registry σ) (closed : σ → Bool) : Registry σ :=
  ⟨r.sources.filter fun s => !closed s.2⟩

/-- The registry after a source has taken over a name, and the warnings about it. -/
def register (r : Registry σ) (closed : σ → Bool) (module : String) (source : σ) :
    Registry σ × List String :=
  (⟨(r.sources.filter fun s => !closed s.2 && s.1 ≠ module) ++ [(module, source)]⟩,
    (r.openUnder closed module).map fun _ => duplicateWarning module)

/-- Reads sources in order, in a state that reading may change. -/
def readAll (read : τ → σ → τ × List Counter) (state : τ) :
    List (String × σ) → τ × List (String × List Counter)
  | [] => (state, [])
  | (module, source) :: rest =>
    let (state, counters) := read state source
    let (state, later) := readAll read state rest
    (state, (module, counters) :: later)

/-- One line for each source that was read. -/
def lines (readings : List (String × List Counter)) : List String :=
  readings.map fun (module, counters) => "stats " ++ Counter.line module counters

@[simp] theorem modules_retain (r : Registry σ) (closed : σ → Bool) :
    (r.retain closed).modules = (r.sources.filter fun s => !closed s.2).map (·.1) := rfl

/-- Every source that is read has its line, in order. -/
theorem modules_readAll (read : τ → σ → τ × List Counter) (state : τ)
    (sources : List (String × σ)) :
    (readAll read state sources).2.map (·.1) = sources.map (·.1) := by
  induction sources generalizing state with
  | nil => rfl
  | cons s rest ih => simp [readAll, ih]

/-- A name that was taken over is registered once. -/
theorem nodup_modules_register {r : Registry σ} (h : r.modules.Nodup) (closed : σ → Bool)
    (module : String) (source : σ) : (r.register closed module source).1.modules.Nodup := by
  have part : ((r.sources.filter fun s => !closed s.2 && s.1 ≠ module).map (·.1)).Nodup :=
    h.sublist (List.filter_sublist.map _)
  simp only [modules, register, List.map_append, List.map_cons, List.map_nil]
  refine List.nodup_append.mpr ⟨part, by simp, ?_⟩
  intro a ha b hb
  simp at ha hb
  obtain ⟨_, _, _, hne⟩ := ha
  exact fun e => hne (e.trans hb)

end Registry

end Wiretap
