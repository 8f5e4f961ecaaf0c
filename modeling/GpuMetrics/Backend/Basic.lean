import GpuMetrics.Backend.Host
import GpuMetrics.Log.Event

/-!
# Device sources

A **device source** is opened once per scrape. Opening it fails as a whole or gives a `Snapshot`,
through which every field of every device can be read until the scrape is over.

A source may be released, and what it answers afterwards is its own affair: both of its functions
take the number of releases so far. Opening and reading have no such number to change, so a scrape
leaves a source as it was.
-/

namespace GpuMetrics

namespace Backend

open Device Log

/-- A result together with the events on the way to it. -/
structure Noted (α : Type) where
  value : α
  events : List Event

/-- The devices of one scrape. -/
structure Snapshot where
  count : Except QueryError UInt32
  identity : Nat → Except QueryError Identity
  memory : Nat → Noted (Except QueryError Memory)
  reading : Reading → Nat → Except QueryError Binary64

end Backend

open Backend

/-- A source of devices. -/
structure Backend where
  /-- What the source is called in events. -/
  name : String
  /-- Opens the source for one scrape, after so many releases. -/
  query : Host → Nat → Noted (Except BackendError Snapshot)
  /-- Releases the source, after so many earlier releases. -/
  release : Nat → Noted (Except BackendError Unit)

end GpuMetrics
