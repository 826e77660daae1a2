/-
Roster.Moment — instants on the wall clock.

An instant is a number of nanoseconds since the start of 1970. Tokens carry
whole seconds: the last full second at or before the instant. The calendar ends
with the year 262142, and an instant behind its end cannot be computed. What a
clock shows is far from the end, and not in the first minute after 1970.
-/
namespace Roster

/-- An instant, in nanoseconds since 1970. -/
structure Moment where
  nanos : Int
  deriving DecidableEq, Repr, Inhabited

namespace Moment

/-- Nanoseconds in a second. -/
def second : Int := 1000000000

/-- The last full second at or before the instant. -/
def seconds (m : Moment) : Int := m.nanos.fdiv second

/-- The instant at which a full second begins. -/
def ofSeconds (s : Int) : Moment := ⟨s * second⟩

/-- The instant some whole seconds later. -/
def addSeconds (m : Moment) (s : Int) : Moment := ⟨m.nanos + s * second⟩

theorem seconds_addSeconds (m : Moment) (s : Int) : (m.addSeconds s).seconds = m.seconds + s := by
  simp only [seconds, addSeconds, second]
  exact Int.add_mul_fdiv_right _ _ (by decide)

/-- The last full second of the calendar, at the end of the year 262142. -/
def lastSecond : Int := 8210266876799

/-- The instant some whole seconds later, as long as the calendar has it. -/
def later? (m : Moment) (s : Int) : Option Moment :=
  let t := m.addSeconds s
  if t.seconds ≤ lastSecond then some t else none

theorem later?_eq_some {m t : Moment} {s : Int} :
    m.later? s = some t ↔ m.seconds + s ≤ lastSecond ∧ t = m.addSeconds s := by
  simp [later?, seconds_addSeconds, eq_comm]

/-- An instant of the present day: the first minute after 1970 and the last year are not. -/
structure PresentDay (m : Moment) : Prop where
  late : 60 ≤ m.seconds
  early : m.seconds + 86400 * 365 ≤ lastSecond

end Moment

/-- What a clock shows. -/
structure Reading extends Moment where
  presentDay : toMoment.PresentDay

namespace Reading

instance : Coe Reading Moment := ⟨toMoment⟩

/-- The reading of a clock that shows an instant, if clocks show it. -/
def ofMoment? (m : Moment) : Option Reading :=
  if h : 60 ≤ m.seconds ∧ m.seconds + 86400 * 365 ≤ Moment.lastSecond then
    some ⟨m, h.1, h.2⟩
  else none

end Reading

end Roster
