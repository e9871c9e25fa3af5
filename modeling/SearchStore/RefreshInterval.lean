/-!
How often the engine makes new documents visible to searches.
-/

namespace SearchStore

inductive RefreshInterval where
  | disabled
  | every (nanoseconds : Nat)
deriving DecidableEq, Repr

namespace RefreshInterval

def ofMilliseconds (n : Nat) : RefreshInterval := .every (n * 1000000)

/-- The interval as a setting: in seconds when no milliseconds are left over,
else in milliseconds. What is below a millisecond is left out. -/
def setting : RefreshInterval → String
  | .disabled => "-1"
  | .every nanoseconds =>
    let milliseconds := nanoseconds / 1000000
    if milliseconds % 1000 = 0 then toString (milliseconds / 1000) ++ "s"
    else toString milliseconds ++ "ms"

end RefreshInterval

end SearchStore
