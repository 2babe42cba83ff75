import Mathlib.Data.List.Basic

/-!
# The canonical location names

The one set of place names of the warehouse.  The policy gate checks a destination against it,
and the command compiler of the planner emits no destination outside it.
-/

namespace MiniatureWarehouse

/-- `KNOWN_LOCATIONS`, in the order the names are written in. -/
def knownLocations : List String :=
  ["shelf_1", "shelf_2", "shelf_3", "berth_A", "berth_B", "shipping_station", "charging_station",
    "retreat_A", "retreat_B"]

/-- `is_known_location`. -/
def isKnownLocation (name : String) : Bool := knownLocations.contains name

end MiniatureWarehouse
