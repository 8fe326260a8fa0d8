import Courier.Config.Basic
import Courier.Logging.Facility

/-! Settings and log records for rehearsals. -/

namespace Courier.Rehearsal

/-- A provider that has every key that begins with `odd`, and has nothing to say about it or fails. -/
def oddProvider (fails : Bool) : Config.Provider where
  name := "odd"
  has := fun key => key.startsWith "odd"
  get := fun key => if fails then .error (.provider "odd" ("cannot read " ++ key)) else .ok none

/-- One structured record of each severity but the last. -/
def sampleRecords : List (Logging.Severity × String × List (String × Json)) := [
  (.debug, "debug text", [("key", .ofNat 2)]), (.info, "info text", [("key", .string "three")]),
  (.warning, "warn text", [("key", .bool true)]), (.error, "error text", [("flavor", .string "min\"t")]),
  (.critical, "crit text", [])]

end Courier.Rehearsal
