import IdentityCache.Cache.Basic
import IdentityCache.Json.Snapshot

/-!
# Reports on the cache

The observed accounts as a JSON object, and three gauges in the OpenMetrics text
format.
-/

namespace IdentityCache

set_option autoImplicit false

/-- A number to be watched over time. -/
structure Gauge where
  name : String
  /-- What it counts. -/
  help : String
  value : Nat
  deriving DecidableEq, Repr

/-- The lines of a gauge, whose name may be put under a stem. -/
def Gauge.text (stem : Option String) (gauge : Gauge) : String :=
  let name :=
    match stem with
    | some stem => stem ++ "_" ++ gauge.name
    | none => gauge.name
  let value := String.ofList (Decimal.digits gauge.value)
  "# HELP " ++ name ++ " " ++ gauge.help ++ "\n" ++
    "# TYPE " ++ name ++ " gauge\n" ++ name ++ " " ++ value ++ "\n"

namespace Cache

/-- The observed accounts, whether or not they have a role, as a JSON object. -/
def toJson (cache : Cache) : String := String.ofList (Json.snapshotText cache.accounts)

/-- The sizes of the tables and the number of accounts that someone waits for. -/
def gauges (cache : Cache) : List Gauge := [
  ⟨"service_account_index_size", "The number of service accounts in index",
    cache.accounts.size⟩,
  ⟨"config_map_index_size", "The number of configmap entries in index", cache.mapped.size⟩,
  ⟨"pending_notifications", "The number of service accounts being waited on",
    cache.pending.size⟩]

/-- The gauges as a complete exposition. -/
def metrics (cache : Cache) (stem : Option String) : String :=
  String.join (cache.gauges.map (Gauge.text stem)) ++ "# EOF\n"

end Cache

end IdentityCache
