import GrowthOs.Js.Text
import GrowthOs.Support.Throwing

/-!
# The texts of the recovery control store

How `productionRecoveryControlStore.js` reads the identifiers it is called with.
-/

namespace GrowthOs.Recovery

open Js
open Throwing (rejectIf)

def productionRecoveryControlStoreContract : String :=
  "mad4b.production-recovery-control-store.v1"

def maxId : Nat := 191

def storeError (code message : String) (details : List (String × Val)) : Val :=
  .obj [("message", .str message), ("code", .str code), ("status", .num (.ofNat 503)),
    ("details", .obj (Val.spread [("contract", .str productionRecoveryControlStoreContract),
        ("independent_of_target_databases", .bool true),
        ("target_database_binding", .str "forbidden"),
        ("secrets_included", .bool false)]
      details))]

def text (value : Val) (max : Nat) : Except Val String := do
  let raw ← (value.coalesce (.str "")).toStr
  .ok (cut max (trim raw))

def requiredId (value : Val) (field : String) : Except Val String := do
  let normalized ← text value maxId
  rejectIf (normalized = "")
    (storeError "RECOVERY_CONTROL_STORE_ID_REQUIRED" (field ++ " is required.")
      [("field", .str field)])
  .ok normalized

/-- The arguments of a function declared as `({ ... } = {})`: `null` cannot be taken
apart. -/
def destructured : Val → Except Val Val
  | .undefined => .ok (.obj [])
  | .null => .error (Val.typeError "Cannot destructure 'null' as it is null.")
  | args => .ok args

end GrowthOs.Recovery
