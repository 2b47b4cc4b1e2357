import SagaMind.Contracts.Dsl
import SagaMind.Foundation.KeyedTable
import SagaMind.Foundation.Words

/-!
# Settings

The settings that decide who may call the gateways. Reading them from the
environment is left out, and so are the checks of the other fields.
-/

namespace SagaMind

open KeyedTable Words

set_option autoImplicit false

structure Settings where
  env : String := "development"
  apiKeys : String := ""

/-- The tenants that keys are bound to, the keys in the order they came first. -/
abbrev KeyRing : Type := Table (@Prod.fst String (Option String))

namespace Settings

/-- `is_production`. No letter outside ASCII has one of these as its lower case. -/
def isProduction (self : Settings) : Bool :=
  self.env.toList.map Char.toLower = "production".toList

/-- `text.strip() or None`. -/
def boundTo (text : List Char) : Option String :=
  match strip Contracts.isSpace text with
  | [] => none
  | tenant => some (String.ofList tenant)

/-- One turn of the loop of `api_key_tenant_map`, `none` for `continue`. -/
def keyEntry (raw : List Char) : Option (String × Option String) :=
  match strip Contracts.isSpace raw with
  | [] => none
  | entry =>
      match part ':' entry with
      | some (key, tenantId) =>
          some (String.ofList (strip Contracts.isSpace key), boundTo tenantId)
      | none => some (String.ofList entry, none)

def apiKeyTenantMap (self : Settings) : KeyRing :=
  (self.apiKeys.toList.splitOn ',').foldl (fun out raw =>
    match keyEntry raw with
    | none => out
    | some entry => out.put entry) .empty

/-- `key in api_key_set`. -/
def apiKeySet (self : Settings) (key : String) : Bool := (self.apiKeyTenantMap.find? key).isSome

def authEnabled (self : Settings) : Bool :=
  self.apiKeyTenantMap.rows ≠ [] || self.isProduction

end Settings

end SagaMind
