import SagaMind.Config
import SagaMind.Interfaces
import SagaMind.TenantIsolation

/-!
# Who may call the gateways

The dependencies `require_api_key` and `get_bound_tenant` of the REST gateway,
and `_authorize` of the gRPC gateway. Both read the keys of the settings.
-/

namespace SagaMind.Gateway

open KeyedTable

set_option autoImplicit false

variable (settings : Settings)

def requireApiKey (xApiKey : Option String) : Except Reply Unit :=
  if settings.authEnabled = false then .ok ()
  else
    match xApiKey with
    | some key =>
        if key = "" ∨ settings.apiKeySet key = false then
          .error (.failure 401 "Invalid or missing API key.")
        else .ok ()
    | none => .error (.failure 401 "Invalid or missing API key.")

def getBoundTenant (xApiKey : Option String) : Option String :=
  match xApiKey with
  | some key => if key = "" then none else (settings.apiKeyTenantMap.find? key).bind Prod.snd
  | none => none

/-- `enforce_tenant_access`, as an answer of the endpoint. -/
def enforceTenantAccess (boundTenant : Option String) (tenantId : String) : Except Reply Unit :=
  (TenantIsolation.enforceTenantAccess boundTenant tenantId).mapError fun error =>
    match error with
    | .forbidden detail => .failure 403 detail

def restAccess (xApiKey : Option String) (tenantId : String) : Except Reply Unit := do
  requireApiKey settings xApiKey
  enforceTenantAccess (getBoundTenant settings xApiKey) tenantId

/-- `str.lower` on the letters of `x-api-key`: only the Kelvin sign has one of
them as its lower case outside ASCII. -/
def lower (c : Char) : Char := if c = '\u212a' then 'k' else c.toLower

/-- `metadata.get("x-api-key")`, of the last item with that name. -/
def metadataKey (metadata : List (String × String)) : Option String :=
  (metadata.reverse.find? fun item => item.1.toList.map lower = "x-api-key".toList).map Prod.snd

/-- `_authorize`, with the key of the metadata. -/
def authorizeKey (key : Option String) (tenantId : String) : Bool :=
  if settings.authEnabled = false then true
  else
    match key with
    | some key =>
        key ≠ "" && settings.apiKeySet key &&
          (match (settings.apiKeyTenantMap.find? key).bind Prod.snd with
          | none => true
          | some bound => bound = tenantId)
    | none => false

def authorize (metadata : List (String × String)) (tenantId : String) : Bool :=
  authorizeKey settings (metadataKey metadata) tenantId

end SagaMind.Gateway
