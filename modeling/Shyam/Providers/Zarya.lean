import Shyam.Lib.Substring
import Shyam.Providers.Models
import Shyam.Trust.Models

/-!
# The Zarya provider

Where it sends the work that it is asked to continue. What the client's request returns is a
parameter.
-/

namespace Shyam

open Python

/-- The provider's own client, which talks to the local instance, or one for the URL of a target. -/
inductive ZaryaClient where
  | own (baseUrl : String)
  | target (targetUrl : String)
deriving DecidableEq, Repr

/-- A client drops the slashes at the end of the URL that it is made for. -/
def ZaryaClient.baseUrl : ZaryaClient → String
  | .own baseUrl => baseUrl
  | .target targetUrl => rstrip '/' targetUrl

/-- `baseUrl` is that of the own client. -/
structure ZaryaProvider where
  baseUrl : String := "http://127.0.0.1:8765/ecosystem/v1"
  isConnected : Bool

namespace ZaryaProvider

def notConnected : Exc := ⟨"ZaryaConnectionError", "ZaryaProvider is not connected."⟩

/-- `if target_url:`, and the local instance otherwise. -/
def clientFor (provider : ZaryaProvider) (targetUrl : Option String) : Except Exc ZaryaClient :=
  match orElse targetUrl none with
  | some url => .ok (.target url)
  | none => if provider.isConnected then .ok (.own provider.baseUrl) else .error notConnected

def continueWork (provider : ZaryaProvider)
    (post : ZaryaClient → Dict PyValue → String → String → Except Exc ContinuationResponse)
    (portableWork : Dict PyValue) (sourceDeviceId continuityId : String)
    (targetUrl : Option String) :
    Except Exc ContinuationResponse := do
  let client ← provider.clientFor targetUrl
  post client portableWork sourceDeviceId continuityId

theorem clientFor_of_some {provider : ZaryaProvider} {targetUrl : Option String} {url : String}
    (h : orElse targetUrl none = some url) : provider.clientFor targetUrl = .ok (.target url) := by
  rw [clientFor, h]

end ZaryaProvider

end Shyam
