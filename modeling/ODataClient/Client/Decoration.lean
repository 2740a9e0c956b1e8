import ODataClient.Client.Token

/-! # Decoration of requests
Every request of a client is decorated once before it is sent, whatever number of attempts it takes.
A decoration that fails keeps the request from being sent; it never touches the breaker. -/

namespace ODataClient

/-- What is done to a request before it is sent. -/
inductive Decoration (σ : Type)
  /-- Nothing. -/
  | none
  /-- The token of a provider is presented. -/
  | bearer (provider : TokenProvider σ)
  /-- The request is changed in some other way, or refused. -/
  | custom (change : Request → Except AuthError Request)

namespace Decoration

variable {σ : Type}

/-- A request that presents a token, if the token can be the value of a header. -/
def present (request : Request) (token : AccessToken) : Except AuthError Request :=
  if Headers.isValue token.bearerText then
    .ok (request.withHeader "authorization" token.bearerText)
  else .error (.invalidToken "failed to parse header value")

/-- Decorate a request. -/
def decorate (decoration : Decoration σ) (request : Request) (world : World σ) :
    Except AuthError Request × World σ :=
  match decoration with
  | none => (.ok request, world)
  | bearer provider =>
    let reply := provider.token world.environment
    (reply.result.bind (present request), world.receive .tokenRequest reply)
  | custom change => (change request, world)

end Decoration

end ODataClient
