import ODataClient.Transport.Send

/-! # Access tokens
A bearer token, its expiry, and the providers that hand tokens out. -/

namespace ODataClient

/-- A bearer token. -/
structure AccessToken where
  /-- The token as it is sent. -/
  token : String
  /-- When it expires, in seconds since the start of 1970; none if that is not known. -/
  expiresAt : Option Int
deriving DecidableEq, Repr

namespace AccessToken

/-- Whether the token has expired at a time, in seconds since the start of 1970. -/
def isExpired (token : AccessToken) (now : Int) : Bool :=
  match token.expiresAt with
  | some expiry => expiry ≤ now
  | none => false

/-- The header value that presents the token. -/
def bearerText (token : AccessToken) : String := "Bearer " ++ token.token

end AccessToken

/-- A provider of tokens, which may ask the environment for them. -/
structure TokenProvider (σ : Type) where
  /-- A token, or the reason why there is none. -/
  token : σ → Reply (Except AuthError AccessToken) σ

/-- The provider of one token that stays the same, until it has expired by the clock on the wall of
the environment. -/
def TokenProvider.fixed {σ : Type} (wallClock : σ → Int) (token : AccessToken) :
    TokenProvider σ where
  token environment :=
    let answer :=
      if token.isExpired (wallClock environment) then
        .error (.tokenUnavailable "static token has expired")
      else .ok token
    ⟨answer, 0, environment⟩

end ODataClient
