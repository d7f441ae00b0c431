import PlayerHub.Platform.Answer

namespace PlayerHub

/-- What answers requests. -/
abbrev Network := Request → Delivery

/-- Why an exchange fails whose settings name no address that can be called. -/
def Interruption.noAddress : Interruption := .failed "the endpoint is no web address"

/-- Exchanges a code over a network. -/
def Platform.exchange (p : Platform) (s : PlatformSettings) (network : Network) (c : LoginCode) :
    Except IdentityError ExternalId :=
  match p.request? s c with
  | some request => p.resolve (network request)
  | none => p.resolve (.nothing .noAddress)

end PlayerHub
