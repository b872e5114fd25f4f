import FeatureFlags.Net.Resolve

/-!
# `FeatureFlags.Service.Redirect` — answers that point elsewhere

An answer may say that what was asked for is in another place.  The place is not asked, but it has
to be one: its text is read, completed from the resource of the request, and given the fragment of
that resource if it has none of its own.
-/

namespace FeatureFlags

namespace Redirect

/-- Why an answer does not point to a place. -/
inductive Fault where
  /-- The text of the place cannot be read. -/
  | unreadable (e : UrlError)
  /-- The place cannot be completed. -/
  | incomplete (e : UrlError)
  /-- The host of the place, or of the request, is no domain name. -/
  | host (e : Domain.Fault)
  deriving DecidableEq

/-- The statuses with which an answer points elsewhere. -/
def statuses : List Int := [301, 302, 303, 307, 308]

/-- The host of a resource. -/
def hostOf (u : Url) : Except Fault (List Char) := u.plainHost.mapError .host

/-- Gives a place with a scheme but no host the host of the request. -/
def withHost (request place : Url) : Except Fault Url := do
  if place.scheme.isEmpty then return place
  if (← hostOf place).isEmpty then
    (place.withHost (← hostOf request)).mapError .incomplete
  else return place

/-- Completes a place without a scheme or a host. -/
def completed (request place : Url) : Except Fault Url :=
  if place.scheme.isEmpty || place.host.isEmpty then
    (request.resolve place).mapError .incomplete
  else .ok place

/-- Gives a place without a fragment that of the request. -/
def withFragment (request place : Url) : Except Fault Url :=
  if request.plainFragment.isEmpty || !place.plainFragment.isEmpty then .ok place
  else (place.withFragment request.plainFragment.toList).mapError .incomplete

/-- The place that a text points to in the answer to a request. -/
def place (request : Url) (text : String) : Except Fault Url := do
  let place ← (Url.parse text).mapError .unreadable
  let place ← withHost request place
  let place ← completed request place
  let place ← withFragment request place
  let _ ← hostOf place
  return place

end Redirect

end FeatureFlags
