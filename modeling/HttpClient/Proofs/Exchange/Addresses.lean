import HttpClient.Target

/-!
# Addresses as they are written

Where a request goes is written in two places: path and query of its URL are what the request line
asks for, and the target that the URL leads to is named in the `Host` field. Both are described here
letter by letter, apart from the functions that write them, and so is what a target has of its URL.
-/

namespace HttpClient

/-- True for a port that goes without saying. -/
def Target.HasUsualPort (t : Target) : Prop :=
  t.scheme = .http ∧ t.port = 80 ∨ t.scheme = .https ∧ t.port = 443

/-- What a target has of its URL. -/
structure Target.Serves (t : Target) (url : Url) : Prop where
  scheme : Ascii.lower url.scheme = t.scheme.name
  host : ∃ host, url.host = some host ∧ host ≠ .domain "" ∧ t.hostText = Ascii.lower host.render
  /-- A domain goes by its letters in lower case. -/
  domain : ∀ name, url.host = some (.domain name) →
    t.hostText.toList = name.toList.map Char.toLower
  port : url.port = some t.port ∨ url.port = none ∧ t.HasUsualPort

namespace Url

variable {url : Url} {chars : List Char}

end Url

namespace Target

variable {t : Target} {url : Url}

end Target

end HttpClient
