import ODataClient.Client.Basic
import ODataClient.Proofs.Url.WebAddress

/-! # Where links lead

A continuation link is an address, or it names one beside the service root.

* **`Client.resolveLink_of_parse`** — an absolute link leads to itself.
* **`Client.resolveLink_descent`** — a link that leads down from the root leads to the root with the link
  behind it; `Client.resolveLink_descent_of_isPlain` says so in terms of the text of the root.
* **`Client.exists_resolveLink_sameService`** — any relative link leads to the service of the root,
  unless it begins with two slashes.
* **`Client.ResolvesLinks`** — all of this, and that a link which leads nowhere is not absolute;
  `Client.resolvesLinks`. -/

namespace ODataClient

open Url (parse join)

/-- A root address that is written as it is kept: an address of the web, the slashes at its end aside. -/
def ServiceRoot.IsPlain (root : ServiceRoot) : Prop :=
  ∃ address : Url.WebAddress, ∃ segments : List String,
    address.path.parts = segments ++ [""] ∧ address.path.query = none ∧
      address.url.text = ServiceRoot.trimSlashes root.baseUrl ++ "/"

namespace Client

variable {σ : Type} {client : Client σ} {link : String}

/-- An absolute link is where it leads to. -/
theorem resolveLink_of_parse {url : Url} (parsed : parse link = .ok url) :
    client.resolveLink link = .ok link := by
  rw [resolveLink, parsed]

/-- A relative link is joined to the root. -/
theorem resolveLink_of_join {base url : Url} (relative : parse link = .error .missingBase)
    (rooted : parse (client.root.url "") = .ok base) (joined : join base link = .ok url) :
    client.resolveLink link = .ok url.text := by
  have both : (parse (client.root.url "") >>= (join · link)) = .ok url := by
    rw [rooted]
    exact joined
  simp only [resolveLink, relative, both]

/-- **A link that leads down from the root** leads to the root with the encoded link behind it. -/
theorem resolveLink_descent {base : Url} {segments : List String}
    (rooted : parse (client.root.url "") = .ok base) (directory : base.IsDirectory segments)
    (descent : Url.Descent) :
    client.resolveLink descent.text = .ok (base.text ++ descent.encodedText) := by
  have text := descent.join_text directory
  cases joined : join base descent.text with
  | error error =>
    rw [joined] at text
    cases text
  | ok url =>
    rw [joined] at text
    rw [resolveLink_of_join descent.parse_text rooted joined, ← Except.ok.inj text]

/-- The same for a root that is written as it is kept: only a slash comes between it and the link. -/
theorem resolveLink_descent_of_isPlain (plain : client.root.IsPlain) (descent : Url.Descent) :
    client.resolveLink descent.text =
      .ok (ServiceRoot.trimSlashes client.root.baseUrl ++ "/" ++ descent.encodedText) := by
  obtain ⟨address, segments, parts, query, text⟩ := plain
  -- The text of the root is that of an address, so reading it gives the address back.
  have same : client.root.url "" = address.url.text := by
    rw [text, ServiceRoot.url, String.append_empty]
  have rooted : parse (client.root.url "") = .ok address.url := by
    rw [same, address.parse_text]
  rw [resolveLink_descent rooted (address.isDirectory_url parts query), text]

/-- A relative link leads to the service of the root, unless it begins with two slashes. -/
theorem exists_resolveLink_sameService {base : Url} (relative : parse link = .error .missingBase)
    (rooted : parse (client.root.url "") = .ok base) (hierarchical : base.isOpaque = false)
    (noFile : Url.isFileScheme base.scheme = false) (single : ¬ Url.BeginsWithSlashes link) :
    ∃ url : Url, url.SameService base ∧ client.resolveLink link = .ok url.text := by
  obtain ⟨url, joined, service⟩ := Url.exists_join_sameService hierarchical noFile single
  exact ⟨url, service, resolveLink_of_join relative rooted joined⟩

/-- The error of a link that leads nowhere has the cause for a message, and the link is not absolute. -/
theorem invalidUrl_of_resolveLink {error : Error} (nowhere : client.resolveLink link = .error error) :
    (∃ cause : UrlError, error = .invalidUrl cause.message) ∧ ∀ url, parse link ≠ .ok url := by
  refine ⟨?_, fun url parsed => ?_⟩
  · rw [resolveLink] at nowhere
    split at nowhere
    · cases nowhere
    · split at nowhere
      · cases nowhere
      · rename_i cause _
        cases nowhere
        exact ⟨cause, rfl⟩
    · rename_i cause _ _
      cases nowhere
      exact ⟨cause, rfl⟩
  · rw [resolveLink_of_parse parsed] at nowhere
    cases nowhere

/-- Where the links of a client lead. -/
structure ResolvesLinks (client : Client σ) : Prop where
  /-- An absolute link leads to itself. -/
  absolute : ∀ link url, parse link = .ok url → client.resolveLink link = .ok link
  /-- A link that leads down from the root leads to the root with the encoded link behind it. -/
  descending : client.root.IsPlain → ∀ descent : Url.Descent,
    client.resolveLink descent.text =
      .ok (ServiceRoot.trimSlashes client.root.baseUrl ++ "/" ++ descent.encodedText)
  /-- Any relative link leads to the service of the root, unless it begins with two slashes. -/
  beside : ∀ link base, parse link = .error .missingBase → parse (client.root.url "") = .ok base →
    base.isOpaque = false → Url.isFileScheme base.scheme = false → ¬ Url.BeginsWithSlashes link →
    ∃ url : Url, url.SameService base ∧ client.resolveLink link = .ok url.text
  /-- A link that leads nowhere is not absolute, and its error has the cause for a message. -/
  nowhere : ∀ link error, client.resolveLink link = .error error →
    (∃ cause : UrlError, error = .invalidUrl cause.message) ∧ ∀ url, parse link ≠ .ok url

/-- **Where links lead**, absolute, relative and impossible ones. -/
theorem resolvesLinks (client : Client σ) : client.ResolvesLinks where
  absolute _ _ := resolveLink_of_parse
  descending := resolveLink_descent_of_isPlain
  beside _ _ := exists_resolveLink_sameService
  nowhere _ _ := invalidUrl_of_resolveLink

end Client

end ODataClient
