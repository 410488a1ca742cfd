import EndpointPool.Proofs.Endpoint.Obtaining
import EndpointPool.Proofs.Url.Hosts
import EndpointPool.Proofs.Url.Authority

/-!
# What a URL makes of an endpoint

The endpoint of a URL has the scheme, the host, the port and the path that are read, and the header
of its credentials; nothing else of it differs from the defaults. So the check at the end has
nothing to refuse, and the host is written as the reader of hosts writes it.

## Main results

* `Endpoint.ofUrl_eq_ok_iff`: the URLs that have an endpoint, and which
* `Endpoint.exists_id_of_ofUrl`, `Endpoint.exists_host_of_ofUrl`: the identity of an endpoint from
  a URL is what is read
-/

namespace EndpointPool

namespace Endpoint

variable {text : String} {defaultPorts : Bool} {e : Endpoint}

/-- Settings of a path and of a header are never refused. -/
theorem revise_urlSettings (scheme : Scheme) (host : String) (port : UInt16) (path : String)
    (credentials : Option Credentials) :
    (new scheme host port).revise (urlSettings path credentials) =
      .ok ((urlSettings path credentials).foldl set (new scheme host port)) := by
  apply (checked_eq_ok_iff _ _).mpr
  refine ⟨rfl, (defect?_eq_none_iff _).mpr ?_⟩
  cases credentials with
  | none => exact ⟨show (0 : UInt64) < 10 by decide, fun _ => rfl⟩
  | some c => exact ⟨show (0 : UInt64) < 10 by decide, fun _ => rfl⟩

/-- **The endpoint of a URL**: what is read, a port for it, and its credentials. -/
theorem ofUrl_eq_ok_iff :
    ofUrl text defaultPorts = .ok e ↔
      ∃ u port credentials, Url.parse? text.toList = some u ∧
        u.portOf? text.toList defaultPorts = some port ∧ u.credentials? = .ok credentials ∧
          (urlSettings u.path credentials).foldl set (new u.scheme u.host.text port) = e := by
  constructor
  · intro h
    unfold ofUrl at h
    split at h
    · cases h
    · next u hparse =>
      split at h
      · cases h
      · cases h
      · next port credentials hport hcredentials =>
        rw [revise_urlSettings] at h
        exact ⟨u, port, credentials, hparse, hport, hcredentials, Except.ok.inj h⟩
  · rintro ⟨u, port, credentials, hparse, hport, hcredentials, rfl⟩
    unfold ofUrl
    rw [hparse]
    simp only [hport, hcredentials, revise_urlSettings]

/-- The settings of a URL leave the address, and set the path. -/
theorem id_foldl_urlSettings (path : String) (credentials : Option Credentials) :
    ((urlSettings path credentials).foldl set e).id =
      ⟨e.scheme, e.host, e.port, normalizePrefix path⟩ := by
  cases credentials <;> rfl

/-- The identity of an endpoint from a URL is what is read. -/
theorem exists_id_of_ofUrl (h : ofUrl text defaultPorts = .ok e) :
    ∃ u port, Url.parse? text.toList = some u ∧
      u.portOf? text.toList defaultPorts = some port ∧
        e.id = ⟨u.scheme, u.host.text, port, normalizePrefix u.path⟩ := by
  obtain ⟨u, port, credentials, hparse, hport, -, rfl⟩ := ofUrl_eq_ok_iff.mp h
  exact ⟨u, port, hparse, hport, id_foldl_urlSettings u.path credentials⟩

/-- The host of an endpoint from a URL is one that is read. -/
theorem exists_host_of_ofUrl (h : ofUrl text defaultPorts = .ok e) :
    ∃ written host, Host.parse? written = some host ∧ e.host = host.text := by
  obtain ⟨u, port, hparse, -, hid⟩ := exists_id_of_ofUrl h
  obtain ⟨authority, tail, -, hread⟩ := Url.exists_isRead_of_parse? hparse
  exact ⟨_, u.host, hread.host, congrArg Identity.host hid⟩

end Endpoint

end EndpointPool
