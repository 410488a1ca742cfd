import EndpointPool.Proofs.Endpoint.Credentials
import EndpointPool.Proofs.Endpoint.Naming
import EndpointPool.Proofs.Idna.Plain
import EndpointPool.Proofs.Url.Addresses
import EndpointPool.Proofs.Url.Path

/-!
# The URL of an endpoint, read again

An endpoint that was read from a URL has a URL itself, put together from its scheme, its host, its
port and its path. Read again, the host is the one that was read: addresses are written so that they
are read back, and a lower-case domain name without Punycode is its own ASCII form. With Punycode it
need not be, since longer labels are written than are read (`Idna.maxUncoded`, `Idna.maxCoded`). The
port is shown, so it is the one that was written, also where it is the scheme's own and the reader
of URLs leaves it out. The path has nothing to resolve any more. So the same endpoint is named,
without the header that the credentials made.

## Main definitions

* `Endpoint.ReadAs e host`: an endpoint of which host and path have been read
* `Endpoint.parts e`: the parts of its URL
* `Endpoint.bare e`: the endpoint with the same identity and nothing else

## Main results

* `Host.parse?_writtenHost`: hosts are read again
* `Endpoint.ReadAs.parse?_url`, `Endpoint.ReadAs.writesPort_url`: the parts of the URL, and the port
  that it shows
* `Endpoint.ReadAs.ofUrl_url`: the endpoint of the URL of an endpoint
-/

namespace EndpointPool

open EndpointPool.Idna (IsHostChar forall_ascii)

/-! ### Hosts -/

namespace Host

variable {name written : List Char} {host : Host}

/-- Nothing in the characters of hosts is percent-encoded. -/
theorem domain?_of_isHostChar (h : ∀ c ∈ name, IsHostChar c) :
    domain? name = Idna.domainToAscii? name := by
  have hpercent : '%' ∉ name := fun hmem => absurd (h _ hmem) (by decide)
  have hdecode : Utf8.decode? (Percent.decode name) = some (String.ofList name) := by
    rw [Utf8.decode?_eq_some_iff, String.toList_ofList, Percent.decode_of_not_mem hpercent]
  rw [domain?, hdecode]
  simp only [String.toList_ofList]

/-- Characters of hosts are read as a domain name or an address of version 4. -/
theorem parse?_of_isHostChar (h : ∀ c ∈ name, IsHostChar c) :
    parse? name = parseName? name := by
  unfold parse?
  split
  · exact absurd (h '[' List.mem_cons_self) (by decide)
  · rfl

/-- A name that is its own ASCII form and not the number of an address is read as it is. -/
theorem parse?_name (hchar : ∀ c ∈ name, IsHostChar c)
    (hname : Idna.domainToAscii? name = some name) (hne : name ≠ [])
    (hnumber : Ipv4.endsInNumber name = false) : parse? name = some (.domain name) := by
  rw [parse?_of_isHostChar hchar, parseName?, domain?_of_isHostChar hchar, hname]
  split
  · next hnone => cases hnone
  · next hnil => exact absurd (Option.some.inj hnil) hne
  · next name' _ heq =>
    obtain rfl := Option.some.inj heq
    rw [if_neg (by simp [hnumber])]

theorem isPlain_text_ipv4 (a : Ipv4) : Idna.IsPlain a.text where
  char := by
    intro c hc
    refine ⟨(Ipv4.isHostChar_of_mem_text hc).1, ?_⟩
    rcases Ipv4.of_mem_text hc with rfl | hdigit
    · rfl
    · have hlt := (Ipv4.isHostChar_of_mem_text hc).1.toNat_lt
      revert hdigit
      exact forall_ascii (p := fun c => c.isDigit = true → c.isUpper = false) (by decide) hlt
  label := by
    intro label hlabel
    by_contra hcode
    have hcode : Idna.codeMark <+: label :=
      List.isPrefixOf_iff_prefix.mp ((Bool.not_eq_false _).mp hcode)
    have hx : 'x' ∈ a.text := (Text.of_mem_pieces hlabel).2 _ (hcode.subset List.mem_cons_self)
    rcases Ipv4.of_mem_text hx with hx | hx <;> cases hx

theorem parse?_ipv4 (a : Ipv4) : parse? a.text = some (.ipv4 a) := by
  have hchar : ∀ c ∈ a.text, IsHostChar c := fun c hc => (Ipv4.isHostChar_of_mem_text hc).1
  rw [parse?_of_isHostChar hchar, parseName?, domain?_of_isHostChar hchar,
    (isPlain_text_ipv4 a).domainToAscii?_eq]
  split
  · next hnone => cases hnone
  · next hnil => exact absurd (Option.some.inj hnil ▸ Ipv4.dot_mem_text a) List.not_mem_nil
  · next name _ heq =>
    obtain rfl := Option.some.inj heq
    rw [if_pos (Ipv4.endsInNumber_text a), Ipv4.parse?_text]
    rfl

theorem parse?_ipv6 (a : Ipv6) : parse? ('[' :: (a.text ++ [']'])) = some (.ipv6 a) := by
  rw [parse?, if_pos (by simp), List.dropLast_concat, Ipv6.parse?_text]
  rfl

theorem toList_text_ne_nil (h : parse? written = some host) : host.text.toList ≠ [] := by
  cases host with
  | domain name =>
    rw [text, String.toList_ofList]
    exact (exists_of_parse?_domain h).2.1
  | ipv4 a =>
    rw [text, String.toList_ofList]
    exact List.ne_nil_of_mem (Ipv4.dot_mem_text a)
  | ipv6 a =>
    rw [text, String.toList_ofList]
    exact List.ne_nil_of_mem (Ipv6.colon_mem_text a)

/-- **A host that was read is read again as it is written.** Only of domain names with Punycode or
in upper case it has to be known that they are their own ASCII form. -/
theorem parse?_writtenHost (h : parse? written = some host)
    (hname : ∀ name, host = .domain name → ¬ Idna.IsPlain name →
      Idna.domainToAscii? name = some name) :
    parse? (Endpoint.writtenHost host.text).toList = some host := by
  have hcolon := colon_mem_text_iff h
  rw [Endpoint.toList_writtenHost]
  cases host with
  | domain name =>
    have hascii : Idna.domainToAscii? name = some name := by
      by_cases hplain : Idna.IsPlain name
      · exact hplain.domainToAscii?_eq
      · exact hname name rfl hplain
    obtain ⟨hread, hne, hnumber⟩ := exists_of_parse?_domain h
    rw [if_neg (mt hcolon.mp (by simp)), text, String.toList_ofList]
    exact parse?_name (fun c hc => isHostChar_of_mem_domain? hread hc) hascii hne hnumber
  | ipv4 a =>
    rw [if_neg (mt hcolon.mp (by simp)), text, String.toList_ofList]
    exact parse?_ipv4 a
  | ipv6 a =>
    rw [if_pos (hcolon.mpr ⟨a, rfl⟩), text, String.toList_ofList]
    exact parse?_ipv6 a

end Host

/-! ### Characters of hosts and paths -/

/-- The characters of hosts delimit nothing, and count. -/
theorem plain_of_isHostChar {c : Char} (h : c = ':' ∨ IsHostChar c) :
    ((c ≠ '/' ∧ Url.endsPath c = false) ∧ c ≠ '@' ∧ c ≠ ']') ∧ c ≠ '[' ∧ c ≠ '\\' ∧ ' ' < c := by
  have hlt : c.toNat < 128 := by
    rcases h with rfl | hchar
    · decide
    · exact hchar.toNat_lt
  revert h
  refine forall_ascii (p := fun c => c = ':' ∨ IsHostChar c →
    ((c ≠ '/' ∧ Url.endsPath c = false) ∧ c ≠ '@' ∧ c ≠ ']') ∧ c ≠ '[' ∧ c ≠ '\\' ∧ ' ' < c) ?_ hlt
  decide

/-- The characters of paths do not end them, and count. -/
theorem Path.IsPathChar.plain {c : Char} (h : IsPathChar c) :
    ' ' < c ∧ Url.endsPath c = false := by
  obtain ⟨hvisible, hmark⟩ := (Bool.and_eq_true _ _).mp h.1
  refine ⟨of_decide_eq_true ((Bool.and_eq_true _ _).mp hvisible).1, ?_⟩
  by_contra hends
  simp only [Url.endsPath, Bool.or_eq_true, Bool.not_eq_false, decide_eq_true_eq] at hends
  rcases hends with rfl | rfl <;> exact absurd hmark (by decide)

namespace Endpoint

variable {e : Endpoint} {host : Host} {text : String} {defaultPorts : Bool}

/-! ### The parts of the URL -/

/-- The host and the path of an endpoint have been read. -/
structure ReadAs (e : Endpoint) (host : Host) : Prop where
  host_read : ∃ written, Host.parse? written = some host
  host_eq : e.host = host.text
  path : Path.IsResolved e.pathPrefix
  isNormalPrefix : IsNormalPrefix e.pathPrefix

theorem exists_readAs_of_ofUrl (h : ofUrl text defaultPorts = .ok e) :
    ∃ u, Url.parse? text.toList = some u ∧ e.ReadAs u.host := by
  obtain ⟨u, port, hparse, -, hid⟩ := exists_id_of_ofUrl h
  obtain ⟨-, hhost, -, hpath⟩ := Identity.mk.inj hid
  obtain ⟨authority, tail, -, hread⟩ := Url.exists_isRead_of_parse? hparse
  refine ⟨u, hparse, ⟨_, hread.host⟩, hhost, ?_, ?_⟩
  · rw [hpath, ← hread.path]
    exact (Path.isResolved_parse _).normalizePrefix
  · rw [hpath]
    exact isNormalPrefix_normalizePrefix u.path

/-- The parts of the URL of an endpoint. -/
def parts (e : Endpoint) : Url.Parts where
  name := e.scheme.name.toList
  user := none
  bracketed := decide (':' ∈ e.host.toList)
  host := e.host.toList
  port := some (Decimal.digits e.port.toNat)
  tail := e.pathPrefix.toList

theorem writtenHost_parts (e : Endpoint) :
    e.parts.writtenHost = (writtenHost e.host).toList := by
  rw [toList_writtenHost, Url.Parts.writtenHost]
  simp [parts]

theorem authority_parts (e : Endpoint) :
    e.parts.authority = (writtenHost e.host).toList ++ ':' :: Decimal.digits e.port.toNat := by
  rw [Url.Parts.authority_of_user_eq_none rfl, writtenHost_parts]
  rfl

theorem text_parts (e : Endpoint) : e.parts.text = e.url.toList := by
  rw [Url.Parts.text_eq, authority_parts, toList_url]
  simp [parts]

theorem ReadAs.of_mem_host (h : e.ReadAs host) {c : Char} (hc : c ∈ e.host.toList) :
    c = ':' ∨ IsHostChar c := by
  obtain ⟨written, hread⟩ := h.host_read
  exact Host.of_mem_text hread (h.host_eq ▸ hc)

theorem ReadAs.of_mem_authority (h : e.ReadAs host) {c : Char} (hc : c ∈ e.parts.authority) :
    c ≠ '\\' ∧ ' ' < c := by
  rw [Url.Parts.authority_of_user_eq_none rfl] at hc
  rcases List.mem_append.mp hc with hc | hc
  -- the host, perhaps in brackets
  · rcases Url.Parts.of_mem_writtenHost hc with ⟨-, rfl | rfl⟩ | hc
    · decide
    · decide
    · exact (plain_of_isHostChar (h.of_mem_host hc)).2.2
  -- the port behind its colon
  · rcases List.mem_cons.mp hc with rfl | hc
    · decide
    · have hdigit := Decimal.isDigit_of_mem_digits hc
      exact (plain_of_isHostChar (.inr (Decimal.isHostChar_of_isDigit hdigit))).2.2

/-- The URL of an endpoint can be taken apart. -/
theorem ReadAs.plain_parts (h : e.ReadAs host) : e.parts.Plain where
  name := by
    intro hin
    exact Scheme.colon_not_mem_name e.scheme (hin.subset List.mem_cons_self)
  user := nofun
  host := fun c hc => (plain_of_isHostChar (h.of_mem_host hc)).1
  colon := of_decide_eq_false
  port := by
    intro digits hdigits c hc
    obtain rfl := Option.some.inj hdigits
    exact Decimal.isDigit_of_mem_digits hc
  tail := by
    intro c hc
    rcases h.isNormalPrefix with hnil | ⟨d, rest, hpath, -⟩
    · simp [parts, hnil] at hc
    · simp only [parts, hpath, List.head?_cons, Option.mem_def, Option.some.injEq] at hc
      exact .inl hc.symm
  visible := by
    intro c hc
    rw [Url.Parts.text_eq] at hc
    rcases List.mem_append.mp hc with hname | hc
    · have hall : e.parts.name.all (fun c => ' ' < c) = true := by
        show e.scheme.name.toList.all (fun c => ' ' < c) = true
        cases e.scheme <;> decide
      exact of_decide_eq_true (List.all_eq_true.mp hall c hname)
    · simp only [List.mem_cons, List.mem_append] at hc
      rcases hc with rfl | rfl | rfl | hc | hc
      · decide
      · decide
      · decide
      · exact (h.of_mem_authority hc).2
      · exact (h.path.char c hc).plain.1
  name_colon := Scheme.colon_not_mem_name e.scheme
  backslash := fun hmem => (h.of_mem_authority hmem).1 rfl
  bracket := fun hmem => (plain_of_isHostChar (h.of_mem_host hmem)).2.1 rfl
  host_ne := by
    obtain ⟨written, hread⟩ := h.host_read
    have hne : e.host.toList ≠ [] := h.host_eq ▸ Host.toList_text_ne_nil hread
    unfold Url.Parts.writtenHost
    split
    · exact List.cons_ne_nil _ _
    · exact hne

/-- The port shows in the URL of an endpoint. -/
theorem ReadAs.writesPort_url (h : e.ReadAs host) : Url.writesPort e.url.toList = true := by
  rw [← text_parts, h.plain_parts.writesPort_text]
  rfl

theorem readPort?_digits (scheme : Scheme) (port : UInt16) :
    Url.readPort? scheme (some (Decimal.digits port.toNat)) =
      some (if port = scheme.defaultPort then none else some port) := by
  have hfits : ¬ 65536 ≤ port.toNat := Nat.not_le.mpr port.toNat_lt
  unfold Url.readPort?
  split
  · next hnone => cases hnone
  · next hnil => exact absurd (Option.some.inj hnil) (Decimal.digits_ne_nil _)
  · next digits _ hdigits =>
    obtain rfl := Option.some.inj hdigits
    simp only [Decimal.read?_digits, if_neg hfits, UInt16.ofNat_toNat]
    split <;> rfl

/-- **The URL of an endpoint is read part by part**, and hides the scheme's own port. -/
theorem ReadAs.parse?_url (h : e.ReadAs host)
    (hhost : Host.parse? (writtenHost host.text).toList = some host) :
    Url.parse? e.url.toList =
      some {
        scheme := e.scheme
        username := []
        password := none
        host
        port := if e.port = e.scheme.defaultPort then none else some e.port
        path := Path.parse e.pathPrefix.toList } := by
  have hplain := h.plain_parts
  have hclean : Url.clean e.url.toList = e.parts.text := by rw [← text_parts, hplain.clean_text]
  have huser := hplain.splitUser_of_user_eq_none rfl
  have hpath : e.pathPrefix.toList.takeWhile (fun c => !Url.endsPath c) = e.pathPrefix.toList := by
    apply List.takeWhile_eq_self_iff.mpr
    intro c hc
    simp [(h.path.char c hc).plain.2]
  apply (hplain.readable.parse?_eq_some_iff hclean).mpr
  exact {
    scheme := by
      show Url.namedScheme? e.scheme.name.toList = some e.scheme
      cases e.scheme <;> decide
    username := by rw [huser]
    password := by rw [huser]
    host := by rw [writtenHost_parts, h.host_eq, hhost]
    port := readPort?_digits e.scheme e.port
    path := congrArg Path.parse hpath }

/-! ### Reading again -/

/-- The endpoint with the same identity and the default parameters. -/
def bare (e : Endpoint) : Endpoint :=
  { new e.scheme e.host e.port with pathPrefix := e.pathPrefix }

/-- The endpoint of the URL of an endpoint, if the host is read again. -/
theorem ReadAs.ofUrl_url (h : e.ReadAs host)
    (hhost : Host.parse? (writtenHost host.text).toList = some host) (defaultPorts : Bool) :
    ofUrl e.url defaultPorts = .ok e.bare := by
  refine ofUrl_eq_ok_iff.mpr ⟨_, e.port, none, h.parse?_url hhost, ?_, ?_, ?_⟩
  · rw [Url.portOf?_of_writesPort h.writesPort_url]
    -- the port that is left out is the scheme's own
    split
    · next hown => rw [hown, Option.getD_none]
    · rfl
  · exact Url.credentials?_of_nil rfl rfl
  · show { new e.scheme host.text e.port with
      pathPrefix := normalizePrefix (Path.parse e.pathPrefix.toList) } = e.bare
    rw [h.path.normalizePrefix_parse h.isNormalPrefix, ← h.host_eq]
    rfl

/-- **The URL of an endpoint that was read from a URL names the same endpoint**, whether or not a
port may be left out, and makes no header. Only of a domain name in upper case or with Punycode it
has to be known that it is its own ASCII form. -/
theorem ofUrl_url_of_ofUrl (h : ofUrl text defaultPorts = .ok e)
    (hname : ∀ u name, Url.parse? text.toList = some u → u.host = .domain name →
      ¬ Idna.IsPlain name → Idna.domainToAscii? name = some name) (defaultPorts' : Bool) :
    ofUrl e.url defaultPorts' = .ok e.bare ∧ e.bare.id = e.id ∧ e.bare.headers = .empty ∧
      e.bare.url = e.url := by
  obtain ⟨u, hparse, hread⟩ := exists_readAs_of_ofUrl h
  obtain ⟨written, hwritten⟩ := hread.host_read
  have hhost := Host.parse?_writtenHost hwritten fun name => hname u name hparse
  exact ⟨hread.ofUrl_url hhost defaultPorts', rfl, rfl, rfl⟩

/-- An address in brackets with the scheme's own port, and a domain name with a colon in the path
behind it. -/
theorem ofUrl_url_shown :
    let e := { new .https "::1" 443 with
      pathPrefix := "/b"
      headers := NameMap.empty.insert Credentials.headerName "Basic dTpw" }
    let e' := { new .http "es.local" 80 with pathPrefix := "/a:b" }
    ofUrl "HTTPS://u:p@[0:0::1]:443//a/../b/?q" false = .ok e ∧ e.url = "https://[::1]:443/b" ∧
      (∀ defaultPorts, ofUrl e.url defaultPorts = .ok { e with headers := .empty }) ∧
      ofUrl "http://es.local:80/a:b" false = .ok e' ∧ e'.url = "http://es.local:80/a:b" ∧
      ∀ defaultPorts, ofUrl e'.url defaultPorts = .ok e' := by
  intro e e'
  have h : ofUrl "HTTPS://u:p@[0:0::1]:443//a/../b/?q" false = .ok e := by decide +kernel
  have haddress : (Url.parse? "HTTPS://u:p@[0:0::1]:443//a/../b/?q".toList).all
      (fun u => match u.host with | .domain _ => false | _ => true) = true := by decide +kernel
  have hplain : Idna.IsPlain "es.local".toList := by decide
  have hname : Host.parse? "es.local".toList = some (.domain "es.local".toList) :=
    Host.parse?_name (fun c hc => (hplain.char c hc).1) hplain.domainToAscii?_eq (by decide)
      (by decide)
  have hparse : Path.parse "/a:b".toList = "/a:b" := by decide +kernel
  have hpath : Path.IsResolved "/a:b" := by
    have hresolved := Path.isResolved_parse "/a:b".toList
    rwa [hparse] at hresolved
  have hread : e'.ReadAs (.domain "es.local".toList) :=
    ⟨⟨_, hname⟩, String.ofList_toList.symm, hpath, isNormalPrefix_normalizePrefix "/a:b"⟩
  have hwritten : Host.parse? (writtenHost (Host.domain "es.local".toList).text).toList =
      some (.domain "es.local".toList) :=
    Host.parse?_writtenHost hname fun name heq hcoded =>
      absurd (Host.domain.inj heq ▸ hplain) hcoded
  have hurl' : e'.url = "http://es.local:80/a:b" := by decide +kernel
  have h' : ofUrl "http://es.local:80/a:b" false = .ok e' :=
    hurl' ▸ hread.ofUrl_url hwritten false
  refine ⟨h, by decide +kernel, fun g => (ofUrl_url_of_ofUrl h ?_ g).1, h', hurl',
    fun g => (ofUrl_url_of_ofUrl h' ?_ g).1⟩
  · intro u name hparse hhost
    rw [hparse, Option.all_some, hhost] at haddress
    cases haddress
  · intro u name hparse hhost hcoded
    rw [← hurl', hread.parse?_url hwritten] at hparse
    cases hparse
    exact absurd (Host.domain.inj hhost ▸ hplain) hcoded

end Endpoint

end EndpointPool
