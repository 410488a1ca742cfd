import EndpointPool.Proofs.Endpoint.Url
import EndpointPool.Proofs.Url.Credentials

/-!
# Credentials from a URL

The credentials that a URL carries are the ones that were put into it: they are escaped once and
decoded once, and the header is made of what was there before. Its Base64 code gives them back, and
two pairs share a header only if a colon moves from one name to the password of the other. Bytes
that are no text are refused, and a URL without a user has no header.

## Main definitions

* `Credentials.bytes c`: the bytes that the header carries
* `Endpoint.Carries w`: what becomes of credentials that are put into a URL

## Main results

* `Credentials.exists_decode?_header`, `Credentials.eq_of_header_eq`: what the header tells
* `Endpoint.headers_of_ofUrl`: a URL without an at sign in its authority has no header
* `Endpoint.credentials_carried`: credentials survive the URL
-/

namespace EndpointPool

/-! ### The header -/

namespace Credentials

/-- The bytes of the name, a colon and the password. -/
def bytes (c : Credentials) : List UInt8 :=
  Utf8.encode c.username.toList ++ 58 :: Utf8.encode c.password.toList

theorem encode_joined (c : Credentials) :
    Utf8.encode (c.username.toList ++ ':' :: c.password.toList) = c.bytes := by
  have hcolon : String.utf8EncodeChar ':' = [58] := by decide
  simp [Utf8.encode, bytes, hcolon]

/-- **The header is `Basic` and the Base64 code of the bytes.** -/
theorem exists_decode?_header (c : Credentials) :
    ∃ code, c.header = "Basic " ++ String.ofList code ∧ Base64.decode? code = some c.bytes := by
  refine ⟨Base64.encode c.bytes, ?_, Base64.decode?_of_spells (Base64.spells_encode _)⟩
  rw [header, encode_joined]

/-- **Credentials without a colon in the name do not share a header.** -/
theorem eq_of_header_eq {c c' : Credentials} (h : ':' ∉ c.username.toList)
    (h' : ':' ∉ c'.username.toList) (heq : c.header = c'.header) : c = c' := by
  have hcode : Base64.encode c.bytes = Base64.encode c'.bytes := by
    rw [header, header, encode_joined, encode_joined, ← String.toList_inj] at heq
    simpa using heq
  have hbytes : c.bytes = c'.bytes := by
    have hread := Base64.decode?_of_spells (Base64.spells_encode c.bytes)
    rw [hcode, Base64.decode?_of_spells (Base64.spells_encode c'.bytes)] at hread
    exact (Option.some.inj hread).symm
  -- the bytes determine the text, which is cut at its first colon
  have htext : String.ofList (c.username.toList ++ ':' :: c.password.toList) =
      String.ofList (c'.username.toList ++ ':' :: c'.password.toList) := by
    apply Utf8.encode_injective
    rw [String.toList_ofList, String.toList_ofList, encode_joined, encode_joined, hbytes]
  rw [String.ofList_inj, Text.append_cons_inj h h'] at htext
  obtain ⟨husername, hpassword⟩ := htext
  obtain ⟨username, password⟩ := c
  obtain ⟨username', password'⟩ := c'
  obtain rfl : username = username' := String.toList_inj.mp husername
  obtain rfl : password = password' := String.toList_inj.mp hpassword
  rfl

end Credentials

/-! ### The credentials of a URL -/

namespace Url

variable {u : Url} {username password written : List Char} {bytes : List UInt8}

/-- Escaped bytes are decoded to their text, if they have one. -/
theorem decodeText_of_escapes (h : Percent.Escapes written bytes) :
    decodeText written =
      match Utf8.decode? bytes with
      | some text => .ok text
      | none => .error .credentialsNotUtf8 := by
  obtain rfl := h.decode_eq
  rfl

/-- A URL without a user has no credentials. -/
theorem credentials?_of_nil (husername : u.username = []) (hpassword : u.password = none) :
    u.credentials? = .ok none := by
  rw [credentials?, husername, hpassword]
  rfl

/-- A user of whom anything is written has credentials, if both parts can be decoded. -/
theorem credentials?_of_ne_nil (h : username ≠ [] ∨ password ≠ []) :
    ({ u with username, password := if password.isEmpty then none else some password } :
      Url).credentials? =
      match decodeText username, decodeText password with
      | .ok username, .ok password => .ok (some ⟨username, password⟩)
      | .error fault, _ => .error fault
      | _, .error fault => .error fault := by
  have hgetD : (if password.isEmpty then none else some password).getD [] = password := by
    cases password <;> rfl
  have hwritten : ¬ (username.isEmpty &&
      (if password.isEmpty then none else some password).isNone) = true := by
    cases username with
    | cons => exact Bool.false_ne_true
    | nil =>
      cases password with
      | cons => exact Bool.false_ne_true
      | nil => simp at h
  rw [credentials?, hgetD]
  exact if_neg hwritten

/-- Where the text shows a port, there is one for the endpoint. -/
theorem portOf?_of_writesPort {text : List Char} (h : writesPort text = true)
    (defaultPorts : Bool) :
    u.portOf? text defaultPorts = some (u.port.getD u.scheme.defaultPort) := by
  unfold portOf?
  cases u.port with
  | some port => rfl
  | none => simp [h]

end Url

namespace Endpoint

/-- A URL without an at sign in its authority makes no header. -/
theorem headers_of_ofUrl {text : String} {defaultPorts : Bool} {e : Endpoint}
    {authority : List Char} (hauthority : Url.authority? text.toList = some authority)
    (hat : '@' ∉ authority) (h : ofUrl text defaultPorts = .ok e) : e.headers = .empty := by
  obtain ⟨u, port, credentials, hparse, -, hcredentials, rfl⟩ := ofUrl_eq_ok_iff.mp h
  obtain ⟨authority', tail, hauthority', hread⟩ := Url.exists_isRead_of_parse? hparse
  obtain rfl := Option.some.inj (hauthority.symm.trans hauthority')
  have husername := hread.username
  have hpassword := hread.password
  rw [Url.splitUser, Text.cutLast?_of_not_mem hat] at husername hpassword
  rw [Url.credentials?_of_nil husername.symm hpassword.symm] at hcredentials
  cases hcredentials
  rfl

/-- What becomes of credentials that are put into a URL, which has none. -/
structure Carries (w : Url.Parts) : Prop where
  /-- Without credentials the URL has an endpoint without headers. -/
  without : ∀ defaultPorts, ∃ e, ofUrl (String.ofList w.text) defaultPorts = .ok e ∧
    e.headers.entries = []
  /-- Credentials that are escaped add their header to it, and nothing else. -/
  carried : ∀ (c : Credentials) (username password : List Char), c.username ≠ "" →
    Percent.Escapes username (Utf8.encode c.username.toList) →
    Percent.Escapes password (Utf8.encode c.password.toList) →
    ∀ defaultPorts e, ofUrl (String.ofList w.text) defaultPorts = .ok e →
      ∃ e', ofUrl (String.ofList (w.withUser username password).text) defaultPorts = .ok e' ∧
        e' = e.set (.header Credentials.headerName c.header) ∧
        e'.headers.entries = [(Credentials.headerName, c.header)]
  /-- Bytes that are no text are refused. -/
  refused : ∀ (username password : List Char) (bytes bytes' : List UInt8),
    Percent.Escapes username bytes → Percent.Escapes password bytes' →
    Utf8.decode? bytes = none ∨ Utf8.decode? bytes' = none →
    ∀ defaultPorts, ofUrl (String.ofList (w.withUser username password).text) defaultPorts =
      .error .credentialsNotUtf8

section Carried

variable {w : Url.Parts} (hw : w.Readable) (huser : w.user = none) (hport : w.port.isSome = true)
  {u : Url} (hparse : Url.parse? w.text = some u)

include hw huser hport hparse

/-- The endpoint of a URL without a user. -/
theorem ofUrl_without (defaultPorts : Bool) :
    ofUrl (String.ofList w.text) defaultPorts =
      .ok ((new u.scheme u.host.text (u.port.getD u.scheme.defaultPort)).set
        (.pathPrefix u.path)) := by
  have hwrites : Url.writesPort w.text = true := hw.writesPort_text.trans hport
  obtain ⟨husername, hpassword⟩ := hw.user_of_parse? huser hport hparse
  apply ofUrl_eq_ok_iff.mpr
  rw [String.toList_ofList]
  exact ⟨u, _, none, hparse, Url.portOf?_of_writesPort hwrites defaultPorts,
    Url.credentials?_of_nil husername hpassword, rfl⟩

/-- What becomes of a user that is put into it depends on what the two parts decode to. -/
theorem ofUrl_withUser {username password : List Char} {bytes bytes' : List UInt8}
    (husername : Percent.Escapes username bytes) (hpassword : Percent.Escapes password bytes')
    (hne : username ≠ [] ∨ password ≠ []) (defaultPorts : Bool) :
    ofUrl (String.ofList (w.withUser username password).text) defaultPorts =
      match Utf8.decode? bytes, Utf8.decode? bytes' with
      | some name, some secret =>
        .ok (((new u.scheme u.host.text (u.port.getD u.scheme.defaultPort)).set
          (.pathPrefix u.path)).set
            (.header Credentials.headerName (Credentials.header ⟨name, secret⟩)))
      | _, _ => .error .credentialsNotUtf8 := by
  have hwith : (w.withUser username password).Readable :=
    hw.withUser (fun _ => husername.of_mem) (fun _ => hpassword.of_mem)
  have hwrites : Url.writesPort (w.withUser username password).text = true :=
    hwith.writesPort_text.trans hport
  have hread := hw.parse?_withUser (fun _ => husername.of_mem) (fun _ => hpassword.of_mem) huser
    hport hparse
  have hcredentials := Url.credentials?_of_ne_nil (u := u) hne
  rw [Url.decodeText_of_escapes husername, Url.decodeText_of_escapes hpassword] at hcredentials
  unfold ofUrl
  rw [String.toList_ofList, hread]
  simp only [Url.portOf?_of_writesPort hwrites, hcredentials]
  cases Utf8.decode? bytes with
  | none => rfl
  | some name =>
    cases Utf8.decode? bytes' with
    | none => rfl
    | some secret => exact revise_urlSettings _ _ _ _ _

theorem carries : Carries w where
  without := by
    intro defaultPorts
    exact ⟨_, ofUrl_without hw huser hport hparse defaultPorts, rfl⟩
  carried := by
    intro c username password hname husername hpassword defaultPorts e he
    rw [ofUrl_without hw huser hport hparse] at he
    obtain rfl := Except.ok.inj he
    have hne : username ≠ [] := by
      intro hnil
      -- nothing is written for no bytes only, and only the empty text has none
      have hbytes := husername.eq_nil_iff.mp hnil
      exact hname (Utf8.encode_injective (t := "") hbytes)
    refine ⟨_, ?_, rfl, rfl⟩
    rw [ofUrl_withUser hw huser hport hparse husername hpassword (.inl hne),
      Utf8.decode?_eq_some_iff.mpr rfl, Utf8.decode?_eq_some_iff.mpr rfl]
  refused := by
    intro username password bytes bytes' husername hpassword hbytes defaultPorts
    have hnil : Utf8.decode? [] = some "" := Utf8.decode?_eq_some_iff.mpr rfl
    have hne : username ≠ [] ∨ password ≠ [] := by
      by_contra hboth
      obtain ⟨hname, hsecret⟩ := not_or.mp hboth
      rw [husername.eq_nil_iff.mp (not_not.mp hname), hpassword.eq_nil_iff.mp (not_not.mp hsecret),
        hnil, or_self] at hbytes
      cases hbytes
    rw [ofUrl_withUser hw huser hport hparse husername hpassword hne]
    rcases hbytes with hbytes | hbytes
    · rw [hbytes]
    · rw [hbytes]
      cases Utf8.decode? bytes <;> rfl

end Carried

/-- **Credentials survive the URL**: they add their header to the endpoint, from which they can be
read back; two pairs without colons in the names do not share a header; bytes that are no text are
refused; and a URL without a user has no header. -/
theorem credentials_carried {w : Url.Parts} (hw : w.Readable) (huser : w.user = none)
    (hport : w.port.isSome = true) (hparse : (Url.parse? w.text).isSome = true) :
    Carries w ∧
      (∀ c : Credentials, ∃ code, c.header = "Basic " ++ String.ofList code ∧
        Base64.decode? code = some c.bytes) ∧
      (∀ c c' : Credentials, ':' ∉ c.username.toList → ':' ∉ c'.username.toList →
        c.header = c'.header → c = c') ∧
      ∀ (text : String) (authority : List Char) (defaultPorts : Bool) (e : Endpoint),
        Url.authority? text.toList = some authority → '@' ∉ authority →
          ofUrl text defaultPorts = .ok e → e.headers = .empty := by
  obtain ⟨u, hread⟩ := Option.isSome_iff_exists.mp hparse
  refine ⟨carries hw huser hport hread, Credentials.exists_decode?_header, ?_, ?_⟩
  · intro c c' h h' heq
    exact Credentials.eq_of_header_eq h h' heq
  · intro text authority defaultPorts e hauthority hat h
    exact headers_of_ofUrl hauthority hat h

/-- A URL whose parts all have something of which a URL is read without it. -/
def spaced : Url.Parts where
  name := " HTTPS".toList
  user := none
  bracketed := true
  host := ":\t:1".toList
  port := some "443".toList
  tail := "/a:b@c d? ".toList

theorem readable_spaced : spaced.Readable where
  name := by decide
  user := nofun
  host := by simp [spaced, Url.endsPath]
  colon := nofun
  port := by simp [spaced, Char.isDigit]
  tail := by simp [spaced, Url.endsPath]
  name_colon := by decide
  backslash := by decide
  bracket := by decide
  authority_ne := by decide

/-- A name and a password of characters that have a meaning in URLs. -/
theorem credentials_carried_spaced :
    let c : Credentials := ⟨"ü@", "p:/%"⟩
    spaced.Readable ∧ (Url.parse? spaced.text).isSome = true ∧ Carries spaced ∧
      (spaced.withUser (Percent.encode Char.isAlphanum c.username.toList)
        (Percent.encode Char.isAlphanum c.password.toList)).text =
        " HTTPS://%C3%BC%40:p%3A%2F%25@[:\t:1]:443/a:b@c d? ".toList ∧
      c.header = "Basic w7xAOnA6LyU=" ∧
      ∃ e, ofUrl " HTTPS://%C3%BC%40:p%3A%2F%25@[:\t:1]:443/a:b@c d? " false = .ok e ∧
        e.headers.entries = [("authorization", c.header)] := by
  intro c
  have haccepted : (Url.parse? spaced.text).isSome = true := by decide +kernel
  have hcarries := (credentials_carried readable_spaced rfl rfl haccepted).1
  have htext : (spaced.withUser (Percent.encode Char.isAlphanum c.username.toList)
      (Percent.encode Char.isAlphanum c.password.toList)).text =
      " HTTPS://%C3%BC%40:p%3A%2F%25@[:\t:1]:443/a:b@c d? ".toList := by decide +kernel
  refine ⟨readable_spaced, haccepted, hcarries, htext, by decide +kernel, ?_⟩
  obtain ⟨e, he, -⟩ := hcarries.without false
  obtain ⟨e', he', -, hheaders⟩ := hcarries.carried c _ _ (by decide)
    (Percent.escapes_encode c.username.toList) (Percent.escapes_encode c.password.toList) false e he
  rw [htext, String.ofList_toList] at he'
  exact ⟨e', he', hheaders⟩

end Endpoint

end EndpointPool
