import EndpointPool.Proofs.Endpoint.Url

/-!
# The port of an endpoint from a URL

A URL that is to write its port is accepted if its authority spells one. Where it spells none, all
depends on a colon that the raw text shows where it expects a port: with that the scheme's own port
stands in, and without it the URL is refused. In a URL put together from its parts that colon is the
one before the port, so there a port can only stand in for digits that are left out behind it. In
any other text the colon may be one that is not in the authority at all.

## Main definitions

* `Endpoint.PortRead text`: where the port of an endpoint comes from

## Main results

* `Endpoint.portRead`: where the port of every accepted URL comes from
* `Endpoint.portRead_crowded`: a URL of all the parts
* `Endpoint.ofUrl_unspelled`: URLs that are accepted although no port is spelled
-/

namespace EndpointPool.Endpoint

/-- Where the port comes from that an endpoint has from a URL which is to write it. -/
structure PortRead (text : String) : Prop where
  /-- It is spelled, or it is the scheme's own and the raw text shows a colon for it. -/
  accepted : ∀ e, ofUrl text false = .ok e →
    ∃ authority, Url.authority? text.toList = some authority ∧
      (Url.SpellsPort authority e.port.toNat ∨
        Url.SpellsNoPort authority ∧ Url.writesPort text.toList = true ∧
          e.port = e.scheme.defaultPort)
  /-- Where none is spelled, that colon decides. -/
  unspelled : ∀ authority, Url.authority? text.toList = some authority →
    Url.SpellsNoPort authority →
      ofUrl text false =
        if Url.writesPort text.toList then ofUrl text true else .error .urlIncomplete
  /-- In a text put together from its parts the port is the one put there, or it has no digits. -/
  plain : ∀ w : Url.Parts, w.Plain → text.toList = w.text → ∀ e, ofUrl text false = .ok e →
    ∃ digits, w.port = some digits ∧ (digits ≠ [] → e.port.toNat = Decimal.value digits) ∧
      (digits = [] → e.port = e.scheme.defaultPort)

variable {text : String} {defaultPorts : Bool} {e : Endpoint}

/-- The port of an accepted URL is spelled, or the scheme's own stands in. -/
theorem port_of_ofUrl (h : ofUrl text false = .ok e) :
    ∃ authority, Url.authority? text.toList = some authority ∧
      (Url.SpellsPort authority e.port.toNat ∨
        Url.SpellsNoPort authority ∧ Url.writesPort text.toList = true ∧
          e.port = e.scheme.defaultPort) := by
  obtain ⟨u, port, hparse, hport, hid⟩ := exists_id_of_ofUrl h
  obtain ⟨hscheme, -, rfl, -⟩ := Identity.mk.inj hid
  obtain ⟨authority, tail, hauthority, hread⟩ := Url.exists_isRead_of_parse? hparse
  refine ⟨authority, hauthority, ?_⟩
  unfold Url.portOf? at hport
  rw [Bool.false_or] at hport
  rcases Url.spells_of_readPort? hread.port with ⟨hnone, hunspelled⟩ | hspelled
  · right
    rw [hnone] at hport
    simp only [Option.ite_none_right_eq_some, Option.some.injEq] at hport
    obtain ⟨hwrites, hown⟩ := hport
    exact ⟨hunspelled, hwrites, by rw [← hown, hscheme]⟩
  · left
    split at hport
    · next port hsome =>
      cases hport
      rwa [hsome] at hspelled
    · next hnone =>
      simp only [Option.ite_none_right_eq_some, Option.some.injEq] at hport
      rwa [hnone, Option.getD_none, hport.2] at hspelled

/-- Where no port is spelled, the scheme's own may be left out if the raw text shows a colon. -/
theorem ofUrl_of_spellsNoPort {authority : List Char} (h : Url.SpellsNoPort authority)
    (hauthority : Url.authority? text.toList = some authority) :
    ofUrl text false =
      if Url.writesPort text.toList then ofUrl text true else .error .urlIncomplete := by
  unfold ofUrl
  cases hparse : Url.parse? text.toList with
  | none =>
    simp only
    split <;> rfl
  | some u =>
    have hport := h.port_eq_none hauthority hparse
    simp only [Url.portOf?, hport, Bool.false_or, Bool.true_or, if_true]
    cases Url.writesPort text.toList with
    | true => rfl
    | false => rfl

/-- **Where the port of an endpoint comes from.** -/
theorem portRead (text : String) : PortRead text where
  accepted := fun _ h => port_of_ofUrl h
  unspelled := fun _ hauthority hunspelled => ofUrl_of_spellsNoPort hunspelled hauthority
  plain := by
    intro w hw htext e h
    obtain ⟨authority, hauthority, hport⟩ := port_of_ofUrl h
    rw [htext] at hauthority hport
    obtain rfl := hw.eq_authority hauthority
    rcases hport with ⟨digits, hdigits, hne, -, hvalue⟩ | ⟨hunspelled, hwrites, hown⟩
    · rw [hw.portText?_authority] at hdigits
      exact ⟨digits, hdigits, fun _ => hvalue.symm, fun hnil => absurd hnil hne⟩
    · rw [hw.writesPort_text] at hwrites
      obtain ⟨digits, hdigits⟩ := Option.isSome_iff_exists.mp hwrites
      rw [Url.SpellsNoPort, hw.portText?_authority, hdigits] at hunspelled
      rcases hunspelled with hnone | hnil
      · cases hnone
      · cases hnil
        exact ⟨[], hdigits, fun hne => absurd rfl hne, fun _ => hown⟩

/-- A URL of all the parts. -/
def crowded : Url.Parts where
  name := "https".toList
  user := some "u:p@x".toList
  bracketed := true
  host := "::1".toList
  port := some "9200".toList
  tail := "/a:b?c@d:1".toList

theorem plain_crowded : crowded.Plain where
  name := by decide
  user := by simp [crowded, Url.endsPath]
  host := by simp [crowded, Url.endsPath]
  colon := nofun
  port := by simp [crowded, Char.isDigit]
  tail := by simp [crowded, Url.endsPath]
  visible := by
    simp [crowded, Url.Parts.text, Url.Parts.authority, Url.Parts.writtenHost,
      Url.Parts.writtenPort]
  name_colon := by decide
  backslash := by decide
  bracket := by decide
  host_ne := by decide

/-- Its port is the one put there. -/
theorem portRead_crowded :
    crowded.Plain ∧ "https://u:p@x@[::1]:9200/a:b?c@d:1".toList = crowded.text ∧
      ∃ e, ofUrl "https://u:p@x@[::1]:9200/a:b?c@d:1" false = .ok e ∧ e.port.toNat = 9200 := by
  have htext : "https://u:p@x@[::1]:9200/a:b?c@d:1".toList = crowded.text := by decide
  refine ⟨plain_crowded, htext, ?_⟩
  have hread : (ofUrl "https://u:p@x@[::1]:9200/a:b?c@d:1" false).toOption.isSome = true := by
    decide +kernel
  cases hof : ofUrl "https://u:p@x@[::1]:9200/a:b?c@d:1" false with
  | error fault =>
    rw [hof] at hread
    cases hread
  | ok e =>
    obtain ⟨digits, hport, hvalue, -⟩ := (portRead _).plain crowded plain_crowded htext e hof
    cases hport
    exact ⟨e, rfl, (hvalue (by decide)).trans (by decide)⟩

/-- An address in brackets behind which a colon stands without digits, and one behind which a
backslash ends the authority, with a colon in the path: both have the port of the scheme. -/
theorem ofUrl_unspelled :
    (ofUrl "http://[::1]:" false).toOption = some (new .http "::1" 80) ∧
      Url.authority? "http://[::1]:".toList = some "[::1]:".toList ∧
      (∀ n, ¬ Url.SpellsPort "[::1]:".toList n) ∧
      (ofUrl "http://[::1]\\@h:" false).toOption =
        some { new .http "::1" 80 with pathPrefix := "/@h:" } ∧
      Url.authority? "http://[::1]\\@h:".toList = some "[::1]".toList ∧
      ∀ n, ¬ Url.SpellsPort "[::1]".toList n := by
  have hempty : Url.SpellsNoPort "[::1]:".toList := .inr (by decide +kernel)
  have hnone : Url.SpellsNoPort "[::1]".toList := .inl (by decide +kernel)
  exact ⟨by decide +kernel, by decide +kernel, hempty.not_spellsPort, by decide +kernel,
    by decide +kernel, hnone.not_spellsPort⟩

end EndpointPool.Endpoint
