import EndpointPool.Proofs.Encoding.Percent
import EndpointPool.Proofs.Idna.Characters
import EndpointPool.Proofs.Url.Reading

/-!
# Credentials in a URL

A user's name and password that are written with letters, digits and percent signs can be put into
a URL that has none: they end where they were put, and nothing else that is read changes.

## Main definitions

* `Url.Parts.withUser w username password`: the parts with a user

## Main results

* `Url.Parts.Readable.parse?_withUser`: what is read of a URL with a user
-/

namespace EndpointPool.Url

/-- The characters of escaped bytes cannot be taken for what stands around them. -/
theorem plain_of_escape {c : Char} (h : c = '%' ∨ c.isAlphanum = true) :
    (c ≠ '/' ∧ endsPath c = false) ∧ c ≠ '\\' ∧ c ≠ ':' ∧ ' ' < c := by
  have hascii : c.toNat < 128 := by
    rcases h with rfl | halnum
    · decide
    · exact Unicode.toNat_lt_of_isAlphanum halnum
  revert h
  refine Idna.forall_ascii (p := fun c => c = '%' ∨ c.isAlphanum = true →
    (c ≠ '/' ∧ endsPath c = false) ∧ c ≠ '\\' ∧ c ≠ ':' ∧ ' ' < c) ?_ hascii
  decide

namespace Parts

/-- The parts with the name and the password of a user. -/
def withUser (w : Parts) (username password : List Char) : Parts :=
  { w with user := some (username ++ ':' :: password) }

variable {w : Parts} {u : Url} {username password : List Char}

theorem authority_withUser (w : Parts) (username password : List Char) :
    (w.withUser username password).authority =
      (username ++ ':' :: password) ++ '@' :: (w.writtenHost ++ w.writtenPort) := by
  show (username ++ ':' :: password ++ ['@']) ++ (w.writtenHost ++ w.writtenPort) = _
  simp

/-- Without a user, the authority is the host and the port. -/
theorem authority_of_user_eq_none (h : w.user = none) :
    w.authority = w.writtenHost ++ w.writtenPort := by
  rw [authority, h]
  rfl

theorem Scannable.splitUser_of_user_eq_none (h : w.Scannable) (huser : w.user = none) :
    splitUser w.authority = ([], none, w.writtenHost ++ w.writtenPort) := by
  rw [authority_of_user_eq_none huser, splitUser, Text.cutLast?_of_not_mem h.at_not_mem]

theorem Scannable.splitUser_withUser (h : w.Scannable) (hcolon : ':' ∉ username)
    (password : List Char) :
    splitUser (w.withUser username password).authority =
      (username, if password.isEmpty then none else some password,
        w.writtenHost ++ w.writtenPort) := by
  rw [authority_withUser, splitUser, Text.cutLast?_append _ h.at_not_mem]
  simp only [Text.cut?_append hcolon]

theorem Readable.cleaned_of_user_eq_none (h : w.Readable) (huser : w.user = none)
    (hport : w.port.isSome = true) : w.cleaned.Readable :=
  h.cleaned hport (by simp [huser])

theorem Readable.reads_of_user_eq_none (h : w.Readable) (huser : w.user = none)
    (hport : w.port.isSome = true) (hparse : parse? w.text = some u) : w.cleaned.Reads u := by
  have hclean := h.clean_text hport (by simp [huser])
  exact ((h.cleaned_of_user_eq_none huser hport).parse?_eq_some_iff hclean).mp hparse

/-- A URL without a user is read so. -/
theorem Readable.user_of_parse? (h : w.Readable) (huser : w.user = none)
    (hport : w.port.isSome = true) (hparse : parse? w.text = some u) :
    u.username = [] ∧ u.password = none := by
  have hreads := h.reads_of_user_eq_none huser hport hparse
  have hsplit := (h.cleaned_of_user_eq_none huser hport).splitUser_of_user_eq_none huser
  rw [← hreads.username, ← hreads.password, hsplit]
  exact ⟨rfl, rfl⟩

section Escaped

variable (husername : ∀ c ∈ username, c = '%' ∨ c.isAlphanum = true)
  (hpassword : ∀ c ∈ password, c = '%' ∨ c.isAlphanum = true)

include husername hpassword

theorem plain_of_mem_user :
    ∀ c ∈ username ++ ':' :: password, (c ≠ '/' ∧ endsPath c = false) ∧ c ≠ '\\' ∧ ' ' < c := by
  intro c hc
  rcases List.mem_append.mp hc with hc | hc
  · obtain ⟨hplain, hback, -, hlt⟩ := plain_of_escape (husername c hc)
    exact ⟨hplain, hback, hlt⟩
  · rcases List.mem_cons.mp hc with rfl | hc
    · decide
    · obtain ⟨hplain, hback, -, hlt⟩ := plain_of_escape (hpassword c hc)
      exact ⟨hplain, hback, hlt⟩

/-- A user that is escaped leaves the parts readable. -/
theorem Readable.withUser (h : w.Readable) : (w.withUser username password).Readable where
  name := h.name
  user := by
    rintro _ ⟨⟩ c hc
    exact (plain_of_mem_user husername hpassword c hc).1
  host := h.host
  colon := h.colon
  port := h.port
  tail := h.tail
  name_colon := h.name_colon
  backslash := by
    intro hmem
    rw [authority_withUser] at hmem
    rcases List.mem_append.mp hmem with hmem | hmem
    · exact (plain_of_mem_user husername hpassword _ hmem).2.1 rfl
    · rcases List.mem_cons.mp hmem with hc | hmem
      · cases hc
      · exact h.backslash (List.mem_append_right _ hmem)
  bracket := h.bracket
  authority_ne := by simp [authority_withUser]

/-- **A user that is put into a URL is read as it was written**, and nothing else changes. -/
theorem Readable.parse?_withUser (h : w.Readable) (huser : w.user = none)
    (hport : w.port.isSome = true) (hparse : parse? w.text = some u) :
    parse? (w.withUser username password).text =
      some { u with username, password := if password.isEmpty then none else some password } := by
  have hsome : ∀ user ∈ (w.withUser username password).user, ∀ c ∈ user, ' ' < c := by
    rintro _ ⟨⟩ c hc
    exact (plain_of_mem_user husername hpassword c hc).2.2
  have hcolon : ':' ∉ username := fun hmem => (plain_of_escape (husername _ hmem)).2.2.1 rfl
  have hwith := h.withUser husername hpassword
  -- what is put in counts as it is
  have hsplit := (h.cleaned_of_user_eq_none huser hport).splitUser_withUser hcolon password
  have hreads := h.reads_of_user_eq_none huser hport hparse
  apply ((hwith.cleaned hport hsome).parse?_eq_some_iff (hwith.clean_text hport hsome)).mpr
  exact {
    scheme := hreads.scheme
    username := congrArg Prod.fst hsplit
    password := congrArg (fun s => s.2.1) hsplit
    host := hreads.host
    port := hreads.port
    path := hreads.path }

end Escaped

end Parts

end EndpointPool.Url
