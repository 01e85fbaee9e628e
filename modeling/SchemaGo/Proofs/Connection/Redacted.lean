import Mathlib
import SchemaGo.Connection.Settings
import SchemaGo.Proofs.Text.Cut

/-!
Redaction hides the password: settings that differ in nothing else are shown by one text. In a URL
the password begins at the first colon behind the scheme and ends at the last at sign, so that
whatever the password contains belongs to it. An at sign in what follows the credentials lets more
than the password be masked, never less.
-/

namespace SchemaGo.Connection.Settings

open Text

variable {scheme user : List Char}

/-- The text between a scheme and its credentials. -/
lemma unbordered_schemeMark : Unbordered [':', '/', '/'] := by
  unfold Unbordered
  decide

/-- The credentials of a URL with a password begin with the user, and end at the last at sign. -/
lemma redactUrl_credentials (hs : ¬ "://".toList <:+: scheme) (hu : ':' ∉ user)
    (password host : List Char) :
    redactUrl (scheme ++ ("://".toList ++ (user ++ ':' :: (password ++ '@' :: host)))) =
      scheme ++ "://".toList ++ user ++ ':' :: mask.toList ++ '@' :: afterLast '@' host := by
  obtain ⟨hidden, hlast⟩ := cutLast?_cons '@' (user ++ ':' :: password) host
  have hscheme := cut?_append unbordered_schemeMark hs (user ++ ':' :: (password ++ '@' :: host))
  have huser := cut?_singleton hu (password ++ hidden)
  simp only [List.append_assoc, List.cons_append] at hlast huser
  unfold redactUrl
  simp only [show "://".toList = [':', '/', '/'] from rfl] at hscheme ⊢
  rw [hscheme]
  simp only [hlast, huser]

/-- **What is shown does not depend on the password.** A URL is shown with a mask in its place, and
without what stands in front of the last at sign of the rest. -/
theorem redacted_password :
    (∀ host portNumber database user p₁ p₂,
      (params host portNumber database user p₁).redacted =
        (params host portNumber database user p₂).redacted) ∧
    ∀ scheme user host : String, ¬ "://".toList <:+: scheme.toList → ':' ∉ user.toList →
      ∀ p₁ p₂ : String,
        (url (scheme ++ "://" ++ user ++ ":" ++ p₁ ++ "@" ++ host)).redacted =
          (url (scheme ++ "://" ++ user ++ ":" ++ p₂ ++ "@" ++ host)).redacted ∧
        (url (scheme ++ "://" ++ user ++ ":" ++ p₁ ++ "@" ++ host)).redacted =
          scheme ++ "://" ++ user ++ ":***@" ++ String.ofList (afterLast '@' host.toList) := by
  have hurl : ∀ scheme user host : String, ¬ "://".toList <:+: scheme.toList →
      ':' ∉ user.toList → ∀ p : String,
        (url (scheme ++ "://" ++ user ++ ":" ++ p ++ "@" ++ host)).redacted =
          scheme ++ "://" ++ user ++ ":***@" ++ String.ofList (afterLast '@' host.toList) := by
    intro scheme user host hs hu p
    have hredact := redactUrl_credentials hs hu p.toList host.toList
    apply String.toList_injective
    simpa [redacted, mask] using hredact
  refine ⟨fun _ _ _ _ _ _ => rfl, fun scheme user host hs hu p₁ p₂ => ⟨?_, hurl _ _ _ hs hu p₁⟩⟩
  rw [hurl _ _ _ hs hu p₁, hurl _ _ _ hs hu p₂]

/-- A password that looks like the end of its URL, and a host with an at sign. -/
theorem redacted_password_delimiters :
    (url "postgres://app:p@ss:w://rd@a@db:5432/shop").redacted =
      (url "postgres://app:@a@db:5432/shop").redacted ∧
    (url "postgres://app:p@ss:w://rd@a@db:5432/shop").redacted =
      "postgres://app:***@db:5432/shop" :=
  redacted_password.2 "postgres" "app" "a@db:5432/shop" (by decide) (by decide) "p@ss:w://rd" ""

end SchemaGo.Connection.Settings
