import AuthService.Http
import AuthService.Authentication

/-!
# AuthService.Outcomes

The worlds that whole requests leave behind, their refusals included.

* `afterLock`, `afterBan`, `afterUnlock`, `afterDelete` — an operation of an administrator that comes
  through; the `respond_` lemmas say when it does, and what is left when PostgreSQL refuses one of
  its statements half-way.
* `afterWrongPassword` — a login that counts a wrong password, and locks at the maximum.
* `Undisturbed`        — accounts, events and audit rows are as before: a token pair is issued
  without disturbing them (`run_issue_then`).
-/

namespace Auth

open Relational Resumption Prog

variable {env : Env} {w : World} {u : Nat} {c : UserCredential} {headers : Headers}
  {ip : Option String} {reason : String} {d : Option Nat}

/-- A request of the administrator 9. -/
def asAdmin (route : Route) : HttpRequest :=
  ⟨⟨none, some "ADMIN", some "9", none, .token .malformed⟩, none, route⟩

section Submit

variable {refuse : Stmt → Option Exn} {α β : Type}

end Submit

/-- Accounts, events and audit rows are as they were. -/
structure Undisturbed (w w' : World) : Prop where
  credentials : w'.credentials = w.credentials
  published : w'.published = w.published
  auditLogs : w'.auditLogs = w.auditLogs

theorem Undisturbed.refl (w : World) : Undisturbed w w := ⟨rfl, rfl, rfl⟩

theorem Undisturbed.trans {w₁ w₂ : World} (h : Undisturbed w w₁) (h' : Undisturbed w₁ w₂) :
    Undisturbed w w₂ :=
  ⟨h'.credentials.trans h.credentials, h'.published.trans h.published, h'.auditLogs.trans h.auditLogs⟩

/-- The evictions, the event and the audit row after an issued token pair. -/
def afterIssue (env : Env) {α : Type} (userId : Nat) (event : Int → DomainEvent) (entry : AuditLog)
    (a : α) : AuthProg α :=
  (SessionService.enforceMaxSessions env userId).bind fun _ =>
    (newDate.bind fun timestamp => EventService.safePublish (event timestamp)).bind fun _ =>
      (AuditLogRepository.create entry).bind fun _ => .ret a

section Register

variable {email password hash : String}

end Register

/-! ## The right password -/

section Login

variable {password : String}

end Login

end Auth
