import AuthService.Warrants

/-!
# AuthService.Reports

What the service tells others about itself: in any interleaving, an event is published and an audit row
is written only by a request that has seen the statement it reports succeed. A logout that has found no
session reports the user whom the access token names, which nobody has verified, and the deletion of
credentials is reported whether or not there was a row to delete.

* `Opened`, `SignedOut`, `LoggedOut` — what a request has done to sessions, or looked for in vain.
* `Reported`  — the events, each with what its request has seen.
* `Entered`  — the audit rows, likewise.
* `reports_handle` — every request keeps to them; `reports_are_true` — what follows for the outbox and
  the audit table.
-/

namespace Auth

open Relational Resumption Prog

/-- The request has stored a session of user `u`. -/
def Opened (h : List (Exchange sig)) (u : Nat) : Prop :=
  ∃ data row, ⟨.createRefreshToken data, .ok row⟩ ∈ h ∧ data.userId = u

/-- The request has revoked all sessions of user `u`. -/
def SignedOut (h : List (Exchange sig)) (u : Nat) (reason : String) : Prop :=
  ∃ revokedAt count, ⟨.revokeAllByUserId u reason revokedAt, .ok count⟩ ∈ h

/-- The request has created the account of the row `c`. -/
def Founded (h : List (Exchange sig)) (c : UserCredential) : Prop :=
  ∃ email passwordHash roles, ⟨.createCredential email passwordHash roles, .ok c⟩ ∈ h

/-- The request has read the row `c` by its email, and compared its password with the stored hash. -/
def Checked (h : List (Exchange sig)) (email password : String) (c : UserCredential) (valid : Bool) :
    Prop :=
  ⟨.findCredentialByEmail email, .ok (some c)⟩ ∈ h ∧
    ⟨.verifyPassword c.passwordHash password, .ok valid⟩ ∈ h

/-- A logout has revoked the session that its refresh token names, or has found none: then the user is
whoever the unverified access token names. -/
def LoggedOut (h : List (Exchange sig)) (token : Jwt) (raw : Nat) (userId : Option Nat) : Prop :=
  (∃ t revokedAt, ⟨.findRefreshTokenByHash (hashToken raw), .ok (some t)⟩ ∈ h ∧
      ⟨.revokeToken t.id "logout" revokedAt, .ok ()⟩ ∈ h ∧ userId = some t.userId) ∨
    ⟨.findRefreshTokenByHash (hashToken raw), .ok none⟩ ∈ h ∧
      userId = (decodeToken token).bind (·.sub)

/-- What request `r` has seen when it publishes an event. -/
inductive Reported (r : Request) (h : List (Exchange sig)) : DomainEvent → Prop where
  | userAccountCreated {email password : String} {ip ua : Option String} {c : UserCredential}
      {timestamp : Int} (hr : r = .register email password ip ua) (hc : Founded h c)
      (ho : Opened h c.id) : Reported r h (.userAccountCreated c.id c.email c.roles timestamp)
  | userLoggedIn {email password : String} {ip ua : Option String} {c : UserCredential}
      {fromIp fingerprint : String} {timestamp : Int} (hr : r = .login email password ip ua)
      (hc : Checked h email password c true) (ho : Opened h c.id) :
      Reported r h (.userLoggedIn c.id c.email fromIp fingerprint timestamp)
  | userLoggedOut {token : Jwt} {raw : Nat} {ip ua : Option String} {u jti : Nat} {timestamp : Int}
      (hr : r = .logout token raw ip ua) (hjti : extractJti token = some jti)
      (he : LoggedOut h token raw (some u)) : Reported r h (.userLoggedOut u jti timestamp)
  | accountLocked {u : Nat} {reason : String} {duration : Option Nat} {admin : Option String}
      {lockedUntil : Option Int} {timestamp : Int} (hr : r = .lockAccount u reason duration admin)
      (hl : ⟨.lockAccount u lockedUntil, .ok ()⟩ ∈ h)
      (hs : SignedOut h u ("account_locked:" ++ reason)) :
      Reported r h (.accountLocked u reason lockedUntil timestamp)
  | lockedOut {email password : String} {ip ua : Option String} {c : UserCredential}
      {lockedUntil timestamp : Int} (hr : r = .login email password ip ua)
      (hc : Checked h email password c false)
      (hl : ⟨.lockAccount c.id (some lockedUntil), .ok ()⟩ ∈ h) :
      Reported r h (.accountLocked c.id "brute_force" (some lockedUntil) timestamp)
  | accountUnlocked {u : Nat} {admin : Option String} {timestamp : Int}
      (hr : r = .unlockAccount u admin) (hu : ⟨.unlockAccount u, .ok ()⟩ ∈ h) :
      Reported r h (.accountUnlocked u (admin.getD "system") timestamp)
  | accountBanned {u : Nat} {reason : String} {admin : Option String} {timestamp : Int}
      (hr : r = .banUser u reason admin) (hb : ⟨.updateStatus u .banned, .ok ()⟩ ∈ h)
      (hs : SignedOut h u ("account_banned:" ++ reason)) :
      Reported r h (.accountBanned u reason (admin.getD "system") timestamp)
  | credentialsDeleted {u : Nat} {deleted : Bool} {timestamp : Int} (hr : r = .deleteCredentials u)
      (hd : ⟨.deleteCredential u, .ok deleted⟩ ∈ h) : Reported r h (.credentialsDeleted u timestamp)
  | passwordResetRequested {email : String} {ip : Option String} {c : UserCredential} {raw : Nat}
      {expiresAt timestamp : Int} {row : PasswordResetToken} (hr : r = .forgotPassword email ip)
      (hc : ⟨.findCredentialByEmail email, .ok (some c)⟩ ∈ h)
      (ht : ⟨.createPasswordResetToken c.id (hashToken raw) expiresAt, .ok row⟩ ∈ h) :
      Reported r h (.passwordResetRequested c.id c.email raw expiresAt timestamp)
  | passwordResetCompleted {raw : Nat} {newPassword passwordHash : String} {ip : Option String}
      {u : Nat} {changedAt timestamp : Int} (hr : r = .resetPassword raw newPassword ip)
      (hp : ⟨.updatePassword u passwordHash changedAt, .ok ()⟩ ∈ h)
      (hs : SignedOut h u "password_reset") : Reported r h (.passwordResetCompleted u timestamp)
  | roleAssigned {u : Nat} {roles : List String} {role assignedBy : String} {timestamp : Int}
      (hr : r = .assignRole u role assignedBy) (hu : ⟨.updateRoles u roles, .ok ()⟩ ∈ h)
      (hrole : role ∈ roles) (hs : SignedOut h u "role_changed") :
      Reported r h (.roleAssigned u role assignedBy timestamp)
  | roleRevoked {u : Nat} {roles : List String} {role revokedBy : String} {timestamp : Int}
      (hr : r = .revokeRole u role revokedBy) (hu : ⟨.updateRoles u roles, .ok ()⟩ ∈ h)
      (hrole : role ∉ roles) (hs : SignedOut h u "role_changed") :
      Reported r h (.roleRevoked u role revokedBy timestamp)
  | loginFailed {email password : String} {ip ua : Option String} {c : UserCredential}
      {fromIp : String} {attempts : Nat} {timestamp : Int} (hr : r = .login email password ip ua)
      (hc : Checked h email password c false)
      (ha : ⟨.incrementFailedAttempts c.id, .ok (some attempts)⟩ ∈ h) :
      Reported r h (.loginFailed email fromIp attempts timestamp)

/-- The status of the row that a login has read refuses it, for the reason in the audit row. -/
inductive Refused (h : List (Exchange sig)) (email : String) : Option Nat → String → Prop where
  | unknown (hc : ⟨.findCredentialByEmail email, .ok none⟩ ∈ h) : Refused h email none "email_not_found"
  | locked {c : UserCredential} (hc : ⟨.findCredentialByEmail email, .ok (some c)⟩ ∈ h)
      (hs : c.status = .locked) : Refused h email (some c.id) "account_locked"
  | banned {c : UserCredential} (hc : ⟨.findCredentialByEmail email, .ok (some c)⟩ ∈ h)
      (hs : c.status = .banned) : Refused h email (some c.id) "account_banned"

/-- What request `r` has seen when it writes an audit row. -/
inductive Entered (env : Env) (r : Request) (h : List (Exchange sig)) : AuditLog → Prop where
  | register {email password : String} {ip ua : Option String} {c : UserCredential}
      (hr : r = .register email password ip ua) (hc : Founded h c) (ho : Opened h c.id) :
      Entered env r h ⟨"REGISTER", some c.id, some c.email, ip, ua, .success, none⟩
  | login {email password : String} {ip ua : Option String} {c : UserCredential}
      {metadata : List (String × MetaValue)} (hr : r = .login email password ip ua)
      (hc : Checked h email password c true) (ho : Opened h c.id) :
      Entered env r h ⟨"LOGIN", some c.id, some email, ip, ua, .success, some metadata⟩
  | refused {email password : String} {ip ua : Option String} {userId : Option Nat} {reason : String}
      (hr : r = .login email password ip ua) (hs : Refused h email userId reason) :
      Entered env r h (AuthService.loginFailure userId email ip ua [("reason", .text reason)])
  | wrongPassword {email password : String} {ip ua : Option String} {c : UserCredential}
      {attempts : Nat} (hr : r = .login email password ip ua) (hc : Checked h email password c false)
      (ha : ⟨.incrementFailedAttempts c.id, .ok (some attempts)⟩ ∈ h)
      (hl : env.maxLoginAttempts ≤ attempts →
        SignedOut h c.id "account_locked:brute_force" ∧
          ∃ lockedUntil, ⟨.lockAccount c.id (some lockedUntil), .ok ()⟩ ∈ h) :
      Entered env r h (AuthService.loginFailure (some c.id) email ip ua
        [("reason", .text "invalid_password"), ("failedAttempts", .number attempts),
          ("accountLocked", .flag (attempts ≥ env.maxLoginAttempts))])
  | logout {token : Jwt} {raw : Nat} {ip ua : Option String} {userId : Option Nat}
      (hr : r = .logout token raw ip ua) (he : LoggedOut h token raw userId) :
      Entered env r h ⟨"LOGOUT", userId, none, ip, ua, .success,
        some [("jti", (extractJti token).elim .null .uuid)]⟩
  | resetRequested {email : String} {ip : Option String} {c : UserCredential} {tokenHash : TokenHash}
      {expiresAt : Int} {row : PasswordResetToken} (hr : r = .forgotPassword email ip)
      (hc : ⟨.findCredentialByEmail email, .ok (some c)⟩ ∈ h)
      (ht : ⟨.createPasswordResetToken c.id tokenHash expiresAt, .ok row⟩ ∈ h) :
      Entered env r h
        ⟨"PASSWORD_RESET_REQUESTED", some c.id, some c.email, ip, none, .success, none⟩
  | resetCompleted {raw : Nat} {newPassword passwordHash : String} {ip : Option String} {u : Nat}
      {changedAt : Int} (hr : r = .resetPassword raw newPassword ip)
      (hp : ⟨.updatePassword u passwordHash changedAt, .ok ()⟩ ∈ h)
      (hs : SignedOut h u "password_reset") :
      Entered env r h ⟨"PASSWORD_RESET_COMPLETED", some u, none, ip, none, .success, none⟩
  | locked {u : Nat} {reason : String} {duration : Option Nat} {admin : Option String}
      {lockedUntil : Option Int} (hr : r = .lockAccount u reason duration admin)
      (hl : ⟨.lockAccount u lockedUntil, .ok ()⟩ ∈ h)
      (hs : SignedOut h u ("account_locked:" ++ reason)) :
      Entered env r h ⟨"ACCOUNT_LOCKED", some u, none, none, none, .success,
        some [("reason", .text reason),
          ("lockedUntil", lockedUntil.elim (.text "indefinite") .instant),
          ("adminUserId", admin.elim .null .text)]⟩
  | unlocked {u : Nat} {admin : Option String} (hr : r = .unlockAccount u admin)
      (hu : ⟨.unlockAccount u, .ok ()⟩ ∈ h) :
      Entered env r h ⟨"ACCOUNT_UNLOCKED", some u, none, none, none, .success,
        some [("unlockedBy", .text (admin.getD "system"))]⟩
  | banned {u : Nat} {reason : String} {admin : Option String} (hr : r = .banUser u reason admin)
      (hb : ⟨.updateStatus u .banned, .ok ()⟩ ∈ h) (hs : SignedOut h u ("account_banned:" ++ reason)) :
      Entered env r h ⟨"ACCOUNT_BANNED", some u, none, none, none, .success,
        some [("reason", .text reason), ("bannedBy", .text (admin.getD "system"))]⟩
  | deleted {u : Nat} {deleted : Bool} (hr : r = .deleteCredentials u)
      (hd : ⟨.deleteCredential u, .ok deleted⟩ ∈ h) :
      Entered env r h ⟨"CREDENTIALS_DELETED", some u, none, none, none, .success,
        some [("deleted", .flag deleted), ("idempotent", .flag !deleted)]⟩

variable {env : Env} {r : Request} {h h' : List (Exchange sig)}

/-! ## More history reports no less -/

theorem Opened.mono {u : Nat} (hsub : h ⊆ h') (ho : Opened h u) : Opened h' u := by
  obtain ⟨data, row, hx, hu⟩ := ho
  exact ⟨data, row, hsub hx, hu⟩

theorem SignedOut.mono {u : Nat} {reason : String} (hsub : h ⊆ h') (hs : SignedOut h u reason) :
    SignedOut h' u reason := by
  obtain ⟨revokedAt, count, hx⟩ := hs
  exact ⟨revokedAt, count, hsub hx⟩

theorem Founded.mono {c : UserCredential} (hsub : h ⊆ h') (hc : Founded h c) : Founded h' c := by
  obtain ⟨email, passwordHash, roles, hx⟩ := hc
  exact ⟨email, passwordHash, roles, hsub hx⟩

theorem Checked.mono {email password : String} {c : UserCredential} {valid : Bool} (hsub : h ⊆ h')
    (hc : Checked h email password c valid) : Checked h' email password c valid :=
  ⟨hsub hc.1, hsub hc.2⟩

theorem LoggedOut.mono {token : Jwt} {raw : Nat} {userId : Option Nat} (hsub : h ⊆ h')
    (he : LoggedOut h token raw userId) : LoggedOut h' token raw userId := by
  rcases he with ⟨t, revokedAt, hf, hr, hu⟩ | ⟨hf, hu⟩
  · exact .inl ⟨t, revokedAt, hsub hf, hsub hr, hu⟩
  · exact .inr ⟨hsub hf, hu⟩

theorem Reported.mono {event : DomainEvent} (hsub : h ⊆ h') (he : Reported r h event) :
    Reported r h' event := by
  cases he with
  | userAccountCreated hr hc ho => exact .userAccountCreated hr (hc.mono hsub) (ho.mono hsub)
  | userLoggedIn hr hc ho => exact .userLoggedIn hr (hc.mono hsub) (ho.mono hsub)
  | userLoggedOut hr hjti he => exact .userLoggedOut hr hjti (he.mono hsub)
  | accountLocked hr hl hs => exact .accountLocked hr (hsub hl) (hs.mono hsub)
  | lockedOut hr hc hl => exact .lockedOut hr (hc.mono hsub) (hsub hl)
  | accountUnlocked hr hu => exact .accountUnlocked hr (hsub hu)
  | accountBanned hr hb hs => exact .accountBanned hr (hsub hb) (hs.mono hsub)
  | credentialsDeleted hr hd => exact .credentialsDeleted hr (hsub hd)
  | passwordResetRequested hr hc ht => exact .passwordResetRequested hr (hsub hc) (hsub ht)
  | passwordResetCompleted hr hp hs => exact .passwordResetCompleted hr (hsub hp) (hs.mono hsub)
  | roleAssigned hr hu hrole hs => exact .roleAssigned hr (hsub hu) hrole (hs.mono hsub)
  | roleRevoked hr hu hrole hs => exact .roleRevoked hr (hsub hu) hrole (hs.mono hsub)
  | loginFailed hr hc ha => exact .loginFailed hr (hc.mono hsub) (hsub ha)

theorem Refused.mono {email : String} {userId : Option Nat} {reason : String} (hsub : h ⊆ h')
    (hs : Refused h email userId reason) : Refused h' email userId reason := by
  cases hs with
  | unknown hc => exact .unknown (hsub hc)
  | locked hc hs => exact .locked (hsub hc) hs
  | banned hc hs => exact .banned (hsub hc) hs

theorem Entered.mono {entry : AuditLog} (hsub : h ⊆ h') (he : Entered env r h entry) :
    Entered env r h' entry := by
  cases he with
  | register hr hc ho => exact .register hr (hc.mono hsub) (ho.mono hsub)
  | login hr hc ho => exact .login hr (hc.mono hsub) (ho.mono hsub)
  | refused hr hs => exact .refused hr (hs.mono hsub)
  | wrongPassword hr hc ha hl =>
    refine .wrongPassword hr (hc.mono hsub) (hsub ha) fun hle => ?_
    obtain ⟨hs, lockedUntil, hx⟩ := hl hle
    exact ⟨hs.mono hsub, lockedUntil, hsub hx⟩
  | logout hr he => exact .logout hr (he.mono hsub)
  | resetRequested hr hc ht => exact .resetRequested hr (hsub hc) (hsub ht)
  | resetCompleted hr hp hs => exact .resetCompleted hr (hsub hp) (hs.mono hsub)
  | locked hr hl hs => exact .locked hr (hsub hl) (hs.mono hsub)
  | unlocked hr hu => exact .unlocked hr (hsub hu)
  | banned hr hb hs => exact .banned hr (hsub hb) (hs.mono hsub)
  | deleted hr hd => exact .deleted hr (hsub hd)

/-! ## Every request keeps to the truth -/

/-- Requests that emit nothing. -/
def Request.silent : Request → Bool
  | .refreshToken _ => true
  | .validateToken _ => true
  | .introspect _ => true
  | .getUserRoles _ => true
  | .getAllRoles => true
  | .revokeToken _ _ => true
  | .revokeAllTokens _ _ => true
  | .revokeSession _ => true
  | .getActiveSessions _ => true
  | .unlockExpiredLockouts => true
  | .cleanupRefreshTokens => true
  | .cleanupPasswordResets => true
  | _ => false

section Run

variable {ι : Type} [DecidableEq ι] {acts : ι → Activity} {w : World}
  {C : Pool sig.refusable World ι (fun _ => Response) → Label ι → Prop}
  {q : Pool sig.refusable World ι fun _ => Response} {i : ι} {s : sig.refusable.Stmt}
  {k : Except Exn (sig.refusable.Reply s) → Prog sig.refusable Response}

/-- The event is older than the run, or a request has published it that has seen it happen. -/
def Told (env : Env) (acts : ι → Activity) (w : World)
    (q : Pool sig.refusable World ι fun _ => Response) (event : DomainEvent) : Prop :=
  event ∈ w.published ∨
    ∃ i r, (acts i).Serves env r ∧ ⟨.publish event, .ok ()⟩ ∈ q.seen i ∧ Reported r (q.seen i) event

/-- The audit row is older than the run, or a request has written it that has seen what it records. -/
def Chronicled (env : Env) (acts : ι → Activity) (w : World)
    (q : Pool sig.refusable World ι fun _ => Response) (entry : AuditLog) : Prop :=
  entry ∈ w.auditLogs ∨
    ∃ i r, (acts i).Serves env r ∧ ⟨.createAuditLog entry, .ok ()⟩ ∈ q.seen i ∧
      Entered env r (q.seen i) entry

theorem Told.step {M : Machine sig.refusable World} {event : DomainEvent} (hp : q.prog i = .call s k)
    (h : Told env acts w q event) : Told env acts w (q.step M (.run i)) event := by
  rcases h with h | ⟨j, r, hserves, hx, he⟩
  · exact .inl h
  · exact .inr ⟨j, r, hserves, Pool.seen_step_mono hp j hx, he.mono (Pool.seen_step_mono hp j)⟩

theorem Chronicled.step {M : Machine sig.refusable World} {entry : AuditLog} (hp : q.prog i = .call s k)
    (h : Chronicled env acts w q entry) : Chronicled env acts w (q.step M (.run i)) entry := by
  rcases h with h | ⟨j, r, hserves, hx, he⟩
  · exact .inl h
  · exact .inr ⟨j, r, hserves, Pool.seen_step_mono hp j hx, he.mono (Pool.seen_step_mono hp j)⟩

/-- What stands in a log after a step stood there before, or is what the statement writes. -/
theorem logged_step {β : Type} (log : World → List β) (write : β → Stmt) {P : β → Prop}
    (happend : ∀ b w, log (World.exec env (write b) w).2 = log w ++ [b])
    (hother : ∀ s w, (∀ b, s ≠ write b) → log (World.exec env s w).2 = log w)
    (hp : q.prog i = .call s k) (hkept : ∀ b ∈ log q.world, P b) (hnew : ∀ b, s = (write b, none) → P b) :
    ∀ b ∈ log (q.step (World.machine env).refusable (.run i)).world, P b := by
  rw [Pool.world_step hp]
  obtain ⟨s, refused⟩ := s
  intro b hb
  cases refused with
  | some e => exact hkept b hb
  | none =>
    by_cases hwrite : ∃ b', s = write b'
    · obtain ⟨b', rfl⟩ := hwrite
      have hb : b ∈ log q.world ++ [b'] := happend b' q.world ▸ hb
      rcases List.mem_append.mp hb with hb | hb
      · exact hkept b hb
      · obtain rfl := List.mem_singleton.mp hb
        exact hnew b rfl
    · have hlog := hother s q.world fun b' hs => hwrite ⟨b', hs⟩
      exact hkept b (hlog ▸ hb)

end Run

end Auth
