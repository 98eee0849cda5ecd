import AuthService.NonInterference
import AuthService.Warrants

/-!
# AuthService.Addressing

Whose rows a request touches, statement by statement.

* `Reaches` — the users that a request has come to by its key: the one that it names, the one that its
  lookup has found, the one that it has created.
* `Holds`, `HoldsReset` — the token rows that it has come to by its key, or as those of such a user.
* `Request.Addresses` — a request names no other user and no other row; `addresses_handle` — every
  request keeps to it, but for those that judge access tokens and the jobs.
-/

namespace Auth

open Relational Resumption Prog

inductive Reaches (r : Request) (h : List (Exchange sig)) (u : Nat) : Prop where
  | named (hk : r.key? = some (.user u))
  | byEmail (email : String) (c : UserCredential) (hk : r.key? = some (.email email))
      (hc : ⟨.findCredentialByEmail email, .ok (some c)⟩ ∈ h) (hu : c.id = u)
  | created (email passwordHash : String) (roles : List String) (c : UserCredential)
      (hk : r.key? = some (.email email))
      (hc : ⟨.createCredential email passwordHash roles, .ok c⟩ ∈ h) (hu : c.id = u)
  | byRefreshToken (raw : Nat) (t : RefreshToken) (hk : r.key? = some (.refreshToken raw))
      (ht : ⟨.findRefreshTokenByHash (hashToken raw), .ok (some t)⟩ ∈ h) (hu : t.userId = u)
  | byResetToken (raw : Nat) (t : PasswordResetToken) (hk : r.key? = some (.resetToken raw))
      (ht : ⟨.findResetTokenByHash (hashToken raw), .ok (some t)⟩ ∈ h) (hu : t.userId = u)

/-- The request has come to the session `t`. -/
inductive Obtains (r : Request) (h : List (Exchange sig)) (t : RefreshToken) : Prop where
  | found (raw : Nat) (hk : r.key? = some (.refreshToken raw))
      (ht : ⟨.findRefreshTokenByHash (hashToken raw), .ok (some t)⟩ ∈ h)
  | oldest (u : Nat) (now : Int) (hu : Reaches r h u)
      (ht : ⟨.findOldestActiveByUserId u now, .ok (some t)⟩ ∈ h)
  | stored (data : NewRefreshToken) (hu : Reaches r h data.userId)
      (ht : ⟨.createRefreshToken data, .ok t⟩ ∈ h)

inductive Holds (r : Request) (h : List (Exchange sig)) (id : Nat) : Prop where
  | named (hk : r.key? = some (.session id))
  | obtained (t : RefreshToken) (ht : Obtains r h t) (hid : t.id = id)

def HoldsReset (r : Request) (h : List (Exchange sig)) (id : Nat) : Prop :=
  ∃ raw t, r.key? = some (.resetToken raw) ∧
    ⟨.findResetTokenByHash (hashToken raw), .ok (some t)⟩ ∈ h ∧ t.id = id

/-- What a statement names is the request's: its key, a user that it has reached, a row that it holds. -/
def Request.Addresses (r : Request) (h : List (Exchange sig)) : Stmt → Prop
  | .findCredentialByEmail email => r.key? = some (.email email)
  | .findRefreshTokenByHash tokenHash =>
    ∃ raw, tokenHash = hashToken raw ∧ r.key? = some (.refreshToken raw)
  | .findResetTokenByHash tokenHash =>
    ∃ raw, tokenHash = hashToken raw ∧ r.key? = some (.resetToken raw)
  | .createCredential email _ _ =>
    r.registers = true ∧ r.key? = some (.email email) ∧ ⟨.findCredentialByEmail email, .ok none⟩ ∈ h
  | .findCredentialById id => Reaches r h id
  | .updateStatus id _ => Reaches r h id
  | .incrementFailedAttempts id => Reaches r h id
  | .resetFailedAttempts id => Reaches r h id
  | .lockAccount id _ => Reaches r h id
  | .unlockAccount id => Reaches r h id
  | .updateLastLogin id _ _ => Reaches r h id
  | .updatePassword id _ _ => Reaches r h id
  | .updateRoles id _ => Reaches r h id
  | .deleteCredential id => Reaches r h id
  | .createRefreshToken data => Reaches r h data.userId
  | .findActiveByUserId userId _ => Reaches r h userId
  | .revokeAllByUserId userId _ _ => Reaches r h userId
  | .countActiveByUserId userId _ => Reaches r h userId
  | .findOldestActiveByUserId userId _ => Reaches r h userId
  | .createPasswordResetToken userId _ _ => Reaches r h userId
  | .deleteResetTokensByUserId userId => Reaches r h userId
  | .revokeToken id _ _ => Holds r h id
  | .setReplacedBy id _ => Holds r h id
  | .updateLastUsed id _ => Holds r h id
  | .markAsUsed id _ => HoldsReset r h id
  | .findLockedAccountsToUnlock _ => False
  | .deleteExpiredAndRevoked _ => False
  | .deleteExpiredOrUsed _ => False
  | .existsBlacklist _ => False
  | _ => True

/-- Statements that name no key and no row, and no user but `u`. -/
def Stmt.Concerns (u : Nat) : Stmt → Prop
  | .findCredentialById id => id = u
  | .updateStatus id _ => id = u
  | .incrementFailedAttempts id => id = u
  | .resetFailedAttempts id => id = u
  | .lockAccount id _ => id = u
  | .unlockAccount id => id = u
  | .updateLastLogin id _ _ => id = u
  | .updatePassword id _ _ => id = u
  | .updateRoles id _ => id = u
  | .deleteCredential id => id = u
  | .createRefreshToken data => data.userId = u
  | .findActiveByUserId userId _ => userId = u
  | .revokeAllByUserId userId _ _ => userId = u
  | .createPasswordResetToken userId _ _ => userId = u
  | .deleteResetTokensByUserId userId => userId = u
  | .newDate => True
  | .uuidv4 => True
  | .hashPassword _ => True
  | .verifyPassword _ _ => True
  | .signAccessToken _ _ _ _ => True
  | .findAllRoles => True
  | .findRoleByName _ => True
  | .createAuditLog _ => True
  | .setBlacklist _ _ => True
  | .publish _ => True
  | _ => False

variable {env : Env} {r : Request} {h h' : List (Exchange sig)} {u : Nat}

theorem Reaches.mono (hsub : h ⊆ h') (hu : Reaches r h u) : Reaches r h' u := by
  cases hu with
  | named hk => exact .named hk
  | byEmail email c hk hc hu => exact .byEmail email c hk (hsub hc) hu
  | created email passwordHash roles c hk hc hu =>
    exact .created email passwordHash roles c hk (hsub hc) hu
  | byRefreshToken raw t hk ht hu => exact .byRefreshToken raw t hk (hsub ht) hu
  | byResetToken raw t hk ht hu => exact .byResetToken raw t hk (hsub ht) hu

theorem addresses_of_concerns {s : Stmt} (hu : Reaches r h u) (hs : s.Concerns u) :
    r.Addresses h s := by
  cases s
  case findCredentialById | updateStatus | incrementFailedAttempts | resetFailedAttempts | lockAccount
      | unlockAccount | updateLastLogin | updatePassword | updateRoles | deleteCredential
      | createRefreshToken | findActiveByUserId | revokeAllByUserId | createPasswordResetToken
      | deleteResetTokensByUserId =>
    obtain rfl := hs
    exact hu
  all_goals trivial

theorem concerns_of_about {s : Stmt} (hs : s.About u) : s.Concerns u := by
  cases s <;> first | exact hs | exact hs.elim

/-! ## The parts of a request -/

/-- What concerns one user, once the request has reached the user. -/
theorem addresses_of_uses {α : Type} {p : AuthProg α} (hu : Reaches r h u)
    (hp : p.Uses (Stmt.Concerns u)) : p.Justified r.Addresses h :=
  justified_of_uses hp fun _ hsub _ hs => addresses_of_concerns (hu.mono hsub) hs

theorem concerns_publish {event : Int → DomainEvent} :
    (newDate.bind fun timestamp => EventService.safePublish (event timestamp)).Uses
      (Stmt.Concerns u) :=
  uses_publish trivial fun _ => trivial

theorem concerns_revokeAll {reason : String} :
    (TokenService.revokeAllUserTokens u reason).Uses (Stmt.Concerns u) :=
  uses_revokeAllUserTokens trivial fun _ => rfl

theorem concerns_generateRefreshToken {fingerprint ip ua : Option String} :
    (TokenService.generateRefreshToken env u fingerprint ip ua).Uses (Stmt.Concerns u) := by
  unfold TokenService.generateRefreshToken RefreshTokenRepository.create
  refine uses_perform_bind trivial fun _ => uses_perform_bind trivial fun _ => ?_
  refine uses_bind (uses_perform_bind trivial fun _ => ?_) fun _ => trivial
  exact (uses_perform _).mpr rfl

theorem addresses_evictOldest (hu : Reaches r h u) :
    (SessionService.evictOldest u).Justified r.Addresses h := by
  unfold SessionService.evictOldest RefreshTokenRepository.findOldestActiveByUserId
  simp only [bind_eq, bind_assoc]
  apply justified_perform_bind trivial
  intro now
  refine justified_perform_bind (hu.mono (List.subset_cons_self _ _)) fun oldest? => ?_
  cases oldest? with
  | none => trivial
  | some t =>
    apply justified_perform_bind trivial
    intro revokedAt
    refine justified_perform ?_
    refine .obtained t (.oldest u now (hu.mono ?_) (by simp)) rfl
    intro x hx
    simp [hx]

theorem addresses_enforceMaxSessions (hu : Reaches r h u) :
    (SessionService.enforceMaxSessions env u).Justified r.Addresses h := by
  unfold SessionService.enforceMaxSessions RefreshTokenRepository.countActiveByUserId
  simp only [bind_eq, bind_assoc]
  apply justified_perform_bind trivial
  intro now
  apply justified_perform_bind (hu.mono (List.subset_cons_self _ _))
  intro activeCount
  split
  · trivial
  · refine justified_repeatN (fun h' hsub => addresses_evictOldest (hu.mono fun x hx => hsub ?_)) _
    simp [hx]

/-- A new session for the user, the eviction of the oldest ones, an event and an audit row. -/
theorem addresses_open {α : Type} {email : String} {roles : List String}
    {fingerprint ip ua : Option String} {event : Int → DomainEvent} {entry : AuditLog}
    {a : Jwt → Nat × RefreshToken → α} (hu : Reaches r h u) :
    ((TokenService.generateAccessToken u email roles).bind fun accessToken =>
      (TokenService.generateRefreshToken env u fingerprint ip ua).bind fun pair =>
        (SessionService.enforceMaxSessions env u).bind fun _ =>
          (newDate.bind fun timestamp => EventService.safePublish (event timestamp)).bind fun _ =>
            (AuditLogRepository.create entry).bind fun _ =>
              .ret (a accessToken pair)).Justified r.Addresses h := by
  apply justified_perform_bind trivial
  intro accessToken
  have hu₁ : Reaches r (⟨.signAccessToken u email roles .access, .ok accessToken⟩ :: h) u :=
    hu.mono (List.subset_cons_self _ _)
  apply justified_bind (addresses_of_uses hu₁ concerns_generateRefreshToken)
  intro h₂ hsub₂ pair
  have hu₂ := hu₁.mono hsub₂
  apply justified_bind (addresses_enforceMaxSessions hu₂)
  intro h₃ hsub₃ _
  refine addresses_of_uses (hu₂.mono hsub₃) ?_
  exact uses_bind concerns_publish fun _ => uses_perform_bind trivial fun _ => trivial

/-! ## Requests -/

theorem addresses_register (email password : String) (ip ua : Option String) :
    (AuthService.register env email password ip ua).Justified
      (Request.Addresses (.register email password ip ua)) h := by
  unfold AuthService.register CredentialService.createCredential
  apply justified_perform_bind rfl
  intro existing
  cases existing with
  | some c => trivial
  | none =>
    simp only [bind_eq, bind_assoc]
    apply justified_perform_bind trivial
    intro passwordHash
    apply justified_perform_bind ⟨rfl, rfl, by simp⟩
    intro c
    exact addresses_open (.created email passwordHash ["USER"] c rfl (by simp) rfl)

theorem addresses_loginVerify {email password : String} {ip ua : Option String} {c : UserCredential}
    (hc : ⟨.findCredentialByEmail email, .ok (some c)⟩ ∈ h) :
    (AuthService.loginVerify env c email password ip ua).Justified
      (Request.Addresses (.login email password ip ua)) h := by
  have hu : ∀ h', h ⊆ h' → Reaches (.login email password ip ua) h' c.id := fun h' hsub =>
    .byEmail email c rfl (hsub hc) rfl
  unfold AuthService.loginVerify
  apply justified_perform_bind trivial
  intro valid
  split
  · unfold AuthService.loginSucceeded UserCredentialRepository.updateLastLogin
    simp only [bind_eq, bind_assoc]
    apply justified_perform_bind (hu _ fun x hx => by simp [hx])
    intro _
    apply justified_perform_bind trivial
    intro lastLoginAt
    apply justified_perform_bind (hu _ fun x hx => by simp [hx])
    intro _
    exact addresses_open (hu _ fun x hx => by simp [hx])
  · refine addresses_of_uses (hu _ (List.subset_cons_self _ _)) ?_
    exact uses_loginFailed_of c email ip ua trivial rfl (fun _ _ _ => trivial) (fun _ => rfl)
      (fun _ _ _ => trivial) (fun _ => rfl) fun _ => trivial

theorem addresses_login (email password : String) (ip ua : Option String) :
    (AuthService.login env email password ip ua).Justified
      (Request.Addresses (.login email password ip ua)) h := by
  have hrefused : ∀ h' entry e, ((AuditLogRepository.create entry).bind fun _ =>
      (.throw e : AuthProg AuthResponse)).Justified
        (Request.Addresses (.login email password ip ua)) h' :=
    fun h' entry e => justified_perform_bind trivial fun _ => trivial
  unfold AuthService.login
  refine justified_perform_bind rfl fun credential? => ?_
  cases credential? with
  | none => exact hrefused _ _ _
  | some c =>
    cases hs : c.status with
    | active =>
      simp only [hs]
      exact addresses_loginVerify List.mem_cons_self
    | banned =>
      simp only [hs]
      exact hrefused _ _ _
    | deleted =>
      simp only [hs]
      exact justified_throw _
    | locked =>
      cases hl : c.lockedUntil with
      | none =>
        simp only [hs, hl]
        exact hrefused _ _ _
      | some lockedUntil =>
        simp only [hs, hl]
        apply justified_perform_bind trivial
        intro now
        split
        · apply justified_perform_bind (.byEmail email c rfl (by simp) rfl)
          intro _
          exact addresses_loginVerify (by simp)
        · exact hrefused _ _ _

theorem addresses_rotate {raw : Nat} {t : RefreshToken} {ip ua : Option String}
    (hk : r.key? = some (.refreshToken raw))
    (ht : ⟨.findRefreshTokenByHash (hashToken raw), .ok (some t)⟩ ∈ h) :
    (TokenService.rotate env t ip ua).Justified r.Addresses h := by
  have hu : ∀ h', h ⊆ h' → Reaches r h' t.userId := fun h' hsub =>
    .byRefreshToken raw t hk (hsub ht) rfl
  have hold : ∀ h', h ⊆ h' → Holds r h' t.id := fun h' hsub =>
    .obtained t (.found raw hk (hsub ht)) rfl
  unfold TokenService.rotate TokenService.generateRefreshToken RefreshTokenRepository.create
    RefreshTokenRepository.revokeToken RefreshTokenRepository.updateLastUsed
  simp only [bind_eq, bind_assoc, pure_eq, ret_bind]
  apply justified_perform_bind trivial
  intro revokedAt
  apply justified_perform_bind (hold _ fun x hx => by simp [hx])
  intro _
  apply justified_perform_bind trivial
  intro newRaw
  apply justified_perform_bind trivial
  intro now
  apply justified_perform_bind trivial
  intro issuedAt
  apply justified_perform_bind (hu _ fun x hx => by simp [hx])
  intro row
  apply justified_perform_bind (hold _ fun x hx => by simp [hx])
  intro _
  apply justified_perform_bind trivial
  intro lastUsedAt
  refine justified_perform_bind ?_ fun _ => trivial
  refine .obtained row (.stored _ (hu _ fun x hx => ?_)
    (List.mem_cons_of_mem _ (List.mem_cons_of_mem _ List.mem_cons_self))) rfl
  simp [hx]

theorem addresses_refreshToken (raw : Nat) :
    (AuthController.refreshToken env raw).Justified (Request.Addresses (.refreshToken raw)) h := by
  unfold AuthController.refreshToken TokenService.refreshTokens
  simp only [bind_eq, bind_assoc]
  refine justified_perform_bind ⟨raw, rfl, rfl⟩ fun existing? => ?_
  cases existing? with
  | none => trivial
  | some t =>
    have hu : ∀ h', (⟨.findRefreshTokenByHash (hashToken raw), .ok (some t)⟩ :: h) ⊆ h' →
        Reaches (.refreshToken raw) h' t.userId := fun h' hsub =>
      .byRefreshToken raw t rfl (hsub List.mem_cons_self) rfl
    simp only
    split
    · refine addresses_of_uses (hu _ fun x hx => hx) ?_
      rw [Prog.bind_assoc]
      exact uses_bind concerns_revokeAll fun _ => trivial
    · simp only [bind_assoc]
      apply justified_perform_bind trivial
      intro now
      split
      · trivial
      · refine justified_yields_bind (addresses_rotate rfl (by simp)) (yields_rotate env t none none)
          fun h₁ hsub₁ result hresult => ?_
        unfold AuthController.issueAccessToken
        rw [hresult]
        refine justified_perform_bind (hu _ fun x hx => hsub₁ (List.mem_cons_of_mem _ hx))
          fun credential? => ?_
        cases credential? with
        | none => trivial
        | some c => exact justified_perform_bind trivial fun _ => trivial

theorem addresses_logout (token : Jwt) (raw : Nat) (ip ua : Option String) :
    (AuthService.logout token raw ip ua).Justified
      (Request.Addresses (.logout token raw ip ua)) h := by
  have hfree : ∀ {α : Type} {p : AuthProg α} {h'},
      p.Uses (fun s : Stmt => s = .newDate ∨ (∃ jti ttl, s = .setBlacklist jti ttl) ∨
        (∃ entry, s = .createAuditLog entry) ∨ ∃ event, s = .publish event) →
        p.Justified (Request.Addresses (.logout token raw ip ua)) h' := by
    intro α p h' hp
    refine justified_of_uses hp ?_
    rintro h'' - s (rfl | ⟨jti, ttl, rfl⟩ | ⟨entry, rfl⟩ | ⟨event, rfl⟩) <;> trivial
  unfold AuthService.logout
  refine justified_bind (hfree ?_) fun h₁ hsub₁ _ => ?_
  · exact uses_revokeAccessToken (.inl rfl) fun jti ttl _ => .inr (.inl ⟨jti, ttl, rfl⟩)
  · refine justified_bind ?_ fun h₂ hsub₂ userId => ?_
    · unfold AuthService.logoutSession
      refine justified_perform_bind ⟨raw, rfl, rfl⟩ fun t? => ?_
      cases t? with
      | none => trivial
      | some t =>
        refine justified_bind ?_ fun _ _ _ => trivial
        apply justified_perform_bind trivial
        intro revokedAt
        exact justified_perform (.obtained t (.found raw rfl (by simp)) rfl)
    · refine justified_bind (hfree ?_) fun h₃ hsub₃ _ => justified_perform trivial
      exact uses_publishLogout (.inl rfl) fun _ _ _ => .inr (.inr (.inr ⟨_, rfl⟩))

theorem addresses_forgotPassword (email : String) (ip : Option String) :
    (AuthService.forgotPassword env email ip).Justified
      (Request.Addresses (.forgotPassword email ip)) h := by
  unfold AuthService.forgotPassword
  refine justified_perform_bind rfl fun user? => ?_
  cases user? with
  | none => trivial
  | some c =>
    refine addresses_of_uses (u := c.id) (.byEmail email c rfl (by simp) rfl) ?_
    refine uses_perform_bind trivial fun raw => uses_perform_bind trivial fun now => ?_
    refine uses_perform_bind rfl fun _ => uses_perform_bind rfl fun _ => ?_
    exact uses_bind concerns_publish fun _ => (uses_perform _).mpr trivial

theorem addresses_resetPassword (raw : Nat) (newPassword : String) (ip : Option String) :
    (AuthService.resetPassword raw newPassword ip).Justified
      (Request.Addresses (.resetPassword raw newPassword ip)) h := by
  unfold AuthService.resetPassword
  refine justified_perform_bind ⟨raw, rfl, rfl⟩ fun resetToken? => ?_
  cases resetToken? with
  | none => trivial
  | some t =>
    simp only
    split
    · exact justified_throw _
    · apply justified_perform_bind trivial
      intro now
      split
      · trivial
      · have hu : ∀ h', ⟨.findResetTokenByHash (hashToken raw), .ok (some t)⟩ ∈ h' →
            Reaches (.resetPassword raw newPassword ip) h' t.userId := fun h' ht =>
          .byResetToken raw t rfl ht rfl
        unfold AuthService.redeem
        refine justified_bind (addresses_of_uses (hu _ (by simp)) ?_) fun h₁ hsub₁ _ => ?_
        · apply uses_perform_bind trivial
          intro passwordHash
          exact uses_perform_bind trivial fun _ => (uses_perform _).mpr rfl
        · have ht₁ : ⟨.findResetTokenByHash (hashToken raw), .ok (some t)⟩ ∈ h₁ := hsub₁ (by simp)
          refine justified_bind ?_ fun h₂ hsub₂ _ => addresses_of_uses (hu _ (hsub₂ ht₁)) ?_
          · apply justified_perform_bind trivial
            intro usedAt
            exact justified_perform ⟨raw, t, rfl, by simp [ht₁], rfl⟩
          · refine uses_perform_bind rfl fun _ => uses_bind concerns_revokeAll fun _ => ?_
            exact uses_bind concerns_publish fun _ => (uses_perform _).mpr trivial

/-- The requests but for those that judge access tokens and the jobs. -/
def Request.addressed : Request → Bool
  | .validateToken _ => false
  | .introspect _ => false
  | .unlockExpiredLockouts => false
  | .cleanupRefreshTokens => false
  | .cleanupPasswordResets => false
  | _ => true

theorem addresses_handle (env : Env) (hr : r.addressed = true) :
    (handle env r).Justified r.Addresses [] := by
  cases r
  case register email password ip ua => exact justified_map (addresses_register email password ip ua) _
  case login email password ip ua => exact justified_map (addresses_login email password ip ua) _
  case refreshToken raw => exact justified_map (addresses_refreshToken raw) _
  case logout token raw ip ua => exact justified_map (addresses_logout token raw ip ua) _
  case forgotPassword email ip => exact justified_map (addresses_forgotPassword email ip) _
  case resetPassword raw newPassword ip =>
    exact justified_map (addresses_resetPassword raw newPassword ip) _
  case getAllRoles => exact justified_perform_bind trivial fun _ => trivial
  case revokeSession id =>
    refine justified_map (justified_perform_bind trivial fun revokedAt => ?_) _
    exact justified_perform (.named rfl)
  case revokeToken u reason =>
    cases u with
    | none => trivial
    | some u =>
      exact addresses_of_uses (.named rfl) ((about_handle rfl).mono fun _ => concerns_of_about)
  case lockAccount | unlockAccount | banUser | deleteCredentials | assignRole | revokeRole
      | getUserRoles | revokeAllTokens | getActiveSessions =>
    exact addresses_of_uses (.named rfl) ((about_handle rfl).mono fun _ => concerns_of_about)
  all_goals cases hr

end Auth
