import AuthService.Accounts

/-!
# AuthService.Refresh

One refresh request, by the row that its raw token finds.

* `World.presented`       — the row of a raw token.
* `run_refreshTokens_*`   — unknown, revoked, expired, or rotated.
* `run_generateRefreshToken`, `run_rotate` — a new token, or a constraint violation.
* `serve_refreshToken_keeps` — what a property needs to survive a refresh.
* `run_logoutSession` — the row that a logout revokes.
-/

namespace Auth

open Relational Resumption Prog

variable {env : Env} {w : World} {raw : Nat}

/-! ## One refresh -/

/-- The row that `findByTokenHash` returns for a raw token. -/
def World.presented (w : World) (raw : Nat) : Option RefreshToken :=
  w.refreshTokens.find? fun t => t.tokenHash = hashToken raw

theorem presented_mem {t : RefreshToken} (h : w.presented raw = some t) :
    t ∈ w.refreshTokens.rows ∧ t.tokenHash = hashToken raw := by
  obtain ⟨hmem, hp⟩ := Table.find?_mem h
  exact ⟨hmem, of_decide_eq_true hp⟩

theorem presented_of_mem {t : RefreshToken} (ht : t ∈ w.refreshTokens.rows)
    (hh : t.tokenHash = hashToken raw) : w.presented raw = some t := by
  unfold World.presented
  rw [← hh]
  exact Table.find?_uniq ht

section Refresh

variable {t : RefreshToken} {ipAddress userAgent : Option String}

theorem run_findByTokenHash_bind {α : Type} (f : Option RefreshToken → AuthProg α) :
    ((RefreshTokenRepository.findByTokenHash (hashToken raw)).bind f).run (World.machine env) w =
      (f (w.presented raw)).run (World.machine env) w :=
  run_perform_bind (S := sig) (World.machine env) (s := .findRefreshTokenByHash (hashToken raw))
    (a := w.presented raw) rfl

theorem run_refreshTokens_unknown (h : w.presented raw = none) :
    (TokenService.refreshTokens env raw ipAddress userAgent).run (World.machine env) w =
      (.error (.error ErrorMessages.AUTH_REFRESH_TOKEN_INVALID), w) := by
  unfold TokenService.refreshTokens
  simp only [bind_eq]
  rw [run_findByTokenHash_bind, h]
  rfl

/-- The alarm: a revoked token is presented. -/
theorem run_refreshTokens_revoked (h : w.presented raw = some t) (hrev : t.revoked = true) :
    (TokenService.refreshTokens env raw ipAddress userAgent).run (World.machine env) w =
      (.error (.error ErrorMessages.AUTH_TOKEN_REUSE_DETECTED),
        (World.exec env (.revokeAllByUserId t.userId "token_reuse_detected" w.now) w).2) := by
  unfold TokenService.refreshTokens
  simp only [bind_eq]
  rw [run_findByTokenHash_bind, h]
  simp only [hrev, if_true]
  rfl

theorem run_refreshTokens_expired (h : w.presented raw = some t) (hrev : t.revoked = false)
    (hexp : t.expiresAt < w.now) :
    (TokenService.refreshTokens env raw ipAddress userAgent).run (World.machine env) w =
      (.error (.error ErrorMessages.AUTH_REFRESH_TOKEN_INVALID), w) := by
  unfold TokenService.refreshTokens
  simp only [bind_eq]
  rw [run_findByTokenHash_bind, h]
  simp only [hrev, Bool.false_eq_true, if_false]
  rw [run_newDate_bind, if_pos hexp]
  rfl

theorem run_refreshTokens_rotates (h : w.presented raw = some t) (hrev : t.revoked = false)
    (hexp : ¬ t.expiresAt < w.now) :
    (TokenService.refreshTokens env raw ipAddress userAgent).run (World.machine env) w =
      (TokenService.rotate env t ipAddress userAgent).run (World.machine env) w := by
  unfold TokenService.refreshTokens
  simp only [bind_eq]
  rw [run_findByTokenHash_bind, h]
  simp only [hrev, Bool.false_eq_true, if_false]
  rw [run_newDate_bind, if_neg hexp]

/-- What a property needs to survive the controller's part of a refresh. -/
theorem serve_refreshToken_invariant {I : World → Prop}
    (hI : ∀ s w, s.plain = true → s.writesRefreshTokens = false → I w → I (World.exec env s w).2)
    (h : I ((TokenService.refreshTokens env raw none none).run (World.machine env) w).2) :
    I (serve env (.refreshToken raw) w).2 := by
  unfold serve handle
  rw [run_bind_ret]
  unfold AuthController.refreshToken
  simp only [bind_eq]
  rw [run_bind]
  rcases hrun : (TokenService.refreshTokens env raw none none).run (World.machine env) w with ⟨r, w'⟩
  rw [hrun] at h
  cases r with
  | error e => exact h
  | ok result =>
    refine run_invariant (A := fun s : Stmt => s.plain = true ∧ s.writesRefreshTokens = false) ?_
      (fun s w hs => hI s w hs.1 hs.2) h
    refine uses_perform_bind ⟨rfl, rfl⟩ fun credential? => ?_
    cases credential? with
    | none => trivial
    | some c => exact uses_perform_bind ⟨rfl, rfl⟩ fun _ => trivial

/-- What a property needs to survive a whole refresh. -/
theorem serve_refreshToken_keeps {I : World → Prop}
    (hI : ∀ s w, s.plain = true → I w → I (World.exec env s w).2)
    (hrotate : ∀ t, w.presented raw = some t → t.revoked = false → ¬ t.expiresAt < w.now →
      I ((TokenService.rotate env t none none).run (World.machine env) w).2)
    (h : I w) : I (serve env (.refreshToken raw) w).2 := by
  refine serve_refreshToken_invariant (fun s w hs _ => hI s w hs) ?_
  cases hfound : w.presented raw with
  | none =>
    rw [run_refreshTokens_unknown hfound]
    exact h
  | some t =>
    cases hrev : t.revoked with
    | true =>
      rw [run_refreshTokens_revoked hfound hrev]
      exact hI _ w rfl h
    | false =>
      by_cases hexp : t.expiresAt < w.now
      · rw [run_refreshTokens_expired hfound hrev hexp]
        exact h
      · rw [run_refreshTokens_rotates hfound hrev hexp]
        exact hrotate t hfound hrev hexp

theorem serve_refreshToken_rotates (h : w.presented raw = some t) (hrev : t.revoked = false)
    (hexp : ¬ t.expiresAt < w.now) :
    serve env (.refreshToken raw) w =
      (((TokenService.rotate env t none none).bind fun result =>
        AuthController.issueAccessToken result).bind fun a => .ret (Response.auth a)).run
          (World.machine env) w :=
  run_bind_congr _ _ (run_bind_congr _ _ (run_refreshTokens_rotates h hrev hexp))

/-- A failure of `refreshTokens` is the request's. -/
theorem serve_refreshToken_error {e : Exn} {w' : World}
    (h : (TokenService.refreshTokens env raw none none).run (World.machine env) w = (.error e, w')) :
    serve env (.refreshToken raw) w = (.error e, w') :=
  run_bind_error _ (run_bind_error _ h)

/-- The row that `generateRefreshToken` asks for. -/
def requested (env : Env) (userId : Nat) (deviceFingerprint ipAddress userAgent : Option String)
    (w : World) : NewRefreshToken :=
  ⟨userId, hashToken w.supply, env.zone.setDatePlus w.now env.refreshTokenExpiryDays, w.now,
    deviceFingerprint, ipAddress, userAgent⟩

/-- A new row, or a constraint violation; the raw token is used up in either case. -/
theorem run_generateRefreshToken (env : Env) (userId : Nat)
    (deviceFingerprint ipAddress userAgent : Option String) (w : World) :
    ∃ data, data = requested env userId deviceFingerprint ipAddress userAgent w ∧
      ((∃ e, World.exec env (.createRefreshToken data) { w with supply := w.supply + 1 } =
            (.error e, { w with supply := w.supply + 1 }) ∧
          (TokenService.generateRefreshToken env userId deviceFingerprint ipAddress userAgent).run
            (World.machine env) w = (.error e, { w with supply := w.supply + 1 })) ∨
        ∃ w', World.exec env (.createRefreshToken data) { w with supply := w.supply + 1 } =
            (.ok (World.newRefreshToken (w.supply + 1) data), w') ∧
          World.newRefreshToken (w.supply + 1) data ∈ w'.refreshTokens.rows ∧
          w.supply + 1 < w'.supply ∧
          (TokenService.generateRefreshToken env userId deviceFingerprint ipAddress userAgent).run
            (World.machine env) w =
              (.ok (w.supply, World.newRefreshToken (w.supply + 1) data), w')) := by
  refine ⟨_, rfl, ?_⟩
  have hrun : (TokenService.generateRefreshToken env userId deviceFingerprint ipAddress userAgent).run
        (World.machine env) w =
      ((query (.createRefreshToken (requested env userId deviceFingerprint ipAddress userAgent w)) :
          AuthProg RefreshToken).bind fun row => .ret (w.supply, row)).run (World.machine env)
        { w with supply := w.supply + 1 } := rfl
  rw [hrun]
  generalize requested env userId deviceFingerprint ipAddress userAgent w = data
  rcases World.exec_createRefreshToken env { w with supply := w.supply + 1 } data with
    ⟨e, he⟩ | ⟨table, he, hrows, -⟩
  · refine .inl ⟨e, he, run_bind_error _ ?_⟩
    exact (run_perform _ _ _).trans he
  · refine .inr ⟨_, he, ?_, Nat.lt_succ_self _, run_bind_ok _ ?_⟩
    · rw [hrows]
      exact List.mem_append_right _ List.mem_cons_self
    · exact (run_perform _ _ _).trans he

/-- A rotation: the old row is revoked; then the insert fails, or the new row is inserted and
linked. -/
theorem run_rotate (env : Env) (t : RefreshToken) (ipAddress userAgent : Option String) (w : World) :
    ∃ w₁, w₁ = (World.exec env (.revokeToken t.id "rotated" w.now) w).2 ∧
      ((∃ data e, data.userId = t.userId ∧ data.tokenHash = hashToken w₁.supply ∧
          World.exec env (.createRefreshToken data) { w₁ with supply := w₁.supply + 1 } =
            (.error e, { w₁ with supply := w₁.supply + 1 }) ∧
          (TokenService.rotate env t ipAddress userAgent).run (World.machine env) w =
            (.error e, { w₁ with supply := w₁.supply + 1 })) ∨
        ∃ data w₂ result, data.userId = t.userId ∧ data.issuedAt = w₁.now ∧
          data.tokenHash = hashToken w₁.supply ∧
          World.exec env (.createRefreshToken data) { w₁ with supply := w₁.supply + 1 } =
            (.ok (World.newRefreshToken (w₁.supply + 1) data), w₂) ∧
          World.newRefreshToken (w₁.supply + 1) data ∈ w₂.refreshTokens.rows ∧
          w₁.supply + 1 < w₂.supply ∧
          (TokenService.rotate env t ipAddress userAgent).run (World.machine env) w =
            (.ok result, (World.exec env (.updateLastUsed (w₁.supply + 1) w₂.now)
              (World.exec env (.setReplacedBy t.id (w₁.supply + 1)) w₂).2).2)) := by
  refine ⟨_, rfl, ?_⟩
  generalize hw₁ : (World.exec env (.revokeToken t.id "rotated" w.now) w).2 = w₁
  have hrun : ∃ k : Nat × RefreshToken → AuthProg RefreshResult,
      (TokenService.rotate env t ipAddress userAgent).run (World.machine env) w =
        ((TokenService.generateRefreshToken env t.userId
          (some (env.generateDeviceFingerprint userAgent ipAddress)) ipAddress userAgent).bind k).run
            (World.machine env) w₁ ∧
      ∀ raw row w₂, ∃ result, (k (raw, row)).run (World.machine env) w₂ =
        (.ok result, (World.exec env (.updateLastUsed row.id w₂.now)
          (World.exec env (.setReplacedBy t.id row.id) w₂).2).2) := by
    subst hw₁
    exact ⟨_, rfl, fun raw row w₂ => ⟨_, rfl⟩⟩
  obtain ⟨k, hrun, hk⟩ := hrun
  rw [hrun]
  obtain ⟨data, rfl, ⟨e, he, hgen⟩ | ⟨w₂, hexec, hmem, hlt, hgen⟩⟩ := run_generateRefreshToken env t.userId
    (some (env.generateDeviceFingerprint userAgent ipAddress)) ipAddress userAgent w₁
  · exact .inl ⟨_, e, rfl, rfl, he, run_bind_error _ hgen⟩
  · obtain ⟨result, hk⟩ := hk w₁.supply _ w₂
    exact .inr ⟨_, w₂, result, rfl, rfl, rfl, hexec, hmem, hlt, (run_bind_ok _ hgen).trans hk⟩

end Refresh

/-! ## The session of a logout -/

/-- The world after the session lookup of a logout, with the user of the audit row. -/
def afterLogoutSession (env : Env) (token : Jwt) (raw : Nat) (w : World) : Option Nat × World :=
  match w.presented raw with
  | some t => (some t.userId, (World.exec env (.revokeToken t.id "logout" w.now) w).2)
  | none => ((decodeToken token).bind (·.sub), w)

theorem run_logoutSession (env : Env) (token : Jwt) (raw : Nat) (w : World) :
    (AuthService.logoutSession token raw).run (World.machine env) w =
      (.ok (afterLogoutSession env token raw w).1, (afterLogoutSession env token raw w).2) := by
  unfold AuthService.logoutSession afterLogoutSession
  simp only [bind_eq]
  rw [run_findByTokenHash_bind]
  cases w.presented raw with
  | none => rfl
  | some t => rfl

end Auth
