import AuthService.AccessTokens
import AuthService.Dating
import AuthService.Refresh

/-!
# AuthService.ForensicWindow

How long a revoked refresh token stays in the table.

* `revokedWithin`  — revoked less than seven days before.
* `cleanup_keeps_iff` — the cleanup keeps the tokens revoked within the window iff none of them has
  expired.
* `Recorded`       — the row of a raw token is there, revoked at a certain instant or later.
* `forensic_window` — with cleanups that keep the window, a token that is replayed within seven days
  of its rotation raises the alarm, whatever else was asked for in between.

The job deletes every expired token, however recently it was revoked: a token that is rotated on its
last day is gone the day after.
-/

namespace Auth

open Relational Resumption Prog

variable {env : Env} {w : World} {raw u : Nat} {since : Int}

/-- Seven days. -/
def retention : Int := 7 * 24 * 60 * 60 * 1000

def RefreshToken.revokedWithin (now : Int) (t : RefreshToken) : Bool :=
  t.revoked && t.revokedAt.any fun revokedAt => now - retention < revokedAt

/-- What the cleanup does to the table. -/
theorem serve_cleanup (env : Env) (w : World) :
    serve env .cleanupRefreshTokens w =
      (.ok .done, (World.exec env (.deleteExpiredAndRevoked w.now) w).2) := rfl

theorem mem_cleanup {t : RefreshToken} :
    t ∈ (serve env .cleanupRefreshTokens w).2.refreshTokens.rows ↔
      t ∈ w.refreshTokens.rows ∧ World.expiredOrLongRevoked w.now t = false := by
  rw [serve_cleanup]
  exact Table.mem_deleteWhere

/-- Of a token revoked within the window, only the expiry counts. -/
theorem kept_of_revokedWithin {now : Int} {t : RefreshToken} (h : t.revokedWithin now = true) :
    World.expiredOrLongRevoked now t = false ↔ ¬ t.expiresAt < now := by
  unfold RefreshToken.revokedWithin at h
  rw [Bool.and_eq_true] at h
  obtain ⟨hrev, hany⟩ := h
  cases hat : t.revokedAt with
  | none =>
    rw [hat] at hany
    cases hany
  | some revokedAt =>
    rw [hat] at hany
    have hrecent : now - retention < revokedAt := of_decide_eq_true hany
    have hlong : decide (revokedAt < now - 7 * 24 * 60 * 60 * 1000) = false := by
      unfold retention at hrecent
      exact decide_eq_false (by omega)
    simp only [World.expiredOrLongRevoked, hrev, hat, hlong, Bool.and_false, Bool.or_false,
      decide_eq_false_iff_not]

/-- The cleanup keeps the window iff nothing in the window has expired. -/
theorem cleanup_keeps_iff (env : Env) (w : World) :
    (∀ t ∈ w.refreshTokens.rows, t.revokedWithin w.now = true →
        t ∈ (serve env .cleanupRefreshTokens w).2.refreshTokens.rows) ↔
      ∀ t ∈ w.refreshTokens.rows, t.revokedWithin w.now = true → ¬ t.expiresAt < w.now := by
  refine forall_congr' fun t => forall_congr' fun ht => forall_congr' fun hrevoked => ?_
  rw [mem_cleanup, kept_of_revokedWithin hrevoked]
  exact and_iff_right ht

/-! ## A rotated token stays on record -/

/-- The row of the raw token is there, as one of `u` that was revoked at `since` or later. -/
def Recorded (raw u : Nat) (since : Int) (w : World) : Prop :=
  ∃ t ∈ w.refreshTokens.rows, t.tokenHash = hashToken raw ∧ t.userId = u ∧ t.revoked = true ∧
    ∃ revokedAt, t.revokedAt = some revokedAt ∧ since ≤ revokedAt

/-- Statements that delete no session and date no revocation before `since`. -/
theorem recorded_exec (env : Env) {s : Stmt} (hs : s.deletesRefreshTokens = false)
    (hdate : ∀ revokedAt, s.revokedAt? = some revokedAt → since ≤ revokedAt)
    (h : Recorded raw u since w) : Recorded raw u since (World.exec env s w).2 := by
  obtain ⟨t, ht, hhash, huser, hrev, revokedAt, hat, hsince⟩ := h
  have hev := s.evolves_onRefreshToken t
  refine ⟨_, World.exec_keeps env hs ht, hev.tokenHash_eq.trans hhash, hev.userId_eq.trans huser,
    hev.revoked hrev, ?_⟩
  rcases revokedAt_onRefreshToken s t with hsame | ⟨later, hs', hlater⟩
  · exact ⟨revokedAt, hsame.trans hat, hsince⟩
  · exact ⟨later, hlater, hdate later hs'⟩

/-- The account of another user is deleted. -/
theorem recorded_deleteCredential (env : Env) {v : Nat} (hv : v ≠ u) (h : Recorded raw u since w) :
    Recorded raw u since (World.exec env (.deleteCredential v) w).2 := by
  obtain ⟨t, ht, hhash, huser, hrest⟩ := h
  refine ⟨t, Table.mem_deleteWhere.mpr ⟨ht, ?_⟩, hhash, huser, hrest⟩
  rw [huser]
  exact decide_eq_false (Ne.symm hv)

/-- No cleanup of the window, and no deletion of the owner's account. -/
def Careful (u : Nat) (w : World) : Action → Prop
  | .request .cleanupRefreshTokens =>
    ∀ t ∈ w.refreshTokens.rows, t.revokedWithin w.now = true → ¬ t.expiresAt < w.now
  | .request (.deleteCredentials v) => v ≠ u
  | _ => True

/-- A cleanup in the window, when nothing in the window has expired. -/
theorem recorded_cleanup
    (hcareful : ∀ t ∈ w.refreshTokens.rows, t.revokedWithin w.now = true → ¬ t.expiresAt < w.now)
    (hwindow : w.now < since + retention) (h : Recorded raw u since w) :
    Recorded raw u since (serve env .cleanupRefreshTokens w).2 := by
  obtain ⟨t, ht, hhash, huser, hrev, revokedAt, hat, hsince⟩ := h
  have hrecent : t.revokedWithin w.now = true := by
    have hdate : w.now - retention < revokedAt := by omega
    simp [RefreshToken.revokedWithin, hrev, hat, hdate]
  have hkept := (kept_of_revokedWithin hrecent).mpr (hcareful t ht hrecent)
  exact ⟨t, mem_cleanup.mpr ⟨ht, hkept⟩, hhash, huser, hrev, revokedAt, hat, hsince⟩

/-- The requests that delete sessions of `u`, if any. -/
def Request.clears (u : Nat) : Request → Prop
  | .cleanupRefreshTokens => True
  | .deleteCredentials v => v = u
  | _ => False

theorem recorded_statement {r : Request} (hr : ¬ r.clears u) {s : Stmt} (hs : r.footprint s)
    (hdate : ∀ revokedAt, s.revokedAt? = some revokedAt → since ≤ revokedAt)
    (h : Recorded raw u since w) : Recorded raw u since (World.exec env s w).2 := by
  by_cases hdel : s.deletesRefreshTokens = false
  · exact recorded_exec env hdel hdate h
  · cases s
    case deleteCredential id =>
      cases r
      case deleteCredentials v =>
        obtain rfl : id = v := hs
        exact recorded_deleteCredential env hr h
      case refreshToken => rcases hs with hs | ⟨_, hs⟩ <;> cases hs
      case register | login => obtain ⟨_, hs⟩ := hs; cases hs
      all_goals cases hs
    case deleteExpiredAndRevoked =>
      cases r
      case cleanupRefreshTokens => exact absurd trivial hr
      case refreshToken => rcases hs with hs | ⟨_, hs⟩ <;> cases hs
      case register | login => obtain ⟨_, hs⟩ := hs; cases hs
      all_goals cases hs
    all_goals exact absurd rfl hdel

/-- One request: it dates revocations by readings of the clock, all of them `since` or later. -/
theorem recorded_serve {r : Request} (hr : ¬ r.clears u) (hsince : since ≤ w.now)
    (h : Recorded raw u since w) : Recorded raw u since (serve env r w).2 := by
  have hconf := (dated_handle env r []).restrict (uses_handle r)
  have hstep : ∀ (φ : List Int) (s : Stmt) (w : World),
      ((∀ d ∈ φ, since ≤ d) ∧ since ≤ w.now ∧ Recorded raw u since w) →
      ((Readings.monitor env).restrict r.footprint).allowed φ s →
      (∀ d ∈ Readings.next φ s (World.exec env s w).1, since ≤ d) ∧
        since ≤ (World.exec env s w).2.now ∧ Recorded raw u since (World.exec env s w).2 := by
    rintro φ s w ⟨hφ, hnow, hrec⟩ ⟨hdated, hs⟩
    refine ⟨?_, ?_, ?_⟩
    · intro d hd
      cases s
      case newDate =>
        rcases List.mem_cons.mp hd with rfl | hd
        · exact hnow
        · exact hφ d hd
      all_goals exact hφ d hd
    · rw [World.exec_now]
      exact hnow
    · refine recorded_statement hr hs (fun revokedAt hat => ?_) hrec
      exact hφ revokedAt (Readings.mem_of_allowed hdated hat)
  obtain ⟨_, -, -, -, hrec⟩ := hconf.run (M := World.machine env)
    (J := fun φ w => (∀ d ∈ φ, since ≤ d) ∧ since ≤ w.now ∧ Recorded raw u since w) hstep
    ⟨by simp, hsince, h⟩
  exact hrec

theorem recorded_act (a : Action) (hcareful : Careful u w a) (hsince : since ≤ w.now)
    (hwindow : w.now < since + retention) (h : Recorded raw u since w) :
    Recorded raw u since (act env w a) := by
  cases a with
  | pass n => exact h
  | request r =>
    cases r
    case cleanupRefreshTokens => exact recorded_cleanup hcareful hwindow h
    case deleteCredentials v => exact recorded_serve (r := .deleteCredentials v) hcareful hsince h
    all_goals exact recorded_serve (fun hr => hr) hsince h

theorem now_act (env : Env) (w : World) (a : Action) : w.now ≤ (act env w a).now := by
  cases a with
  | request r => exact (now_serve r).ge
  | pass n =>
    show w.now ≤ w.now + n
    omega

theorem now_runs (env : Env) (w : World) (as : List Action) : w.now ≤ (runs env w as).now := by
  induction as generalizing w with
  | nil => exact le_refl _
  | cons a as ih => exact (now_act env w a).trans (ih _)

theorem recorded_runs {as : List Action} (hcareful : Along env (Careful u) w as)
    (hsince : since ≤ w.now) (hwindow : (runs env w as).now < since + retention)
    (h : Recorded raw u since w) : Recorded raw u since (runs env w as) := by
  induction as generalizing w with
  | nil => exact h
  | cons a as ih =>
    have hw : w.now < since + retention := lt_of_le_of_lt (now_runs env w (a :: as)) hwindow
    exact ih hcareful.2 (hsince.trans (now_act env w a)) hwindow
      (recorded_act a hcareful.1 hsince hw h)

/-! ## A rotation, and its replay -/

/-- The presented row is revoked at once, whatever becomes of its successor. -/
theorem recorded_rotation (env : Env) {t : RefreshToken} (hfound : w.presented raw = some t)
    (hrev : t.revoked = false) (hexp : ¬ t.expiresAt < w.now) :
    Recorded raw t.userId w.now (serve env (.refreshToken raw) w).2 := by
  obtain ⟨ht, hhash⟩ := presented_mem hfound
  refine serve_refreshToken_invariant (I := Recorded raw t.userId w.now)
    (fun s w' hplain hs hrec => ?_) ?_
  · refine recorded_exec env ?_ ?_ hrec
    · cases s <;> first | rfl | cases hs
    · intro revokedAt hat
      cases s
      case revokeToken | revokeAllByUserId => cases hs
      all_goals cases hat
  · rw [run_refreshTokens_rotates hfound hrev hexp]
    obtain ⟨w₁, hw₁, hcases⟩ := run_rotate env t none none w
    have h₁ : Recorded raw t.userId w.now w₁ := by
      subst hw₁
      have hkept := World.exec_keeps env (s := .revokeToken t.id "rotated" w.now) rfl ht
      have hev := (Stmt.revokeToken t.id "rotated" w.now).evolves_onRefreshToken t
      have hpatched : (Stmt.revokeToken t.id "rotated" w.now).onRefreshToken t =
          (RefreshToken.revoke "rotated" w.now).apply t := by
        simp [Stmt.onRefreshToken, Stmt.tokenUpdate, Table.patchIf]
      rw [hpatched] at hkept
      exact ⟨_, hkept, hhash, rfl, rfl, w.now, rfl, le_refl _⟩
    rcases hcases with ⟨_, e, -, -, -, hrun⟩ | ⟨data, w₂, result, -, -, -, hexec, -, -, hrun⟩
    · rw [hrun]
      exact h₁
    · rw [hrun]
      have h₂ : Recorded raw t.userId w.now w₂ := by
        have hnew : Recorded raw t.userId w.now (World.exec env (.createRefreshToken data)
            { w₁ with supply := w₁.supply + 1 }).2 := recorded_exec env rfl (by rintro _ ⟨⟩) h₁
        rwa [hexec] at hnew
      exact recorded_exec env rfl (by rintro _ ⟨⟩) (recorded_exec env rfl (by rintro _ ⟨⟩) h₂)

/-- A recorded token raises the alarm. -/
theorem replay_recorded (env : Env) (h : Recorded raw u since w) :
    (serve env (.refreshToken raw) w).1 =
        .error (.error ErrorMessages.AUTH_TOKEN_REUSE_DETECTED) ∧
      (serve env (.refreshToken raw) w).2.signedOut u := by
  obtain ⟨t, ht, hhash, rfl, hrev, -⟩ := h
  rw [serve_refreshToken_error (run_refreshTokens_revoked (presented_of_mem ht hhash) hrev)]
  exact ⟨rfl, World.signedOut_revokeAll env w t.userId _ _⟩

/-- The cleanup deletes nothing from the window iff nothing in it has expired. Where every cleanup
finds it so and the owner's account is not deleted, a token that is replayed within seven days of
its rotation raises the alarm and signs its owner out, whatever else has been served in between. -/
theorem forensic_window (env : Env) :
    (∀ w : World,
      (∀ t ∈ w.refreshTokens.rows, t.revokedWithin w.now = true →
          t ∈ (serve env .cleanupRefreshTokens w).2.refreshTokens.rows) ↔
        ∀ t ∈ w.refreshTokens.rows, t.revokedWithin w.now = true → ¬ t.expiresAt < w.now) ∧
    ∀ (w : World) (raw : Nat) (t : RefreshToken), w.presented raw = some t → t.revoked = false →
      ¬ t.expiresAt < w.now → ∀ as : List Action,
        Along env (Careful t.userId) (serve env (.refreshToken raw) w).2 as →
        (runs env (serve env (.refreshToken raw) w).2 as).now < w.now + retention →
          (serve env (.refreshToken raw) (runs env (serve env (.refreshToken raw) w).2 as)).1 =
              .error (.error ErrorMessages.AUTH_TOKEN_REUSE_DETECTED) ∧
            (serve env (.refreshToken raw)
              (runs env (serve env (.refreshToken raw) w).2 as)).2.signedOut t.userId := by
  refine ⟨cleanup_keeps_iff env, fun w raw t hfound hrev hexp as hcareful hwindow => ?_⟩
  have hrec := recorded_rotation env hfound hrev hexp
  exact replay_recorded env (recorded_runs hcareful (now_serve _).ge hwindow hrec)

/-- A cleanup six days after the rotation. -/
theorem forensic_window_sixth_day :
    let w := (serve Env.plain (.refreshToken 3) registered).2
    let as : List Action := [.pass (6 * 24 * 60 * 60 * 1000), .request .cleanupRefreshTokens]
    (serve Env.plain (.refreshToken 3) (runs Env.plain w as)).1 =
        .error (.error ErrorMessages.AUTH_TOKEN_REUSE_DETECTED) ∧
      (serve Env.plain (.refreshToken 3) (runs Env.plain w as)).2.signedOut 1 := by
  intro w as
  have hfound : registered.presented 3 = some registeredSession := by decide +kernel
  refine (forensic_window Env.plain).2 registered 3 _ hfound rfl (by decide +kernel) as
    ⟨trivial, ?_, trivial⟩ (by decide +kernel)
  show ∀ t ∈ _, _
  decide +kernel

/-- A session is refreshed on its sixth day. Two days later its old token has expired and is
deleted; who replays it now is told that it is invalid, and no session is revoked. -/
theorem forensic_window_lost :
    (¬ ∀ w : World, Reachable Env.plain w → ∀ t ∈ w.refreshTokens.rows,
      t.revokedWithin w.now = true →
        t ∈ (serve Env.plain .cleanupRefreshTokens w).2.refreshTokens.rows) ∧
    ¬ ∀ (w : World) (raw : Nat) (t : RefreshToken), Reachable Env.plain w →
      w.presented raw = some t → t.revoked = false → ¬ t.expiresAt < w.now → ∀ n : Nat,
        n < retention →
          (serve Env.plain (.refreshToken raw) (runs Env.plain w
            [.request (.refreshToken raw), .pass n, .request .cleanupRefreshTokens])).1 =
              .error (.error ErrorMessages.AUTH_TOKEN_REUSE_DETECTED) := by
  have hreach : Reachable Env.plain (runs Env.plain registered [.pass (6 * 24 * 60 * 60 * 1000)]) :=
    registered_reachable.after _
  constructor
  · intro h
    have hkept := h _ (hreach.after [.request (.refreshToken 3), .pass (2 * 24 * 60 * 60 * 1000)])
    revert hkept
    decide +kernel
  · intro h
    have hfound : (runs Env.plain registered [.pass (6 * 24 * 60 * 60 * 1000)]).presented 3 =
        some registeredSession := by decide +kernel
    have halarm := h _ 3 _ hreach hfound rfl (by decide +kernel) (2 * 24 * 60 * 60 * 1000)
      (by decide)
    revert halarm
    decide +kernel

end Auth
