import AuthService.Integrity
import AuthService.Resumption.Fault

/-!
# AuthService.Failures

A refresh in which database calls, or the signature, may fail.

* `Stmt.inProcess`    — the statements that cannot fail: the clock and fresh UUIDs.
* `Spared`            — the presented token is still active, and a retry succeeds.
* `failed_refresh_spares_iff` — a refresh that fails spares its token exactly when it failed before
  the old token was revoked.
-/

namespace Auth

open Relational Resumption Prog

variable {env : Env} {w : World} {raw : Nat} {t : RefreshToken} {fault : Stmt → Option (Fault Exn)}

def Stmt.inProcess : Stmt → Bool
  | .newDate => true
  | .uuidv4 => true
  | _ => false

/-- The raw token is still good: its row is active, and presenting it before it expires succeeds. -/
def Spared (env : Env) (w : World) (raw : Nat) : Prop :=
  ∃ t, w.presented raw = some t ∧ t.active w.now = true ∧
    ∀ n : Nat, w.now + n < t.expiresAt →
      ∃ a, (serve env (.refreshToken raw) (act env w (.pass n))).1 = .ok (.auth a)

/-- The row of the raw token has been revoked. -/
def Burnt (w : World) (raw : Nat) : Prop :=
  ∃ t ∈ w.refreshTokens.rows, t.tokenHash = hashToken raw ∧ t.revoked = true

instance : Decidable (Burnt w raw) :=
  inferInstanceAs (Decidable (∃ t ∈ w.refreshTokens.rows, t.tokenHash = hashToken raw ∧ t.revoked = true))

theorem not_spared_of_burnt (h : Burnt w raw) : ¬ Spared env w raw := by
  obtain ⟨t, ht, hh, hrev⟩ := h
  rintro ⟨t', hfound, hactive, -⟩
  rw [presented_of_mem ht hh] at hfound
  cases hfound
  rw [RefreshToken.not_active_of_revoked hrev] at hactive
  cases hactive

theorem spared_of_active (hw : Reachable env w) (hfound : w.presented raw = some t)
    (hactive : t.active w.now = true) : Spared env w raw := by
  refine ⟨t, hfound, hactive, fun n hn => ?_⟩
  refine refresh_succeeds (hw.after [.pass n]).integrity (t := t) hfound ?_
  simp only [RefreshToken.active, Bool.and_eq_true, decide_eq_true_eq] at hactive ⊢
  exact ⟨hactive.1, hn⟩

theorem burnt_exec {s : Stmt} (hs : s.deletesRefreshTokens = false) (h : Burnt w raw) :
    Burnt (World.exec env s w).2 raw := by
  obtain ⟨t, ht, hh, hrev⟩ := h
  obtain ⟨t', ht', hev⟩ := World.exec_evolves env hs ht
  exact ⟨t', ht', hev.tokenHash_eq.trans hh, hev.revoked hrev⟩

theorem burnt_revokeToken (env : Env) (hfound : w.presented raw = some t) (reason : String)
    (revokedAt : Int) :
    Burnt (World.exec env (.revokeToken t.id reason revokedAt) w).2 raw := by
  obtain ⟨ht, hh⟩ := presented_mem hfound
  have hkept := World.exec_keeps env (s := .revokeToken t.id reason revokedAt) rfl ht
  have hev := (Stmt.revokeToken t.id reason revokedAt).evolves_onRefreshToken t
  exact ⟨_, hkept, hev.tokenHash_eq.trans hh, World.exec_revokeToken hkept hev.id_eq⟩

/-- Faulty or not, a program that deletes no session leaves a burnt token burnt. -/
theorem burnt_run (env : Env) (fault : Stmt → Option (Fault Exn)) {α : Type} {p : AuthProg α}
    (hp : p.Uses fun s : Stmt => s.deletesRefreshTokens = false) (h : Burnt w raw) :
    Burnt (p.run ((World.machine env).withFaults fault) w).2 raw :=
  run_invariant (I := fun w => Burnt w raw) hp
    (fun _ _ hs h => withFaults_keeps (M := World.machine env) (I := fun w => Burnt w raw) h
      (burnt_exec hs h)) h

/-! ## The refresh under faults -/

/-- The clock cannot fail. -/
theorem run_faulty_newDate {α : Type} (hlocal : ∀ s : Stmt, s.inProcess = true → fault s = none)
    (f : Int → AuthProg α) (w : World) :
    (newDate.bind f).run ((World.machine env).withFaults fault) w =
      (f w.now).run ((World.machine env).withFaults fault) w :=
  run_spared_bind (S := sig) (M := World.machine env) (hlocal .newDate rfl) rfl

/-- `rotate` after its first statement, and the controller's part. -/
def afterRevoke (env : Env) (t : RefreshToken) : AuthProg AuthResponse :=
  ((TokenService.generateRefreshToken env t.userId
    (some (env.generateDeviceFingerprint none none)) none none).bind fun pair =>
      (RefreshTokenRepository.setReplacedBy t.id pair.2.id).bind fun _ =>
        (RefreshTokenRepository.updateLastUsed pair.2.id).bind fun _ =>
          .ret ⟨pair.1, env.getAccessTokenExpirySeconds, t.userId⟩).bind
    AuthController.issueAccessToken

theorem uses_afterRevoke (env : Env) (t : RefreshToken) :
    (afterRevoke env t).Uses fun s : Stmt => s.deletesRefreshTokens = false := by
  have hq : ∀ s : Stmt, s.quiet = true → s.deletesRefreshTokens = false := by
    intro s hs
    cases s <;> first | rfl | cases hs
  refine uses_bind ?_ fun result => uses_issueAccessToken result (fun _ => rfl) fun _ _ _ => rfl
  refine uses_bind (uses_generateRefreshToken hq fun _ _ => rfl) fun pair => ?_
  refine uses_perform_bind rfl fun _ => ?_
  exact uses_bind (uses_perform_bind rfl fun _ => (uses_perform _).mpr rfl) fun _ => trivial

/-- An active token: the lookup and the clock, then the revocation, then the rest. -/
theorem run_faulty_refresh (hlocal : ∀ s : Stmt, s.inProcess = true → fault s = none)
    (hlookup : fault (.findRefreshTokenByHash (hashToken raw)) = none)
    (hfound : w.presented raw = some t) (hactive : t.active w.now = true) :
    (AuthController.refreshToken env raw).run ((World.machine env).withFaults fault) w =
      ((query (.revokeToken t.id "rotated" w.now)).bind fun _ => afterRevoke env t).run
        ((World.machine env).withFaults fault) w := by
  simp only [RefreshToken.active, Bool.and_eq_true, Bool.not_eq_true', decide_eq_true_eq] at hactive
  obtain ⟨hrev, hexp⟩ := hactive
  unfold AuthController.refreshToken TokenService.refreshTokens RefreshTokenRepository.findByTokenHash
  simp only [bind_eq, bind_assoc]
  rw [run_spared_bind (S := sig) (M := World.machine env) (a := w.presented raw) hlookup rfl, hfound]
  simp only [hrev, Bool.false_eq_true, if_false, bind_assoc]
  rw [show ((World.machine env).exec (.findRefreshTokenByHash (hashToken raw)) w).2 = w from rfl,
    run_faulty_newDate hlocal, if_neg (show ¬ t.expiresAt < w.now by omega)]
  unfold TokenService.rotate RefreshTokenRepository.revokeToken
  simp only [bind_eq, bind_assoc]
  rw [run_faulty_newDate hlocal]
  unfold afterRevoke
  simp only [bind_assoc]
  rfl

/-- A refresh of an active token that fails, with failures at any of its database calls or at the
signature: the token is spared exactly when the lookup failed, or the statement that was to revoke it
did not take effect. -/
theorem failed_refresh_spares_iff (env : Env) (w : World) (hw : Reachable env w)
    (fault : Stmt → Option (Fault Exn)) (hlocal : ∀ s : Stmt, s.inProcess = true → fault s = none)
    (raw : Nat) (t : RefreshToken) (hfound : w.presented raw = some t)
    (hactive : t.active w.now = true) (e : Exn) (w' : World)
    (hfailed : (AuthController.refreshToken env raw).run ((World.machine env).withFaults fault) w =
      (.error e, w')) :
    Spared env w' raw ↔ fault (.findRefreshTokenByHash (hashToken raw)) ≠ none ∨
      ∃ e, fault (.revokeToken t.id "rotated" w.now) = some (.rejected e) := by
  cases hlookup : fault (.findRefreshTokenByHash (hashToken raw)) with
  | some f =>
    have hsame : w' = w := by
      have hrun : ∃ e, (AuthController.refreshToken env raw).run
          ((World.machine env).withFaults fault) w = (.error e, w) := by
        cases f with
        | rejected e =>
          exact ⟨e, run_bind_error _ (run_perform_bind_error (exec_rejected hlookup w))⟩
        | replyLost e =>
          exact ⟨e, run_bind_error _ (run_perform_bind_error (exec_replyLost hlookup w))⟩
      obtain ⟨e', hrun⟩ := hrun
      rw [hrun] at hfailed
      cases hfailed
      rfl
    rw [hsame]
    simp [spared_of_active hw hfound hactive]
  | none =>
    rw [run_faulty_refresh hlocal hlookup hfound hactive] at hfailed
    have hburnt := burnt_revokeToken env hfound "rotated" w.now
    cases hrevoke : fault (.revokeToken t.id "rotated" w.now) with
    | none =>
      rw [run_spared_bind (S := sig) (M := World.machine env) hrevoke rfl] at hfailed
      have hend := burnt_run env fault (uses_afterRevoke env t) hburnt
      have hw' : w' = ((afterRevoke env t).run ((World.machine env).withFaults fault)
          (World.exec env (.revokeToken t.id "rotated" w.now) w).2).2 := (congrArg Prod.snd hfailed).symm
      rw [← hw'] at hend
      exact iff_of_false (not_spared_of_burnt hend) (by simp)
    | some f =>
      cases f with
      | rejected e' =>
        rw [run_perform_bind_error (exec_rejected hrevoke w)] at hfailed
        cases hfailed
        simp [spared_of_active hw hfound hactive]
      | replyLost e' =>
        rw [run_perform_bind_error (exec_replyLost hrevoke w)] at hfailed
        cases hfailed
        exact iff_of_false (not_spared_of_burnt hburnt) (by simp)

def connectionLost : Exn := .error "Connection terminated unexpectedly"

/-- The database is unreachable from the first call on. -/
def outage (s : Stmt) : Option (Fault Exn) :=
  if s.inProcess then none else some (.rejected connectionLost)

theorem failed_refresh_spares_outage : Spared Env.plain registered 3 :=
  (failed_refresh_spares_iff Env.plain registered registered_reachable outage
    (fun s hs => by simp [outage, hs]) 3 registeredSession (by decide +kernel) (by decide +kernel)
    connectionLost registered rfl).mpr (.inl (by decide +kernel))

/-- The connection is lost before the insert of the new token. -/
def lostBeforeInsert : Stmt → Option (Fault Exn)
  | .createRefreshToken _ => some (.rejected connectionLost)
  | _ => none

theorem failed_refresh_burns :
    ¬ ∀ (fault : Stmt → Option (Fault Exn)), (∀ s : Stmt, s.inProcess = true → fault s = none) →
      ∀ (w : World), Reachable Env.plain w → ∀ (raw : Nat) (t : RefreshToken),
        w.presented raw = some t → t.active w.now = true → ∀ (e : Exn) (w' : World),
          (AuthController.refreshToken Env.plain raw).run
            ((World.machine Env.plain).withFaults fault) w = (.error e, w') →
          Spared Env.plain w' raw := by
  intro h
  have hspared := h lostBeforeInsert (fun s hs => by cases s <;> first | rfl | cases hs) registered
    registered_reachable 3 registeredSession (by decide +kernel) (by decide +kernel) connectionLost _ rfl
  exact not_spared_of_burnt (by decide +kernel) hspared

end Auth
