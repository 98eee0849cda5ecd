import AuthService.Failures
import AuthService.PasswordReset

/-!
# AuthService.Interruptions

Requests of several statements that fail half-way: the password reset.

* `World.Redeemable` — the raw token still works, and a retry signs the user out.
* `Recoverable`      — what a reset that stops anywhere must leave: the old password, no session, or a
  token that still works.
* `Timely`           — the first call that fails comes before the token is marked as used, or after
  the sessions are revoked.
* `half_done_reset_iff` — a reset is recoverable iff it fails in time, or there was nothing to lose.

The token is marked as used and deleted before the sessions are revoked. Between these statements a
failure leaves the new password, the old sessions and nothing to retry with.
-/

namespace Auth

open Relational Resumption Prog

variable {env : Env} {w w' : World} {raw : Nat} {t : PasswordResetToken}
  {fault : Stmt → Option (Fault Exn)}

/-! ## The password reset -/

/-- The raw token still works: before it expires, every reset whose password can be hashed goes
through and signs the user out. -/
def World.Redeemable (env : Env) (w : World) (raw : Nat) : Prop :=
  ∃ t, w.presentedReset raw = some t ∧ t.used = false ∧ ¬ t.expiresAt < w.now ∧
    ∀ (n : Nat) (newPassword : String) (ipAddress : Option String), ¬ t.expiresAt < w.now + n →
      (env.hashPassword newPassword w.supply).isSome = true →
        ∃ w', serve env (.resetPassword raw newPassword ipAddress) (act env w (.pass n)) =
          (.ok .done, w') ∧ w'.signedOut t.userId

/-- For every user: the old password, no session left, or a token that still works. -/
def Recoverable (env : Env) (w : World) (raw : Nat) (w' : World) : Prop :=
  ∀ u c, w.account u = some c → (w'.account u).map (·.passwordHash) = some c.passwordHash ∨
    w'.signedOut u ∨ w'.Redeemable env raw

/-- The first call that fails, if any, comes before the token is marked as used or after the sessions
are revoked. -/
def Timely (fault : Stmt → Option (Fault Exn)) (raw : Nat) (newPassword : String)
    (t : PasswordResetToken) (hash : String) (now : Int) : Prop :=
  fault (.findResetTokenByHash (hashToken raw)) ≠ none ∨ fault (.hashPassword newPassword) ≠ none ∨
    fault (.updatePassword t.userId hash now) ≠ none ∨
    (∃ e, fault (.markAsUsed t.id now) = some (.rejected e)) ∨
    fault (.markAsUsed t.id now) = none ∧ fault (.deleteResetTokensByUserId t.userId) = none ∧
      ∀ e, fault (.revokeAllByUserId t.userId "password_reset" now) ≠ some (.rejected e)

theorem signedOut_redeemed (env : Env) {hash : String} (h : Redeemed w t hash w') :
    w'.signedOut t.userId := by
  intro s hs hu
  rw [h.refreshTokens] at hs
  exact World.signedOut_revokeAll env w t.userId "password_reset" w.now s hs hu

theorem redeemable_of_unused (env : Env) (hfound : w.presentedReset raw = some t)
    (hused : t.used = false) (hexp : ¬ t.expiresAt < w.now) : w.Redeemable env raw := by
  refine ⟨t, hfound, hused, hexp, ?_⟩
  intro n newPassword ipAddress hn hhash
  obtain ⟨hash, hhash⟩ := Option.isSome_iff_exists.mp hhash
  have hretry : ∃ w', serve env (.resetPassword raw newPassword ipAddress) (act env w (.pass n)) =
      (.ok .done, w') ∧ Redeemed (act env w (.pass n)) t hash w' :=
    serve_resetPassword_redeems hfound hused hn hhash
  obtain ⟨w', hserve, hredeemed⟩ := hretry
  exact ⟨w', hserve, signedOut_redeemed env hredeemed⟩

/-- Whatever became of the sessions, a reset that wrote no password can be made good. -/
theorem recoverable_of_credentials (h : w'.credentials = w.credentials) :
    Recoverable env w raw w' := by
  intro u c hc
  left
  rw [World.account, h, ← World.account, hc]
  rfl

/-! ### Where a reset stops -/

/-- The new password has been written. -/
def World.repassworded (env : Env) (w : World) (u : Nat) (hash : String) : World :=
  (World.exec env (.updatePassword u hash w.now) { w with supply := w.supply + 1 }).2

theorem account_repassworded {hash : String} {u v : Nat} {c : UserCredential}
    (hc : w.account v = some c) (hw : w'.credentials = (w.repassworded env u hash).credentials) :
    (w'.account v).map (·.passwordHash) = some (if v = u then hash else c.passwordHash) := by
  have hrow : (w.repassworded env u hash).account v =
      some ((Stmt.updatePassword u hash w.now).onCredential c) := by
    rw [World.repassworded, World.account_exec rfl]
    show (w.account v).map _ = _
    rw [hc]
    rfl
  rw [World.account, hw, ← World.account, hrow, ← World.account_id hc]
  simp only [Stmt.onCredential, Stmt.credentialUpdate, Option.map_some]
  split
  · rfl
  · rfl

/-- The user has the new password and the old sessions, and the token does not work any more. -/
structure Stranded (env : Env) (w : World) (raw : Nat) (t : PasswordResetToken) (hash : String)
    (w' : World) : Prop where
  credentials : w'.credentials = (w.repassworded env t.userId hash).credentials
  refreshTokens : w'.refreshTokens = w.refreshTokens
  spent : ∀ t', w'.presentedReset raw = some t' → t'.used = true

/-- A stranded user is none the worse only if the password is the old one, or there was no session. -/
theorem recoverable_of_stranded {hash : String} {c : UserCredential} (hc : w.account t.userId = some c)
    (h : Stranded env w raw t hash w') :
    Recoverable env w raw w' ↔ hash = c.passwordHash ∨ w.signedOut t.userId := by
  have hspent : ¬ w'.Redeemable env raw := by
    rintro ⟨t', hfound, hused, -⟩
    rw [h.spent t' hfound] at hused
    cases hused
  constructor
  · intro hrec
    rcases hrec t.userId c hc with hhash | hout | hredeem
    · rw [account_repassworded hc h.credentials] at hhash
      left
      simpa using hhash
    · right
      intro s hs hu
      rw [← h.refreshTokens] at hs
      exact hout s hs hu
    · exact absurd hredeem hspent
  · intro hcase u c' hc'
    by_cases hu : u = t.userId
    · subst hu
      obtain rfl : c = c' := Option.some.inj (hc.symm.trans hc')
      rcases hcase with hhash | hout
      · left
        rw [account_repassworded hc h.credentials, hhash]
        simp
      · right
        left
        intro s hs hu
        rw [h.refreshTokens] at hs
        exact hout s hs hu
    · left
      rw [account_repassworded hc' h.credentials]
      simp [hu]

/-- The old sessions are gone. -/
theorem recoverable_of_signedOut {hash : String}
    (hcreds : w'.credentials = (w.repassworded env t.userId hash).credentials)
    (hout : w'.signedOut t.userId) : Recoverable env w raw w' := by
  intro u c hc
  by_cases hu : u = t.userId
  · subst hu
    exact .inr (.inl hout)
  · left
    rw [account_repassworded hc hcreds]
    simp [hu]

/-- The token has not been touched. -/
theorem recoverable_of_presented (h : w'.presentedReset raw = some t) (hused : t.used = false)
    (hexp : ¬ t.expiresAt < w'.now) : Recoverable env w raw w' :=
  fun _ _ _ => .inr (.inr (redeemable_of_unused env h hused hexp))

/-- The token has been marked as used. -/
def World.spentReset (env : Env) (w : World) (t : PasswordResetToken) (hash : String) : World :=
  (World.exec env (.markAsUsed t.id w.now) (w.repassworded env t.userId hash)).2

theorem stranded_marked (env : Env) (hfound : w.presentedReset raw = some t) (hash : String) :
    Stranded env w raw t hash (w.spentReset env t hash) := by
  refine ⟨rfl, rfl, ?_⟩
  intro t' ht'
  obtain ⟨hmem, hhash⟩ := presentedReset_mem ht'
  obtain ⟨a, ha, rfl⟩ := Table.mem_updateWhere.mp hmem
  have hsame : a.tokenHash = hashToken raw :=
    (Table.uniq_patchIf (fun r : PasswordResetToken => decide (r.id = t.id)) _ a).symm.trans hhash
  have hat : w.presentedReset raw = some a := presentedReset_of_mem ha hsame
  obtain rfl : t = a := Option.some.inj (hfound.symm.trans hat)
  simp [Table.patchIf, PasswordResetToken.markUsed]

theorem stranded_deleted {hash : String} (h : Stranded env w raw t hash w') (u : Nat) :
    Stranded env w raw t hash (World.exec env (.deleteResetTokensByUserId u) w').2 := by
  refine ⟨h.credentials, h.refreshTokens, ?_⟩
  intro t' ht'
  obtain ⟨hmem, hhash⟩ := presentedReset_mem ht'
  exact h.spent t' (presentedReset_of_mem (Table.mem_deleteWhere.mp hmem).1 hhash)

/-! ### The reset under faults -/

/-- What a reset does after it has revoked the sessions. -/
def afterSignOut (t : PasswordResetToken) (ipAddress : Option String) : AuthProg Unit :=
  (EventService.publishPasswordResetCompleted t.userId).bind fun _ =>
    AuditLogRepository.create
      { eventType := "PASSWORD_RESET_COMPLETED", userId := some t.userId, email := none,
        ipAddress, userAgent := none, outcome := .success, metadata := none }

/-- The credentials and the sessions at the end are those at the time of the sign-out. -/
theorem run_afterSignOut (env : Env) (fault : Stmt → Option (Fault Exn)) (w : World)
    (t : PasswordResetToken) (ipAddress : Option String) :
    let w' := ((afterSignOut t ipAddress).run ((World.machine env).withFaults fault) w).2
    w'.credentials = w.credentials ∧ w'.refreshTokens = w.refreshTokens := by
  have huses : (afterSignOut t ipAddress).Uses fun s : Stmt =>
      s.writesCredentials = false ∧ s.writesRefreshTokens = false := by
    unfold afterSignOut EventService.publishPasswordResetCompleted
    refine uses_bind ?_ fun _ => (uses_perform _).mpr ⟨rfl, rfl⟩
    exact uses_publish ⟨rfl, rfl⟩ fun _ => ⟨rfl, rfl⟩
  refine run_invariant (I := fun w' : World => w'.credentials = w.credentials ∧
    w'.refreshTokens = w.refreshTokens) huses ?_ ⟨rfl, rfl⟩
  intro s v hs hv
  refine withFaults_keeps (M := World.machine env) (I := fun w' : World =>
    w'.credentials = w.credentials ∧ w'.refreshTokens = w.refreshTokens) hv ?_
  show (World.exec env s v).2.credentials = _ ∧ (World.exec env s v).2.refreshTokens = _
  rw [World.exec_credentials env s v hs.1, World.exec_refreshTokens env s v hs.2]
  exact hv

theorem redeem_eq (t : PasswordResetToken) (newPassword : String) (ipAddress : Option String) :
    AuthService.redeem t newPassword ipAddress =
      (query (.hashPassword newPassword)).bind fun hash =>
        newDate.bind fun changedAt => (query (.updatePassword t.userId hash changedAt)).bind fun _ =>
          newDate.bind fun usedAt => (query (.markAsUsed t.id usedAt)).bind fun _ =>
            (query (.deleteResetTokensByUserId t.userId)).bind fun _ =>
              newDate.bind fun revokedAt =>
                (query (.revokeAllByUserId t.userId "password_reset" revokedAt)).bind fun _ =>
                  afterSignOut t ipAddress := by
  unfold AuthService.redeem CredentialService.updatePassword CredentialService.hashPassword
    UserCredentialRepository.updatePassword PasswordResetTokenRepository.markAsUsed
    PasswordResetTokenRepository.deleteByUserId TokenService.revokeAllUserTokens
    RefreshTokenRepository.revokeAllByUserId afterSignOut
  simp only [bind_eq, pure_eq, bind_assoc, ret_bind]

section Faulty

variable {newPassword hash : String} {c : UserCredential}

/-- A call that fails ends the reset, before or after its effect. -/
theorem recoverable_stopped {s : Stmt} {f : Fault Exn} {k : s.Reply → AuthProg Unit}
    (hfault : fault s = some f) (hbefore : Recoverable env w raw w')
    (hafter : Recoverable env w raw (World.exec env s w').2) :
    Recoverable env w raw (((query s).bind k).run ((World.machine env).withFaults fault) w').2 := by
  cases f with
  | rejected e =>
    rw [run_perform_bind_error (exec_rejected hfault w')]
    exact hbefore
  | replyLost e =>
    rw [run_perform_bind_error (exec_replyLost hfault w')]
    exact hafter

theorem recoverable_revoke_iff (ipAddress : Option String) (hc : w.account t.userId = some c)
    (h : Stranded env w raw t hash w') :
    Recoverable env w raw (((query (.revokeAllByUserId t.userId "password_reset" w.now)).bind fun _ =>
        afterSignOut t ipAddress).run ((World.machine env).withFaults fault) w').2 ↔
      (∀ e, fault (.revokeAllByUserId t.userId "password_reset" w.now) ≠ some (.rejected e)) ∨
        hash = c.passwordHash ∨ w.signedOut t.userId := by
  let s : Stmt := .revokeAllByUserId t.userId "password_reset" w.now
  have hcreds : (World.exec env s w').2.credentials =
      (w.repassworded env t.userId hash).credentials := h.credentials
  have hout := World.signedOut_revokeAll env w' t.userId "password_reset" w.now
  cases hfault : fault s with
  | none =>
    obtain ⟨hcreds', hrefresh⟩ := run_afterSignOut env fault (World.exec env s w').2 t ipAddress
    rw [run_spared_bind (S := sig) (M := World.machine env) hfault rfl]
    have hout' : ((afterSignOut t ipAddress).run ((World.machine env).withFaults fault)
        (World.exec env s w').2).2.signedOut t.userId := by
      intro r hr hu
      rw [hrefresh] at hr
      exact hout r hr hu
    refine iff_of_true (recoverable_of_signedOut (hcreds'.trans hcreds) hout') ?_
    simp
  | some f =>
    cases f with
    | rejected e =>
      rw [run_perform_bind_error (exec_rejected hfault w')]
      simpa using recoverable_of_stranded hc h
    | replyLost e =>
      rw [run_perform_bind_error (exec_replyLost hfault w')]
      refine iff_of_true (recoverable_of_signedOut hcreds hout) ?_
      simp

/-- From the mark on. Only the sign-out makes good again. -/
theorem recoverable_delete_iff (hlocal : ∀ s : Stmt, s.inProcess = true → fault s = none)
    (ipAddress : Option String) (hc : w.account t.userId = some c)
    (h : Stranded env w raw t hash w') (hnow : w'.now = w.now) :
    Recoverable env w raw (((query (.deleteResetTokensByUserId t.userId)).bind fun _ =>
        newDate.bind fun revokedAt =>
          (query (.revokeAllByUserId t.userId "password_reset" revokedAt)).bind fun _ =>
            afterSignOut t ipAddress).run ((World.machine env).withFaults fault) w').2 ↔
      (fault (.deleteResetTokensByUserId t.userId) = none ∧
        ∀ e, fault (.revokeAllByUserId t.userId "password_reset" w.now) ≠ some (.rejected e)) ∨
        hash = c.passwordHash ∨ w.signedOut t.userId := by
  let s : Stmt := .deleteResetTokensByUserId t.userId
  have hdeleted := stranded_deleted h t.userId
  cases hfault : fault s with
  | none =>
    rw [run_spared_bind (S := sig) (M := World.machine env) hfault rfl, run_faulty_newDate hlocal]
    show Recoverable env w raw (((query (.revokeAllByUserId t.userId "password_reset" w'.now)).bind
      fun _ => afterSignOut t ipAddress).run ((World.machine env).withFaults fault)
        (World.exec env s w').2).2 ↔ _
    rw [hnow, recoverable_revoke_iff ipAddress hc hdeleted]
    simp
  | some f =>
    have hstranded : Recoverable env w raw (((query s).bind fun _ =>
        newDate.bind fun revokedAt =>
          (query (.revokeAllByUserId t.userId "password_reset" revokedAt)).bind fun _ =>
            afterSignOut t ipAddress).run ((World.machine env).withFaults fault) w').2 ↔
        hash = c.passwordHash ∨ w.signedOut t.userId := by
      cases f with
      | rejected e =>
        rw [run_perform_bind_error (exec_rejected hfault w')]
        exact recoverable_of_stranded hc h
      | replyLost e =>
        rw [run_perform_bind_error (exec_replyLost hfault w')]
        exact recoverable_of_stranded hc hdeleted
    rw [hstranded]
    simp

theorem recoverable_mark_iff (hlocal : ∀ s : Stmt, s.inProcess = true → fault s = none)
    (ipAddress : Option String) (hc : w.account t.userId = some c)
    (hfound : w.presentedReset raw = some t) (hused : t.used = false) (hexp : ¬ t.expiresAt < w.now) :
    Recoverable env w raw (((query (.markAsUsed t.id w.now)).bind fun _ =>
        (query (.deleteResetTokensByUserId t.userId)).bind fun _ =>
          newDate.bind fun revokedAt =>
            (query (.revokeAllByUserId t.userId "password_reset" revokedAt)).bind fun _ =>
              afterSignOut t ipAddress).run ((World.machine env).withFaults fault)
                (w.repassworded env t.userId hash)).2 ↔
      ((∃ e, fault (.markAsUsed t.id w.now) = some (.rejected e)) ∨
        fault (.markAsUsed t.id w.now) = none ∧ fault (.deleteResetTokensByUserId t.userId) = none ∧
          ∀ e, fault (.revokeAllByUserId t.userId "password_reset" w.now) ≠ some (.rejected e)) ∨
        hash = c.passwordHash ∨ w.signedOut t.userId := by
  let s : Stmt := .markAsUsed t.id w.now
  have hmarked := stranded_marked env hfound hash
  cases hfault : fault s with
  | none =>
    rw [run_spared_bind (S := sig) (M := World.machine env) hfault rfl]
    refine (recoverable_delete_iff hlocal ipAddress hc hmarked rfl).trans ?_
    simp
  | some f =>
    cases f with
    | rejected e =>
      rw [run_perform_bind_error (exec_rejected hfault _)]
      refine iff_of_true (recoverable_of_presented (t := t) hfound hused hexp) ?_
      simp
    | replyLost e =>
      rw [run_perform_bind_error (exec_replyLost hfault _)]
      refine (recoverable_of_stranded hc hmarked).trans ?_
      simp

theorem recoverable_redeem_iff (hlocal : ∀ s : Stmt, s.inProcess = true → fault s = none)
    (ipAddress : Option String) (hc : w.account t.userId = some c)
    (hfound : w.presentedReset raw = some t) (hused : t.used = false) (hexp : ¬ t.expiresAt < w.now)
    (hhash : env.hashPassword newPassword w.supply = some hash)
    (hfind : fault (.findResetTokenByHash (hashToken raw)) = none) :
    Recoverable env w raw ((AuthService.redeem t newPassword ipAddress).run
        ((World.machine env).withFaults fault) w).2 ↔
      Timely fault raw newPassword t hash w.now ∨ hash = c.passwordHash ∨ w.signedOut t.userId := by
  have hexec : World.exec env (.hashPassword newPassword) w =
      (.ok hash, { w with supply := w.supply + 1 }) := by
    simp only [World.exec, hhash]
  rw [redeem_eq]
  unfold Timely
  cases hh : fault (.hashPassword newPassword) with
  | some f =>
    refine iff_of_true (recoverable_stopped hh (recoverable_of_credentials rfl)
      (recoverable_of_credentials (World.exec_credentials env _ w rfl))) ?_
    simp
  | none =>
    have hreply : ((World.machine env).exec (.hashPassword newPassword) w).1 = .ok hash :=
      congrArg Prod.fst hexec
    rw [run_spared_bind (S := sig) (M := World.machine env) hh hreply, run_faulty_newDate hlocal]
    rw [show (World.machine env).exec (.hashPassword newPassword) w =
      (.ok hash, { w with supply := w.supply + 1 }) from hexec]
    cases hu : fault (.updatePassword t.userId hash w.now) with
    | some f =>
      refine iff_of_true (recoverable_stopped hu (recoverable_of_credentials rfl)
        (recoverable_of_presented (t := t) hfound hused hexp)) ?_
      simp
    | none =>
      rw [run_spared_bind (S := sig) (M := World.machine env) hu rfl, run_faulty_newDate hlocal]
      refine (recoverable_mark_iff hlocal ipAddress hc hfound hused hexp).trans ?_
      simp [hfind]

theorem redeem_unhashed (hhash : env.hashPassword newPassword w.supply = none)
    (ipAddress : Option String) : ((AuthService.redeem t newPassword ipAddress).run
      ((World.machine env).withFaults fault) w).2 = w := by
  have hexec : (World.machine env).exec (.hashPassword newPassword) w =
      (.error (.error "hashing failed"), w) := by
    show World.exec env (.hashPassword newPassword) w = _
    simp only [World.exec, hhash]
  have hread : ((World.machine env).exec (.hashPassword newPassword) w).2 = w := by
    rw [hexec]
  rw [redeem_eq]
  rcases exec_withFaults_read hread with h | ⟨e, h⟩
  · rw [run_perform_bind_error (h.trans hexec)]
  · rw [run_perform_bind_error h]

/-- A token that can be redeemed: what the hash of the new password and the account are decides. -/
theorem recoverable_live_iff (hw : Reachable env w)
    (hlocal : ∀ s : Stmt, s.inProcess = true → fault s = none) (ipAddress : Option String)
    (hfound : w.presentedReset raw = some t) (hused : t.used = false) (hexp : ¬ t.expiresAt < w.now)
    (hfind : fault (.findResetTokenByHash (hashToken raw)) = none) :
    Recoverable env w raw ((AuthService.redeem t newPassword ipAddress).run
        ((World.machine env).withFaults fault) w).2 ↔
      ∀ hash c, env.hashPassword newPassword w.supply = some hash → w.account t.userId = some c →
        Timely fault raw newPassword t hash w.now ∨ hash = c.passwordHash ∨
          w.signedOut t.userId := by
  obtain ⟨c, hc⟩ := hw.integrity.reset_owner t (presentedReset_mem hfound).1
  cases hhash : env.hashPassword newPassword w.supply with
  | none =>
    rw [redeem_unhashed hhash ipAddress]
    refine iff_of_true (recoverable_of_credentials rfl) ?_
    intro hash c' hhash'
    cases hhash'
  | some hash =>
    refine (recoverable_redeem_iff hlocal ipAddress hc hfound hused hexp hhash hfind).trans ?_
    constructor
    · intro h hash' c' hhash' hc'
      cases hhash'
      obtain rfl : c = c' := Option.some.inj (hc.symm.trans hc')
      exact h
    · intro h
      exact h hash c rfl hc

end Faulty

/-- A reset in which calls fail leaves the old password, no session or a token that still works, iff
the first call that fails comes in time, or the new hash is the old one, or there was no session. -/
theorem half_done_reset_iff (env : Env) (w : World) (hw : Reachable env w)
    (fault : Stmt → Option (Fault Exn)) (hlocal : ∀ s : Stmt, s.inProcess = true → fault s = none)
    (raw : Nat) (newPassword : String) (ipAddress : Option String) :
    Recoverable env w raw ((AuthService.resetPassword raw newPassword ipAddress).run
        ((World.machine env).withFaults fault) w).2 ↔
      ∀ t hash c, w.presentedReset raw = some t → t.used = false → ¬ t.expiresAt < w.now →
        env.hashPassword newPassword w.supply = some hash → w.account t.userId = some c →
          Timely fault raw newPassword t hash w.now ∨ hash = c.passwordHash ∨ w.signedOut t.userId := by
  unfold AuthService.resetPassword PasswordResetTokenRepository.findByTokenHash
  simp only [bind_eq]
  cases hfind : fault (.findResetTokenByHash (hashToken raw)) with
  | some f =>
    refine iff_of_true (recoverable_stopped hfind (recoverable_of_credentials rfl)
      (recoverable_of_credentials rfl)) ?_
    intro t hash c _ _ _ _ _
    simp [Timely, hfind]
  | none =>
    rw [run_spared_bind (S := sig) (M := World.machine env) (a := w.presentedReset raw) hfind rfl]
    cases hfound : w.presentedReset raw with
    | none =>
      refine iff_of_true (recoverable_of_credentials rfl) ?_
      intro t hash c ht
      cases ht
    | some t =>
      cases hused : t.used with
      | true =>
        simp only [hused, if_true]
        refine iff_of_true (recoverable_of_credentials rfl) ?_
        intro t' hash c ht hunused
        cases ht
        rw [hused] at hunused
        cases hunused
      | false =>
        simp only [hused, Bool.false_eq_true, if_false]
        rw [run_faulty_newDate hlocal]
        by_cases hexp : t.expiresAt < w.now
        · rw [if_pos (show t.expiresAt < ((World.machine env).exec (.findResetTokenByHash
            (hashToken raw)) w).2.now from hexp)]
          refine iff_of_true (recoverable_of_credentials rfl) ?_
          intro t' hash c ht _ hlive
          cases ht
          exact absurd hexp hlive
        · rw [if_neg (show ¬ t.expiresAt < ((World.machine env).exec (.findResetTokenByHash
            (hashToken raw)) w).2.now from hexp)]
          refine (recoverable_live_iff hw hlocal ipAddress hfound hused hexp hfind).trans ?_
          constructor
          · intro h t' hash c ht _ _ hhash hc
            cases ht
            exact h hash c hhash hc
          · intro h hash c hhash hc
            exact h t hash c rfl hused hexp hhash hc

/-- The connection is lost before the sessions are revoked. -/
def lostBeforeSignOut : Stmt → Option (Fault Exn)
  | .revokeAllByUserId _ _ _ => some (.rejected connectionLost)
  | _ => none

/-- The connection is lost before the token is marked as used. -/
def lostBeforeMark : Stmt → Option (Fault Exn)
  | .markAsUsed _ _ => some (.rejected connectionLost)
  | _ => none

def askedForReset : World := runs Env.plain (World.initial .empty 0 0) resetAsked

theorem askedForReset_reachable : Reachable Env.plain askedForReset := ⟨.empty, 0, 0, resetAsked, rfl⟩

theorem half_done_reset_before_mark :
    Recoverable Env.plain askedForReset 5 ((AuthService.resetPassword 5 "q" none).run
      ((World.machine Env.plain).withFaults lostBeforeMark) askedForReset).2 :=
  (half_done_reset_iff Env.plain askedForReset askedForReset_reachable lostBeforeMark
    (fun s hs => by cases s <;> first | rfl | cases hs) 5 "q" none).mpr
    fun _ _ _ _ _ _ _ _ => .inl (.inr (.inr (.inr (.inl ⟨connectionLost, rfl⟩))))

theorem half_done_reset_leaves_sessions :
    ¬ ∀ (fault : Stmt → Option (Fault Exn)), (∀ s : Stmt, s.inProcess = true → fault s = none) →
      ∀ (w : World), Reachable Env.plain w → ∀ (raw : Nat) (newPassword : String),
        Recoverable Env.plain w raw ((AuthService.resetPassword raw newPassword none).run
          ((World.machine Env.plain).withFaults fault) w).2 := by
  intro h
  let w' := ((AuthService.resetPassword 5 "q" none).run
    ((World.machine Env.plain).withFaults lostBeforeSignOut) askedForReset).2
  have hrec : Recoverable Env.plain askedForReset 5 w' :=
    h lostBeforeSignOut (fun s hs => by cases s <;> first | rfl | cases hs) askedForReset
      askedForReset_reachable 5 "q"
  have hbefore : (askedForReset.account 1).map (·.passwordHash) = some "$argon2p" := by decide +kernel
  have hafter : (w'.account 1).map (·.passwordHash) = some "$argon2q" := by decide +kernel
  have hsession : (w'.refreshTokens.rows.map fun t => (t.userId, t.revoked)) = [(1, false)] := by
    decide +kernel
  have hspent : w'.presentedReset 5 = none := by decide +kernel
  obtain ⟨c, hc, hhash⟩ := Option.map_eq_some_iff.mp hbefore
  rcases hrec 1 c hc with hsame | hout | ⟨t, hfound, -⟩
  · rw [hafter, hhash] at hsame
    revert hsame
    decide
  · obtain ⟨t, ht, huser⟩ : ∃ t ∈ w'.refreshTokens.rows, (t.userId, t.revoked) = (1, false) :=
      List.mem_map.mp (by rw [hsession]; exact List.mem_singleton_self _)
    rw [Prod.mk.injEq] at huser
    rw [hout t ht huser.1] at huser
    cases huser.2
  · rw [hspent] at hfound
    cases hfound

end Auth
