import AuthService.Ownership
import AuthService.MaxSessions
import AuthService.Integrity

/-!
# AuthService.Confinement

Whole requests and the rows of one user.

* `Oblivious`       — programs that do the same in twin worlds: requests that nobody else answers to,
  and the jobs (`oblivious_handle`).
* `keeps_own_handle` — a request that somebody else answers to leaves the rows of the user alone.
-/

namespace Auth

open Relational Resumption Prog

variable {env : Env} {w w' : World} {u : Nat} {F : Key → Prop}

/-! ## Inserts in twin worlds -/

/-- A new session of the user is nobody else's. -/
theorem foreign_insertRefreshToken {table : Table RefreshToken} {t : RefreshToken} {supply : Nat}
    {k : Key} (hinsert : w.refreshTokens.insert? t = some table) (ht : t.userId = u) :
    World.foreign env u { w with refreshTokens := table, supply := supply } k =
      w.foreign env u k := by
  cases k <;> simp [World.foreign, World.owns, Table.rows_insert? hinsert, ht]

theorem foreign_insertResetToken {table : Table PasswordResetToken} {t : PasswordResetToken}
    {supply : Nat} {k : Key} (hinsert : w.passwordResetTokens.insert? t = some table)
    (ht : t.userId = u) :
    World.foreign env u { w with passwordResetTokens := table, supply := supply } k =
      w.foreign env u k := by
  cases k <;> simp [World.foreign, World.owns, Table.rows_insert? hinsert, ht]

namespace Twins

/-- Whoever answers to a key that is nobody else's is the user. -/
theorem eq_of_hasUser (h : Twins env u F w w') {id : Nat} (hid : ¬ F (.user id))
    (huser : w.hasUser id = true) : id = u := by
  obtain ⟨c, hc⟩ := World.hasUser_iff.mp huser
  have hcid := World.account_id hc
  rw [← hcid]
  exact mine_of_user (h.clear hid).1 (Table.find?_mem hc).1 hcid

/-- A session with a digest that is new in both worlds. -/
theorem createRefreshToken (h : Twins env u F w w') {data : NewRefreshToken}
    (hid : ¬ F (.user data.userId)) (hdrawn : data.tokenHash.preimage < w.supply)
    (hnew : ∀ t ∈ w.refreshTokens.rows, t.tokenHash ≠ data.tokenHash)
    (hnew' : ∀ t ∈ w'.refreshTokens.rows, t.tokenHash ≠ data.tokenHash) :
    (World.exec env (.createRefreshToken data) w).1 = (World.exec env (.createRefreshToken data) w').1 ∧
      Twins env u F (World.exec env (.createRefreshToken data) w).2
        (World.exec env (.createRefreshToken data) w').2 := by
  have hdrawn₁ : Drawn (World.exec env (.createRefreshToken data) w).2 :=
    drawn_exec env (fun d hd => by cases hd; exact hdrawn) (by simp) h.drawn
  have hdrawn₂ : Drawn (World.exec env (.createRefreshToken data) w').2 :=
    drawn_exec env (fun d hd => by cases hd; exact h.supply ▸ hdrawn) (by simp) h.drawn'
  cases huser : w.hasUser data.userId with
  | false =>
    have huser' : w'.hasUser data.userId = false := by rw [← h.hasUser hid, huser]
    simp only [World.exec, huser, huser']
    exact ⟨rfl, h⟩
  | true =>
    have huser' : w'.hasUser data.userId = true := by rw [← h.hasUser hid, huser]
    have hu : data.userId = u := h.eq_of_hasUser hid huser
    obtain ⟨table, hinsert, hexec⟩ :=
      World.exec_createRefreshToken_new env h.drawn.id_lt hnew huser
    obtain ⟨table', hinsert', hexec'⟩ :=
      World.exec_createRefreshToken_new env h.drawn'.id_lt hnew' huser'
    rw [← h.supply] at hinsert' hexec'
    rw [hexec] at hdrawn₁ ⊢
    rw [hexec'] at hdrawn₂ ⊢
    have hown : World.own u { w with refreshTokens := table, supply := w.supply + 1 } =
        World.own u { w' with refreshTokens := table', supply := w.supply + 1 } := by
      have hsame := h.own
      simp only [World.own, Own.mk.injEq] at hsame ⊢
      exact ⟨hsame.1, by rw [Table.select_insert? hinsert, Table.select_insert? hinsert', hsame.2.1],
        hsame.2.2⟩
    refine ⟨rfl, hown, h.roles, rfl, h.now, hdrawn₁, hdrawn₂, fun k hk => ?_, fun k hk => ?_⟩
    · exact h.foreign k ((foreign_insertRefreshToken hinsert hu).symm.trans hk)
    · exact h.foreign' k ((foreign_insertRefreshToken hinsert' hu).symm.trans hk)

theorem createResetToken (h : Twins env u F w w') {id : Nat} {hash : TokenHash} {expiresAt : Int}
    (hid : ¬ F (.user id)) (hdrawn : hash.preimage < w.supply)
    (hnew : ∀ t ∈ w.passwordResetTokens.rows, t.tokenHash ≠ hash)
    (hnew' : ∀ t ∈ w'.passwordResetTokens.rows, t.tokenHash ≠ hash) :
    (World.exec env (.createPasswordResetToken id hash expiresAt) w).1 =
        (World.exec env (.createPasswordResetToken id hash expiresAt) w').1 ∧
      Twins env u F (World.exec env (.createPasswordResetToken id hash expiresAt) w).2
        (World.exec env (.createPasswordResetToken id hash expiresAt) w').2 := by
  have hdrawn₁ : Drawn (World.exec env (.createPasswordResetToken id hash expiresAt) w).2 :=
    drawn_exec env (by simp) (fun _ _ _ hd => by cases hd; exact hdrawn) h.drawn
  have hdrawn₂ : Drawn (World.exec env (.createPasswordResetToken id hash expiresAt) w').2 :=
    drawn_exec env (by simp) (fun _ _ _ hd => by cases hd; exact h.supply ▸ hdrawn) h.drawn'
  cases huser : w.hasUser id with
  | false =>
    have huser' : w'.hasUser id = false := by rw [← h.hasUser hid, huser]
    simp only [World.exec, huser, huser']
    exact ⟨rfl, h⟩
  | true =>
    have huser' : w'.hasUser id = true := by rw [← h.hasUser hid, huser]
    have hu : id = u := h.eq_of_hasUser hid huser
    obtain ⟨table, hinsert, hexec⟩ :=
      World.exec_createPasswordResetToken_new env hash expiresAt h.drawn.reset_id_lt hnew huser
    obtain ⟨table', hinsert', hexec'⟩ :=
      World.exec_createPasswordResetToken_new env hash expiresAt h.drawn'.reset_id_lt hnew' huser'
    rw [← h.supply] at hinsert' hexec'
    rw [hexec] at hdrawn₁ ⊢
    rw [hexec'] at hdrawn₂ ⊢
    have hown : World.own u { w with passwordResetTokens := table, supply := w.supply + 1 } =
        World.own u { w' with passwordResetTokens := table', supply := w.supply + 1 } := by
      have hsame := h.own
      simp only [World.own, Own.mk.injEq] at hsame ⊢
      exact ⟨hsame.1, hsame.2.1,
        by rw [Table.select_insert? hinsert, Table.select_insert? hinsert', hsame.2.2]⟩
    refine ⟨rfl, hown, h.roles, rfl, h.now, hdrawn₁, hdrawn₂, fun k hk => ?_, fun k hk => ?_⟩
    · exact h.foreign k ((foreign_insertResetToken hinsert hu).symm.trans hk)
    · exact h.foreign' k ((foreign_insertResetToken hinsert' hu).symm.trans hk)

end Twins

/-! ## Programs that do the same in twin worlds -/

/-- The program answers alike in twin worlds and leaves twins. -/
abbrev Oblivious {α : Type} (env : Env) (u : Nat) (F : Key → Prop) (p : AuthProg α) : Prop :=
  p.Simulates (World.machine env) (Twins env u F) p

theorem oblivious_of_uses {α : Type} {p : AuthProg α} (hp : p.Uses (Stmt.Confined F)) :
    Oblivious env u F p :=
  simulates_of_uses hp fun _ hs => relates_confined hs

theorem oblivious_bind {α β : Type} {p : AuthProg α} {f : α → AuthProg β}
    (hp : p.Uses (Stmt.Confined F)) (hf : ∀ a, Oblivious env u F (f a)) :
    Oblivious env u F (p.bind f) :=
  simulates_bind (oblivious_of_uses hp) hf

/-- A lookup that the worlds answer alike. -/
theorem oblivious_lookup {β : Type} {s : Stmt} {f : s.Reply → AuthProg β} (hs : s.Confined F)
    (hread : ∀ v : World, ∃ a, World.exec env s v = (.ok a, v))
    (hf : ∀ a (v : World), World.exec env s v = (.ok a, v) →
      (∀ k, ¬ F k → v.foreign env u k = false) → Oblivious env u F (f a)) :
    Oblivious env u F ((query s).bind f) := by
  refine simulates_lookup fun w w' h => ?_
  obtain ⟨a, ha⟩ := hread w
  obtain ⟨a', ha'⟩ := hread w'
  have hreply : (.ok a : Except Exn s.Reply) = .ok a' :=
    (congrArg Prod.fst ha).symm.trans ((h.reply hs).trans (congrArg Prod.fst ha'))
  obtain rfl : a = a' := Except.ok.inj hreply
  exact ⟨a, a, ha, ha', hf a w ha fun k hk => (h.clear hk).1⟩

theorem oblivious_generateRefreshToken {id : Nat} (hid : ¬ F (.user id))
    (deviceFingerprint ipAddress userAgent : Option String) :
    Oblivious env u F
      (TokenService.generateRefreshToken env id deviceFingerprint ipAddress userAgent) := by
  intro w w' h
  have hrun : ∀ v : World, (TokenService.generateRefreshToken env id deviceFingerprint ipAddress
        userAgent).run (World.machine env) v =
      ((query (.createRefreshToken (requested env id deviceFingerprint ipAddress userAgent v)) :
          AuthProg RefreshToken).bind fun row => .ret (v.supply, row)).run (World.machine env)
        (World.exec env .uuidv4 v).2 := fun v => rfl
  have hsame : requested env id deviceFingerprint ipAddress userAgent w' =
      requested env id deviceFingerprint ipAddress userAgent w := by
    simp only [requested, h.supply, h.now]
  have hdrawn := h.after (s := .uuidv4) (.inl rfl)
  rw [hrun, hrun, hsame, ← h.supply]
  refine run_bind_simulates ?_ fun row => simulates_ret _
  rw [run_perform, run_perform]
  refine hdrawn.createRefreshToken hid (Nat.lt_succ_self _) (fun t ht heq => ?_) fun t ht heq => ?_
  · exact Nat.ne_of_lt (h.drawn.hash_lt t ht) (congrArg TokenHash.preimage heq)
  · have hlt := h.drawn'.hash_lt t ht
    rw [← h.supply] at hlt
    exact Nat.ne_of_lt hlt (congrArg TokenHash.preimage heq)

theorem confined_enforceMaxSessions {id : Nat} (hid : ¬ F (.user id)) :
    (SessionService.enforceMaxSessions env id).Uses (Stmt.Confined F) :=
  uses_enforceMaxSessions_of trivial (fun _ => hid) (fun _ => hid) fun _ _ => trivial

theorem confined_publish {event : Int → DomainEvent} :
    (newDate.bind fun timestamp => EventService.safePublish (event timestamp)).Uses
      (Stmt.Confined F) :=
  uses_publish trivial fun _ => trivial

theorem confined_revokeAll {id : Nat} {reason : String} (hid : ¬ F (.user id)) :
    (TokenService.revokeAllUserTokens id reason).Uses (Stmt.Confined F) :=
  uses_revokeAllUserTokens trivial fun _ => hid

/-- The user's reset token is replaced by a new one. -/
theorem oblivious_resetToken {β : Type} {id : Nat} {f : Nat → Int → AuthProg β}
    (hid : ¬ F (.user id)) (hf : ∀ raw expiresAt, (f raw expiresAt).Uses (Stmt.Confined F)) :
    Oblivious env u F (uuidv4.bind fun raw => newDate.bind fun now =>
      (PasswordResetTokenRepository.deleteByUserId id).bind fun _ =>
        (PasswordResetTokenRepository.create id (hashToken raw)
          (env.zone.setMinutesPlus now env.passwordResetExpiryMinutes)).bind fun _ =>
            f raw (env.zone.setMinutesPlus now env.passwordResetExpiryMinutes)) := by
  intro w w' h
  have hrun : ∀ v : World, (uuidv4.bind fun raw => newDate.bind fun now =>
        (PasswordResetTokenRepository.deleteByUserId id).bind fun _ =>
          (PasswordResetTokenRepository.create id (hashToken raw)
            (env.zone.setMinutesPlus now env.passwordResetExpiryMinutes)).bind fun _ =>
              f raw (env.zone.setMinutesPlus now env.passwordResetExpiryMinutes)).run
                (World.machine env) v =
      ((query (.createPasswordResetToken id (hashToken v.supply)
          (env.zone.setMinutesPlus v.now env.passwordResetExpiryMinutes))).bind fun _ =>
        f v.supply (env.zone.setMinutesPlus v.now env.passwordResetExpiryMinutes)).run
          (World.machine env)
            (World.exec env (.deleteResetTokensByUserId id) (World.exec env .uuidv4 v).2).2 :=
    fun v => rfl
  have hdeleted := (h.after (s := .uuidv4) (.inl rfl)).after
    (s := .deleteResetTokensByUserId id) (.inl rfl)
  rw [hrun, hrun, ← h.supply, ← h.now]
  refine run_bind_simulates ?_ fun _ => oblivious_of_uses (hf _ _)
  rw [run_perform, run_perform]
  refine hdeleted.createResetToken hid (Nat.lt_succ_self _) (fun t ht heq => ?_) fun t ht heq => ?_
  · have hlt := h.drawn.reset_hash_lt t (Table.mem_deleteWhere.mp ht).1
    exact Nat.ne_of_lt hlt (congrArg TokenHash.preimage heq)
  · have hlt := h.drawn'.reset_hash_lt t (Table.mem_deleteWhere.mp ht).1
    rw [← h.supply] at hlt
    exact Nat.ne_of_lt hlt (congrArg TokenHash.preimage heq)

/-! ## Requests -/

section Requests

variable {ipAddress userAgent : Option String}

/-- The registration of an email that is taken. -/
theorem register_taken {email password : String} {c : UserCredential}
    (hc : w.byEmail env email = some c) :
    serve env (.register email password ipAddress userAgent) w =
      (.error (.conflict ErrorMessages.AUTH_EMAIL_EXISTS), w) := by
  refine run_bind_error _ ?_
  unfold AuthService.register
  simp only [bind_eq]
  rw [run_findByEmail_bind, hc]
  rfl

theorem oblivious_loginVerify {c : UserCredential} (hc : ¬ F (.user c.id))
    (email password : String) :
    Oblivious env u F (AuthService.loginVerify env c email password ipAddress userAgent) := by
  refine oblivious_bind ((uses_perform _).mpr trivial) fun valid => ?_
  split
  · unfold AuthService.loginSucceeded
    refine oblivious_bind ((uses_perform _).mpr trivial) fun _ => ?_
    refine oblivious_bind (uses_perform_bind trivial fun _ => (uses_perform _).mpr trivial) fun _ => ?_
    refine oblivious_bind ((uses_perform _).mpr trivial) fun accessToken => ?_
    refine simulates_bind (oblivious_generateRefreshToken hc _ _ _) fun pair => ?_
    refine oblivious_bind (confined_enforceMaxSessions hc) fun _ => ?_
    refine oblivious_bind confined_publish fun _ => ?_
    exact oblivious_of_uses (uses_perform_bind trivial fun _ => trivial)
  · exact oblivious_of_uses (uses_loginFailed_of c email ipAddress userAgent trivial hc
      (fun _ _ _ => trivial) (fun _ => trivial) (fun _ _ _ => trivial) (fun _ => hc) fun _ => trivial)

theorem oblivious_refused (entry : AuditLog) (e : Exn) :
    Oblivious env u F ((AuditLogRepository.create entry).bind fun _ =>
      (.throw e : AuthProg AuthResponse)) :=
  oblivious_of_uses (uses_perform_bind trivial fun _ => trivial)

theorem oblivious_login {email : String} (hk : ¬ F (.email email)) (hu : ¬ F (.user u))
    (password : String) :
    Oblivious env u F (AuthService.login env email password ipAddress userAgent) := by
  refine oblivious_lookup hk (fun v => ⟨_, rfl⟩) fun c? v hexec hclear => ?_
  cases c? with
  | none => exact oblivious_refused _ _
  | some c =>
    have hfound : v.byEmail env email = some c := Except.ok.inj (congrArg Prod.fst hexec)
    obtain ⟨hmem, hemail⟩ := Table.find?_mem hfound
    have hc : ¬ F (.user c.id) := by
      rw [mine_of_email (hclear _ hk) hmem (of_decide_eq_true hemail)]
      exact hu
    cases hs : c.status with
    | active => simp only [hs]; exact oblivious_loginVerify hc email password
    | banned => simp only [hs]; exact oblivious_refused _ _
    | deleted => simp only [hs]; exact simulates_throw _
    | locked =>
      cases hl : c.lockedUntil with
      | none => simp only [hs, hl]; exact oblivious_refused _ _
      | some lockedUntil =>
        simp only [hs, hl]
        refine oblivious_bind ((uses_perform _).mpr trivial) fun now => ?_
        split
        · exact oblivious_bind ((uses_perform _).mpr trivial) fun _ =>
            oblivious_loginVerify hc email password
        · exact oblivious_refused _ _

theorem oblivious_rotate {t : RefreshToken} (ht : ¬ F (.user t.userId)) :
    Oblivious env u F ((TokenService.rotate env t ipAddress userAgent).bind
      AuthController.issueAccessToken) := by
  unfold TokenService.rotate
  simp only [bind_eq, Prog.bind_assoc, pure_eq, ret_bind]
  refine oblivious_bind (uses_perform_bind trivial fun _ => (uses_perform _).mpr trivial) fun _ => ?_
  refine simulates_bind (oblivious_generateRefreshToken ht _ _ _) fun pair => ?_
  refine oblivious_bind ((uses_perform _).mpr trivial) fun _ => ?_
  refine oblivious_bind (uses_perform_bind trivial fun _ => (uses_perform _).mpr trivial) fun _ => ?_
  unfold AuthController.issueAccessToken
  refine oblivious_of_uses (uses_perform_bind ht fun credential? => ?_)
  cases credential? with
  | none => trivial
  | some c => exact uses_perform_bind trivial fun _ => trivial

theorem oblivious_refreshToken {raw : Nat} (hk : ¬ F (.refreshToken raw)) (hu : ¬ F (.user u)) :
    Oblivious env u F (AuthController.refreshToken env raw) := by
  unfold AuthController.refreshToken TokenService.refreshTokens
  simp only [bind_eq, Prog.bind_assoc]
  refine oblivious_lookup hk (fun v => ⟨_, rfl⟩) fun t? v hexec hclear => ?_
  cases t? with
  | none => exact simulates_throw _
  | some t =>
    have hfound : v.presented raw = some t := Except.ok.inj (congrArg Prod.fst hexec)
    obtain ⟨hmem, hhash⟩ := presented_mem hfound
    have ht : ¬ F (.user t.userId) := by
      rw [mine_of_refreshToken (hclear _ hk) hmem hhash]
      exact hu
    cases hrev : t.revoked with
    | true =>
      simp only [hrev, if_true, Prog.bind_assoc, throw_bind]
      exact oblivious_of_uses (uses_bind (confined_revokeAll ht) fun _ => trivial)
    | false =>
      simp only [hrev, Bool.false_eq_true, if_false, Prog.bind_assoc]
      refine oblivious_bind ((uses_perform _).mpr trivial) fun now => ?_
      split
      · exact simulates_throw _
      · exact oblivious_rotate ht

theorem oblivious_forgotPassword {email : String} (hk : ¬ F (.email email)) (hu : ¬ F (.user u)) :
    Oblivious env u F (AuthService.forgotPassword env email ipAddress) := by
  refine oblivious_lookup hk (fun v => ⟨_, rfl⟩) fun c? v hexec hclear => ?_
  cases c? with
  | none => exact simulates_ret _
  | some c =>
    have hfound : v.byEmail env email = some c := Except.ok.inj (congrArg Prod.fst hexec)
    obtain ⟨hmem, hemail⟩ := Table.find?_mem hfound
    have hc : ¬ F (.user c.id) := by
      rw [mine_of_email (hclear _ hk) hmem (of_decide_eq_true hemail)]
      exact hu
    refine oblivious_resetToken (f := fun rawToken expiresAt =>
      (EventService.publishPasswordResetRequested c.id c.email rawToken expiresAt).bind fun _ =>
        AuditLogRepository.create ⟨"PASSWORD_RESET_REQUESTED", some c.id, some c.email, ipAddress,
          none, .success, none⟩) hc fun rawToken expiresAt => ?_
    exact uses_bind confined_publish fun _ => (uses_perform _).mpr trivial

theorem oblivious_resetPassword {raw : Nat} (hk : ¬ F (.resetToken raw)) (hu : ¬ F (.user u))
    (newPassword : String) :
    Oblivious env u F (AuthService.resetPassword raw newPassword ipAddress) := by
  refine oblivious_lookup hk (fun v => ⟨_, rfl⟩) fun t? v hexec hclear => ?_
  cases t? with
  | none => exact simulates_throw _
  | some t =>
    have hfound := Except.ok.inj (congrArg Prod.fst hexec)
    obtain ⟨hmem, hhash⟩ := Table.find?_mem hfound
    have ht : ¬ F (.user t.userId) := by
      rw [mine_of_resetToken (hclear _ hk) hmem (of_decide_eq_true hhash)]
      exact hu
    refine oblivious_of_uses ?_
    simp only
    split
    · trivial
    · refine uses_perform_bind trivial fun now => ?_
      split
      · trivial
      · unfold AuthService.redeem
        refine uses_bind (uses_perform_bind trivial fun hash => uses_perform_bind trivial fun at' =>
          (uses_perform _).mpr trivial) fun _ => ?_
        refine uses_bind (uses_perform_bind trivial fun _ => (uses_perform _).mpr trivial) fun _ => ?_
        refine uses_perform_bind trivial fun _ => ?_
        refine uses_bind (confined_revokeAll ht) fun _ => ?_
        exact uses_bind confined_publish fun _ => (uses_perform _).mpr trivial

end Requests

/-! ## Requests about one user, by id -/

/-- Statements about the user `id`, or about nobody's rows. -/
def Stmt.About (id : Nat) : Stmt → Prop
  | .newDate => True
  | .findCredentialById i => i = id
  | .updateStatus i _ => i = id
  | .lockAccount i _ => i = id
  | .unlockAccount i => i = id
  | .updateRoles i _ => i = id
  | .deleteCredential i => i = id
  | .findActiveByUserId i _ => i = id
  | .revokeAllByUserId i _ _ => i = id
  | .findRoleByName _ => True
  | .createAuditLog _ => True
  | .publish _ => True
  | _ => False

theorem confined_of_about {s : Stmt} {id : Nat} (hs : s.About id) (hid : ¬ F (.user id)) :
    s.Confined F := by
  cases s
  case findCredentialById | deleteCredential | findActiveByUserId | revokeAllByUserId =>
    obtain rfl := hs
    exact hid
  all_goals trivial

theorem bypasses_of_about {s : Stmt} {id : Nat} (hs : s.About id) (hid : id ≠ u) :
    s.Bypasses u := by
  refine ⟨?_, fun hsubject => ?_⟩
  · cases s <;> first | rfl | cases hs
  · cases s
    case updateStatus | lockAccount | unlockAccount | updateRoles | deleteCredential
        | revokeAllByUserId =>
      exact hid (hs.symm.trans (Option.some.inj hsubject))
    all_goals first | cases hs; done | cases hsubject

theorem about_publish {id : Nat} {event : Int → DomainEvent} :
    (newDate.bind fun timestamp => EventService.safePublish (event timestamp)).Uses
      (Stmt.About id) :=
  uses_publish trivial fun _ => trivial

theorem about_revokeAll {id : Nat} {reason : String} :
    (TokenService.revokeAllUserTokens id reason).Uses (Stmt.About id) :=
  uses_revokeAllUserTokens trivial fun _ => rfl

/-- A request that looks an account up by id first. -/
theorem about_findById {α : Type} {id : Nat} {f : Option UserCredential → AuthProg α}
    {e : Exn} (hnone : f none = .throw e) (hsome : ∀ c, (f (some c)).Uses (Stmt.About id)) :
    ((UserCredentialRepository.findById id).bind f).Uses (Stmt.About id) := by
  refine uses_perform_bind rfl fun user? => ?_
  cases user? with
  | none =>
    rw [hnone]
    trivial
  | some c => exact hsome c

theorem about_handle {r : Request} {id : Nat} (hr : r.key? = some (.user id)) :
    (handle env r).Uses (Stmt.About id) := by
  cases r
  case lockAccount userId reason duration admin =>
    cases hr
    refine uses_bind (about_findById rfl fun c => ?_) fun _ => trivial
    refine uses_bind ?_ fun lockedUntil => uses_perform_bind rfl fun _ => ?_
    · unfold AccountService.lockExpiry
      split
      · trivial
      · trivial
      · exact uses_perform_bind trivial fun _ => trivial
    · refine uses_bind about_revokeAll fun _ => ?_
      exact uses_bind about_publish fun _ => (uses_perform _).mpr trivial
  case unlockAccount userId admin =>
    cases hr
    refine uses_bind (about_findById rfl fun c => uses_perform_bind rfl fun _ => ?_) fun _ => trivial
    exact uses_bind about_publish fun _ => (uses_perform _).mpr trivial
  case banUser userId reason admin =>
    cases hr
    refine uses_bind (about_findById rfl fun c => uses_perform_bind rfl fun _ => ?_) fun _ => trivial
    refine uses_bind about_revokeAll fun _ => ?_
    exact uses_bind about_publish fun _ => (uses_perform _).mpr trivial
  case deleteCredentials userId =>
    cases hr
    refine uses_bind (uses_perform_bind rfl fun deleted => ?_) fun _ => trivial
    exact uses_bind about_publish fun _ => (uses_perform _).mpr trivial
  case assignRole userId role by' =>
    cases hr
    refine uses_bind (about_findById rfl fun c => uses_perform_bind trivial fun role? => ?_)
      fun _ => trivial
    cases role? with
    | none => trivial
    | some r =>
      simp only
      split
      · trivial
      · exact uses_perform_bind rfl fun _ => uses_bind about_revokeAll fun _ => about_publish
  case revokeRole userId role by' =>
    cases hr
    refine uses_bind (about_findById rfl fun c => ?_) fun _ => trivial
    simp only
    split
    · exact uses_perform_bind rfl fun _ => uses_bind about_revokeAll fun _ => about_publish
    · trivial
  case getUserRoles userId =>
    cases hr
    exact uses_bind (about_findById rfl fun c => trivial) fun _ => trivial
  case revokeToken userId reason =>
    cases userId with
    | none => cases hr
    | some userId =>
      cases hr
      exact uses_bind about_revokeAll fun _ => trivial
  case revokeAllTokens userId reason =>
    cases hr
    exact uses_bind about_revokeAll fun _ => trivial
  case getActiveSessions userId =>
    cases hr
    refine uses_bind (uses_bind (uses_perform_bind trivial fun _ => ?_) fun _ => trivial)
      fun _ => trivial
    exact (uses_perform _).mpr rfl
  all_goals cases hr

/-! ## Jobs -/

/-- The unlock job in one statement: every lock that has run out is lifted. -/
theorem run_unlocks (env : Env) (accounts : List UserCredential) (w : World) :
    (forEach (fun account : UserCredential =>
        (UserCredentialRepository.unlockAccount account.id).tryCatch fun _ => .ret ())
          accounts).run (World.machine env) w =
      (.ok (), { w with
        credentials := w.credentials.updateWhere (fun c => decide (c.id ∈ accounts.map (·.id)))
          UserCredential.unlock }) := by
  induction accounts generalizing w with
  | nil =>
    rw [Table.updateWhere_none (by simp)]
    rfl
  | cons a as ih =>
    have hrows : (w.credentials.updateWhere (fun c => decide (c.id = a.id))
          UserCredential.unlock).updateWhere (fun c => decide (c.id ∈ as.map (·.id)))
            UserCredential.unlock =
        w.credentials.updateWhere (fun c => decide (c.id ∈ (a :: as).map (·.id)))
          UserCredential.unlock := by
      rw [Table.updateWhere_updateWhere (fun _ => rfl) fun _ => rfl]
      simp
    rw [← hrows]
    exact ih (World.exec env (.unlockAccount a.id) w).2

theorem serve_unlockExpiredLockouts (env : Env) (w : World) :
    serve env .unlockExpiredLockouts w = (.ok .done, { w with
      credentials := w.credentials.updateWhere (unlockable w.now) UserCredential.unlock }) := by
  have hrows : w.credentials.updateWhere
        (fun c => decide (c.id ∈ (w.credentials.select (unlockable w.now)).map (·.id)))
          UserCredential.unlock =
      w.credentials.updateWhere (unlockable w.now) UserCredential.unlock := by
    refine Table.updateWhere_congr fun c hc => ?_
    rw [Bool.eq_iff_iff, decide_eq_true_eq, List.mem_map]
    constructor
    · rintro ⟨c', hc', hid⟩
      obtain ⟨hmem, hp⟩ := List.mem_filter.mp hc'
      rwa [Table.eq_of_key hmem hc hid] at hp
    · intro hp
      exact ⟨c, List.mem_filter.mpr ⟨hc, hp⟩, rfl⟩
  have hrun := run_unlocks env (w.credentials.select (unlockable w.now)) w
  rw [hrows] at hrun
  have hdone : UnlockExpiredLockoutsJob.handleUnlock.run (World.machine env) w =
      (.ok (), (UnlockExpiredLockoutsJob.handleUnlock.run (World.machine env) w).2) :=
    Prod.ext (run_tryCatch_ret _ _ _) rfl
  have hserve : serve env .unlockExpiredLockouts w =
      (.ok .done, (UnlockExpiredLockoutsJob.handleUnlock.run (World.machine env) w).2) :=
    run_bind_ok _ hdone
  rw [hserve, ← serve_job hrun]
  exact congrArg (Prod.mk _) (congrArg Prod.snd hserve).symm

/-- A request that inserts nothing gives nobody a key. -/
theorem settled_serve {r : Request} (hr : r.plain = true) (hdrawn : Drawn w)
    (hF : ∀ k, w.foreign env u k = true → F k) :
    Drawn (serve env r w).2 ∧ ∀ k, (serve env r w).2.foreign env u k = true → F k := by
  refine run_invariant (I := fun v => Drawn v ∧ ∀ k, v.foreign env u k = true → F k)
    (uses_handle r) (fun s v hs hv => ?_) ⟨hdrawn, hF⟩
  have hplain := plain_of_footprint hr hs
  refine ⟨drawn_exec env ?_ ?_ hv.1, fun k hk => hv.2 k (owns_exec (.inl hplain) hk)⟩
  · rintro data rfl
    cases hplain
  · rintro userId hash expiresAt rfl
    cases hplain

/-- A job run in both worlds. -/
theorem Twins.unlockExpired (h : Twins env u F w w') :
    Twins env u F (serve env .unlockExpiredLockouts w).2 (serve env .unlockExpiredLockouts w').2 := by
  obtain ⟨hdrawn, hforeign⟩ := settled_serve (r := .unlockExpiredLockouts) rfl h.drawn h.foreign
  obtain ⟨hdrawn', hforeign'⟩ := settled_serve (r := .unlockExpiredLockouts) rfl h.drawn' h.foreign'
  have hselect : ∀ v : World, (v.credentials.updateWhere (unlockable v.now)
        UserCredential.unlock).select (fun c => decide (c.id = u)) =
      (v.own u).credentials.map (Table.patchIf (unlockable v.now) UserCredential.unlock) :=
    fun v => Table.select_updateWhere fun c => rfl
  refine ⟨?_, ?_, ?_, ?_, hdrawn, hdrawn', hforeign, hforeign'⟩
  all_goals rw [serve_unlockExpiredLockouts, serve_unlockExpiredLockouts]
  · show Own.mk _ (w.own u).refreshTokens (w.own u).passwordResetTokens =
      Own.mk _ (w'.own u).refreshTokens (w'.own u).passwordResetTokens
    rw [hselect, hselect, h.now, h.own]
  · exact h.roles
  · exact h.supply
  · exact h.now

/-! ## What twins see of a request -/

/-- The endpoints that judge access tokens: they read the blacklist, which all users share. -/
def Request.validates : Request → Bool
  | .validateToken _ => true
  | .introspect _ => true
  | _ => false

/-- Judging a token changes nothing. -/
theorem serve_validates {r : Request} (hr : r.validates = true) : (serve env r w).2 = w := by
  have hread : (handle env r).Uses fun s => ∀ v : World, (World.exec env s v).2 = v := by
    cases r
    case validateToken token =>
      exact uses_bind (uses_validateToken_of token (fun _ => rfl) (fun _ _ => rfl) fun _ _ => rfl)
        fun _ => trivial
    case introspect token =>
      exact uses_bind (uses_introspect_of token (fun _ => rfl) fun _ _ => rfl) fun _ => trivial
    all_goals cases hr
  exact run_invariant (I := fun v => v = w) hread (fun s v hs hv => (hs v).trans hv) rfl

/-- Requests other than registrations, jobs and those that judge tokens. -/
def Request.ordinary : Request → Bool
  | .register _ _ _ _ => false
  | .validateToken _ => false
  | .introspect _ => false
  | .unlockExpiredLockouts => false
  | .cleanupRefreshTokens => false
  | .cleanupPasswordResets => false
  | _ => true

theorem oblivious_handle {r : Request} (hr : r.ordinary = true) (hk : ∀ k, r.key? = some k → ¬ F k)
    (hu : ¬ F (.user u)) : Oblivious env u F (handle env r) := by
  have hdone : ∀ {α β : Type} {p : AuthProg α} {f : α → β}, Oblivious env u F p →
      Oblivious env u F (p.bind fun a => .ret (f a)) := fun hp =>
    simulates_bind hp fun _ => simulates_ret _
  cases r with
  | register email password ip ua => cases hr
  | login email password ip ua => exact hdone (oblivious_login (hk _ rfl) hu password)
  | refreshToken raw => exact hdone (oblivious_refreshToken (hk _ rfl) hu)
  | logout token raw ip ua =>
    refine hdone (oblivious_of_uses (uses_logout_of token raw ip ua trivial (hk _ rfl)
      (fun _ _ _ => trivial) (fun _ _ => trivial) (fun _ _ _ => trivial) fun _ _ => trivial))
  | validateToken token => cases hr
  | introspect token => cases hr
  | forgotPassword email ip => exact hdone (oblivious_forgotPassword (hk _ rfl) hu)
  | resetPassword raw password ip => exact hdone (oblivious_resetPassword (hk _ rfl) hu password)
  | getAllRoles => exact hdone (oblivious_of_uses ((uses_perform _).mpr trivial))
  | revokeToken id reason =>
    cases id with
    | none => exact hdone (simulates_ret _)
    | some id =>
      exact oblivious_of_uses ((about_handle rfl).mono fun s hs => confined_of_about hs (hk _ rfl))
  | revokeSession id =>
    exact hdone (oblivious_of_uses (uses_perform_bind trivial fun _ => (uses_perform _).mpr trivial))
  | lockAccount | unlockAccount | banUser | deleteCredentials | assignRole | revokeRole | getUserRoles
      | revokeAllTokens | getActiveSessions =>
    exact oblivious_of_uses ((about_handle rfl).mono fun s hs => confined_of_about hs (hk _ rfl))
  | unlockExpiredLockouts | cleanupRefreshTokens | cleanupPasswordResets => cases hr

/-- A request that nobody else answers to answers alike in twin worlds, unless it judges a token; a
registration is one if the email is the user's. -/
theorem serve_twins {r : Request} (h : Twins env u F w w') (hk : ∀ k, r.key? = some k → ¬ F k)
    (hu : ¬ F (.user u))
    (hregister : ∀ email password ip ua, r = .register email password ip ua →
      ∃ c, w.byEmail env email = some c) :
    (r.validates = false → (serve env r w).1 = (serve env r w').1) ∧
      Twins env u F (serve env r w).2 (serve env r w').2 := by
  by_cases hr : r.ordinary = true
  · obtain ⟨hres, hrel⟩ := oblivious_handle hr hk hu w w' h
    exact ⟨fun _ => hres, hrel⟩
  · cases r
    case register email password ip ua =>
      obtain ⟨c, hc⟩ := hregister email password ip ua rfl
      have hc' : w'.byEmail env email = some c := by rw [← h.byEmail (hk _ rfl), hc]
      rw [register_taken hc, register_taken hc']
      exact ⟨fun _ => rfl, h⟩
    case validateToken token =>
      rw [serve_validates rfl, serve_validates rfl]
      exact ⟨nofun, h⟩
    case introspect token =>
      rw [serve_validates rfl, serve_validates rfl]
      exact ⟨nofun, h⟩
    case unlockExpiredLockouts =>
      refine ⟨fun _ => ?_, h.unlockExpired⟩
      rw [serve_unlockExpiredLockouts, serve_unlockExpiredLockouts]
    case cleanupRefreshTokens =>
      refine ⟨fun _ => rfl, ?_⟩
      have hafter := h.after (s := .deleteExpiredAndRevoked w.now) (.inl rfl)
      have hserve : ∀ v : World, (serve env .cleanupRefreshTokens v).2 =
          (World.exec env (.deleteExpiredAndRevoked v.now) v).2 := fun v => rfl
      rw [hserve, hserve, ← h.now]
      exact hafter
    case cleanupPasswordResets =>
      refine ⟨fun _ => rfl, ?_⟩
      have hafter := h.after (s := .deleteExpiredOrUsed w.now) (.inl rfl)
      have hserve : ∀ v : World, (serve env .cleanupPasswordResets v).2 =
          (World.exec env (.deleteExpiredOrUsed v.now) v).2 := fun v => rfl
      rw [hserve, hserve, ← h.now]
      exact hafter
    all_goals exact absurd rfl hr

/-! ## Requests that somebody else answers to -/

section Frame

variable {o : Own} {ipAddress userAgent : Option String}

/-- The rows of a user who has registered. -/
def Framed (u : Nat) (o : Own) (w : World) : Prop := w.own u = o ∧ u < w.supply

theorem framed_exec {s : Stmt} (hs : s.Bypasses u) (h : Framed u o w) :
    Framed u o (World.exec env s w).2 :=
  ⟨(own_exec env hs h.2).trans h.1, Nat.lt_of_lt_of_le h.2 (World.exec_supply env s w)⟩

theorem framed_of_uses {α : Type} {p : AuthProg α} (hp : p.Uses (Stmt.Bypasses u)) :
    p.Keeps (World.machine env) (Framed u o) :=
  keeps_of_uses hp fun _ _ hs h => framed_exec hs h

/-- A session that is not the user's. -/
def NotMine (u id : Nat) (w : World) : Prop :=
  ∀ t ∈ w.refreshTokens.rows, t.id = id → t.userId ≠ u

theorem notMine_of_mem {t : RefreshToken} (ht : t ∈ w.refreshTokens.rows) (hu : t.userId ≠ u) :
    NotMine u t.id w := by
  intro t' ht' hid
  rw [Table.eq_of_key ht' ht hid]
  exact hu

theorem notMine_exec {s : Stmt} {id : Nat} (hs : ∀ data, s = .createRefreshToken data → data.userId ≠ u)
    (h : NotMine u id w) : NotMine u id (World.exec env s w).2 := by
  intro t' ht' hid
  rcases World.exec_source ht' with ⟨t, ht, rfl⟩ | ⟨data, hdata, rfl, -⟩
  · have hev := s.evolves_onRefreshToken t
    rw [hev.userId_eq]
    exact h t ht (hev.id_eq.symm.trans hid)
  · exact hs data hdata

/-- An update of a session that is not the user's. -/
theorem framed_update {id : Nat} {f : Patch RefreshToken} (hf : ∀ t, (f.apply t).userId = t.userId)
    (hid : NotMine u id w) (h : Framed u o w) :
    Framed u o (w.updateRefreshTokens (fun t => t.id = id) f) := by
  refine ⟨(own_updateRefreshTokens_other hf fun t ht hq => ?_).trans h.1, h.2⟩
  exact hid t ht (of_decide_eq_true hq)

theorem framed_evictOldest {v : Nat} (hv : v ≠ u) :
    (SessionService.evictOldest v).Keeps (World.machine env) (Framed u o) := by
  intro w h
  have hexec : World.exec env (.findOldestActiveByUserId v w.now) w =
      (.ok (env.oldest.pick (w.refreshTokens.select fun t => t.userId = v && t.active w.now)), w) := rfl
  unfold SessionService.evictOldest RefreshTokenRepository.findOldestActiveByUserId
  simp only [bind_eq, Prog.bind_assoc]
  rw [run_newDate_bind, run_bind_ok _ ((run_perform _ _ w).trans hexec)]
  cases hpick : env.oldest.pick (w.refreshTokens.select fun t => t.userId = v && t.active w.now) with
  | none => exact h
  | some t =>
    obtain ⟨hmem, hp⟩ := List.mem_filter.mp (env.oldest.pick_mem hpick)
    have huser : t.userId = v := of_decide_eq_true (Bool.and_eq_true_iff.mp hp).1
    exact framed_update (fun _ => rfl) (notMine_of_mem hmem (huser ▸ hv)) h

theorem framed_enforceMaxSessions {v : Nat} (hv : v ≠ u) :
    (SessionService.enforceMaxSessions env v).Keeps (World.machine env) (Framed u o) := by
  refine keeps_bind (framed_of_uses (uses_perform_bind ⟨rfl, nofun⟩ fun _ =>
    (uses_perform _).mpr ⟨rfl, nofun⟩)) fun activeCount => ?_
  split
  · exact keeps_ret ()
  · exact keeps_repeatN (framed_evictOldest hv) _

theorem bypasses_publish {event : Int → DomainEvent} :
    (newDate.bind fun timestamp => EventService.safePublish (event timestamp)).Uses
      (Stmt.Bypasses u) :=
  uses_publish ⟨rfl, nofun⟩ fun _ => ⟨rfl, nofun⟩

theorem bypasses_revokeAll {v : Nat} {reason : String} (hv : v ≠ u) :
    (TokenService.revokeAllUserTokens v reason).Uses (Stmt.Bypasses u) :=
  uses_revokeAllUserTokens ⟨rfl, nofun⟩ fun _ => ⟨rfl, fun h => hv (Option.some.inj h)⟩

/-- A token pair for another user, and the rest. -/
theorem framed_issue {α : Type} {v : Nat} {email : String} {roles : List String}
    {deviceFingerprint : Option String} {f : Jwt → Nat × RefreshToken → AuthProg α} (hv : v ≠ u)
    (hf : ∀ token pair, (f token pair).Keeps (World.machine env) (Framed u o)) :
    ((TokenService.generateAccessToken v email roles).bind fun token =>
      (TokenService.generateRefreshToken env v deviceFingerprint ipAddress userAgent).bind
        (f token)).Keeps (World.machine env) (Framed u o) := by
  refine keeps_bind (framed_of_uses ((uses_perform _).mpr ⟨rfl, nofun⟩)) fun token => ?_
  refine keeps_bind (framed_of_uses ?_) (hf token)
  refine uses_perform_bind ⟨rfl, nofun⟩ fun _ => uses_perform_bind ⟨rfl, nofun⟩ fun _ => ?_
  refine uses_bind (uses_perform_bind ⟨rfl, nofun⟩ fun _ => (uses_perform _).mpr ?_) fun _ => trivial
  exact ⟨rfl, fun h => hv (Option.some.inj h)⟩

theorem createCredential_new {email password : String} {c : UserCredential} {w' : World}
    (hrun : (CredentialService.createCredential email password).run (World.machine env) w =
      (.ok c, w')) : w.supply ≤ c.id := by
  unfold CredentialService.createCredential at hrun
  simp only [bind_eq] at hrun
  rw [run_hashPassword_bind] at hrun
  cases hhash : env.hashPassword password w.supply with
  | none => simp [hhash] at hrun
  | some hash =>
    simp only [hhash] at hrun
    have hexec : World.exec env (.createCredential email hash ["USER"])
        { w with supply := w.supply + 1 } = (.ok c, w') := (run_perform _ _ _).symm.trans hrun
    simp only [World.exec] at hexec
    split at hexec
    · cases hexec
      exact Nat.le_succ _
    · cases hexec

theorem framed_register (email password : String) :
    (AuthService.register env email password ipAddress userAgent).Keeps (World.machine env)
      (Framed u o) := by
  intro w h
  unfold AuthService.register
  simp only [bind_eq]
  rw [run_findByEmail_bind]
  cases w.byEmail env email with
  | some c => exact h
  | none =>
    have huses : (CredentialService.createCredential email password).Uses (Stmt.Bypasses u) :=
      uses_perform_bind ⟨rfl, nofun⟩ fun _ => (uses_perform _).mpr ⟨rfl, nofun⟩
    have hcreated : Framed u o ((CredentialService.createCredential email password).run
        (World.machine env) w).2 := framed_of_uses huses w h
    simp only
    rw [run_bind]
    rcases hrun : (CredentialService.createCredential email password).run (World.machine env) w with
      ⟨r, w'⟩
    rw [hrun] at hcreated
    cases r with
    | error e => exact hcreated
    | ok c =>
      have hnew := createCredential_new hrun
      have hlt := h.2
      have hc : c.id ≠ u := by omega
      have hsession : (AuthService.registerSession env c ipAddress userAgent).Keeps
          (World.machine env) (Framed u o) := by
        refine framed_issue hc fun token pair => ?_
        refine keeps_bind (framed_enforceMaxSessions hc) fun _ => framed_of_uses ?_
        exact uses_bind bypasses_publish fun _ => uses_perform_bind ⟨rfl, nofun⟩ fun _ => trivial
      exact hsession w' hcreated

theorem framed_loginVerify {c : UserCredential} (hc : c.id ≠ u) (email password : String) :
    (AuthService.loginVerify env c email password ipAddress userAgent).Keeps (World.machine env)
      (Framed u o) := by
  have hne : some c.id ≠ some u := fun h => hc (Option.some.inj h)
  refine keeps_bind (framed_of_uses ((uses_perform _).mpr ⟨rfl, nofun⟩)) fun valid => ?_
  split
  · unfold AuthService.loginSucceeded
    refine keeps_bind (framed_of_uses ((uses_perform _).mpr ⟨rfl, hne⟩)) fun _ => ?_
    refine keeps_bind (framed_of_uses (uses_perform_bind ⟨rfl, nofun⟩ fun _ =>
      (uses_perform _).mpr ⟨rfl, hne⟩)) fun _ => ?_
    refine framed_issue hc fun token pair => ?_
    refine keeps_bind (framed_enforceMaxSessions hc) fun _ => framed_of_uses ?_
    exact uses_bind bypasses_publish fun _ => uses_perform_bind ⟨rfl, nofun⟩ fun _ => trivial
  · exact framed_of_uses (uses_loginFailed_of c email ipAddress userAgent ⟨rfl, nofun⟩ ⟨rfl, hne⟩
      (fun _ _ _ => ⟨rfl, nofun⟩) (fun _ => ⟨rfl, hne⟩) (fun _ _ _ => ⟨rfl, nofun⟩)
      (fun _ => ⟨rfl, hne⟩) fun _ => ⟨rfl, nofun⟩)

theorem framed_refused (entry : AuditLog) (e : Exn) :
    ((AuditLogRepository.create entry).bind fun _ => (.throw e : AuthProg AuthResponse)).Keeps
      (World.machine env) (Framed u o) :=
  framed_of_uses (uses_perform_bind ⟨rfl, nofun⟩ fun _ => trivial)

theorem framed_login {email : String} (hk : ∀ c, w.byEmail env email = some c → c.id ≠ u)
    (password : String) (h : Framed u o w) :
    Framed u o ((AuthService.login env email password ipAddress userAgent).run
      (World.machine env) w).2 := by
  unfold AuthService.login
  simp only [bind_eq]
  rw [run_findByEmail_bind]
  cases hfound : w.byEmail env email with
  | none => exact framed_refused _ _ w h
  | some c =>
    have hc : c.id ≠ u := hk c hfound
    cases hs : c.status with
    | active => simp only [hs]; exact framed_loginVerify hc email password w h
    | banned => simp only [hs]; exact framed_refused _ _ w h
    | deleted => simp only [hs]; exact h
    | locked =>
      cases hl : c.lockedUntil with
      | none => simp only [hs, hl]; exact framed_refused _ _ w h
      | some lockedUntil =>
        simp only [hs, hl]
        rw [run_newDate_bind]
        split
        · refine keeps_bind (framed_of_uses ((uses_perform _).mpr ⟨rfl, fun h => ?_⟩)) (fun _ =>
            framed_loginVerify hc email password) w h
          exact hc (Option.some.inj h)
        · exact framed_refused _ _ w h

/-- The rotation of somebody else's session: the old row, the new one, and the link between them. -/
theorem framed_rotate {t : RefreshToken} (ht : t ∈ w.refreshTokens.rows) (hu : t.userId ≠ u)
    (h : Framed u o w) :
    Framed u o ((TokenService.rotate env t ipAddress userAgent).run (World.machine env) w).2 := by
  have hrevoked : Framed u o (World.exec env (.revokeToken t.id "rotated" w.now) w).2 :=
    framed_update (fun _ => rfl) (notMine_of_mem ht hu) h
  have hold : NotMine u t.id (World.exec env (.revokeToken t.id "rotated" w.now) w).2 :=
    notMine_exec (by simp) (notMine_of_mem ht hu)
  obtain ⟨w₁, rfl, ⟨data, e, huser, -, -, hrun⟩ |
      ⟨data, w₂, result, huser, -, -, hexec, hmem, -, hrun⟩⟩ :=
    run_rotate env t ipAddress userAgent w
  · rw [hrun]
    exact ⟨hrevoked.1, Nat.lt_succ_of_lt hrevoked.2⟩
  · generalize (World.exec env (.revokeToken t.id "rotated" w.now) w).2 = w₁ at *
    rw [hrun]
    have hdata : data.userId ≠ u := by
      rw [huser]
      exact hu
    have hcreated : Framed u o w₂ ∧ NotMine u t.id w₂ := by
      have hframed : Framed u o { w₁ with supply := w₁.supply + 1 } :=
        ⟨hrevoked.1, Nat.lt_succ_of_lt hrevoked.2⟩
      have hw₂ := congrArg Prod.snd hexec
      rw [← show _ = w₂ from hw₂]
      refine ⟨framed_exec ⟨rfl, fun h => hdata (Option.some.inj h)⟩ hframed, notMine_exec ?_ hold⟩
      rintro data' heq
      cases heq
      exact hdata
    have hnew : NotMine u (w₁.supply + 1) w₂ := notMine_of_mem hmem hdata
    have hlinked := framed_update (f := RefreshToken.setReplacedBy (w₁.supply + 1))
      (fun _ => rfl) hcreated.2 hcreated.1
    exact framed_update (fun _ => rfl)
      (notMine_exec (s := .setReplacedBy t.id (w₁.supply + 1)) (by simp) hnew) hlinked

theorem framed_refreshToken {raw : Nat} (hk : ∀ t, w.presented raw = some t → t.userId ≠ u)
    (h : Framed u o w) : Framed u o (serve env (.refreshToken raw) w).2 := by
  have hrefresh : Framed u o
      ((TokenService.refreshTokens env raw none none).run (World.machine env) w).2 := by
    cases hfound : w.presented raw with
    | none =>
      rw [run_refreshTokens_unknown hfound]
      exact h
    | some t =>
      have ht := hk t hfound
      cases hrev : t.revoked with
      | true =>
        rw [run_refreshTokens_revoked hfound hrev]
        exact framed_exec ⟨rfl, fun h => ht (Option.some.inj h)⟩ h
      | false =>
        by_cases hexp : t.expiresAt < w.now
        · rw [run_refreshTokens_expired hfound hrev hexp]
          exact h
        · rw [run_refreshTokens_rotates hfound hrev hexp]
          exact framed_rotate (presented_mem hfound).1 ht h
  unfold serve handle
  rw [run_bind_ret]
  refine run_bind_keeps hrefresh fun result => framed_of_uses ?_
  exact uses_issueAccessToken result (fun _ => ⟨rfl, nofun⟩) fun _ _ _ => ⟨rfl, nofun⟩

theorem framed_logout {raw : Nat} (hk : ∀ t, w.presented raw = some t → t.userId ≠ u) (token : Jwt)
    (h : Framed u o w) :
    Framed u o ((AuthService.logout token raw ipAddress userAgent).run (World.machine env) w).2 := by
  have hrevoked : Framed u o ((TokenService.revokeAccessToken token).run (World.machine env) w).2 ∧
      ((TokenService.revokeAccessToken token).run (World.machine env) w).2.refreshTokens =
        w.refreshTokens :=
    run_invariant (A := fun s : Stmt => s.Bypasses u ∧ s.writesRefreshTokens = false)
      (I := fun v => Framed u o v ∧ v.refreshTokens = w.refreshTokens)
      (uses_revokeAccessToken ⟨⟨rfl, nofun⟩, rfl⟩ fun _ _ _ => ⟨⟨rfl, nofun⟩, rfl⟩)
      (fun s v hs hv => ⟨framed_exec hs.1 hv.1, (World.exec_refreshTokens env s v hs.2).trans hv.2⟩)
      ⟨h, rfl⟩
  unfold AuthService.logout
  simp only [bind_eq]
  rw [run_bind]
  rcases hrun : (TokenService.revokeAccessToken token).run (World.machine env) w with ⟨r, v⟩
  rw [hrun] at hrevoked
  cases r with
  | error e => exact hrevoked.1
  | ok _ =>
    have hk' : ∀ t, v.presented raw = some t → t.userId ≠ u := by
      unfold World.presented at hk ⊢
      rw [hrevoked.2]
      exact hk
    refine run_bind_keeps ?_ fun userId => framed_of_uses ?_
    · unfold AuthService.logoutSession
      simp only [bind_eq]
      rw [run_findByTokenHash_bind]
      cases hfound : v.presented raw with
      | none => exact hrevoked.1
      | some t =>
        have hmem := (presented_mem hfound).1
        exact framed_update (fun _ => rfl) (notMine_of_mem hmem (hk' t hfound)) hrevoked.1
    · refine uses_bind (uses_publishLogout ⟨rfl, nofun⟩ fun _ _ _ => ⟨rfl, nofun⟩) fun _ => ?_
      exact (uses_perform _).mpr ⟨rfl, nofun⟩

theorem framed_forgotPassword {email : String}
    (hk : ∀ c, w.byEmail env email = some c → c.id ≠ u) (h : Framed u o w) :
    Framed u o ((AuthService.forgotPassword env email ipAddress).run (World.machine env) w).2 := by
  unfold AuthService.forgotPassword
  simp only [bind_eq]
  rw [run_findByEmail_bind]
  cases hfound : w.byEmail env email with
  | none => exact h
  | some c =>
    have hne : some c.id ≠ some u := fun h => hk c hfound (Option.some.inj h)
    refine framed_of_uses ?_ w h
    refine uses_perform_bind ⟨rfl, nofun⟩ fun _ => uses_perform_bind ⟨rfl, nofun⟩ fun _ => ?_
    refine uses_perform_bind ⟨rfl, hne⟩ fun _ => uses_perform_bind ⟨rfl, hne⟩ fun _ => ?_
    exact uses_bind bypasses_publish fun _ => (uses_perform _).mpr ⟨rfl, nofun⟩

/-- A reset token is redeemed that is not the user's. -/
theorem framed_redeem {t : PasswordResetToken} (ht : t ∈ w.passwordResetTokens.rows)
    (hu : t.userId ≠ u) (newPassword : String) (h : Framed u o w) :
    Framed u o ((AuthService.redeem t newPassword ipAddress).run (World.machine env) w).2 := by
  have hne : some t.userId ≠ some u := fun h => hu (Option.some.inj h)
  have hupdated : Framed u o ((CredentialService.updatePassword t.userId newPassword).run
        (World.machine env) w).2 ∧
      ((CredentialService.updatePassword t.userId newPassword).run
        (World.machine env) w).2.passwordResetTokens = w.passwordResetTokens := by
    refine run_invariant (A := fun s : Stmt => s.Bypasses u ∧ s.writesResetTokens = false)
      (I := fun v => Framed u o v ∧ v.passwordResetTokens = w.passwordResetTokens) ?_
      (fun s v hs hv => ⟨framed_exec hs.1 hv.1,
        (World.exec_passwordResetTokens env s v hs.2).trans hv.2⟩) ⟨h, rfl⟩
    refine uses_perform_bind ⟨⟨rfl, nofun⟩, rfl⟩ fun hash => ?_
    exact uses_perform_bind ⟨⟨rfl, nofun⟩, rfl⟩ fun at' => (uses_perform _).mpr ⟨⟨rfl, hne⟩, rfl⟩
  unfold AuthService.redeem
  simp only [bind_eq]
  rw [run_bind]
  rcases hrun : (CredentialService.updatePassword t.userId newPassword).run (World.machine env) w with
    ⟨r, v⟩
  rw [hrun] at hupdated
  cases r with
  | error e => exact hupdated.1
  | ok _ =>
    obtain ⟨hframed, hresets⟩ := hupdated
    refine run_bind_keeps ?_ fun _ => framed_of_uses ?_
    · refine ⟨Eq.trans ?_ hframed.1, hframed.2⟩
      have hselect : (v.passwordResetTokens.updateWhere (fun r => decide (r.id = t.id))
            (PasswordResetToken.markUsed v.now)).select (fun r => decide (r.userId = u)) =
          v.passwordResetTokens.select fun r => decide (r.userId = u) := by
        rw [Table.select_updateWhere fun _ => rfl]
        refine map_patchIf_of_none fun r hr => decide_eq_false fun hid => ?_
        obtain ⟨hmem, huser⟩ := List.mem_filter.mp hr
        rw [hresets] at hmem
        rw [Table.eq_of_key hmem ht hid] at huser
        exact hu (of_decide_eq_true huser)
      exact congrArg (Own.mk (v.own u).credentials (v.own u).refreshTokens) hselect
    · refine uses_perform_bind ⟨rfl, hne⟩ fun _ => uses_bind (bypasses_revokeAll hu) fun _ => ?_
      exact uses_bind bypasses_publish fun _ => (uses_perform _).mpr ⟨rfl, nofun⟩

theorem framed_resetPassword {raw : Nat}
    (hk : ∀ t ∈ w.passwordResetTokens.rows, t.tokenHash = hashToken raw → t.userId ≠ u)
    (newPassword : String) (h : Framed u o w) :
    Framed u o ((AuthService.resetPassword raw newPassword ipAddress).run (World.machine env) w).2 := by
  have hexec : World.exec env (.findResetTokenByHash (hashToken raw)) w =
      (.ok (w.passwordResetTokens.find? fun t => t.tokenHash = hashToken raw), w) := rfl
  unfold AuthService.resetPassword PasswordResetTokenRepository.findByTokenHash
  simp only [bind_eq]
  rw [run_bind_ok _ ((run_perform _ _ w).trans hexec)]
  cases hfound : w.passwordResetTokens.find? fun t => t.tokenHash = hashToken raw with
  | none => exact h
  | some t =>
    obtain ⟨hmem, hhash⟩ := Table.find?_mem hfound
    have hu := hk t hmem (of_decide_eq_true hhash)
    simp only
    split
    · exact h
    · rw [run_newDate_bind]
      split
      · exact h
      · exact framed_redeem hmem hu newPassword h

/-- A request addressed to others leaves the rows of the user alone. -/
theorem framed_serve {r : Request} {k : Key} (hkey : r.key? = some k) (hne : k ≠ .user u)
    (hk : w.owns env (fun v => decide (v = u)) k = false) (h : Framed u o w) :
    Framed u o (serve env r w).2 := by
  have hemail : ∀ email, k = .email email → ∀ c, w.byEmail env email = some c → c.id ≠ u := by
    rintro email rfl c hc hid
    obtain ⟨hmem, he⟩ := Table.find?_mem hc
    have hmine : w.owns env (fun v => decide (v = u)) (.email email) = true :=
      List.any_eq_true.mpr ⟨c, hmem, by simp [hid, of_decide_eq_true he]⟩
    rw [hk] at hmine
    cases hmine
  have htoken : ∀ raw, k = .refreshToken raw → ∀ t, w.presented raw = some t → t.userId ≠ u := by
    rintro raw rfl t ht hid
    obtain ⟨hmem, hh⟩ := presented_mem ht
    have hmine : w.owns env (fun v => decide (v = u)) (.refreshToken raw) = true :=
      List.any_eq_true.mpr ⟨t, hmem, by simp [hid, hh]⟩
    rw [hk] at hmine
    cases hmine
  have huser : ∀ id, k = .user id → id ≠ u := by
    rintro id rfl rfl
    exact hne rfl
  have hserve : ∀ {α : Type} {p : AuthProg α} {f : α → Response},
      Framed u o (p.run (World.machine env) w).2 →
      Framed u o ((p.bind fun a => .ret (f a)).run (World.machine env) w).2 := by
    intro α p f hp
    rw [run_bind_ret]
    exact hp
  cases r with
  | register email password ip ua =>
    exact hserve (framed_register email password w h)
  | login email password ip ua =>
    cases hkey
    exact hserve (framed_login (hemail _ rfl) password h)
  | refreshToken raw =>
    cases hkey
    exact framed_refreshToken (htoken _ rfl) h
  | logout token raw ip ua =>
    cases hkey
    exact hserve (framed_logout (htoken _ rfl) token h)
  | forgotPassword email ip =>
    cases hkey
    exact hserve (framed_forgotPassword (hemail _ rfl) h)
  | resetPassword raw password ip =>
    cases hkey
    refine hserve (framed_resetPassword (fun t ht hh hid => ?_) password h)
    have hmine : w.owns env (fun v => decide (v = u)) (.resetToken raw) = true :=
      List.any_eq_true.mpr ⟨t, ht, by simp [hid, hh]⟩
    rw [hk] at hmine
    cases hmine
  | revokeSession id =>
    cases hkey
    refine hserve (framed_update (fun _ => rfl) (fun t ht hid hu => ?_) h)
    have hmine : w.owns env (fun v => decide (v = u)) (.session id) = true :=
      List.any_eq_true.mpr ⟨t, ht, by simp [hid, hu]⟩
    rw [hk] at hmine
    cases hmine
  | revokeToken id reason =>
    cases id with
    | none => cases hkey
    | some id =>
      cases hkey
      exact framed_of_uses ((about_handle rfl).mono fun s hs => bypasses_of_about hs (huser _ rfl)) w h
  | validateToken | introspect | getAllRoles | unlockExpiredLockouts | cleanupRefreshTokens
      | cleanupPasswordResets => cases hkey
  | lockAccount | unlockAccount | banUser | deleteCredentials | assignRole | revokeRole | getUserRoles
      | revokeAllTokens | getActiveSessions =>
    cases hkey
    exact framed_of_uses ((about_handle rfl).mono fun s hs => bypasses_of_about hs (huser _ rfl)) w h

end Frame

end Auth
