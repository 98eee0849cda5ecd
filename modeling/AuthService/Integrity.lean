import AuthService.AccessTokens
import AuthService.Reuse

/-!
# AuthService.Integrity

What holds of the tables of every reachable world, and what it gives: statements that could violate
a constraint do not.

* `Integrity` — ids and digests come from the supply, tokens have an owner, emails are unique up to
  case.
* `keeping_integrity` — every request keeps it.
* `run_generateRefreshToken_ok`, `refresh_succeeds` — an existing user gets a refresh token, and an
  active token can be rotated.
-/

namespace Auth

open Relational Resumption Prog

variable {env : Env} {w : World}

structure Integrity (env : Env) (w : World) : Prop extends Linked w where
  credential_id_lt : ∀ c ∈ w.credentials.rows, c.id < w.supply
  email_inj : ∀ c ∈ w.credentials.rows, ∀ c' ∈ w.credentials.rows,
    env.sqlLower c.email = env.sqlLower c'.email → c = c'
  hash_lt : ∀ t ∈ w.refreshTokens.rows, t.tokenHash.preimage < w.supply
  owner : ∀ t ∈ w.refreshTokens.rows, ∃ c, w.account t.userId = some c
  /-- A session starts with an access token, so jsonwebtoken reads the configured lifetime. -/
  lifetime : ∀ t ∈ w.refreshTokens.rows, (env.timespan env.accessTokenExpiry).isSome = true
  reset_id_lt : ∀ t ∈ w.passwordResetTokens.rows, t.id < w.supply
  reset_hash_lt : ∀ t ∈ w.passwordResetTokens.rows, t.tokenHash.preimage < w.supply
  reset_owner : ∀ t ∈ w.passwordResetTokens.rows, ∃ c, w.account t.userId = some c

/-- What the service knows when it issues an insert. -/
structure Stmt.Sound (env : Env) (w : World) (s : Stmt) : Prop where
  newEmail : ∀ email passwordHash roles, s = .createCredential email passwordHash roles →
    w.byEmail env email = none
  drawn : ∀ data, s = .createRefreshToken data → data.tokenHash.preimage < w.supply
  lifetime : ∀ data, s = .createRefreshToken data →
    (env.timespan env.accessTokenExpiry).isSome = true
  drawnReset : ∀ userId tokenHash expiresAt,
    s = .createPasswordResetToken userId tokenHash expiresAt → tokenHash.preimage < w.supply

theorem sound_of_plain {s : Stmt} (hs : s.plain = true) : s.Sound env w := by
  constructor
  all_goals
    intros
    subst_vars
    cases hs

/-- The accounts after a statement: emails stay unique. -/
theorem email_inj_exec {s : Stmt} (hs : s.Sound env w)
    (h : ∀ c ∈ w.credentials.rows, ∀ c' ∈ w.credentials.rows,
      env.sqlLower c.email = env.sqlLower c'.email → c = c') :
    ∀ c ∈ (World.exec env s w).2.credentials.rows, ∀ c' ∈ (World.exec env s w).2.credentials.rows,
      env.sqlLower c.email = env.sqlLower c'.email → c = c' := by
  by_cases hch : s.changesAccounts = true
  · cases s
    case createCredential email passwordHash roles =>
      have hnew := Table.find?_none (hs.newEmail _ _ _ rfl)
      intro c hc c' hc' heq
      simp only [World.exec] at hc hc'
      split at hc
      · rename_i t ht
        rw [ht] at hc'
        rcases (Table.mem_insert? ht).mp hc with hc | rfl
        · rcases (Table.mem_insert? ht).mp hc' with hc' | rfl
          · exact h c hc c' hc' heq
          · exact absurd heq (by simpa [World.newCredential] using hnew c hc)
        · rcases (Table.mem_insert? ht).mp hc' with hc' | rfl
          · exact absurd heq.symm (by simpa [World.newCredential] using hnew c' hc')
          · rfl
      · rename_i ht
        rw [ht] at hc'
        exact h c hc c' hc' heq
    case deleteCredential id =>
      intro c hc c' hc' heq
      exact h c (Table.mem_deleteWhere.mp hc).1 c' (Table.mem_deleteWhere.mp hc').1 heq
    all_goals cases hch
  · rw [World.exec_credentialRows (by simpa using hch)]
    intro c hc c' hc' heq
    obtain ⟨c₀, hc₀, rfl⟩ := List.mem_map.mp hc
    obtain ⟨c₁, hc₁, rfl⟩ := List.mem_map.mp hc'
    rw [Stmt.onCredential_email, Stmt.onCredential_email] at heq
    rw [h c₀ hc₀ c₁ hc₁ heq]

/-- A sound statement keeps integrity, given that it keeps the links. -/
theorem integrity_exec {s : Stmt} (hs : s.Sound env w) (hL : Linked (World.exec env s w).2)
    (h : Integrity env w) : Integrity env (World.exec env s w).2 := by
  have hle := World.exec_supply env s w
  refine ⟨hL, fun c hc => exec_credential_id hc h.credential_id_lt, email_inj_exec hs h.email_inj,
    ?_, ?_, ?_, ?_, ?_, ?_⟩
  · intro t' ht'
    rcases World.exec_source ht' with ⟨t, ht, rfl⟩ | ⟨data, rfl, rfl, -, -⟩
    · have := h.hash_lt t ht
      rw [(s.evolves_onRefreshToken t).tokenHash_eq]
      omega
    · exact Nat.lt_of_lt_of_le (hs.drawn data rfl) hle
  · intro t' ht'
    have hcascade := World.exec_cascade ht'
    rcases World.exec_source ht' with ⟨t, ht, rfl⟩ | ⟨data, rfl, rfl, -, hu⟩
    · rw [(s.evolves_onRefreshToken t).userId_eq] at hcascade ⊢
      exact World.account_kept env hcascade (h.owner t ht)
    · exact World.account_kept env hcascade (World.hasUser_iff.mp hu)
  · intro t' ht'
    rcases World.exec_source ht' with ⟨t, ht, rfl⟩ | ⟨data, rfl, rfl, -, -⟩
    · exact h.lifetime t ht
    · exact hs.lifetime data rfl
  · intro t' ht'
    rcases World.exec_resetTokens ht' with ⟨t, ht, hsame, -⟩ | ⟨u, hash, e, rfl, rfl, hsupply, -⟩
    · have := h.reset_id_lt t ht
      rw [hsame.1]
      omega
    · rw [hsupply]
      exact Nat.lt_succ_self _
  · intro t' ht'
    rcases World.exec_resetTokens ht' with ⟨t, ht, hsame, -⟩ | ⟨u, hash, e, rfl, rfl, -, -⟩
    · have := h.reset_hash_lt t ht
      rw [hsame.2.2.1]
      omega
    · exact Nat.lt_of_lt_of_le (hs.drawnReset u hash e rfl) hle
  · intro t' ht'
    rcases World.exec_resetTokens ht' with ⟨t, ht, hsame, hcascade⟩ | ⟨u, hash, e, rfl, rfl, -, hu⟩
    · rw [hsame.2.1]
      exact World.account_kept env hcascade (h.reset_owner t ht)
    · exact World.account_kept env (by simp) (World.hasUser_iff.mp hu)

theorem integrity_plain {s : Stmt} (hs : s.plain = true) (h : Integrity env w) :
    Integrity env (World.exec env s w).2 :=
  integrity_exec (sound_of_plain hs) ((keeping_linked env).exec s w hs h.toLinked) h

theorem keeping_integrity (env : Env) : Keeping env (Integrity env) := by
  have hcreate : ∀ data w, data.tokenHash.preimage < w.supply →
      (env.timespan env.accessTokenExpiry).isSome = true → Integrity env w →
      Integrity env (World.exec env (.createRefreshToken data) w).2 := by
    intro data w hhash hspan h
    refine integrity_exec ⟨by simp, ?_, fun _ _ => hspan, by simp⟩ (linked_exec env (by simp) h.toLinked) h
    rintro data' heq
    cases heq
    exact hhash
  constructor
  case exec => exact fun s w hs h => integrity_plain hs h
  case createCredential =>
    intro email passwordHash roles w hnew h
    refine integrity_exec ⟨?_, by simp, by simp, by simp⟩ (linked_exec env (by simp) h.toLinked) h
    rintro email' passwordHash' roles' heq
    cases heq
    exact hnew
  case createRefreshToken => exact fun data w hhash _ hspan h => hcreate data w hhash hspan h
  case rotate =>
    intro t w ht _ _ h
    have hspan := h.lifetime t ht
    refine rotate_keeps (fun s w hs h => integrity_plain hs h)
      (fun data w hhash _ h => hcreate data w hhash hspan h) (fun i r w hlink h => ?_) h.toLinked ht h
    refine integrity_exec ⟨by simp, by simp, by simp, by simp⟩ ?_ h
    exact linked_setReplacedBy hlink.inserted
      (fun t ht hid => ⟨(hlink.spent t ht hid).1, (hlink.spent t ht hid).2.1⟩) h.toLinked
  case createPasswordResetToken =>
    intro userId tokenHash expiresAt w hdrawn h
    refine integrity_exec ⟨by simp, by simp, by simp, ?_⟩ (linked_exec env (by simp) h.toLinked) h
    rintro userId' tokenHash' expiresAt' heq
    cases heq
    exact hdrawn
  case pass =>
    exact fun w n h => ⟨(keeping_linked env).pass w n h.toLinked, h.credential_id_lt, h.email_inj,
      h.hash_lt, h.owner, h.lifetime, h.reset_id_lt, h.reset_hash_lt, h.reset_owner⟩

theorem integrity_initial (roles : Table Role) (supply : Nat) (now : Int) :
    Integrity env (World.initial roles supply now) := by
  refine ⟨linked_initial roles supply now, ?_, ?_, ?_, ?_, ?_, ?_, ?_, ?_⟩ <;> simp [World.initial]

theorem Reachable.integrity (h : Reachable env w) : Integrity env w :=
  h.keeps (keeping_integrity env) integrity_initial

theorem Integrity.byEmail_of_mem (h : Integrity env w) {c : UserCredential} {email : String}
    (hc : c ∈ w.credentials.rows) (he : env.sqlLower c.email = env.sqlLower email) :
    w.byEmail env email = some c := by
  refine Table.find?_unique hc (decide_eq_true he) fun c' hc' he' => ?_
  exact h.email_inj c' hc' c hc ((of_decide_eq_true he').trans he.symm)

/-! ## Statements that succeed -/

/-- Statements without a constraint or a library call that could fail. -/
def Stmt.total : Stmt → Bool
  | .hashPassword _ => false
  | .signAccessToken _ _ _ _ => false
  | .createCredential _ _ _ => false
  | .createRefreshToken _ => false
  | .createPasswordResetToken _ _ _ => false
  | _ => true

theorem exec_total (s : Stmt) (w : World) (hs : s.total = true) :
    ∃ a, ((World.machine env).exec s w).1 = .ok a := by
  cases s
  case hashPassword | signAccessToken | createCredential | createRefreshToken
      | createPasswordResetToken => cases hs
  all_goals exact ⟨_, rfl⟩

theorem completes_publish {event : Int → DomainEvent} :
    (newDate.bind fun timestamp => EventService.safePublish (event timestamp)).Completes
      fun s : Stmt => s.total = true :=
  completes_perform_bind rfl fun _ => ⟨rfl, fun _ => trivial⟩

theorem completes_enforceMaxSessions (env : Env) (userId : Nat) :
    (SessionService.enforceMaxSessions env userId).Completes fun s : Stmt => s.total = true := by
  refine completes_bind (completes_perform_bind rfl fun _ => ⟨rfl, fun _ => trivial⟩) fun n => ?_
  split
  · trivial
  · refine completes_repeatN ?_
    refine completes_bind (completes_perform_bind rfl fun _ => ⟨rfl, fun _ => trivial⟩) fun t? => ?_
    cases t? with
    | none => trivial
    | some t => exact completes_perform_bind rfl fun _ => ⟨rfl, fun _ => trivial⟩

/-- What follows an issued token pair always comes through. -/
theorem completes_afterIssue {α : Type} (userId : Nat) (event : Int → DomainEvent)
    (entry : AuditLog) (a : α) :
    ((SessionService.enforceMaxSessions env userId).bind fun _ =>
      (newDate.bind fun timestamp => EventService.safePublish (event timestamp)).bind fun _ =>
        (AuditLogRepository.create entry).bind fun _ => .ret a).Completes
      fun s : Stmt => s.total = true := by
  refine completes_bind (completes_enforceMaxSessions env userId) fun _ => ?_
  exact completes_bind completes_publish fun _ => completes_perform_bind rfl fun _ => trivial

theorem exec_createRefreshToken_ok {data : NewRefreshToken} {e : Exn} {w' : World}
    (hid : ∀ t ∈ w.refreshTokens.rows, t.id < w.supply)
    (hhash : ∀ t ∈ w.refreshTokens.rows, t.tokenHash.preimage ≠ data.tokenHash.preimage)
    (hu : ∃ c, w.account data.userId = some c) :
    World.exec env (.createRefreshToken data) w ≠ (.error e, w') := by
  obtain ⟨table, -, hexec⟩ := World.exec_createRefreshToken_new env hid
    (fun t ht heq => hhash t ht (congrArg TokenHash.preimage heq)) (World.hasUser_iff.mpr hu)
  rw [hexec]
  intro heq
  cases heq

/-- An existing user gets a refresh token. -/
theorem run_generateRefreshToken_ok (h : Integrity env w) {userId : Nat}
    (hu : ∃ c, w.account userId = some c) (deviceFingerprint ipAddress userAgent : Option String) :
    ∃ row w', (TokenService.generateRefreshToken env userId deviceFingerprint ipAddress
      userAgent).run (World.machine env) w = (.ok (w.supply, row), w') := by
  obtain ⟨data, rfl, ⟨e, he, -⟩ | ⟨w', -, -, -, hrun⟩⟩ :=
    run_generateRefreshToken env userId deviceFingerprint ipAddress userAgent w
  · refine absurd he (exec_createRefreshToken_ok (fun t ht => ?_) (fun t ht => ?_) hu)
    · exact Nat.lt_succ_of_lt (h.id_lt t ht)
    · exact Nat.ne_of_lt (h.hash_lt t ht)
  · exact ⟨_, w', hrun⟩

/-- A token pair for an existing user, and the rest. -/
theorem run_issue (h : Integrity env w) {α : Type} {userId : Nat} {email : String}
    {roles : List String} {deviceFingerprint ipAddress userAgent : Option String}
    {f : Jwt → Nat × RefreshToken → AuthProg α}
    (hspan : (env.timespan env.accessTokenExpiry).isSome = true)
    (hu : ∃ c, w.account userId = some c)
    (hf : ∀ token pair, (f token pair).Completes fun s : Stmt => s.total = true) :
    ∃ a w', ((TokenService.generateAccessToken userId email roles).bind fun token =>
      (TokenService.generateRefreshToken env userId deviceFingerprint ipAddress userAgent).bind
        (f token)).run (World.machine env) w = (.ok a, w') := by
  obtain ⟨lifetime, hspan⟩ := Option.isSome_iff_exists.mp hspan
  rw [run_generateAccessToken_bind, hspan]
  have hsigned := integrity_plain (s := .signAccessToken userId email roles .access) rfl h
  obtain ⟨row, w', hrun⟩ := run_generateRefreshToken_ok hsigned
    (World.account_kept env (by simp) hu) deviceFingerprint ipAddress userAgent
  simp only
  rw [run_bind_ok _ hrun]
  exact (hf _ _).run exec_total w'

/-! ## An active token can be rotated -/

theorem yields_rotate (env : Env) (t : RefreshToken) (ipAddress userAgent : Option String) :
    (TokenService.rotate env t ipAddress userAgent).Yields fun r => r.userId = t.userId :=
  yields_bind fun _ => yields_bind fun _ => yields_bind fun _ => yields_bind fun _ => rfl

theorem rotate_account (env : Env) (t : RefreshToken) (ipAddress userAgent : Option String) (w : World)
    (u : Nat) :
    ((TokenService.rotate env t ipAddress userAgent).run (World.machine env) w).2.account u =
      w.account u := by
  refine run_invariant (I := fun w' : World => w'.account u = w.account u)
    (A := fun s : Stmt => s.writesCredentials = false) ?_ (fun s w' hs h => ?_) rfl
  · refine (uses_rotate t ipAddress userAgent).mono fun s hs => ?_
    cases s <;> first | rfl | cases hs
  · rw [← h]
    exact congrArg (fun table : Table UserCredential => table.find? fun c => c.id = u)
      (World.exec_credentials env s w' hs)

theorem run_rotate_ok (h : Integrity env w) {t : RefreshToken} (ht : t ∈ w.refreshTokens.rows)
    (ipAddress userAgent : Option String) :
    ∃ result w', (TokenService.rotate env t ipAddress userAgent).run (World.machine env) w =
      (.ok result, w') := by
  obtain ⟨w₁, hw₁, ⟨data, e, huser, hhash, he, -⟩ | ⟨data, w₂, result, -, -, -, -, -, -, hrun⟩⟩ :=
    run_rotate env t ipAddress userAgent w
  · have h₁ : Integrity env w₁ := by
      rw [hw₁]
      exact integrity_plain rfl h
    refine absurd he (exec_createRefreshToken_ok (fun t ht => ?_) (fun t ht => ?_) ?_)
    · exact Nat.lt_succ_of_lt (h₁.id_lt t ht)
    · rw [hhash]
      exact Nat.ne_of_lt (h₁.hash_lt t ht)
    · rw [huser, hw₁]
      exact World.account_kept env (by simp) (h.owner t ht)
  · exact ⟨result, _, hrun⟩

/-- A refresh with an active token succeeds. -/
theorem refresh_succeeds (h : Integrity env w) {t : RefreshToken} {raw : Nat}
    (hfound : w.presented raw = some t) (hactive : t.active w.now = true) :
    ∃ a, (serve env (.refreshToken raw) w).1 = .ok (.auth a) := by
  obtain ⟨ht, -⟩ := presented_mem hfound
  simp only [RefreshToken.active, Bool.and_eq_true, Bool.not_eq_true', decide_eq_true_eq] at hactive
  obtain ⟨hrev, hexp⟩ := hactive
  obtain ⟨result, w', hrun⟩ := run_rotate_ok h ht none none
  have huser : result.userId = t.userId := of_run_ok (yields_rotate env t none none) hrun
  obtain ⟨c, hc⟩ : ∃ c, w'.account result.userId = some c := by
    have hsame := rotate_account env t none none w t.userId
    rw [hrun] at hsame
    rw [huser, hsame]
    exact h.owner t ht
  obtain ⟨lifetime, hspan⟩ := Option.isSome_iff_exists.mp (h.lifetime t ht)
  rw [serve_refreshToken_rotates hfound hrev (by omega)]
  rw [bind_assoc, run_bind_ok _ hrun]
  unfold AuthController.issueAccessToken
  simp only [bind_eq, bind_assoc]
  rw [run_findById_bind, hc]
  simp only [bind_assoc]
  rw [run_generateAccessToken_bind, hspan]
  exact ⟨_, rfl⟩

end Auth
