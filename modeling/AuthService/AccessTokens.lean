import AuthService.Accounts

/-!
# AuthService.AccessTokens

Access tokens after a bulk revocation, over runs of whole requests.

* `JwtPayload.rejection`, `serve_validateToken` — why `validateToken` refuses a signed token, if it
  does.
* `Issued`  — account ids come from the supply; every signed token is for an id that was given out and
  bears this service's issuer and audience.
* `Inert`   — a token that is dead on its own account: expired, its user deleted, or blacklisted in its
  last second.
* `revokeAllUserTokens_covers_iff` — after a bulk revocation the earlier tokens of the user are
  rejected for good iff each was inert before it: the revocation itself adds nothing.
-/

namespace Auth

open Relational Resumption Prog

variable {env : Env} {w : World} {p : JwtPayload}

/-! ## validateToken -/

def LockState.rejection (l : LockState) (now : Int) : Option String :=
  match l.status with
  | .active => none
  | .locked => if l.lockedUntil.any (· ≤ now) then none else some "account_locked"
  | .banned => some "account_banned"
  | .deleted => some "invalid"

/-- The reason for which `validateToken` refuses a signed token. -/
def JwtPayload.rejection (env : Env) (w : World) (p : JwtPayload) : Option String :=
  if World.seconds w.now ≥ p.exp then some "expired"
  else if p.aud ≠ env.audience then some "invalid_signature"
  else if p.iss ≠ env.issuer then some "invalid_signature"
  else if w.isBlacklisted p.jti then some "blacklisted"
  else
    match w.lockState p.sub with
    | none => some "invalid"
    | some l => l.rejection w.now

def JwtPayload.verdict (p : JwtPayload) : Option String → TokenValidationResult
  | none => ⟨true, some p, none⟩
  | some reason => ⟨false, none, some reason⟩

theorem run_isBlacklisted_bind {α : Type} (jti : Nat) (f : Bool → AuthProg α) :
    ((BlacklistService.isBlacklisted jti).bind f).run (World.machine env) w =
      (f (w.isBlacklisted jti)).run (World.machine env) w := rfl

/-- The account's part, which a database error would skip. -/
theorem run_checkAccountStatus (w : World) (p : JwtPayload) :
    (AuthService.checkAccountStatus (p.verdict none) p).run (World.machine env) w =
      (.ok (p.verdict (match w.lockState p.sub with
        | none => some "invalid"
        | some l => l.rejection w.now)), w) := by
  unfold AuthService.checkAccountStatus World.lockState
  simp only [bind_eq, pure_eq]
  rw [run_tryCatch, run_findById_bind]
  cases hc : w.account p.sub with
  | none => rfl
  | some c =>
    simp only [Option.map_some, LockState.rejection, UserCredential.lockState]
    cases hs : c.status with
    | active => rfl
    | banned => rfl
    | deleted => rfl
    | locked =>
      cases hlu : c.lockedUntil with
      | none => rfl
      | some t =>
        simp only [Option.any_some, decide_eq_true_eq]
        rw [run_newDate_bind]
        by_cases ht : t ≤ w.now
        · rw [if_pos ht, if_pos ht]
          rfl
        · rw [if_neg ht, if_neg ht]
          rfl

theorem run_validateToken (env : Env) (w : World) (p : JwtPayload) :
    (AuthService.validateToken env (.signed p)).run (World.machine env) w =
      (.ok (p.verdict (p.rejection env w)), w) := by
  unfold AuthService.validateToken TokenService.validateAccessToken verifyAccessToken
    JwtPayload.rejection
  simp only [bind_eq, pure_eq, bind_assoc]
  rw [run_newDate_bind]
  by_cases hexp : World.seconds w.now ≥ p.exp
  · simp only [if_pos hexp]
    rfl
  · by_cases haud : p.aud ≠ env.audience
    · simp only [if_neg hexp, if_pos haud]
      rfl
    · by_cases hiss : p.iss ≠ env.issuer
      · simp only [if_neg hexp, if_neg haud, if_pos hiss]
        rfl
      · simp only [if_neg hexp, if_neg haud, if_neg hiss]
        rw [bind_assoc, run_isBlacklisted_bind]
        cases hlist : w.isBlacklisted p.jti with
        | true => rfl
        | false => exact run_checkAccountStatus w p

theorem serve_validateToken (env : Env) (w : World) (p : JwtPayload) :
    serve env (.validateToken (.signed p)) w =
      (.ok (.validation (p.verdict (p.rejection env w))), w) :=
  run_bind_ok _ (run_validateToken env w p)

/-! ## Signed tokens -/

/-- Ids come from the supply, and tokens are signed for them alone, in this service's name. -/
structure Issued (env : Env) (w : World) : Prop where
  id_lt : ∀ c ∈ w.credentials.rows, c.id < w.supply
  sub_lt : ∀ p ∈ w.signed, p.sub < w.supply
  aud : ∀ p ∈ w.signed, p.aud = env.audience
  iss : ∀ p ∈ w.signed, p.iss = env.issuer

/-- The user that a statement signs a token for. -/
def Stmt.signsFor : Stmt → Option Nat
  | .signAccessToken sub _ _ _ => some sub
  | _ => none

theorem exec_signed {s : Stmt} (h : s.signsFor = none) :
    (World.exec env s w).2.signed = w.signed := by
  cases s
  case signAccessToken => cases h
  case hashPassword | createCredential => simp only [World.exec]; split <;> rfl
  case createPasswordResetToken | createRefreshToken =>
    simp only [World.exec]
    split
    · split <;> rfl
    · rfl
  all_goals rfl

theorem exec_credential_id {s : Stmt} {c : UserCredential}
    (hc : c ∈ (World.exec env s w).2.credentials.rows) (h : ∀ c ∈ w.credentials.rows, c.id < w.supply) :
    c.id < (World.exec env s w).2.supply := by
  have hle := World.exec_supply env s w
  by_cases hch : s.changesAccounts = true
  · cases s
    case createCredential email passwordHash roles =>
      simp only [World.exec] at hc ⊢
      split at hc
      · rename_i t ht
        rcases (Table.mem_insert? ht).mp hc with hc | rfl
        · have := h c hc
          simp only
          omega
        · exact Nat.lt_succ_self _
      · exact h c hc
    case deleteCredential id =>
      have := h c (Table.mem_deleteWhere.mp hc).1
      omega
    all_goals cases hch
  · rw [World.exec_credentialRows (by simpa using hch)] at hc
    obtain ⟨c₀, hc₀, rfl⟩ := List.mem_map.mp hc
    have := h c₀ hc₀
    rw [Stmt.onCredential_id]
    omega

/-- A statement keeps the invariant if it signs for ids that were given out. -/
theorem issued_exec {s : Stmt}
    (hs : ∀ sub, s.signsFor = some sub → sub < w.supply) (h : Issued env w) :
    Issued env (World.exec env s w).2 := by
  have hle := World.exec_supply env s w
  have hid : ∀ c ∈ (World.exec env s w).2.credentials.rows, c.id < (World.exec env s w).2.supply :=
    fun c hc => exec_credential_id hc h.id_lt
  by_cases hsign : s.signsFor = none
  · have hsame : (World.exec env s w).2.signed = w.signed := exec_signed hsign
    constructor
    · exact hid
    · intro p hp
      rw [hsame] at hp
      have := h.sub_lt p hp
      omega
    · rw [hsame]
      exact h.aud
    · rw [hsame]
      exact h.iss
  · cases s
    case signAccessToken sub email roles type =>
      have hsub := hs sub rfl
      simp only [World.exec]
      split
      · exact h
      · refine ⟨fun c hc => Nat.lt_succ_of_lt (h.id_lt c hc), ?_, ?_, ?_⟩
        · intro p hp
          rcases List.mem_cons.mp hp with rfl | hp
          · exact Nat.lt_succ_of_lt hsub
          · exact Nat.lt_succ_of_lt (h.sub_lt p hp)
        · intro p hp
          rcases List.mem_cons.mp hp with rfl | hp
          · rfl
          · exact h.aud p hp
        · intro p hp
          rcases List.mem_cons.mp hp with rfl | hp
          · rfl
          · exact h.iss p hp
    all_goals exact absurd rfl hsign

theorem issued_run {α : Type} {q : AuthProg α} (hq : q.Uses fun s : Stmt => s.signsFor = none)
    (h : Issued env w) : Issued env (q.run (World.machine env) w).2 :=
  run_invariant (I := Issued env) hq
    (fun s w hs hw => issued_exec (fun sub hsub => by rw [hs] at hsub; cases hsub) hw) h

/-- The invariant while a request works for one account, whose id was given out. -/
def IssuedFor (env : Env) (a : Nat) (w : World) : Prop := Issued env w ∧ a < w.supply

theorem issuedFor_exec {a : Nat} {s : Stmt}
    (hs : ∀ sub, s.signsFor = some sub → sub = a) (h : IssuedFor env a w) :
    IssuedFor env a (World.exec env s w).2 := by
  refine ⟨issued_exec (fun sub hsub => ?_) h.1, Nat.lt_of_lt_of_le h.2 (World.exec_supply env s w)⟩
  rw [hs sub hsub]
  exact h.2

theorem issuedFor_run {α : Type} {a : Nat} {q : AuthProg α}
    (hq : q.Uses fun s : Stmt => ∀ sub, s.signsFor = some sub → sub = a) (h : IssuedFor env a w) :
    Issued env (q.run (World.machine env) w).2 :=
  (run_invariant (I := IssuedFor env a) hq (fun _ _ hs hw => issuedFor_exec hs hw) h).1

theorem byEmail_lt {email : String} {c : UserCredential} (h : Issued env w)
    (hc : w.byEmail env email = some c) : c.id < w.supply := h.id_lt c (Table.find?_mem hc).1

theorem issued_login (email password : String) (ipAddress userAgent : Option String)
    (h : Issued env w) : Issued env (serve env (.login email password ipAddress userAgent) w).2 := by
  have hlogs : ∀ {logs : List AuditLog}, Issued env { w with auditLogs := logs } :=
    ⟨h.id_lt, h.sub_lt, h.aud, h.iss⟩
  unfold serve handle
  rw [run_bind_ret]
  cases hc : w.byEmail env email with
  | none =>
    obtain ⟨logs, hrun⟩ := run_login_unknown password ipAddress userAgent hc
    rw [hrun]
    exact hlogs
  | some c =>
    cases hr : c.lockState.refusal w.now with
    | some e =>
      obtain ⟨logs, hrun⟩ := run_login_refused password ipAddress userAgent hc hr
      rw [hrun]
      exact hlogs
    | none =>
      rw [run_login_admitted hc hr]
      have hstart : IssuedFor env c.id (if c.lockState.expired w.now then
          (World.exec env (.unlockAccount c.id) w).2 else w) := by
        split
        · exact issuedFor_exec (fun sub hsub => by cases hsub) ⟨h, byEmail_lt h hc⟩
        · exact ⟨h, byEmail_lt h hc⟩
      refine issuedFor_run ((uses_loginVerify c email password ipAddress userAgent).mono
        fun s hs => ?_) hstart
      cases s
      case signAccessToken =>
        rintro sub heq
        cases heq
        exact hs
      all_goals
        rintro sub heq
        cases heq

theorem createCredential_id {email password : String} {c : UserCredential} {w' : World}
    (hrun : (CredentialService.createCredential email password).run (World.machine env) w =
      (.ok c, w')) : c.id < w'.supply := by
  unfold CredentialService.createCredential at hrun
  simp only [bind_eq] at hrun
  rw [run_bind] at hrun
  split at hrun
  · rename_i passwordHash w₁ hhash
    have hexec : World.exec env (.createCredential email passwordHash ["USER"]) w₁ = (.ok c, w') :=
      (run_perform _ _ _).symm.trans hrun
    simp only [World.exec] at hexec
    split at hexec
    · cases hexec
      exact Nat.lt_succ_self _
    · cases hexec
  · cases hrun

theorem issued_register (email password : String) (ipAddress userAgent : Option String)
    (h : Issued env w) : Issued env (serve env (.register email password ipAddress userAgent) w).2 := by
  unfold serve handle
  rw [run_bind_ret]
  unfold AuthService.register
  simp only [bind_eq]
  rw [run_findByEmail_bind]
  cases hc : w.byEmail env email with
  | some c => exact h
  | none =>
    simp only
    rw [run_bind]
    have hI : Issued env ((CredentialService.createCredential email password).run
        (World.machine env) w).2 :=
      issued_run (uses_perform_bind rfl fun _ => (uses_perform _).mpr rfl) h
    rcases hrun : (CredentialService.createCredential email password).run (World.machine env) w with
      ⟨r, w'⟩
    rw [hrun] at hI
    cases r with
    | error e => exact hI
    | ok c =>
      refine issuedFor_run ((uses_registerSession c ipAddress userAgent).mono fun s hs => ?_)
        ⟨hI, createCredential_id hrun⟩
      cases s
      case signAccessToken =>
        rintro sub heq
        cases heq
        exact hs
      all_goals
        rintro sub heq
        cases heq

theorem issued_refreshToken (raw : Nat) (h : Issued env w) :
    Issued env (serve env (.refreshToken raw) w).2 := by
  unfold serve handle AuthController.refreshToken
  rw [run_bind_ret, bind_eq, run_bind]
  have hI : Issued env ((TokenService.refreshTokens env raw none none).run (World.machine env) w).2 := by
    refine issued_run ((uses_refreshTokens raw none none).mono fun s hs => ?_) h
    cases s
    case signAccessToken =>
      rcases hs with hs | ⟨t, hs⟩
      · cases hs
      · cases hs
    all_goals rfl
  rcases hrun : (TokenService.refreshTokens env raw none none).run (World.machine env) w with ⟨r, w'⟩
  rw [hrun] at hI
  cases r with
  | error e => exact hI
  | ok result =>
    unfold AuthController.issueAccessToken
    simp only [bind_eq, pure_eq]
    rw [run_findById_bind]
    cases hc : w'.account result.userId with
    | none => exact hI
    | some c =>
      refine issuedFor_run (uses_perform_bind ?_ fun _ => trivial)
        ⟨hI, hI.id_lt c (Table.find?_mem hc).1⟩
      rintro sub heq
      cases heq
      rfl

theorem issued_serve (r : Request) (h : Issued env w) : Issued env (serve env r w).2 := by
  cases r
  case register email password ip ua => exact issued_register email password ip ua h
  case login email password ip ua => exact issued_login email password ip ua h
  case refreshToken raw => exact issued_refreshToken raw h
  all_goals
    refine issued_run ((uses_handle _).mono fun s hs => ?_) h
    cases s
    case signAccessToken => cases hs
    all_goals rfl

theorem issued_act (a : Action) (h : Issued env w) : Issued env (act env w a) := by
  cases a with
  | request r => exact issued_serve r h
  | pass n => exact ⟨h.id_lt, h.sub_lt, h.aud, h.iss⟩

theorem Reachable.issued (h : Reachable env w) : Issued env w := by
  refine h.invariant (fun roles supply now => ?_) fun _ a hw => issued_act a hw
  constructor <;> simp [World.initial]

/-! ## Inert tokens -/

/-- A token that no run will ever see accepted again. -/
def JwtPayload.Inert (w : World) (p : JwtPayload) : Prop :=
  p.exp ≤ World.seconds w.now ∨ w.account p.sub = none ∨
    p.exp ≤ World.seconds w.now + 1 ∧ ∃ e ∈ w.blacklist, e.jti = p.jti ∧ 1000 * p.exp ≤ e.evictedAt

/-- `Inert`, with an id that was given out, as the invariant of runs. -/
structure StaysInert (p : JwtPayload) (w : World) : Prop where
  sub_lt : p.sub < w.supply
  inert : p.Inert w

/-- A blacklist key is only ever written with at least a second to live. -/
def Stmt.blacklistsForLong : Stmt → Prop
  | .setBlacklist _ ttlSeconds => 0 < ttlSeconds
  | _ => True

theorem exec_blacklist {s : Stmt} (h : ∀ jti ttl, s ≠ .setBlacklist jti ttl) :
    (World.exec env s w).2.blacklist = w.blacklist := by
  cases s
  case setBlacklist => exact absurd rfl (h _ _)
  case hashPassword | signAccessToken | createCredential => simp only [World.exec]; split <;> rfl
  case createPasswordResetToken | createRefreshToken =>
    simp only [World.exec]
    split
    · split <;> rfl
    · rfl
  all_goals rfl

theorem staysInert_exec {s : Stmt} (hs : s.blacklistsForLong) (h : StaysInert p w) :
    StaysInert p (World.exec env s w).2 := by
  refine ⟨Nat.lt_of_lt_of_le h.sub_lt (World.exec_supply env s w), ?_⟩
  unfold JwtPayload.Inert
  rw [World.exec_now]
  rcases h.inert with hexp | hnone | ⟨hsoon, e, he, hjti, hlast⟩
  · exact .inl hexp
  · rcases World.account_none_exec env s hnone with hnone | ⟨_, _, _, -, hsupply, -⟩
    · exact .inr (.inl hnone)
    · exact absurd hsupply (Nat.ne_of_gt h.sub_lt)
  · refine .inr (.inr ⟨hsoon, ?_⟩)
    cases s
    case setBlacklist jti ttl =>
      by_cases hsame : e.jti = jti
      · -- the key is replaced, and the new one lives for at least the second that is left
        refine ⟨⟨jti, w.now + ttl * 1000⟩, List.mem_cons_self, hsame.symm.trans hjti, ?_⟩
        have httl : 0 < ttl := hs
        have hdiv : 1000 * World.seconds w.now ≤ w.now := Int.mul_ediv_self_le (by decide)
        simp only
        omega
      · refine ⟨e, List.mem_cons_of_mem _ (List.mem_filter.mpr ⟨he, ?_⟩), hjti, hlast⟩
        simpa using hsame
    all_goals
      refine ⟨e, ?_, hjti, hlast⟩
      rw [exec_blacklist (by simp)]
      exact he

/-- Only a logout writes the blacklist. -/
theorem not_setBlacklist {r : Request} (hr : ∀ token raw ip ua, r ≠ .logout token raw ip ua)
    {jti : Nat} {ttl : Int} : ¬ r.footprint (.setBlacklist jti ttl) := by
  intro hs
  cases r
  case logout => exact hr _ _ _ _ rfl
  case register | login =>
    obtain ⟨a, ha⟩ := hs
    cases ha
  case refreshToken => rcases hs with hs | ⟨t, hs⟩ <;> cases hs
  all_goals cases hs

theorem staysInert_act (env : Env) (a : Action) (h : StaysInert p w) : StaysInert p (act env w a) := by
  cases a with
  | request r =>
    refine serve_invariant (fun s w hs hw => staysInert_exec ?_ hw) h
    cases s
    case setBlacklist =>
      cases r
      case logout => exact hs
      all_goals exact absurd hs (not_setBlacklist (by simp))
    all_goals trivial
  | pass n =>
    refine ⟨h.sub_lt, ?_⟩
    have hle : World.seconds w.now ≤ World.seconds (w.now + n) :=
      Int.ediv_le_ediv (by decide) (by omega)
    rcases h.inert with hexp | hnone | ⟨hsoon, hkey⟩
    · exact .inl (Int.le_trans hexp hle)
    · exact .inr (.inl hnone)
    · exact .inr (.inr ⟨by simp only [act]; omega, hkey⟩)

theorem rejection_of_inert (env : Env) (h : p.Inert w) : ∃ reason, p.rejection env w = some reason := by
  unfold JwtPayload.rejection
  by_cases hexp : World.seconds w.now ≥ p.exp
  · exact ⟨_, if_pos hexp⟩
  rw [if_neg hexp]
  by_cases haud : p.aud ≠ env.audience
  · exact ⟨_, if_pos haud⟩
  rw [if_neg haud]
  by_cases hiss : p.iss ≠ env.issuer
  · exact ⟨_, if_pos hiss⟩
  rw [if_neg hiss]
  rcases h with hpast | hnone | ⟨-, e, he, hjti, hlast⟩
  · omega
  · by_cases hlist : w.isBlacklisted p.jti = true
    · exact ⟨_, if_pos hlist⟩
    · rw [if_neg hlist, World.lockState, hnone]
      exact ⟨_, rfl⟩
  · have hlist : w.isBlacklisted p.jti = true := by
      refine List.any_eq_true.mpr ⟨e, he, ?_⟩
      have hlt : w.now < 1000 * p.exp := by
        unfold World.seconds at hexp
        omega
      simp only [hjti, decide_true, Bool.true_and, decide_eq_true_eq]
      omega
    exact ⟨_, if_pos hlist⟩

/-- `validateToken` refuses the token `p` whenever it is asked. -/
def Rejects (env : Env) (p : JwtPayload) (w : World) (a : Action) : Prop :=
  a = .request (.validateToken (.signed p)) →
    ∃ reason, (serve env (.validateToken (.signed p)) w).1 =
      .ok (.validation ⟨false, none, some reason⟩)

theorem along_rejects (env : Env) {as : List Action} (h : StaysInert p w) :
    Along env (Rejects env p) w as := by
  induction as generalizing w with
  | nil => trivial
  | cons a as ih =>
    refine ⟨fun _ => ?_, ih (staysInert_act env a h)⟩
    obtain ⟨reason, hreason⟩ := rejection_of_inert env h.inert
    exact ⟨reason, by rw [serve_validateToken, hreason]; rfl⟩

/-! ## Tokens that come back -/

theorem rejection_eq_none (h : Issued env w) (hp : p ∈ w.signed) (hexp : World.seconds w.now < p.exp)
    (hlist : w.isBlacklisted p.jti = false) {l : LockState} (hl : w.lockState p.sub = some l)
    (hs : l.status = .active) : p.rejection env w = none := by
  unfold JwtPayload.rejection
  rw [if_neg (by omega), if_neg (by simpa using h.aud p hp), if_neg (by simpa using h.iss p hp),
    if_neg (by simp [hlist]), hl]
  simp [LockState.rejection, hs]

theorem mem_signed_exec {s : Stmt} (hp : p ∈ w.signed) : p ∈ (World.exec env s w).2.signed := by
  cases hs : s.signsFor with
  | none =>
    rw [exec_signed hs]
    exact hp
  | some sub =>
    cases s
    case signAccessToken =>
      simp only [World.exec]
      split
      · exact hp
      · exact List.mem_cons_of_mem _ hp
    all_goals cases hs

theorem mem_signed_act (a : Action) (hp : p ∈ w.signed) : p ∈ (act env w a).signed := by
  cases a with
  | request r =>
    exact serve_invariant (I := fun w => p ∈ w.signed) (fun s w _ hw => mem_signed_exec hw) hp
  | pass n => exact hp

theorem not_rejects (h : p.rejection env w = none) :
    ¬ Rejects env p w (.request (.validateToken (.signed p))) := by
  intro hrej
  obtain ⟨reason, hreason⟩ := hrej rfl
  rw [serve_validateToken, h] at hreason
  cases hreason

theorem now_serve (r : Request) : (serve env r w).2.now = w.now := run_now _ w

theorem blacklist_serve {r : Request} (hr : ∀ token raw ip ua, r ≠ .logout token raw ip ua) :
    (serve env r w).2.blacklist = w.blacklist := by
  refine serve_invariant (I := fun w' => w'.blacklist = w.blacklist) (fun s w' hs hw => ?_) rfl
  rw [exec_blacklist, hw]
  rintro jti ttl rfl
  exact not_setBlacklist hr hs

/-- The world after `revokeAccessToken`: the claims of the token are taken as they are. -/
def World.revoked (w : World) (token : Jwt) : World :=
  match extractJti token with
  | none => w
  | some jti =>
    if 0 < remainingTtl token w.now then w.setBlacklist jti (remainingTtl token w.now) else w

theorem run_revokeAccessToken (env : Env) (token : Jwt) (w : World) :
    (TokenService.revokeAccessToken token).run (World.machine env) w = (.ok (), w.revoked token) := by
  unfold TokenService.revokeAccessToken World.revoked
  cases hjti : extractJti token with
  | none => rfl
  | some jti =>
    simp only [bind_eq, pure_eq]
    rw [run_newDate_bind]
    by_cases hpos : 0 < remainingTtl token w.now
    · unfold BlacklistService.blacklistToken
      rw [if_pos hpos, if_pos hpos, if_neg (by omega)]
      rfl
    · rw [if_neg hpos, if_neg hpos]
      rfl

/-- A logout writes the blacklist first; nothing that follows touches it, or signs a token. -/
theorem serve_logout_keys (env : Env) (token : Jwt) (raw : Nat) (ipAddress userAgent : Option String)
    (w : World) :
    (serve env (.logout token raw ipAddress userAgent) w).2.blacklist = (w.revoked token).blacklist ∧
      (serve env (.logout token raw ipAddress userAgent) w).2.signed = (w.revoked token).signed := by
  unfold serve handle AuthService.logout
  rw [run_bind_ret]
  simp only [bind_eq]
  rw [run_bind_ok _ (run_revokeAccessToken env token w)]
  refine run_invariant (A := fun s : Stmt => s.signsFor = none ∧ ∀ jti ttl, s ≠ .setBlacklist jti ttl)
    (I := fun w' : World => w'.blacklist = (w.revoked token).blacklist ∧
      w'.signed = (w.revoked token).signed) ?_
    (fun s w' hs hw => ⟨(exec_blacklist hs.2).trans hw.1, (exec_signed hs.1).trans hw.2⟩) ⟨rfl, rfl⟩
  have hq : ∀ s : Stmt, s.tacit = true → s.signsFor = none ∧ ∀ jti ttl, s ≠ .setBlacklist jti ttl := by
    intro s hs
    cases s
    case setBlacklist | signAccessToken => cases hs
    all_goals exact ⟨rfl, by simp⟩
  refine uses_bind (uses_logoutSession (hq _ rfl) (hq _ rfl) (fun _ _ => ⟨rfl, by simp⟩)) fun userId => ?_
  exact uses_bind (uses_publishLogout (hq _ rfl) fun _ _ _ => ⟨rfl, by simp⟩) fun _ =>
    (uses_perform _).mpr ⟨rfl, by simp⟩

/-- A logout trusts the claims of a token that nobody signed. -/
theorem blacklist_logout (raw jti : Nat) {exp : Int} (hexp : exp - World.seconds w.now > 0) :
    (serve env (.logout (.unsigned ⟨none, some jti, some exp⟩) raw none none) w).2.blacklist =
      (w.setBlacklist jti (exp - World.seconds w.now)).blacklist := by
  have hleft : remainingTtl (.unsigned ⟨none, some jti, some exp⟩) w.now = exp - World.seconds w.now := by
    simp only [remainingTtl, decodeToken, Option.bind_some, if_pos hexp]
  rw [(serve_logout_keys env _ raw none none w).1]
  simp only [World.revoked, extractJti, decodeToken, Option.bind_some, hleft, if_pos hexp]

/-- The account is unlocked and in use, and nothing else that `validateToken` reads has changed. -/
theorem after_unlock (h : Issued env w) (hp : p ∈ w.signed) {l : LockState}
    (hl : w.lockState p.sub = some l) :
    ∃ w₁, act env w (.request (.unlockAccount p.sub none)) = w₁ ∧ Issued env w₁ ∧ p ∈ w₁.signed ∧
      w₁.lockState p.sub = some ⟨.active, 0, none⟩ ∧ w₁.blacklist = w.blacklist ∧ w₁.now = w.now :=
  ⟨_, rfl, issued_serve _ h, mem_signed_act (.request (.unlockAccount p.sub none)) hp,
    lockState_unlockAccount hl, blacklist_serve (by simp), now_serve _⟩

/-- An unexpired token whose blacklist key, if any, does not outlive it: it is valid again in the last
millisecond of its life, once an administrator has unlocked the account. -/
theorem comes_back_late (h : Issued env w) (hp : p ∈ w.signed) {l : LockState}
    (hl : w.lockState p.sub = some l) (hexp : World.seconds w.now < p.exp)
    (hkey : ∀ e ∈ w.blacklist, e.jti = p.jti → e.evictedAt < 1000 * p.exp) :
    ¬ Along env (Rejects env p) w [.request (.unlockAccount p.sub none),
      .pass (1000 * p.exp - 1 - w.now).toNat, .request (.validateToken (.signed p))] := by
  rintro ⟨-, -, hrej, -⟩
  refine not_rejects ?_ hrej
  obtain ⟨w₁, hw₁, h₁, hp₁, hl₁, hblack, hnow⟩ := after_unlock h hp hl
  have hms : 1000 * World.seconds w.now ≤ w.now ∧ w.now < 1000 * p.exp := by
    unfold World.seconds at hexp ⊢
    omega
  have hlast : (act env w₁ (.pass (1000 * p.exp - 1 - w.now).toNat)).now = 1000 * p.exp - 1 := by
    simp only [act]
    omega
  rw [hw₁]
  refine rejection_eq_none (issued_act _ h₁) (mem_signed_act _ hp₁) ?_ ?_ (l := ⟨.active, 0, none⟩) hl₁
    rfl
  · rw [hlast]
    unfold World.seconds
    omega
  · refine List.any_eq_false.mpr fun e he => ?_
    rw [hlast]
    by_cases hjti : e.jti = p.jti
    · have := hkey e (hblack ▸ he) hjti
      have hlate : ¬ 1000 * p.exp - 1 < e.evictedAt := by omega
      simp [hlate]
    · simp [hjti]

/-- A token with more than a second to live, blacklisted for all of it: a logout with a forged token of
the same `jti` cuts the blacklist key down to one second. -/
theorem comes_back_forged (h : Issued env w) (hp : p ∈ w.signed) {l : LockState}
    (hl : w.lockState p.sub = some l) (hexp : World.seconds w.now + 1 < p.exp) (raw : Nat) :
    ¬ Along env (Rejects env p) w [.request (.unlockAccount p.sub none),
      .request (.logout (.unsigned ⟨none, some p.jti, some (World.seconds w.now + 1)⟩) raw none none),
      .pass 1000, .request (.validateToken (.signed p))] := by
  rintro ⟨-, -, -, hrej, -⟩
  refine not_rejects ?_ hrej
  obtain ⟨w₁, hw₁, h₁, hp₁, hl₁, -, hnow⟩ := after_unlock h hp hl
  rw [hw₁]
  generalize hlogout : Request.logout (.unsigned ⟨none, some p.jti, some (World.seconds w.now + 1)⟩) raw
    none none = r
  have hl₂ : (act env w₁ (.request r)).lockState p.sub = some ⟨.active, 0, none⟩ := by
    subst hlogout
    exact lockState_serve_other rfl hl₁
  have hblack : (act env w₁ (.request r)).blacklist =
      (w₁.setBlacklist p.jti (World.seconds w.now + 1 - World.seconds w₁.now)).blacklist := by
    subst hlogout
    exact blacklist_logout raw p.jti (by rw [hnow]; omega)
  have hnow₂ : (act env w₁ (.request r)).now = w.now := (now_serve r).trans hnow
  refine rejection_eq_none (issued_act _ (issued_act _ h₁)) (mem_signed_act _ (mem_signed_act _ hp₁))
    ?_ ?_ (l := ⟨.active, 0, none⟩) hl₂ rfl
  · simp only [act] at hnow₂ ⊢
    rw [hnow₂]
    unfold World.seconds at hexp ⊢
    omega
  · refine List.any_eq_false.mpr fun e he => ?_
    have he' : e ∈ (act env w₁ (.request r)).blacklist := he
    rw [hblack] at he'
    have hclock : (act env (act env w₁ (.request r)) (.pass 1000)).now = w.now + 1000 := by
      simp only [act] at hnow₂ ⊢
      rw [hnow₂]
      rfl
    rw [hclock]
    rcases List.mem_cons.mp he' with rfl | he'
    · rw [hnow]
      simp only [decide_true, Bool.true_and, decide_eq_true_eq]
      omega
    · have hjti : e.jti ≠ p.jti := by simpa using (List.mem_filter.mp he').2
      simp [hjti]

/-! ## Requests that revoke in bulk -/

def Stmt.revokesAllOf (u : Nat) : Stmt → Bool
  | .revokeAllByUserId id _ _ => id = u
  | _ => false

/-- Serving the request calls `revokeAllUserTokens(u, ...)`. -/
def Request.revokesAllOf (env : Env) (u : Nat) (w : World) (r : Request) : Bool :=
  ((handle env r).trace (World.machine env) w).any (·.revokesAllOf u)

/-- Such requests leave the blacklist and the set of accounts alone. -/
theorem footprint_of_revokesAllOf {r : Request} {u : Nat} (h : r.revokesAllOf env u w = true) {s : Stmt}
    (hs : r.footprint s) : s.changesAccounts = false ∧ ∀ jti ttl, s ≠ .setBlacklist jti ttl := by
  obtain ⟨s₀, hs₀, hrev⟩ := List.any_eq_true.mp h
  have hbulk : ∃ id reason at', r.footprint (.revokeAllByUserId id reason at') := by
    have hfoot := (uses_handle r).trace (World.machine env) w s₀ hs₀
    cases s₀
    case revokeAllByUserId => exact ⟨_, _, _, hfoot⟩
    all_goals cases hrev
  obtain ⟨id, reason, at', hbulk⟩ := hbulk
  have hlogout : ∀ token raw ip ua, r ≠ .logout token raw ip ua := by
    rintro token raw ip ua rfl
    cases hbulk
  refine ⟨?_, fun jti ttl hset => not_setBlacklist hlogout (hset ▸ hs)⟩
  cases s
  case createCredential | deleteCredential =>
    cases r
    case register =>
      obtain ⟨a, ha⟩ := hbulk
      cases ha
    case login =>
      obtain ⟨a, ha⟩ := hs
      cases ha
    case refreshToken => rcases hs with hs | ⟨t, hs⟩ <;> cases hs
    case deleteCredentials => cases hbulk
    all_goals cases hs
  all_goals rfl

theorem inert_of_serve {r : Request} {u : Nat} (h : r.revokesAllOf env u w = true)
    (hp : p.Inert (serve env r w).2) : p.Inert w := by
  have hsame : (serve env r w).2.blacklist = w.blacklist ∧
      ((serve env r w).2.account p.sub = none → w.account p.sub = none) := by
    refine serve_invariant (I := fun w' : World => w'.blacklist = w.blacklist ∧
      (w'.account p.sub = none → w.account p.sub = none)) (fun s w' hs hw => ?_) ⟨rfl, id⟩
    obtain ⟨hch, hblack⟩ := footprint_of_revokesAllOf h hs
    refine ⟨(exec_blacklist hblack).trans hw.1, fun hnone => hw.2 ?_⟩
    rw [World.account_exec hch] at hnone
    exact Option.map_eq_none_iff.mp hnone
  unfold JwtPayload.Inert at hp ⊢
  rw [now_serve, hsame.1] at hp
  exact hp.imp_right fun hp => hp.imp_left hsame.2

/-- One token. -/
theorem rejected_forever_iff (hw : Reachable env w) (hp : p ∈ w.signed) :
    (∀ as, Along env (Rejects env p) w as) ↔ p.Inert w := by
  have hI := hw.issued
  constructor
  · intro hrej
    by_contra hinert
    obtain ⟨hexp, hrest⟩ := not_or.mp hinert
    obtain ⟨hacc, hkey⟩ := not_or.mp hrest
    obtain ⟨c, hc⟩ := Option.ne_none_iff_exists'.mp hacc
    have hl : w.lockState p.sub = some c.lockState := by
      rw [World.lockState, hc]
      rfl
    by_cases hlong : ∃ e ∈ w.blacklist, e.jti = p.jti ∧ 1000 * p.exp ≤ e.evictedAt
    · refine comes_back_forged hI hp hl ?_ 0 (hrej _)
      by_contra hlt
      exact hkey ⟨by omega, hlong⟩
    · refine comes_back_late hI hp hl (by omega) (fun e he hjti => ?_) (hrej _)
      by_contra hge
      exact hlong ⟨e, he, hjti, by omega⟩
  · intro hinert as
    exact along_rejects env ⟨hI.sub_lt p hp, hinert⟩

/-- After a bulk revocation of `u`, from any reachable state and whatever triggered it: every token
issued for `u` before it is rejected in every later run iff every one of them was inert already. -/
theorem revokeAllUserTokens_covers_iff (env : Env) (w : World) (hw : Reachable env w) (r : Request)
    (u : Nat) (hcall : r.revokesAllOf env u w = true) :
    (∀ p ∈ w.signed, p.sub = u → ∀ as, Along env (Rejects env p) (serve env r w).2 as) ↔
      ∀ p ∈ w.signed, p.sub = u → p.Inert w := by
  have hafter : Reachable env (serve env r w).2 := hw.after [.request r]
  constructor
  · intro hrej p hp hu
    refine inert_of_serve hcall ((rejected_forever_iff hafter ?_).mp (hrej p hp hu))
    exact mem_signed_act (.request r) hp
  · intro hinert p hp hu as
    have hstay := staysInert_act env (.request r) ⟨hw.issued.sub_lt p hp, hinert p hp hu⟩
    exact along_rejects env hstay

/-- The access token of the registration, which lives for a quarter of an hour. -/
def firstToken : JwtPayload := ⟨1, "a@x", ["USER"], .access, 2, 0, 900, "auth-service", "api-gateway"⟩

theorem revokeAllUserTokens_covers_expired :
    firstToken ∈ (runs Env.plain registered [.pass 900000]).signed ∧
      ∀ as, Along Env.plain (Rejects Env.plain firstToken)
        (serve Env.plain (.banUser 1 "fraud" none) (runs Env.plain registered [.pass 900000])).2 as := by
  have hsigned : (runs Env.plain registered [.pass 900000]).signed = [firstToken] := by decide +kernel
  have hcovers := (revokeAllUserTokens_covers_iff Env.plain _
    (registered_reachable.after [.pass 900000]) (.banUser 1 "fraud" none) 1 (by decide +kernel)).mpr
  rw [hsigned] at hcovers ⊢
  refine ⟨List.mem_cons_self, hcovers ?_ firstToken List.mem_cons_self rfl⟩
  intro p hp _
  obtain rfl := List.mem_singleton.mp hp
  exact .inl (by decide +kernel)

/-- The registered user loses the role USER, and the token minted with it is valid as before. -/
theorem revoked_role_still_validates :
    (Request.revokeRole 1 "USER" "admin").revokesAllOf Env.plain 1 registered = true ∧
    ¬ ∀ p ∈ registered.signed, p.sub = 1 → ∀ as, Along Env.plain (Rejects Env.plain p)
      (serve Env.plain (.revokeRole 1 "USER" "admin") registered).2 as := by
  refine ⟨by decide +kernel, fun h => ?_⟩
  obtain ⟨hrej, -⟩ := h firstToken (by decide +kernel) rfl [.request (.validateToken (.signed firstToken))]
  exact not_rejects (by decide +kernel) hrej

end Auth
