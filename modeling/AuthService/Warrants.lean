import AuthService.Registration
import AuthService.Resumption.History

/-!
# AuthService.Warrants

What a request has seen when it issues a statement that gives somebody access.

* `Identified`  — before it may act for a user: the account that it has just created, its own password
  verified against the hash in the user's row, or its own refresh token in an unrevoked row of the
  user.
* `Chooses`, `Requests`, `Redeems` — before it stores an account, a reset token, a new password.
* `Claims`, `Edits` — the row whose email and roles it signs, and whose roles it changes.
* `Request.Warrants` — all of these; `justified_handle` — every request keeps to them.
* `Activity.Serves` — the request of a thread; `warranted` — the rule for interleavings.
-/

namespace Auth

open Relational Resumption Prog

/-- What the exchanges of one request prove of user `u`: the account was created by the request, or
the request's password was verified against the hash in the account's row. -/
inductive ProvedIdentity (r : Request) (h : List (Exchange sig)) (u : Nat) : Prop where
  | created (email password : String) (ip ua : Option String) (passwordHash : String)
      (roles : List String) (c : UserCredential) (hr : r = .register email password ip ua)
      (hc : ⟨.createCredential email passwordHash roles, .ok c⟩ ∈ h) (hu : c.id = u)
  | verified (email password : String) (ip ua : Option String) (c : UserCredential)
      (hr : r = .login email password ip ua)
      (hc : ⟨.findCredentialByEmail email, .ok (some c)⟩ ∈ h)
      (hv : ⟨.verifyPassword c.passwordHash password, .ok true⟩ ∈ h) (hu : c.id = u)

/-- The request's refresh token is in the unrevoked row `t` of user `u`. -/
def Presented (r : Request) (h : List (Exchange sig)) (t : RefreshToken) (u : Nat) : Prop :=
  ∃ raw, r = .refreshToken raw ∧ ⟨.findRefreshTokenByHash (hashToken raw), .ok (some t)⟩ ∈ h ∧
    t.revoked = false ∧ t.userId = u

inductive Identified (r : Request) (h : List (Exchange sig)) (u : Nat) : Prop where
  | proved (hp : ProvedIdentity r h u)
  | presented (t : RefreshToken) (hp : Presented r h t u)
  /-- The account of a session's user, looked up for its claims. -/
  | account (t : RefreshToken) (v : Nat) (c : UserCredential) (hp : Presented r h t v)
      (hc : ⟨.findCredentialById v, .ok (some c)⟩ ∈ h) (hu : c.id = u)

/-- The request redeems a reset token of user `u`, and has computed the hash of its new password. -/
def Redeems (r : Request) (h : List (Exchange sig)) (u : Nat) (passwordHash : String) : Prop :=
  ∃ raw newPassword ip t, r = .resetPassword raw newPassword ip ∧
    ⟨.findResetTokenByHash (hashToken raw), .ok (some t)⟩ ∈ h ∧ t.used = false ∧ t.userId = u ∧
    ⟨.hashPassword newPassword, .ok passwordHash⟩ ∈ h

/-- The request asks for a reset token of the account with its email, and has drawn the raw token. -/
def Requests (r : Request) (h : List (Exchange sig)) (u : Nat) (tokenHash : TokenHash) : Prop :=
  ∃ email ip c raw, r = .forgotPassword email ip ∧
    ⟨.findCredentialByEmail email, .ok (some c)⟩ ∈ h ∧ c.id = u ∧
    ⟨.uuidv4, .ok raw⟩ ∈ h ∧ tokenHash = hashToken raw

/-- The request registers an account with its own email and the hash of its own password. -/
def Chooses (r : Request) (h : List (Exchange sig)) (email passwordHash : String) : Prop :=
  ∃ password ip ua, r = .register email password ip ua ∧
    ⟨.hashPassword password, .ok passwordHash⟩ ∈ h

/-- The request has read the row `c`, or inserted it. -/
inductive Knows (h : List (Exchange sig)) (c : UserCredential) : Prop where
  | created (email passwordHash : String) (roles : List String)
      (hc : ⟨.createCredential email passwordHash roles, .ok c⟩ ∈ h)
  | byEmail (email : String) (hc : ⟨.findCredentialByEmail email, .ok (some c)⟩ ∈ h)
  | byId (id : Nat) (hc : ⟨.findCredentialById id, .ok (some c)⟩ ∈ h)

/-- The claims of a token are those of a row. -/
def Claims (h : List (Exchange sig)) (sub : Nat) (email : String) (roles : List String) : Prop :=
  ∃ c, Knows h c ∧ c.id = sub ∧ c.email = email ∧ c.roles = roles

/-- The request adds a role to the row that it has read, or takes one away. -/
def Edits (r : Request) (h : List (Exchange sig)) (u : Nat) (roles : List String) : Prop :=
  ∃ c, ⟨.findCredentialById u, .ok (some c)⟩ ∈ h ∧
    ((∃ role assignedBy entity, r = .assignRole u role assignedBy ∧
        ⟨.findRoleByName role, .ok (some entity)⟩ ∈ h ∧ role ∉ c.roles ∧ roles = c.roles ++ [role]) ∨
      ∃ role revokedBy, r = .revokeRole u role revokedBy ∧ roles = c.roles.filter (· ≠ role))

def Request.Warrants (r : Request) (h : List (Exchange sig)) : Stmt → Prop
  | .createCredential email passwordHash roles => Chooses r h email passwordHash ∧ roles = ["USER"]
  | .updateRoles u roles => Edits r h u roles
  | .signAccessToken sub email roles _ => Identified r h sub ∧ Claims h sub email roles
  | .createRefreshToken data => Identified r h data.userId
  | .updatePassword u passwordHash _ => Redeems r h u passwordHash
  | .createPasswordResetToken u tokenHash _ => Requests r h u tokenHash
  | _ => True

variable {env : Env} {r : Request} {h h' : List (Exchange sig)} {u : Nat}

/-! ## More history justifies no less -/

theorem ProvedIdentity.mono (hsub : h ⊆ h') (hp : ProvedIdentity r h u) : ProvedIdentity r h' u := by
  cases hp with
  | created email password ip ua passwordHash roles c hr hc hu =>
    exact .created email password ip ua passwordHash roles c hr (hsub hc) hu
  | verified email password ip ua c hr hc hv hu =>
    exact .verified email password ip ua c hr (hsub hc) (hsub hv) hu

theorem Presented.mono {t : RefreshToken} (hsub : h ⊆ h') (hp : Presented r h t u) :
    Presented r h' t u := by
  obtain ⟨raw, hr, ht, hrev, hu⟩ := hp
  exact ⟨raw, hr, hsub ht, hrev, hu⟩

theorem Identified.mono (hsub : h ⊆ h') (hi : Identified r h u) : Identified r h' u := by
  cases hi with
  | proved hp => exact .proved (hp.mono hsub)
  | presented t hp => exact .presented t (hp.mono hsub)
  | account t v c hp hc hu => exact .account t v c (hp.mono hsub) (hsub hc) hu

theorem Knows.mono {c : UserCredential} (hsub : h ⊆ h') (hc : Knows h c) : Knows h' c := by
  cases hc with
  | created email passwordHash roles hc => exact .created email passwordHash roles (hsub hc)
  | byEmail email hc => exact .byEmail email (hsub hc)
  | byId id hc => exact .byId id (hsub hc)

theorem warrants_mono {s : Stmt} (hsub : h ⊆ h') (hs : r.Warrants h s) : r.Warrants h' s := by
  cases s
  case createRefreshToken => exact Identified.mono hsub hs
  case signAccessToken =>
    obtain ⟨hi, c, hc, hclaims⟩ := hs
    exact ⟨hi.mono hsub, c, hc.mono hsub, hclaims⟩
  case createCredential =>
    obtain ⟨⟨password, ip, ua, hr, hhash⟩, hroles⟩ := hs
    exact ⟨⟨password, ip, ua, hr, hsub hhash⟩, hroles⟩
  case updateRoles =>
    obtain ⟨c, hc, ⟨role, assignedBy, entity, hr, hrole, hnew⟩ | hrevoke⟩ := hs
    · exact ⟨c, hsub hc, .inl ⟨role, assignedBy, entity, hr, hsub hrole, hnew⟩⟩
    · exact ⟨c, hsub hc, .inr hrevoke⟩
  case updatePassword =>
    obtain ⟨raw, newPassword, ip, t, hr, ht, hused, hu, hhash⟩ := hs
    exact ⟨raw, newPassword, ip, t, hr, hsub ht, hused, hu, hsub hhash⟩
  case createPasswordResetToken =>
    obtain ⟨email, ip, c, raw, hr, hc, hu, hraw, hhash⟩ := hs
    exact ⟨email, ip, c, raw, hr, hsub hc, hu, hsub hraw, hhash⟩
  all_goals trivial

/-! ## Every request keeps the discipline -/

/-- Statements that need no justification. -/
def Stmt.free : Stmt → Bool
  | .createCredential _ _ _ => false
  | .updateRoles _ _ => false
  | .signAccessToken _ _ _ _ => false
  | .createRefreshToken _ => false
  | .updatePassword _ _ _ => false
  | .createPasswordResetToken _ _ _ => false
  | _ => true

theorem warrants_of_free {s : Stmt} (hs : s.free = true) : r.Warrants h s := by
  cases s <;> trivial

theorem free_of_quiet {s : Stmt} (hs : s.quiet = true) : s.free = true := by
  cases s <;> first | rfl | cases hs

theorem justified_of_free_uses {α : Type} {p : AuthProg α} (hp : p.Uses fun s : Stmt => s.free = true) :
    p.Justified r.Warrants h :=
  justified_of_uses hp fun _ _ _ hs => warrants_of_free hs

/-- A token pair is issued for the row `c`; no other statement needs a warrant. -/
def Stmt.Issues (c : UserCredential) : Stmt → Prop
  | .signAccessToken sub email roles _ => sub = c.id ∧ email = c.email ∧ roles = c.roles
  | .createRefreshToken data => data.userId = c.id
  | s => s.free = true

theorem issues_of_quiet {c : UserCredential} {s : Stmt} (hs : s.quiet = true) : s.Issues c := by
  cases s <;> first | rfl | cases hs

theorem warrants_of_issues {c : UserCredential} {s : Stmt} (hi : Identified r h c.id)
    (hc : Knows h c) (hs : s.Issues c) : r.Warrants h s := by
  cases s
  case signAccessToken =>
    obtain ⟨rfl, rfl, rfl⟩ := hs
    exact ⟨hi, c, hc, rfl, rfl, rfl⟩
  case createRefreshToken data =>
    show Identified r h data.userId
    rw [show data.userId = c.id from hs]
    exact hi
  all_goals exact warrants_of_free hs

theorem issues_registerSession (c : UserCredential) (ip ua : Option String) :
    (AuthService.registerSession env c ip ua).Uses (Stmt.Issues c) := by
  have hq : ∀ s : Stmt, s.quiet = true → s.Issues c := fun s => issues_of_quiet
  unfold AuthService.registerSession
  apply uses_perform_bind ⟨rfl, rfl, rfl⟩
  intro accessToken
  apply uses_bind (uses_generateRefreshToken hq fun data hd => hd)
  intro pair
  apply uses_bind (uses_enforceMaxSessions hq fun id at' => rfl)
  intro _
  apply uses_bind (uses_publish (hq _ rfl) fun _ => hq _ rfl)
  intro _
  exact uses_perform_bind (hq _ rfl) fun _ => trivial

theorem issues_loginSucceeded (c : UserCredential) (email : String) (ip ua : Option String) :
    (AuthService.loginSucceeded env c email ip ua).Uses (Stmt.Issues c) :=
  uses_loginSucceeded_of_blind c email ip ua (fun _ hs => issues_of_quiet (quiet_of_blind hs)) rfl
    (fun _ _ => rfl) ⟨rfl, rfl, rfl⟩ (fun _ hd => hd) fun _ _ => rfl

theorem justified_register (email password : String) (ip ua : Option String) :
    (AuthService.register env email password ip ua).Justified
      (Request.Warrants (.register email password ip ua)) h := by
  unfold AuthService.register CredentialService.createCredential
  apply justified_perform_bind trivial
  intro existing
  cases existing with
  | some c => trivial
  | none =>
    simp only [bind_eq, bind_assoc]
    apply justified_perform_bind trivial
    intro passwordHash
    apply justified_perform_bind ⟨⟨password, ip, ua, rfl, List.mem_cons_self⟩, rfl⟩
    intro c
    apply justified_of_uses (issues_registerSession c ip ua)
    intro h' hsub s hs
    have hc : ⟨.createCredential email passwordHash ["USER"], .ok c⟩ ∈ h' := hsub List.mem_cons_self
    exact warrants_of_issues (.proved (.created email password ip ua _ _ c rfl hc rfl))
      (.created _ _ _ hc) hs

/-- The rest of a login, when the row that it has found is in its history. -/
theorem justified_loginVerify {email password : String} {ip ua : Option String} {c : UserCredential}
    (hc : ⟨.findCredentialByEmail email, .ok (some c)⟩ ∈ h) :
    (AuthService.loginVerify env c email password ip ua).Justified
      (Request.Warrants (.login email password ip ua)) h := by
  unfold AuthService.loginVerify
  apply justified_perform_bind trivial
  intro valid
  cases valid with
  | false =>
    refine justified_of_free_uses ?_
    exact uses_loginFailed c email ip ua (fun _ => free_of_quiet) rfl (fun _ => rfl) fun _ => rfl
  | true =>
    apply justified_of_uses (issues_loginSucceeded c email ip ua)
    intro h' hsub s hs
    have hc' : ⟨.findCredentialByEmail email, .ok (some c)⟩ ∈ h' := hsub (List.mem_cons_of_mem _ hc)
    have hv : ⟨.verifyPassword c.passwordHash password, .ok true⟩ ∈ h' := hsub List.mem_cons_self
    exact warrants_of_issues (.proved (.verified email password ip ua c rfl hc' hv rfl))
      (.byEmail email hc') hs

theorem justified_login (email password : String) (ip ua : Option String) :
    (AuthService.login env email password ip ua).Justified
      (Request.Warrants (.login email password ip ua)) h := by
  have hrefused : ∀ h' entry e, ((AuditLogRepository.create entry).bind fun _ =>
      (.throw e : AuthProg AuthResponse)).Justified
        (Request.Warrants (.login email password ip ua)) h' :=
    fun h' entry e => justified_perform_bind trivial fun _ => trivial
  unfold AuthService.login
  refine justified_perform_bind trivial fun credential? => ?_
  cases credential? with
  | none => exact hrefused _ _ _
  | some c =>
    cases hs : c.status with
    | active =>
      simp only [hs]
      exact justified_loginVerify List.mem_cons_self
    | banned =>
      simp only [hs]
      exact hrefused _ _ _
    | deleted =>
      simp only [hs]
      exact justified_throw _
    | locked =>
      cases hl : c.lockedUntil with
      | none =>
        simp only [hs, hl]
        exact hrefused _ _ _
      | some lockedUntil =>
        simp only [hs, hl]
        apply justified_perform_bind trivial
        intro now
        split
        · apply justified_perform_bind trivial
          intro _
          refine justified_loginVerify ?_
          exact List.mem_cons_of_mem _ (List.mem_cons_of_mem _ List.mem_cons_self)
        · exact hrefused _ _ _

theorem warrants_rotate {r : Request} {t : RefreshToken} (hi : Identified r h t.userId) {s : Stmt}
    (hs : rotateFootprint t s) : r.Warrants h s := by
  cases s
  case createRefreshToken data =>
    show Identified r h data.userId
    rw [show data.userId = t.userId from hs]
    exact hi
  case createCredential | signAccessToken | updatePassword | updateRoles | createPasswordResetToken =>
    cases hs
  all_goals trivial

theorem justified_refreshToken (raw : Nat) :
    (AuthController.refreshToken env raw).Justified
      (Request.Warrants (.refreshToken raw)) h := by
  unfold AuthController.refreshToken TokenService.refreshTokens
  simp only [bind_eq, bind_assoc]
  refine justified_perform_bind trivial fun existing? => ?_
  cases existing? with
  | none => trivial
  | some t =>
    simp only
    cases hrev : t.revoked with
    | true =>
      simp only [if_true]
      refine justified_of_free_uses ?_
      rw [Prog.bind_assoc]
      exact uses_bind (uses_revokeAllUserTokens rfl fun _ => rfl) fun _ => trivial
    | false =>
      simp only [Bool.false_eq_true, if_false, bind_assoc]
      apply justified_perform_bind trivial
      intro now
      split
      · trivial
      · -- the row stays in the history while it is rotated, and its user's claims are read
        refine justified_uses_bind (uses_rotate t none none) (yields_rotate env t none none)
          (fun h' hsub s hs => ?_) fun h' hsub result hresult => ?_
        · refine warrants_rotate (.presented t ⟨raw, rfl, ?_, hrev, rfl⟩) hs
          exact hsub (List.mem_cons_of_mem _ List.mem_cons_self)
        · unfold AuthController.issueAccessToken
          rw [hresult]
          refine justified_perform_bind trivial fun credential? => ?_
          cases credential? with
          | none => trivial
          | some c =>
            refine justified_perform_bind ?_ fun _ => trivial
            refine ⟨.account t t.userId c ⟨raw, rfl, ?_, hrev, rfl⟩ List.mem_cons_self rfl, c,
              .byId _ List.mem_cons_self, rfl, rfl, rfl⟩
            exact List.mem_cons_of_mem _ (hsub (List.mem_cons_of_mem _ List.mem_cons_self))

theorem justified_forgotPassword (email : String) (ip : Option String) :
    (AuthService.forgotPassword env email ip).Justified
      (Request.Warrants (.forgotPassword email ip)) h := by
  unfold AuthService.forgotPassword
  refine justified_perform_bind trivial fun user? => ?_
  cases user? with
  | none => trivial
  | some user =>
    apply justified_perform_bind trivial
    intro raw
    apply justified_perform_bind trivial
    intro now
    apply justified_perform_bind trivial
    intro _
    refine justified_perform_bind ?_ fun _ => justified_of_free_uses ?_
    · refine ⟨email, ip, user, raw, rfl, ?_, rfl, ?_, rfl⟩ <;> simp
    · exact uses_bind (uses_publish rfl fun _ => rfl) fun _ => (uses_perform _).mpr rfl

theorem justified_resetPassword (raw : Nat) (newPassword : String) (ip : Option String) :
    (AuthService.resetPassword raw newPassword ip).Justified
      (Request.Warrants (.resetPassword raw newPassword ip)) h := by
  unfold AuthService.resetPassword
  refine justified_perform_bind trivial fun resetToken? => ?_
  cases resetToken? with
  | none => trivial
  | some t =>
    simp only
    cases hused : t.used with
    | true =>
      simp only [if_true]
      exact justified_throw _
    | false =>
      simp only [Bool.false_eq_true, if_false]
      apply justified_perform_bind trivial
      intro now
      split
      · trivial
      · unfold AuthService.redeem CredentialService.updatePassword
        simp only [bind_eq, bind_assoc]
        apply justified_perform_bind trivial
        intro passwordHash
        unfold UserCredentialRepository.updatePassword
        simp only [bind_eq, bind_assoc]
        apply justified_perform_bind trivial
        intro changedAt
        refine justified_perform_bind ?_ fun _ => justified_of_free_uses ?_
        · refine ⟨raw, newPassword, ip, t, rfl, ?_, hused, rfl, ?_⟩ <;> simp
        · refine uses_bind (uses_perform_bind rfl fun _ => (uses_perform _).mpr rfl) fun _ => ?_
          refine uses_perform_bind rfl fun _ => ?_
          refine uses_bind (uses_revokeAllUserTokens rfl fun _ => rfl) fun _ => ?_
          exact uses_bind (uses_publish rfl fun _ => rfl) fun _ => (uses_perform _).mpr rfl

theorem justified_assignRole (u : Nat) (role assignedBy : String) :
    (RoleService.assignRole u role assignedBy).Justified
      (Request.Warrants (.assignRole u role assignedBy)) h := by
  unfold RoleService.assignRole
  refine justified_perform_bind trivial fun user? => ?_
  cases user? with
  | none => trivial
  | some user =>
    refine justified_perform_bind trivial fun entity? => ?_
    cases entity? with
    | none => trivial
    | some entity =>
      simp only
      split
      · exact justified_ret _
      · rename_i hrole
        refine justified_perform_bind ?_ fun _ => justified_of_free_uses ?_
        · have hnew : role ∉ user.roles := by simpa using hrole
          refine ⟨user, ?_, .inl ⟨role, assignedBy, entity, rfl, ?_, hnew, rfl⟩⟩ <;> simp
        · exact uses_bind (uses_revokeAllUserTokens rfl fun _ => rfl) fun _ =>
            uses_publish rfl fun _ => rfl

theorem justified_revokeRole (u : Nat) (role revokedBy : String) :
    (RoleService.revokeRole u role revokedBy).Justified
      (Request.Warrants (.revokeRole u role revokedBy)) h := by
  unfold RoleService.revokeRole
  refine justified_perform_bind trivial fun user? => ?_
  cases user? with
  | none => trivial
  | some user =>
    simp only
    split
    · refine justified_perform_bind ?_ fun _ => justified_of_free_uses ?_
      · exact ⟨user, List.mem_cons_self, .inr ⟨role, revokedBy, rfl, rfl⟩⟩
      · exact uses_bind (uses_revokeAllUserTokens rfl fun _ => rfl) fun _ =>
          uses_publish rfl fun _ => rfl
    · exact justified_ret _

theorem justified_handle (env : Env) (r : Request) :
    (handle env r).Justified r.Warrants [] := by
  cases r
  case register email password ip ua => exact justified_map (justified_register email password ip ua) _
  case login email password ip ua => exact justified_map (justified_login email password ip ua) _
  case refreshToken raw => exact justified_map (justified_refreshToken raw) _
  case forgotPassword email ip => exact justified_map (justified_forgotPassword email ip) _
  case resetPassword raw newPassword ip =>
    exact justified_map (justified_resetPassword raw newPassword ip) _
  case assignRole u role assignedBy => exact justified_map (justified_assignRole u role assignedBy) _
  case revokeRole u role revokedBy => exact justified_map (justified_revokeRole u role revokedBy) _
  all_goals
    refine justified_of_uses (uses_handle _) fun h' _ s hs => warrants_of_free ?_
    cases s <;> first | rfl | cases hs

/-! ## Interleavings -/

/-- The thread runs the request `r`. -/
def Activity.Serves (env : Env) : Activity → Request → Prop
  | .http x, r => r = x.request env
  | .job j, r => r = j.request
  | .pass _, _ => False

theorem justified_program (env : Env) (a : Activity) :
    (a.program env).Justified
      (fun h s => ∃ r, a.Serves env r ∧ r.Warrants (h.map Exchange.unrefused) s.1) [] := by
  have hmono : ∀ {r : Request} {refuse : Stmt → Option Exn}, a.Serves env r →
      ((handle env r).submit refuse).Justified
        (fun h s => ∃ r, a.Serves env r ∧ r.Warrants (h.map Exchange.unrefused) s.1) [] := by
    intro r refuse hr
    exact (justified_submit (justified_handle env r)).mono fun h s hs => ⟨r, hr, hs⟩
  cases a with
  | http x => exact hmono rfl
  | job j => exact hmono rfl
  | pass n => trivial

/-- A login with an email and a password, and nothing else about the caller. -/
def signIn (email password : String) : Activity :=
  .http ⟨⟨none, none, none, none, .token .malformed⟩, none, .login email password⟩

section Run

variable {ι : Type} [DecidableEq ι] {acts : ι → Activity} {w : World}
  {C : Pool sig.refusable World ι (fun _ => Response) → Label ι → Prop}
  {q : Pool sig.refusable World ι fun _ => Response} {i : ι} {s : sig.refusable.Stmt}
  {k : Except Exn (sig.refusable.Reply s) → Prog sig.refusable Response}

/-- What a thread issues next is warranted by its request and what it has seen. -/
theorem warranted (hr : Reach (World.machine env).refusable C (answering env acts w) q)
    (hp : q.prog i = .call s k) : ∃ r, (acts i).Serves env r ∧ r.Warrants (q.seen i) s.1 :=
  hr.justified_seen (J := fun i h s => ∃ r, (acts i).Serves env r ∧ r.Warrants h s) rfl
    (fun i => justified_program env (acts i)) hp

/-- So was every statement that it has issued. -/
theorem warranted_log (hr : Reach (World.machine env).refusable C (answering env acts w) q) (i : ι) :
    ∀ x ∈ q.seen i, ∃ r, (acts i).Serves env r ∧ r.Warrants (q.seen i) x.stmt :=
  hr.justified_seen_log (J := fun i h s => ∃ r, (acts i).Serves env r ∧ r.Warrants h s) rfl
    (fun i => justified_program env (acts i))
    (fun _ _ _ _ hsub ⟨r, hserves, hs⟩ => ⟨r, hserves, warrants_mono hsub hs⟩) i

end Run

end Auth
