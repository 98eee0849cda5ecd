import AuthService.Lockout
import AuthService.PasswordReset

/-!
# AuthService.Authentication

When a login succeeds, over runs of whole requests.

* `HashLibraries` — what is assumed of argon2 and bcrypt; `verifyPassword_iff` — what follows for
  `verifyPassword`.
* `passwordSet`, `lastPasswords` — the history: which password was last set for each account.
* `PasswordsKnown` — every stored hash is one of the account's last password.
* `login_exact` — a login succeeds exactly for an admitted account and its last password, and what it
  leaves behind.
-/

namespace Auth

open Relational Resumption Prog

variable {env : Env} {w : World}

/-! ## The hash libraries -/

/-- Each library verifies exactly the password that it hashed, and marks its hashes as its own. -/
structure HashLibraries (env : Env) : Prop where
  argon2_prefix : ∀ password salt hash, env.argon2Hash password salt = some hash →
    Env.startsWith hash "$argon2" = true
  argon2_verify : ∀ password salt hash, env.argon2Hash password salt = some hash →
    ∀ given, env.argon2Verify hash given = true ↔ given = password
  bcrypt_prefix : ∀ password salt hash, env.bcryptHash password salt = some hash →
    Env.startsWith hash "$2b" = true ∨ Env.startsWith hash "$2a" = true
  bcrypt_compare : ∀ password salt hash, env.bcryptHash password salt = some hash →
    ∀ given, env.bcryptCompare given hash = true ↔ given = password

theorem startsWith_iff (s pre : String) : Env.startsWith s pre = true ↔ pre.toList <+: s.toList := by
  unfold Env.startsWith
  exact List.isPrefixOf_iff_prefix

/-- The two libraries' hashes are told apart by their second character. -/
theorem not_argon2_of_bcrypt {hash : String}
    (h : Env.startsWith hash "$2b" = true ∨ Env.startsWith hash "$2a" = true) :
    Env.startsWith hash "$argon2" = false := by
  rw [Bool.eq_false_iff]
  intro hargon
  rw [startsWith_iff] at hargon
  have hsecond : ∀ {pre : String} {c : Char}, pre.toList <+: hash.toList → pre.toList[1]? = some c →
      hash.toList[1]? = some c := by
    rintro pre c ⟨rest, hrest⟩ hc
    rw [← hrest]
    exact List.getElem?_append_left (List.getElem?_eq_some_iff.mp hc).1 |>.trans hc
  have ha : hash.toList[1]? = some 'a' := hsecond hargon (by decide)
  have h2 : hash.toList[1]? = some '2' := by
    rcases h with h | h
    · exact hsecond ((startsWith_iff _ _).mp h) (by decide)
    · exact hsecond ((startsWith_iff _ _).mp h) (by decide)
  rw [ha] at h2
  cases h2

/-- A stored hash verifies exactly the password it was made from, by either algorithm. -/
theorem verifyPassword_iff (hlib : HashLibraries env) {password hash : String} {salt : Nat}
    (hhash : env.hashPassword password salt = some hash) (given : String) :
    env.verifyPassword hash given = true ↔ given = password := by
  unfold Env.hashPassword at hhash
  unfold Env.verifyPassword
  cases hargon : env.argon2Hash password salt with
  | some hash' =>
    rw [hargon] at hhash
    cases hhash
    rw [if_pos (hlib.argon2_prefix _ _ _ hargon)]
    exact hlib.argon2_verify _ _ _ hargon given
  | none =>
    rw [hargon] at hhash
    have hpre := hlib.bcrypt_prefix _ _ _ hhash
    rw [not_argon2_of_bcrypt hpre, if_neg (by simp), if_pos (by simpa using hpre)]
    exact hlib.bcrypt_compare _ _ _ hhash given

/-! ## The history of passwords -/

/-- The account and the password of a registration or a reset that succeeds. A reset is for the user
that the row of its token names. -/
def passwordSet (env : Env) (w : World) (a : Action) : Option (Nat × String) :=
  match a with
  | .request (.register email password ipAddress userAgent) =>
    match (serve env (.register email password ipAddress userAgent) w).1 with
    | .ok (.auth response) => some (response.userId, password)
    | _ => none
  | .request (.resetPassword raw newPassword ipAddress) =>
    match (serve env (.resetPassword raw newPassword ipAddress) w).1, w.presentedReset raw with
    | .ok _, some t => some (t.userId, newPassword)
    | _, _ => none
  | _ => none

def trackPasswords (env : Env) (w : World) (a : Action) (h : Nat → Option String) :
    Nat → Option String :=
  match passwordSet env w a with
  | some (u, password) => Function.update h u (some password)
  | none => h

/-- The password last set for each account. -/
def lastPasswords (env : Env) (w : World) (as : List Action) : Nat → Option String :=
  record env (trackPasswords env) w (fun _ => none) as

/-- Every stored hash is a hash of the account's last password. -/
def PasswordsKnown (env : Env) (w : World) (h : Nat → Option String) : Prop :=
  ∀ c ∈ w.credentials.rows, ∃ password salt,
    h c.id = some password ∧ env.hashPassword password salt = some c.passwordHash

/-- Statements that store a hash. -/
def Stmt.storesHash : Stmt → Bool
  | .createCredential _ _ _ => true
  | .updatePassword _ _ _ => true
  | _ => false

theorem onCredential_passwordHash {s : Stmt} (hs : s.storesHash = false) (c : UserCredential) :
    (s.onCredential c).passwordHash = c.passwordHash := by
  cases s
  case createCredential | updatePassword => cases hs
  all_goals simp only [Stmt.onCredential, Stmt.credentialUpdate]
  all_goals split <;> rfl

variable {h : Nat → Option String}

theorem passwordsKnown_exec {s : Stmt} (hs : s.storesHash = false) (hK : PasswordsKnown env w h) :
    PasswordsKnown env (World.exec env s w).2 h := by
  intro c hc
  by_cases hch : s.changesAccounts = true
  · cases s
    case createCredential => cases hs
    case deleteCredential id => exact hK c (Table.mem_deleteWhere.mp hc).1
    all_goals cases hch
  · rw [World.exec_credentialRows (by simpa using hch)] at hc
    obtain ⟨c₀, hc₀, rfl⟩ := List.mem_map.mp hc
    rw [Stmt.onCredential_id, onCredential_passwordHash hs]
    exact hK c₀ hc₀

/-- The other requests store no hash. -/
theorem not_storesHash {r : Request} (hreg : ∀ email password ip ua, r ≠ .register email password ip ua)
    (hreset : ∀ raw password ip, r ≠ .resetPassword raw password ip) {s : Stmt} (hs : r.footprint s) :
    s.storesHash = false := by
  cases s
  case createCredential =>
    cases r
    case register => exact absurd rfl (hreg _ _ _ _)
    case login =>
      obtain ⟨a, ha⟩ := hs
      cases ha
    case refreshToken => rcases hs with hs | ⟨t, hs⟩ <;> cases hs
    all_goals cases hs
  case updatePassword =>
    cases r
    case resetPassword => exact absurd rfl (hreset _ _ _)
    case register | login =>
      obtain ⟨a, ha⟩ := hs
      cases ha
    case refreshToken => rcases hs with hs | ⟨t, hs⟩ <;> cases hs
    all_goals cases hs
  all_goals rfl

/-! ### A registration -/

section Register

variable {email password : String} {ipAddress userAgent : Option String}

theorem yields_registerSession (c : UserCredential) :
    (AuthService.registerSession env c ipAddress userAgent).Yields fun a => a.userId = c.id :=
  yields_bind fun _ => yields_bind fun _ => yields_bind fun _ => yields_bind fun _ =>
    yields_bind fun _ => rfl

theorem registerSession_credentials (env : Env) (w : World) (c : UserCredential)
    (ipAddress userAgent : Option String) :
    ((AuthService.registerSession env c ipAddress userAgent).run (World.machine env) w).2.credentials =
      w.credentials := by
  refine run_invariant (I := fun w' : World => w'.credentials = w.credentials)
    (A := fun s : Stmt => s.writesCredentials = false) ?_ (fun s w' hs h => ?_) rfl
  · refine (uses_registerSession c ipAddress userAgent).mono fun s hs => ?_
    cases s <;> first | rfl | cases hs
  · exact (World.exec_credentials env s w' hs).trans h

theorem run_registerSession_ok (hI : Integrity env w) (c : UserCredential)
    (hspan : (env.timespan env.accessTokenExpiry).isSome = true) (hc : ∃ c', w.account c.id = some c')
    (ipAddress userAgent : Option String) :
    ∃ a w', (AuthService.registerSession env c ipAddress userAgent).run (World.machine env) w =
      (.ok a, w') :=
  run_issue hI hspan hc fun _ _ => completes_afterIssue _ _ _ _

/-- An account under a new email goes through, after the salt has been drawn. -/
theorem exec_createCredential_new {email : String} (hash : String) (hI : Integrity env w)
    (hfound : w.byEmail env email = none) :
    ∃ table, World.exec env (.createCredential email hash ["USER"]) { w with supply := w.supply + 1 } =
        (.ok (World.newCredential (w.supply + 1) email hash ["USER"]),
          { w with supply := w.supply + 2, credentials := table }) ∧
      w.credentials.insert? (World.newCredential (w.supply + 1) email hash ["USER"]) = some table := by
  have hnew := Table.find?_none hfound
  obtain ⟨table, hinsert⟩ := Table.insert?_of_fresh (t := w.credentials)
    (a := World.newCredential (w.supply + 1) email hash ["USER"])
    (fun c hc => Nat.ne_of_lt (Nat.lt_succ_of_lt (hI.credential_id_lt c hc)))
    fun c hc heq => by
      have hne := of_decide_eq_false (hnew c hc)
      exact hne (congrArg env.sqlLower heq)
  refine ⟨table, ?_, hinsert⟩
  simp only [World.exec, hinsert]

/-- A registration fails and stores nothing, or adds the account that it answers with. -/
theorem serve_register (email password : String) (ipAddress userAgent : Option String)
    (hI : Integrity env w) (hspan : (env.timespan env.accessTokenExpiry).isSome = true) :
    (∃ e, serve env (.register email password ipAddress userAgent) w = (.error e, w)) ∨
    ∃ a hash w', serve env (.register email password ipAddress userAgent) w = (.ok (.auth a), w') ∧
      w.supply ≤ a.userId ∧ env.hashPassword password w.supply = some hash ∧
      w'.credentials.rows = w.credentials.rows ++ [World.newCredential a.userId email hash ["USER"]] := by
  suffices hrun : (∃ e, (AuthService.register env email password ipAddress userAgent).run
        (World.machine env) w = (.error e, w)) ∨
      ∃ a hash w', (AuthService.register env email password ipAddress userAgent).run
          (World.machine env) w = (.ok a, w') ∧
        w.supply ≤ a.userId ∧ env.hashPassword password w.supply = some hash ∧
        w'.credentials.rows =
          w.credentials.rows ++ [World.newCredential a.userId email hash ["USER"]] by
    rcases hrun with ⟨e, hrun⟩ | ⟨a, hash, w', hrun, hrest⟩
    · exact .inl ⟨e, run_bind_error _ hrun⟩
    · exact .inr ⟨a, hash, w', run_bind_ok _ hrun, hrest⟩
  unfold AuthService.register
  simp only [bind_eq]
  rw [run_findByEmail_bind]
  cases hfound : w.byEmail env email with
  | some c => exact .inl ⟨_, rfl⟩
  | none =>
    simp only
    unfold CredentialService.createCredential
    simp only [bind_eq, bind_assoc]
    rw [run_hashPassword_bind]
    cases hhash : env.hashPassword password w.supply with
    | none => exact .inl ⟨_, rfl⟩
    | some hash =>
      obtain ⟨table, hexec, hinsert⟩ := exec_createCredential_new hash hI hfound
      let w₁ : World := { w with supply := w.supply + 1 }
      let c := World.newCredential w₁.supply email hash ["USER"]
      let w₂ : World := { w₁ with credentials := table, supply := w₁.supply + 1 }
      have hI₁ : Integrity env w₁ := integrity_plain (s := .uuidv4) rfl hI
      have hI₂ : Integrity env w₂ := by
        have hkept := (keeping_integrity env).createCredential email hash ["USER"] w₁ hfound hI₁
        rwa [hexec] at hkept
      have hc : ∃ c', w₂.account c.id = some c' :=
        ⟨c, World.account_of_mem ((Table.mem_insert? hinsert).mpr (.inr rfl)) rfl⟩
      obtain ⟨a, w', hrun⟩ := run_registerSession_ok hI₂ c hspan hc ipAddress userAgent
      have huser : a.userId = c.id := of_run_ok (yields_registerSession c) hrun
      have hcred := registerSession_credentials env w₂ c ipAddress userAgent
      rw [hrun] at hcred
      refine .inr ⟨a, hash, w', ?_, ?_, rfl, ?_⟩
      · exact (run_bind_ok _ ((run_perform (S := sig) _ _ w₁).trans hexec)).trans hrun
      · rw [huser]
        exact Nat.le_succ _
      · rw [huser, hcred]
        exact Table.rows_insert? hinsert

end Register

/-! ### The invariant -/

theorem passwordsKnown_act (hspan : (env.timespan env.accessTokenExpiry).isSome = true) (a : Action)
    (hI : Integrity env w) (hK : PasswordsKnown env w h) :
    PasswordsKnown env (act env w a) (trackPasswords env w a h) := by
  cases a with
  | pass n => exact hK
  | request r =>
    cases r
    case register email password ip ua =>
      rcases serve_register email password ip ua hI hspan with
        ⟨e, hserve⟩ | ⟨a, hash, w', hserve, hle, hhash, hrows⟩
      · simp only [trackPasswords, passwordSet, act, hserve]
        exact hK
      · simp only [trackPasswords, passwordSet, act, hserve]
        intro c hc
        rw [hrows] at hc
        rcases List.mem_append.mp hc with hc | hc
        · have hne : c.id ≠ a.userId := by
            have := hI.credential_id_lt c hc
            omega
          rw [Function.update_of_ne hne]
          exact hK c hc
        · obtain rfl := List.mem_singleton.mp hc
          exact ⟨password, w.supply, Function.update_self _ _ _, hhash⟩
    case resetPassword raw password ip =>
      rcases serve_resetPassword_cases env w raw password ip with
        ⟨e, hserve, -⟩ | ⟨t, hash, w', hfound, -, hhash, hserve, hredeemed⟩
      · simp only [trackPasswords, passwordSet, act, hserve]
        exact hK
      · simp only [trackPasswords, passwordSet, act, hserve, hfound]
        intro c hc
        rw [hredeemed.credentials] at hc
        obtain ⟨c₀, hc₀, rfl⟩ := Table.mem_updateWhere.mp hc
        unfold Table.patchIf
        by_cases hid : c₀.id = t.userId
        · rw [if_pos (decide_eq_true hid)]
          refine ⟨password, w.supply, ?_, hhash⟩
          rw [show ((UserCredential.setPassword hash w.now).apply c₀).id = t.userId from hid]
          exact Function.update_self _ _ _
        · rw [if_neg (by simpa using hid), Function.update_of_ne hid]
          exact hK c₀ hc₀
    all_goals
      exact serve_invariant (I := fun w => PasswordsKnown env w h)
        (fun s w hf hw => passwordsKnown_exec (not_storesHash (by simp) (by simp) hf) hw) hK

/-! ## One login -/

/-- The row lets a login in: ACTIVE, or a lock that has run out. -/
def UserCredential.Admits (c : UserCredential) (now : Int) : Prop :=
  c.status = .active ∨ c.status = .locked ∧ ∃ t, c.lockedUntil = some t ∧ t ≤ now

theorem refusal_eq_none_iff (c : UserCredential) (now : Int) :
    c.lockState.refusal now = none ↔ c.Admits now := by
  unfold LockState.refusal UserCredential.lockState UserCredential.Admits
  cases hs : c.status with
  | active => simp
  | banned => simp
  | deleted => simp
  | locked =>
    cases hl : c.lockedUntil with
    | none => simp
    | some t => simp

section Login

variable {email password : String} {ipAddress userAgent : Option String} {c : UserCredential}

/-- The right password for an account there is: a token pair comes out. -/
theorem run_loginVerify_ok (email : String) (ipAddress userAgent : Option String)
    (hI : Integrity env w) (hspan : (env.timespan env.accessTokenExpiry).isSome = true)
    (hc : ∃ c', w.account c.id = some c') (hv : env.verifyPassword c.passwordHash password = true) :
    ∃ a w', (AuthService.loginVerify env c email password ipAddress userAgent).run
      (World.machine env) w = (.ok a, w') := by
  unfold AuthService.loginVerify
  simp only [bind_eq]
  rw [run_verifyPassword_bind, hv, if_pos rfl]
  let w₁ := (World.exec env (.resetFailedAttempts c.id) w).2
  let w₂ := (World.exec env (.updateLastLogin c.id (ipAddress.getD "unknown") w₁.now) w₁).2
  have hI₂ : Integrity env w₂ := integrity_plain rfl (integrity_plain rfl hI)
  have hc₂ : ∃ c', w₂.account c.id = some c' :=
    World.account_kept env (by simp) (World.account_kept env (by simp) hc)
  exact run_issue hI₂ hspan hc₂ fun _ _ => completes_afterIssue _ _ _ _

/-- Nothing has been issued since `w₀`: no access token signed, no session inserted. -/
def NothingIssued (w₀ w : World) : Prop :=
  w.signed = w₀.signed ∧ ∀ t' ∈ w.refreshTokens.rows, ∃ t ∈ w₀.refreshTokens.rows, t.id = t'.id

/-- Statements that issue a token. -/
def Stmt.issues : Stmt → Bool
  | .signAccessToken _ _ _ _ => true
  | .createRefreshToken _ => true
  | _ => false

theorem nothingIssued_exec {w₀ : World} {s : Stmt} (hs : s.issues = false) (hN : NothingIssued w₀ w) :
    NothingIssued w₀ (World.exec env s w).2 := by
  refine ⟨?_, fun t' ht' => ?_⟩
  · rw [← hN.1]
    refine exec_signed ?_
    cases s <;> first | rfl | cases hs
  · rcases World.exec_source ht' with ⟨t, ht, rfl⟩ | ⟨data, rfl, -⟩
    · rw [(s.evolves_onRefreshToken t).id_eq]
      exact hN.2 t ht
    · cases hs

theorem nothingIssued_loginFailed (env : Env) (c : UserCredential) (email : String)
    (ipAddress userAgent : Option String) {w₀ : World} (hN : NothingIssued w₀ w) :
    NothingIssued w₀ ((AuthService.loginFailed env c email ipAddress userAgent).run
      (World.machine env) w).2 := by
  refine run_invariant (I := NothingIssued w₀) (A := fun s : Stmt => s.issues = false)
    (uses_loginFailed c email ipAddress userAgent ?_ rfl (fun _ => rfl) fun _ => rfl)
    (fun s w hs hw => nothingIssued_exec hs hw) hN
  intro s hs
  cases s <;> first | rfl | cases hs

theorem nothingIssued_refl (w : World) : NothingIssued w w := ⟨rfl, fun t ht => ⟨t, ht, rfl⟩⟩

/-- An admitted login verifies the password in a world as good as the one it started in. -/
theorem run_login_verifies (password : String) (ipAddress userAgent : Option String)
    (hI : Integrity env w) (hc : w.byEmail env email = some c)
    (hr : c.lockState.refusal w.now = none) :
    ∃ w₁, (AuthService.login env email password ipAddress userAgent).run (World.machine env) w =
        (AuthService.loginVerify env c email password ipAddress userAgent).run (World.machine env) w₁ ∧
      Integrity env w₁ ∧ (∃ c', w₁.account c.id = some c') ∧ NothingIssued w w₁ := by
  have hc' : ∃ c', w.account c.id = some c' := ⟨c, World.account_of_byEmail hc⟩
  refine ⟨_, run_login_admitted hc hr, ?_⟩
  by_cases hexp : c.lockState.expired w.now = true
  · rw [if_pos hexp]
    exact ⟨integrity_plain rfl hI, World.account_kept env (by simp) hc',
      nothingIssued_exec rfl (nothingIssued_refl w)⟩
  · rw [if_neg hexp]
    exact ⟨hI, hc', nothingIssued_refl w⟩

/-- A wrong password: an error, and nothing is issued. -/
theorem serve_login_wrong (ipAddress userAgent : Option String) (hI : Integrity env w)
    (hc : w.byEmail env email = some c) (hr : c.lockState.refusal w.now = none)
    (hv : env.verifyPassword c.passwordHash password = false) :
    ∃ e w', serve env (.login email password ipAddress userAgent) w = (.error e, w') ∧
      NothingIssued w w' := by
  obtain ⟨w₁, hlogin, -, ⟨c₁, hc₁⟩, hN₁⟩ :=
    run_login_verifies password ipAddress userAgent hI hc hr
  have hwrong : (AuthService.loginVerify env c email password ipAddress userAgent).run
      (World.machine env) w₁ = (AuthService.loginFailed env c email ipAddress userAgent).run
        (World.machine env) w₁ := by
    unfold AuthService.loginVerify
    simp only [bind_eq]
    rw [run_verifyPassword_bind, hv]
    rfl
  obtain ⟨w', hrun, -⟩ := run_loginVerify_wrong (l := c₁.lockState) email ipAddress userAgent hv
    (by rw [World.lockState, hc₁]; rfl)
  have hN := nothingIssued_loginFailed env c email ipAddress userAgent hN₁
  rw [← hwrong, hrun] at hN
  exact ⟨_, w', run_bind_error _ (hlogin.trans hrun), hN⟩

/-- The right password: a token pair, and the account is ACTIVE with no failed attempts. -/
theorem serve_login_right (ipAddress userAgent : Option String) (hI : Integrity env w)
    (hspan : (env.timespan env.accessTokenExpiry).isSome = true)
    (hc : w.byEmail env email = some c) (hr : c.lockState.refusal w.now = none)
    (hv : env.verifyPassword c.passwordHash password = true) :
    ∃ a w', serve env (.login email password ipAddress userAgent) w = (.ok (.auth a), w') ∧
      ∃ c', w'.account c.id = some c' ∧ c'.status = .active ∧ c'.failedLoginAttempts = 0 := by
  obtain ⟨w₁, hlogin, hI₁, hc₁, -⟩ := run_login_verifies password ipAddress userAgent hI hc hr
  obtain ⟨a, w', hrun⟩ := run_loginVerify_ok email ipAddress userAgent hI₁ hspan hc₁ hv
  have hserve : serve env (.login email password ipAddress userAgent) w = (.ok (.auth a), w') :=
    run_bind_ok _ (hlogin.trans hrun)
  have hlock : (serve env (.login email password ipAddress userAgent) w).2.lockState c.id =
      some (c.lockState.afterLogin env w.now (env.verifyPassword c.passwordHash password)) :=
    lockState_login hc
  rw [hserve, LockState.afterLogin, hr, hv] at hlock
  obtain ⟨c', hc', hl⟩ := Option.map_eq_some_iff.mp hlock
  have hstatus := congrArg LockState.status hl
  have hcount := congrArg LockState.failedLoginAttempts hl
  refine ⟨a, w', hserve, c', hc', hstatus.trans ?_, hcount⟩
  cases hexp : c.lockState.expired w.now with
  | true => rfl
  | false => exact LockState.active_of_refusal hr hexp

end Login

/-- One login against the passwords `h`: when it succeeds, and what it leaves behind. -/
structure LoginExact (env : Env) (w : World) (h : Nat → Option String) (email password : String)
    (response : Except Exn Response) (w' : World) : Prop where
  succeeds_iff : (∃ a, response = .ok (.auth a)) ↔ ∃ c ∈ w.credentials.rows,
    env.sqlLower c.email = env.sqlLower email ∧ c.Admits w.now ∧ h c.id = some password
  leaves_active : (∃ a, response = .ok (.auth a)) → ∀ c ∈ w.credentials.rows,
    env.sqlLower c.email = env.sqlLower email →
      ∃ c', w'.account c.id = some c' ∧ c'.status = .active ∧ c'.failedLoginAttempts = 0
  issues_nothing : (∀ a, response ≠ .ok (.auth a)) → NothingIssued w w'

theorem loginExact_refused {email password : String} {e : Exn} {w' : World} (hN : NothingIssued w w')
    (hno : ∀ c ∈ w.credentials.rows, env.sqlLower c.email = env.sqlLower email → c.Admits w.now →
      h c.id ≠ some password) :
    LoginExact env w h email password (.error e) w' := by
  refine ⟨⟨?_, ?_⟩, ?_, fun _ => hN⟩
  · rintro ⟨a, ha⟩
    cases ha
  · rintro ⟨c, hc, he, hadmits, hp⟩
    exact absurd hp (hno c hc he hadmits)
  · rintro ⟨a, ha⟩
    cases ha

/-- In every run, a login succeeds exactly for an account that admits logins and its last password. -/
theorem login_exact (env : Env) (hlib : HashLibraries env)
    (hspan : (env.timespan env.accessTokenExpiry).isSome = true) (roles : Table Role) (supply : Nat)
    (now : Int) (as : List Action) (email password : String) (ipAddress userAgent : Option String) :
    let w := runs env (World.initial roles supply now) as
    LoginExact env w (lastPasswords env (World.initial roles supply now) as) email password
      (serve env (.login email password ipAddress userAgent) w).1
      (serve env (.login email password ipAddress userAgent) w).2 := by
  intro w
  obtain ⟨hI, hK⟩ : Integrity env w ∧
      PasswordsKnown env w (lastPasswords env (World.initial roles supply now) as) := by
    refine record_invariant (I := fun w h => Integrity env w ∧ PasswordsKnown env w h)
      (fun w h a hw => ⟨(keeping_integrity env).act a hw.1, passwordsKnown_act hspan a hw.1 hw.2⟩)
      ⟨integrity_initial roles supply now, ?_⟩ as
    simp [PasswordsKnown, World.initial]
  generalize lastPasswords env (World.initial roles supply now) as = h at hK
  clear_value w
  cases hc : w.byEmail env email with
  | none =>
    obtain ⟨logs, hrun⟩ := run_login_unknown password ipAddress userAgent hc
    rw [show serve env (.login email password ipAddress userAgent) w = _ from run_bind_error _ hrun]
    refine loginExact_refused (nothingIssued_refl w) fun c hmem he _ => ?_
    rw [hI.byEmail_of_mem hmem he] at hc
    cases hc
  | some c =>
    have hmem : c ∈ w.credentials.rows := (Table.find?_mem hc).1
    have honly : ∀ c' ∈ w.credentials.rows, env.sqlLower c'.email = env.sqlLower email → c' = c := by
      intro c' hc' he'
      rw [hI.byEmail_of_mem hc' he'] at hc
      exact Option.some.inj hc
    obtain ⟨last, salt, hlast, hhash⟩ := hK c hmem
    have hverify := verifyPassword_iff hlib hhash password
    cases hr : c.lockState.refusal w.now with
    | some e =>
      obtain ⟨logs, hrun⟩ := run_login_refused password ipAddress userAgent hc hr
      rw [show serve env (.login email password ipAddress userAgent) w = _ from run_bind_error _ hrun]
      refine loginExact_refused (nothingIssued_refl w) fun c' hc' he' hadmits => ?_
      rw [honly c' hc' he', ← refusal_eq_none_iff, hr] at hadmits
      cases hadmits
    | none =>
      cases hv : env.verifyPassword c.passwordHash password with
      | false =>
        obtain ⟨e, w', hserve, hN⟩ := serve_login_wrong ipAddress userAgent hI hc hr hv
        rw [hserve]
        refine loginExact_refused hN fun c' hc' he' _ hp => ?_
        rw [honly c' hc' he', hlast] at hp
        rw [hverify.mpr (Option.some.inj hp).symm] at hv
        cases hv
      | true =>
        have hpassword : h c.id = some password := by rw [hlast, hverify.mp hv]
        obtain ⟨a, w', hserve, hactive⟩ := serve_login_right ipAddress userAgent hI hspan hc hr hv
        rw [hserve]
        refine ⟨⟨fun _ => ⟨c, hmem, ?_, (refusal_eq_none_iff c w.now).mp hr, hpassword⟩,
          fun _ => ⟨a, rfl⟩⟩, fun _ c' hc' he' => ?_, fun hne => absurd rfl (hne a)⟩
        · exact of_decide_eq_true (Table.find?_mem hc).2
        · rw [honly c' hc' he']
          exact hactive

theorem hashLibraries_plain : HashLibraries Env.plain := by
  refine ⟨?_, ?_, nofun, nofun⟩
  · intro password salt hash hhash
    cases hhash
    rw [startsWith_iff, String.toList_append]
    exact List.prefix_append _ _
  · intro password salt hash hhash given
    cases hhash
    simp only [Env.plain, beq_iff_eq]
    constructor
    · intro heq
      have hlist := congrArg String.toList heq
      rw [String.toList_append, String.toList_append] at hlist
      exact (String.toList_inj.mp (List.append_cancel_left hlist)).symm
    · rintro rfl
      rfl

/-- The registered user logs in. -/
theorem login_exact_registered :
    LoginExact Env.plain registered
      (lastPasswords Env.plain (World.initial .empty 0 0) [.request (.register "a@x" "p" none none)])
      "a@x" "p" (serve Env.plain (.login "a@x" "p" none none) registered).1
      (serve Env.plain (.login "a@x" "p" none none) registered).2 :=
  login_exact Env.plain hashLibraries_plain rfl .empty 0 0 _ "a@x" "p" none none

end Auth
