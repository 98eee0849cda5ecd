import AuthService.Authentication
import AuthService.Registration
import AuthService.Resumption.Correspondence
import Mathlib.Data.List.Forall2

/-!
# AuthService.PasswordSecrecy

Passwords are only ever hashed and verified. Two runs of one schedule, in the second of which every
password that a client sends is replaced by another one.

* `Renaming`    — what the replacement has to respect, and what is assumed of the hash libraries.
* `UpToHashes`  — worlds that differ in the column `password_hash` only, where the hashes verify alike.
* `Renamed`     — statements that correspond; `respects_renamed` — what they do in such worlds.
* `renamed_`    — the services, from the lookup of an account or the hash of a password on.
* `passwords_secret` — every answer, event, audit row, token and row is the same in the two runs, but
  for the hashes.
-/

namespace Auth

open Relational Resumption Prog

/-- The libraries fail for a password as they do for its replacement. -/
structure Renaming (env : Env) (rename : String → String) : Prop where
  injective : Function.Injective rename
  libraries : HashLibraries env
  fails : ∀ password salt,
    env.hashPassword password salt = none ↔ env.hashPassword (rename password) salt = none

def Request.renamed (rename : String → String) : Request → Request
  | .register email password ipAddress userAgent => .register email (rename password) ipAddress userAgent
  | .login email password ipAddress userAgent => .login email (rename password) ipAddress userAgent
  | .resetPassword rawToken newPassword ipAddress => .resetPassword rawToken (rename newPassword) ipAddress
  | r => r

def Route.renamed (rename : String → String) : Route → Route
  | .register email password => .register email (rename password)
  | .login email password => .login email (rename password)
  | .resetPassword token newPassword => .resetPassword token (rename newPassword)
  | route => route

/-- The same activity with the passwords replaced. -/
def Activity.renamed (rename : String → String) : Activity → Activity
  | .http x => .http { x with route := x.route.renamed rename }
  | .job j => .job j
  | .pass n => .pass n

def UserCredential.withHash (c : UserCredential) (passwordHash : String) : UserCredential :=
  { c with passwordHash }

/-- The hashes verify alike, each the passwords of its own run. -/
def VerifyAlike (env : Env) (rename : String → String) (hash hash' : String) : Prop :=
  ∀ password, env.verifyPassword hash password = env.verifyPassword hash' (rename password)

def SameButHash (env : Env) (rename : String → String) (c c' : UserCredential) : Prop :=
  ∃ hash', c' = c.withHash hash' ∧ VerifyAlike env rename c.passwordHash hash'

/-- Statements that read no account and store no hash. -/
def Stmt.hashless : Stmt → Bool
  | .findCredentialById _ => false
  | .findCredentialByEmail _ => false
  | .findLockedAccountsToUnlock _ => false
  | .createCredential _ _ _ => false
  | .updatePassword _ _ _ => false
  | _ => true

structure UpToHashes (env : Env) (rename : String → String) (w w' : World) : Prop where
  rest : w' = { w with credentials := w'.credentials }
  rows : List.Forall₂ (SameButHash env rename) w.credentials.rows w'.credentials.rows

variable {env : Env} {rename : String → String} {w w' : World}

theorem verifyAlike_hashed (h : Renaming env rename) {password hash hash' : String} {salt : Nat}
    (hhash : env.hashPassword password salt = some hash)
    (hhash' : env.hashPassword (rename password) salt = some hash') :
    VerifyAlike env rename hash hash' := by
  intro given
  rw [Bool.eq_iff_iff, verifyPassword_iff h.libraries hhash, verifyPassword_iff h.libraries hhash']
  exact h.injective.eq_iff.symm

/-! ## Rows -/

theorem map_sameButHash {γ : Type} {f : UserCredential → γ} {cs cs' : List UserCredential}
    (h : List.Forall₂ (SameButHash env rename) cs cs') (hf : ∀ c hash, f (c.withHash hash) = f c) :
    cs'.map f = cs.map f := by
  induction h with
  | nil => rfl
  | cons hc _ ih =>
    obtain ⟨hash', rfl, -⟩ := hc
    rw [List.map_cons, List.map_cons, hf, ih]

/-- A lookup that does not go by the hash. -/
theorem find?_sameButHash {p : UserCredential → Bool} {cs cs' : List UserCredential}
    (h : List.Forall₂ (SameButHash env rename) cs cs') (hp : ∀ c hash, p (c.withHash hash) = p c) :
    Option.Rel (SameButHash env rename) (cs.find? p) (cs'.find? p) := by
  induction h with
  | nil => exact .none
  | @cons c c' cs cs' hc _ ih =>
    obtain ⟨hash', rfl, halike⟩ := hc
    by_cases hpc : p c = true
    · simp only [List.find?_cons, hp, hpc]
      exact .some ⟨hash', rfl, halike⟩
    · simpa [hp, hpc] using ih

theorem filter_sameButHash {p : UserCredential → Bool} {cs cs' : List UserCredential}
    (h : List.Forall₂ (SameButHash env rename) cs cs') (hp : ∀ c hash, p (c.withHash hash) = p c) :
    List.Forall₂ (SameButHash env rename) (cs.filter p) (cs'.filter p) := by
  refine List.rel_filter (fun c c' hc => ?_) h
  obtain ⟨hash', rfl, -⟩ := hc
  simp only [hp]

/-! ## Statements -/

theorem onCredential_withHash {s : Stmt} (hs : s.storesHash = false) (c : UserCredential)
    (hash : String) : s.onCredential (c.withHash hash) = (s.onCredential c).withHash hash := by
  cases s
  case createCredential | updatePassword => cases hs
  all_goals simp only [Stmt.onCredential, Stmt.credentialUpdate]
  all_goals
    show (if c.id = _ then _ else _) = _
    split <;> rfl

namespace UpToHashes

theorem later (n : Nat) (h : UpToHashes env rename w w') :
    UpToHashes env rename { w with now := w.now + n } { w' with now := w'.now + n } := by
  refine ⟨?_, h.rows⟩
  rw [h.rest]

theorem account (h : UpToHashes env rename w w') (u : Nat) :
    Option.Rel (SameButHash env rename) (w.account u) (w'.account u) :=
  find?_sameButHash h.rows fun _ _ => rfl

theorem hasUser (h : UpToHashes env rename w w') (u : Nat) : w'.hasUser u = w.hasUser u := by
  rw [Bool.eq_iff_iff, World.hasUser_iff, World.hasUser_iff]
  have haccount := h.account u
  generalize w.account u = c? at haccount
  generalize w'.account u = c'? at haccount
  cases haccount <;> simp

/-- A statement that maps the rows and leaves the hashes alone. -/
theorem exec (env : Env) {s : Stmt} (h : UpToHashes env rename w w') (hrows : s.changesAccounts = false)
    (hhash : s.storesHash = false)
    (hrest : (World.exec env s w').2 =
      { (World.exec env s w).2 with credentials := (World.exec env s w').2.credentials }) :
    UpToHashes env rename (World.exec env s w).2 (World.exec env s w').2 := by
  refine ⟨hrest, ?_⟩
  rw [World.exec_credentialRows hrows, World.exec_credentialRows hrows, List.forall₂_map_left_iff,
    List.forall₂_map_right_iff]
  apply h.rows.imp
  intro c c' hc
  obtain ⟨hash', rfl, halike⟩ := hc
  refine ⟨hash', ?_, ?_⟩
  · exact onCredential_withHash hhash c hash'
  · rw [onCredential_passwordHash hhash]
    exact halike

theorem insert (env : Env) (h : UpToHashes env rename w w') (email : String) {hash hash' : String}
    (halike : VerifyAlike env rename hash hash') (roles : List String) :
    Replies (SameButHash env rename) (World.exec env (.createCredential email hash roles) w).1
        (World.exec env (.createCredential email hash' roles) w').1 ∧
      UpToHashes env rename (World.exec env (.createCredential email hash roles) w).2
        (World.exec env (.createCredential email hash' roles) w').2 := by
  have hsupply : w'.supply = w.supply := by rw [h.rest]
  have hkeys : w'.credentials.rows.map Row.key = w.credentials.rows.map Row.key :=
    map_sameButHash h.rows fun _ _ => rfl
  have huniqs : w'.credentials.rows.map Row.uniq = w.credentials.rows.map Row.uniq :=
    map_sameButHash h.rows fun _ _ => rfl
  have hiff : w'.credentials.insert? (World.newCredential w.supply email hash' roles) = none ↔
      w.credentials.insert? (World.newCredential w.supply email hash roles) = none := by
    rw [Table.insert?_eq_none, Table.insert?_eq_none, hkeys, huniqs]
    rfl
  have hrow : SameButHash env rename (World.newCredential w.supply email hash roles)
      (World.newCredential w.supply email hash' roles) := ⟨hash', rfl, halike⟩
  simp only [World.exec, hsupply]
  cases hi : w.credentials.insert? (World.newCredential w.supply email hash roles) with
  | none =>
    rw [hiff.mpr hi]
    exact ⟨.error _, h⟩
  | some t =>
    cases hi' : w'.credentials.insert? (World.newCredential w.supply email hash' roles) with
    | none =>
      rw [hiff.mp hi'] at hi
      cases hi
    | some t' =>
      refine ⟨.ok hrow, ?_, ?_⟩
      · rw [h.rest]
      · rw [Table.rows_insert? hi, Table.rows_insert? hi']
        exact List.rel_append h.rows (.cons hrow .nil)

theorem delete (env : Env) (h : UpToHashes env rename w w') (u : Nat) :
    Replies Eq (World.exec env (.deleteCredential u) w).1 (World.exec env (.deleteCredential u) w').1 ∧
      UpToHashes env rename (World.exec env (.deleteCredential u) w).2
        (World.exec env (.deleteCredential u) w').2 := by
  refine ⟨?_, ?_, ?_⟩
  · simp only [World.exec, h.hasUser]
    exact .ok rfl
  · rw [h.rest]
    rfl
  · exact filter_sameButHash h.rows fun _ _ => rfl

theorem setPassword (env : Env) (h : UpToHashes env rename w w') (id : Nat) {hash hash' : String}
    (halike : VerifyAlike env rename hash hash') (at' : Int) :
    UpToHashes env rename (World.exec env (.updatePassword id hash at') w).2
      (World.exec env (.updatePassword id hash' at') w').2 := by
  refine ⟨?_, ?_⟩
  · rw [h.rest]
    rfl
  · rw [World.exec_credentialRows rfl, World.exec_credentialRows rfl, List.forall₂_map_left_iff,
      List.forall₂_map_right_iff]
    apply h.rows.imp
    intro c c' hc
    obtain ⟨old', rfl, hold⟩ := hc
    simp only [Stmt.onCredential, Stmt.credentialUpdate]
    show SameButHash env rename (if c.id = id then _ else _) (if c.id = id then _ else _)
    split
    · exact ⟨hash', rfl, halike⟩
    · exact ⟨old', rfl, hold⟩

theorem increment (env : Env) (h : UpToHashes env rename w w') (id : Nat) :
    (World.exec env (.incrementFailedAttempts id) w').1 =
        (World.exec env (.incrementFailedAttempts id) w).1 ∧
      UpToHashes env rename (World.exec env (.incrementFailedAttempts id) w).2
        (World.exec env (.incrementFailedAttempts id) w').2 := by
  have hnext : UpToHashes env rename (World.exec env (.incrementFailedAttempts id) w).2
      (World.exec env (.incrementFailedAttempts id) w').2 := h.exec env rfl rfl (by rw [h.rest]; rfl)
  refine ⟨?_, hnext⟩
  -- the reply is read off the row after the increment
  show Except.ok (((World.exec env (.incrementFailedAttempts id) w').2.account id).map _) =
    Except.ok (((World.exec env (.incrementFailedAttempts id) w).2.account id).map _)
  have haccount := hnext.account id
  generalize (World.exec env (.incrementFailedAttempts id) w).2.account id = c? at haccount
  generalize (World.exec env (.incrementFailedAttempts id) w').2.account id = c'? at haccount
  cases haccount with
  | none => rfl
  | some hc =>
    obtain ⟨hash', rfl, -⟩ := hc
    rfl

theorem exec_hashless (env : Env) {s : Stmt} (h : UpToHashes env rename w w') (hs : s.hashless = true) :
    (World.exec env s w').1 = (World.exec env s w).1 ∧
      UpToHashes env rename (World.exec env s w).2 (World.exec env s w').2 := by
  cases s
  case findCredentialById | findCredentialByEmail | findLockedAccountsToUnlock | createCredential
      | updatePassword => cases hs
  case deleteCredential u => exact ⟨(h.delete env u).1.eq.symm, (h.delete env u).2⟩
  case incrementFailedAttempts id => exact h.increment env id
  case createRefreshToken | createPasswordResetToken =>
    have hu := fun u => h.hasUser u
    have hrest := h.rest
    refine ⟨?_, h.exec env rfl rfl ?_⟩
    all_goals
      rw [hrest] at hu ⊢
      simp only [World.exec, hu]
      split
      · split <;> rfl
      · rfl
  case hashPassword | signAccessToken =>
    refine ⟨?_, h.exec env rfl rfl ?_⟩
    all_goals
      rw [h.rest]
      simp only [World.exec]
      split <;> rfl
  all_goals exact ⟨by rw [h.rest]; rfl, h.exec env rfl rfl (by rw [h.rest]; rfl)⟩

end UpToHashes

/-- Statements that correspond, with the relation of their replies. -/
inductive Renamed (env : Env) (rename : String → String) :
    (s s' : Stmt) → (s.Reply → s'.Reply → Prop) → Prop where
  | hashless (s : Stmt) (h : s.hashless = true) : Renamed env rename s s Eq
  | hash (password : String) :
      Renamed env rename (.hashPassword password) (.hashPassword (rename password))
        (VerifyAlike env rename)
  | verify (password : String) {hash hash' : String} (h : VerifyAlike env rename hash hash') :
      Renamed env rename (.verifyPassword hash password) (.verifyPassword hash' (rename password)) Eq
  | findById (id : Nat) :
      Renamed env rename (.findCredentialById id) (.findCredentialById id)
        (Option.Rel (SameButHash env rename))
  | findByEmail (email : String) :
      Renamed env rename (.findCredentialByEmail email) (.findCredentialByEmail email)
        (Option.Rel (SameButHash env rename))
  | findLocked (now : Int) :
      Renamed env rename (.findLockedAccountsToUnlock now) (.findLockedAccountsToUnlock now)
        (List.Forall₂ (SameButHash env rename))
  | create (email : String) (roles : List String) {hash hash' : String}
      (h : VerifyAlike env rename hash hash') :
      Renamed env rename (.createCredential email hash roles) (.createCredential email hash' roles)
        (SameButHash env rename)
  | update (id : Nat) (at' : Int) {hash hash' : String} (h : VerifyAlike env rename hash hash') :
      Renamed env rename (.updatePassword id hash at') (.updatePassword id hash' at') Eq

theorem respects_renamed (hrename : Renaming env rename) :
    (World.machine env).Respects (Renamed env rename) (UpToHashes env rename) := by
  intro s s' B w w' hs h
  cases hs with
  | hashless s hs =>
    obtain ⟨hreply, hworld⟩ := h.exec_hashless env hs
    exact ⟨.of_eq hreply.symm, hworld⟩
  | hash password =>
    have hsupply : w'.supply = w.supply := by rw [h.rest]
    show Replies _ (World.exec env (.hashPassword password) w).1
      (World.exec env (.hashPassword (rename password)) w').1 ∧ UpToHashes _ _
        (World.exec env (.hashPassword password) w).2 (World.exec env (.hashPassword (rename password)) w').2
    simp only [World.exec, hsupply]
    cases hhash : env.hashPassword password w.supply with
    | none =>
      rw [(hrename.fails password w.supply).mp hhash]
      exact ⟨.error _, h⟩
    | some hash =>
      cases hhash' : env.hashPassword (rename password) w.supply with
      | none =>
        rw [(hrename.fails password w.supply).mpr hhash'] at hhash
        cases hhash
      | some hash' =>
        refine ⟨.ok (verifyAlike_hashed hrename hhash hhash'), ?_, h.rows⟩
        rw [h.rest]
  | verify password halike =>
    refine ⟨.of_eq ?_, h⟩
    exact congrArg Except.ok (halike password)
  | findById id => exact ⟨.ok (h.account id), h⟩
  | findByEmail email => exact ⟨.ok (find?_sameButHash h.rows fun _ _ => rfl), h⟩
  | findLocked now => exact ⟨.ok (filter_sameButHash h.rows fun _ _ => rfl), h⟩
  | create email roles halike => exact h.insert env email halike roles
  | update id at' halike => exact ⟨.ok rfl, h.setPassword env id halike at'⟩

/-! ## Services -/

/-- Two programs that do the same but for passwords and their hashes. -/
abbrev Same {α : Type} (env : Env) (rename : String → String) (p p' : AuthProg α) : Prop :=
  p.Corresponds (Renamed env rename) Eq p'

theorem hashless_of_blind {s : Stmt} (h : s.blind = true) : s.hashless = true := by
  cases s <;> first | rfl | cases h

theorem same_of_uses {α : Type} {p : AuthProg α} (hp : p.Uses fun s : Stmt => s.hashless = true) :
    Same env rename p p :=
  corresponds_of_uses hp fun s hs => .hashless s hs

/-- What is done with a found account, where its hash is not looked at. -/
theorem same_found {α : Type} {f : Option UserCredential → AuthProg α} {c? c'? : Option UserCredential}
    (hnone : (f none).Uses fun s : Stmt => s.hashless = true)
    (hsome : ∀ c, (f (some c)).Uses fun s : Stmt => s.hashless = true)
    (hhash : ∀ c hash, f (some (c.withHash hash)) = f (some c))
    (h : Option.Rel (SameButHash env rename) c? c'?) : Same env rename (f c?) (f c'?) := by
  cases h with
  | none => exact same_of_uses hnone
  | some hc =>
    obtain ⟨hash', rfl, -⟩ := hc
    rw [hhash]
    exact same_of_uses (hsome _)

theorem same_findById {α : Type} {u : Nat} {f : Option UserCredential → AuthProg α}
    (hnone : (f none).Uses fun s : Stmt => s.hashless = true)
    (hsome : ∀ c, (f (some c)).Uses fun s : Stmt => s.hashless = true)
    (hhash : ∀ c hash, f (some (c.withHash hash)) = f (some c)) :
    Same env rename ((UserCredentialRepository.findById u).bind f)
      ((UserCredentialRepository.findById u).bind f) :=
  corresponds_perform_bind (.findById u) fun _ _ => same_found hnone hsome hhash

theorem same_findByEmail {α : Type} {email : String} {f : Option UserCredential → AuthProg α}
    (hnone : (f none).Uses fun s : Stmt => s.hashless = true)
    (hsome : ∀ c, (f (some c)).Uses fun s : Stmt => s.hashless = true)
    (hhash : ∀ c hash, f (some (c.withHash hash)) = f (some c)) :
    Same env rename ((UserCredentialRepository.findByEmail email).bind f)
      ((UserCredentialRepository.findByEmail email).bind f) :=
  corresponds_perform_bind (.findByEmail email) fun _ _ => same_found hnone hsome hhash

theorem hashless_publish {event : Int → DomainEvent} :
    (newDate.bind fun timestamp => EventService.safePublish (event timestamp)).Uses
      fun s : Stmt => s.hashless = true :=
  uses_publish rfl fun _ => rfl

theorem hashless_revokeAll {u : Nat} {reason : String} :
    (TokenService.revokeAllUserTokens u reason).Uses fun s : Stmt => s.hashless = true :=
  uses_revokeAllUserTokens rfl fun _ => rfl

theorem hashless_registerSession (c : UserCredential) (ipAddress userAgent : Option String) :
    (AuthService.registerSession env c ipAddress userAgent).Uses fun s : Stmt => s.hashless = true := by
  unfold AuthService.registerSession
  refine uses_perform_bind rfl fun accessToken => ?_
  refine uses_bind (uses_generateRefreshToken_of_tacit
    (fun s hs => hashless_of_blind (blind_of_tacit hs)) fun _ _ => rfl) fun pair => ?_
  refine uses_bind (uses_enforceMaxSessions_of_tacit
    (fun s hs => hashless_of_blind (blind_of_tacit hs)) fun _ _ => rfl) fun _ => ?_
  exact uses_bind hashless_publish fun _ => uses_perform_bind rfl fun _ => trivial

theorem same_register (email password : String) (ipAddress userAgent : Option String) :
    Same env rename (AuthService.register env email password ipAddress userAgent)
      (AuthService.register env email (rename password) ipAddress userAgent) := by
  apply corresponds_perform_bind (.findByEmail email)
  intro existing existing' h
  cases h with
  | some _ => exact .throw _
  | none =>
    refine corresponds_bind (A := SameButHash env rename) ?_ fun c c' hc => ?_
    · exact corresponds_perform_bind (.hash password) fun hash hash' h =>
        corresponds_perform (S := sig) (V := Renamed env rename) (.create email ["USER"] h)
    · obtain ⟨hash', rfl, -⟩ := hc
      exact same_of_uses (hashless_registerSession c ipAddress userAgent)

theorem same_loginVerify {c : UserCredential} {hash' : String}
    (h : VerifyAlike env rename c.passwordHash hash') (email password : String)
    (ipAddress userAgent : Option String) :
    Same env rename (AuthService.loginVerify env c email password ipAddress userAgent)
      (AuthService.loginVerify env (c.withHash hash') email (rename password) ipAddress userAgent) := by
  apply corresponds_perform_bind (.verify password h)
  intro valid valid' hvalid
  subst hvalid
  refine same_of_uses ?_
  cases valid with
  | true =>
    exact uses_loginSucceeded_of_blind c email ipAddress userAgent (fun s => hashless_of_blind) rfl
      (fun _ _ => rfl) rfl (fun _ _ => rfl) fun _ _ => rfl
  | false =>
    exact uses_loginFailed_of_blind c email ipAddress userAgent (fun s => hashless_of_blind) rfl
      (fun _ => rfl) fun _ => rfl

theorem same_login (email password : String) (ipAddress userAgent : Option String) :
    Same env rename (AuthService.login env email password ipAddress userAgent)
      (AuthService.login env email (rename password) ipAddress userAgent) := by
  refine corresponds_perform_bind (.findByEmail email) fun c? c'? h => ?_
  cases h with
  | none => exact same_of_uses (uses_perform_bind rfl fun _ => trivial)
  | @some c _ hc =>
    obtain ⟨hash', rfl, halike⟩ := hc
    have hverify := same_loginVerify halike email password ipAddress userAgent
    obtain ⟨id, email', passwordHash, status, roles, attempts, lockedUntil, lastLoginAt, lastLoginIp,
      passwordChangedAt⟩ := c
    cases status with
    | active => exact hverify
    | banned => exact same_of_uses (uses_perform_bind rfl fun _ => trivial)
    | deleted => exact .throw _
    | locked =>
      cases lockedUntil with
      | none => exact same_of_uses (uses_perform_bind rfl fun _ => trivial)
      | some lockedUntil =>
        apply corresponds_perform_bind (.hashless .newDate rfl)
        intro now now' hnow
        subst hnow
        show Same env rename (if lockedUntil ≤ now then _ else _) (if lockedUntil ≤ now then _ else _)
        split
        · exact corresponds_perform_bind (.hashless (.unlockAccount id) rfl) fun _ _ _ => hverify
        · exact same_of_uses (uses_perform_bind rfl fun _ => trivial)

theorem same_refreshToken (raw : Nat) :
    Same env rename (AuthController.refreshToken env raw) (AuthController.refreshToken env raw) := by
  refine corresponds_bind (same_of_uses ?_) fun result result' hresult => ?_
  · exact uses_refreshTokens_of_tacit raw none none (fun s hs => hashless_of_blind (blind_of_tacit hs))
      (fun _ _ => rfl) (fun _ _ => rfl) (fun _ => rfl) (fun _ _ => rfl) fun _ _ => rfl
  · subst hresult
    exact same_findById trivial (fun c => uses_perform_bind rfl fun _ => trivial) fun _ _ => rfl

theorem same_validateToken (token : Jwt) :
    Same env rename (AuthService.validateToken env token) (AuthService.validateToken env token) := by
  refine corresponds_bind (same_of_uses (uses_validateAccessToken token rfl fun _ => rfl))
    fun result result' hresult => ?_
  subst hresult
  split
  · refine corresponds_tryCatch (same_findById trivial (fun c => ?_) fun _ _ => rfl) fun _ => .ret rfl
    simp only
    split
    · split
      · refine uses_perform_bind rfl fun now => ?_
        split <;> trivial
      · trivial
    · trivial
    · trivial
    · trivial
  · exact .ret rfl

theorem same_forgotPassword (email : String) (ipAddress : Option String) :
    Same env rename (AuthService.forgotPassword env email ipAddress)
      (AuthService.forgotPassword env email ipAddress) := by
  refine same_findByEmail trivial (fun c => ?_) fun _ _ => rfl
  refine uses_perform_bind rfl fun rawToken => uses_perform_bind rfl fun now => ?_
  refine uses_perform_bind rfl fun _ => uses_perform_bind rfl fun _ => ?_
  exact uses_bind hashless_publish fun _ => (uses_perform _).mpr rfl

theorem same_resetPassword (rawToken : Nat) (newPassword : String) (ipAddress : Option String) :
    Same env rename (AuthService.resetPassword rawToken newPassword ipAddress)
      (AuthService.resetPassword rawToken (rename newPassword) ipAddress) := by
  refine corresponds_perform_bind (.hashless (.findResetTokenByHash (hashToken rawToken)) rfl)
    fun resetToken? _ h => ?_
  subst h
  cases resetToken? with
  | none => exact .throw _
  | some t =>
    simp only
    split
    · exact .throw _
    · apply corresponds_perform_bind (.hashless .newDate rfl)
      intro now _ hnow
      subst hnow
      split
      · exact .throw _
      · refine corresponds_bind (A := Eq) ?_ fun _ _ _ => same_of_uses ?_
        · apply corresponds_perform_bind (.hash newPassword)
          intro hash hash' h
          apply corresponds_perform_bind (.hashless .newDate rfl)
          intro at' _ hat
          subst hat
          exact corresponds_perform (S := sig) (V := Renamed env rename) (.update t.userId at' h)
        · refine uses_bind (uses_perform_bind rfl fun _ => (uses_perform _).mpr rfl) fun _ => ?_
          refine uses_perform_bind rfl fun _ => ?_
          apply uses_bind hashless_revokeAll
          intro _
          exact uses_bind hashless_publish fun _ => (uses_perform _).mpr rfl

theorem hashless_afterwards {u : Nat} {reason : String} {event : Int → DomainEvent} {entry : AuditLog} :
    ((TokenService.revokeAllUserTokens u reason).bind fun _ =>
      (newDate.bind fun timestamp => EventService.safePublish (event timestamp)).bind fun _ =>
        AuditLogRepository.create entry).Uses fun s : Stmt => s.hashless = true :=
  uses_bind hashless_revokeAll fun _ => uses_bind hashless_publish fun _ => (uses_perform _).mpr rfl

theorem same_lockAccount (u : Nat) (reason : String) (duration : Option Nat)
    (adminUserId : Option String) :
    Same env rename (AccountService.lockAccount env u reason duration adminUserId)
      (AccountService.lockAccount env u reason duration adminUserId) := by
  refine same_findById trivial (fun c => ?_) fun _ _ => rfl
  refine uses_bind ?_ fun lockedUntil => uses_perform_bind rfl fun _ => hashless_afterwards
  unfold AccountService.lockExpiry
  split
  · trivial
  · trivial
  · exact uses_perform_bind rfl fun now => trivial

theorem same_unlockAccount (u : Nat) (adminUserId : Option String) :
    Same env rename (AccountService.unlockAccount u adminUserId)
      (AccountService.unlockAccount u adminUserId) := by
  refine same_findById trivial (fun c => ?_) fun _ _ => rfl
  exact uses_perform_bind rfl fun _ => uses_bind hashless_publish fun _ => (uses_perform _).mpr rfl

theorem same_banUser (u : Nat) (reason : String) (adminUserId : Option String) :
    Same env rename (AccountService.banUser u reason adminUserId)
      (AccountService.banUser u reason adminUserId) :=
  same_findById trivial (fun _ => uses_perform_bind rfl fun _ => hashless_afterwards) fun _ _ => rfl

theorem same_assignRole (u : Nat) (role assignedBy : String) :
    Same env rename (RoleService.assignRole u role assignedBy)
      (RoleService.assignRole u role assignedBy) := by
  refine same_findById trivial (fun c => ?_) fun _ _ => rfl
  refine uses_perform_bind rfl fun role? => ?_
  cases role? with
  | none => trivial
  | some r =>
    simp only
    split
    · trivial
    · exact uses_perform_bind rfl fun _ => uses_bind hashless_revokeAll fun _ => hashless_publish

theorem same_revokeRole (u : Nat) (role revokedBy : String) :
    Same env rename (RoleService.revokeRole u role revokedBy)
      (RoleService.revokeRole u role revokedBy) := by
  refine same_findById trivial (fun c => ?_) fun _ _ => rfl
  simp only
  split
  · exact uses_perform_bind rfl fun _ => uses_bind hashless_revokeAll fun _ => hashless_publish
  · trivial

/-- The job goes by the ids of the accounts. -/
theorem same_handleUnlock :
    Same env rename UnlockExpiredLockoutsJob.handleUnlock UnlockExpiredLockoutsJob.handleUnlock := by
  refine corresponds_tryCatch ?_ fun _ => .ret rfl
  refine corresponds_bind (A := List.Forall₂ (SameButHash env rename)) ?_ fun accounts accounts' h => ?_
  · apply corresponds_perform_bind (.hashless .newDate rfl)
    intro now _ hnow
    subst hnow
    exact corresponds_perform (S := sig) (V := Renamed env rename) (.findLocked now)
  · apply corresponds_forEach h
    intro c c' hc
    obtain ⟨hash', rfl, -⟩ := hc
    exact same_of_uses (uses_tryCatch ((uses_perform _).mpr rfl) fun _ => trivial)

theorem same_handle (r : Request) :
    Same env rename (handle env r) (handle env (r.renamed rename)) := by
  have hmap : ∀ {α : Type} {p p' : AuthProg α} (g : α → Response), Same env rename p p' →
      Same env rename (p.bind fun a => .ret (g a)) (p'.bind fun a => .ret (g a)) := by
    intro α p p' g h
    exact corresponds_bind h fun a a' ha => .ret (congrArg g ha)
  cases r with
  | register email password ip ua => exact hmap _ (same_register email password ip ua)
  | login email password ip ua => exact hmap _ (same_login email password ip ua)
  | refreshToken raw => exact hmap _ (same_refreshToken raw)
  | validateToken token => exact hmap _ (same_validateToken token)
  | forgotPassword email ip => exact hmap _ (same_forgotPassword email ip)
  | resetPassword raw newPassword ip => exact hmap _ (same_resetPassword raw newPassword ip)
  | lockAccount u reason duration admin => exact hmap _ (same_lockAccount u reason duration admin)
  | unlockAccount u admin => exact hmap _ (same_unlockAccount u admin)
  | banUser u reason admin => exact hmap _ (same_banUser u reason admin)
  | assignRole u role assignedBy => exact hmap _ (same_assignRole u role assignedBy)
  | revokeRole u role revokedBy => exact hmap _ (same_revokeRole u role revokedBy)
  | getUserRoles u => exact hmap _ (same_findById trivial (fun _ => trivial) fun _ _ => rfl)
  | unlockExpiredLockouts => exact hmap _ same_handleUnlock
  | logout token raw ip ua =>
    refine hmap _ (same_of_uses ?_)
    exact uses_logout_of_tacit token raw ip ua (fun s hs => hashless_of_blind (blind_of_tacit hs))
      (fun _ _ _ => rfl) (fun _ _ => rfl) (fun _ _ _ => rfl) fun _ _ => rfl
  | introspect token => exact hmap _ (same_of_uses (uses_introspect_of token rfl fun _ => rfl))
  | deleteCredentials u =>
    refine hmap _ (same_of_uses (uses_perform_bind rfl fun deleted => ?_))
    exact uses_bind hashless_publish fun _ => (uses_perform _).mpr rfl
  | getAllRoles => exact hmap _ (same_of_uses ((uses_perform _).mpr rfl))
  | revokeToken u reason =>
    cases u with
    | none => exact .ret rfl
    | some u => exact hmap _ (same_of_uses hashless_revokeAll)
  | revokeAllTokens u reason => exact hmap _ (same_of_uses hashless_revokeAll)
  | revokeSession id =>
    exact hmap _ (same_of_uses (uses_perform_bind rfl fun _ => (uses_perform _).mpr rfl))
  | getActiveSessions u =>
    refine hmap _ (same_of_uses (uses_bind ?_ fun _ => trivial))
    exact uses_perform_bind rfl fun _ => (uses_perform _).mpr rfl
  | cleanupRefreshTokens | cleanupPasswordResets =>
    refine hmap _ (same_of_uses (uses_tryCatch ?_ fun _ => trivial))
    exact uses_bind (uses_perform_bind rfl fun _ => (uses_perform _).mpr rfl) fun _ => trivial

/-! ## Runs -/

theorem storable_renamed (headers : Headers) (route : Route) {s s' : Stmt}
    {B : s.Reply → s'.Reply → Prop} (h : Renamed env rename s s' B) :
    (route.renamed rename).storable env headers s' = route.storable env headers s := by
  cases h with
  | hashless s hs =>
    cases route
    case register | login | resetPassword => cases s <;> rfl
    all_goals rfl
  | findById | findByEmail | findLocked =>
    cases route
    case register | login | resetPassword => rfl
    all_goals rfl
  | hash | verify | create | update =>
    cases route
    case revokeToken userId reason => rcases userId with _ | (_ | _) <;> rfl
    case revokeAllTokens userId reason => cases userId <;> rfl
    case getActiveSessions userId => cases userId <;> rfl
    case revokeSession sessionId => cases sessionId <;> rfl
    case getUserRoles userId => cases userId <;> rfl
    case unlockAccount userId => cases userId <;> rfl
    case deleteCredentials userId => cases userId <;> rfl
    all_goals rfl

/-- PostgreSQL refuses nothing because of a password. -/
theorem refusal_renamed (x : HttpRequest) {s s' : Stmt} {B : s.Reply → s'.Reply → Prop}
    (h : Renamed env rename s s' B) :
    x.refusal env s = HttpRequest.refusal env { x with route := x.route.renamed rename } s' := by
  obtain ⟨headers, ip, route⟩ := x
  have hstorable := storable_renamed headers route h
  have hgeneral : (if route.storable env headers s then none else some Exn.dataException) =
      if (route.renamed rename).storable env headers s' then none else some Exn.dataException := by
    rw [hstorable]
  cases route
  case logout =>
    unfold HttpRequest.refusal
    cases h
    case hashless => rfl
    all_goals cases headers.authorization <;> rfl
  all_goals exact hgeneral

theorem request_renamed (env : Env) (rename : String → String) (x : HttpRequest) :
    HttpRequest.request env { x with route := x.route.renamed rename } =
      (x.request env).renamed rename := by
  obtain ⟨headers, ip, route⟩ := x
  cases route <;> rfl

theorem same_program (env : Env) (rename : String → String) (a : Activity) :
    Prog.Corresponds (Pairing.refusable (Renamed env rename)) Eq (a.program env)
      ((a.renamed rename).program env) := by
  cases a with
  | pass n => exact .ret rfl
  | job j =>
    have hsame : Same env rename (handle env j.request) (handle env j.request) := by
      have hhandle : Same env rename _ _ := same_handle j.request
      cases j <;> exact hhandle
    exact corresponds_submit hsame fun _ _ _ _ => rfl
  | http x =>
    show Prog.Corresponds _ _ ((handle env (x.request env)).submit (x.refusal env)) _
    have hsame : Same env rename _ _ := same_handle (x.request env)
    rw [← request_renamed] at hsame
    exact corresponds_submit hsame fun s s' B h => refusal_renamed x h

/-- Passwords are secret: with every password that a client sends replaced by another one, any schedule
of requests and jobs is answered alike and leaves the same events, audit rows, tokens and rows, but for
the hashes, which verify alike. -/
theorem passwords_secret {ι : Type} [DecidableEq ι] (hrename : Renaming env rename)
    (h : UpToHashes env rename w w') (acts : ι → Activity) (ls : List (Label ι)) :
    let run := (answering env acts w).runs (World.machine env).refusable ls
    let run' := (answering env (fun i => (acts i).renamed rename) w').runs
      (World.machine env).refusable ls
    (∀ i, run'.result? i = run.result? i) ∧ UpToHashes env rename run.world run'.world := by
  intro run run'
  have hstart : Pool.Corresponds (Pairing.refusable (Renamed env rename)) (UpToHashes env rename)
      (answering env acts w) (answering env (fun i => (acts i).renamed rename) w') :=
    ⟨h, fun i => same_program env rename (acts i)⟩
  have hruns := Pool.corresponds_runs (respects_refusable (respects_renamed hrename))
    (fun n _ _ hw => hw.later n) hstart ls
  exact ⟨hruns.result, hruns.world⟩

/-- One login with the registered password and one with another, in both runs. -/
theorem passwords_secret_login :
    let headers : Headers := ⟨none, none, none, none, .token .malformed⟩
    let rename : String → String := fun password => "!" ++ password
    let acts : Option Bool → Activity
      | none => .http (registration none)
      | some true => .http ⟨headers, none, .login "a@x" "p"⟩
      | some false => .http ⟨headers, none, .login "a@x" "q"⟩
    let ls : List (Label (Option Bool)) :=
      List.replicate 13 (.run none) ++ List.replicate 6 (.run (some false)) ++
        List.replicate 16 (.run (some true))
    let w := World.initial .empty 0 0
    let run := (answering Env.plain acts w).runs (World.machine Env.plain).refusable ls
    let run' := (answering Env.plain (fun i => (acts i).renamed rename) w).runs
      (World.machine Env.plain).refusable ls
    run.result? (some false) =
        some (.error (.unauthorized ErrorMessages.AUTH_INVALID_CREDENTIALS)) ∧
      (run.result? (some true)).any (fun result => result matches .ok _) = true ∧
      run.world.credentials.rows.map (·.passwordHash) = ["$argon2p"] ∧
      run'.world.credentials.rows.map (·.passwordHash) = ["$argon2!p"] ∧
      ∀ i, run'.result? i = run.result? i := by
  intro headers rename acts ls w run run'
  have hrename : Renaming Env.plain rename := by
    refine ⟨fun p q h => ?_, hashLibraries_plain, fun password salt => ⟨?_, ?_⟩⟩
    · exact (String.append_right_inj "!").mp h
    · intro h
      cases h
    · intro h
      cases h
  have hworlds : UpToHashes Env.plain rename w w := ⟨rfl, .nil⟩
  have hsecret := passwords_secret hrename hworlds acts ls
  exact ⟨by decide +kernel, by decide +kernel, by decide +kernel, by decide +kernel, hsecret.1⟩

end Auth
