import AuthService.AccessTokens
import AuthService.Resumption.Rely

/-!
# AuthService.Deletion

`deleteCredentials` among any number of concurrent requests, in flight or still to come.

* `Gone`          — the user's id was given out, and no table has a row of the user; every statement of
  every request keeps it so (`gone_exec`).
* `Stmt.inserts?` — the digest and the user of an insert; `tokenDraw` — a monitor of the raw token
  that a thread has drawn and not yet inserted.
* `IssuedOnce`    — a raw token is inserted for one user only, so a deleted user's token finds no row.
* `deletion_is_final` — what the other requests can still do about a deleted user.
-/

namespace Auth

open Relational Resumption Prog

variable {env : Env} {w : World} {u : Nat}

/-! ## Users that are gone -/

structure Gone (u : Nat) (w : World) : Prop where
  given_out : u < w.supply
  account : w.account u = none
  no_session : ∀ t ∈ w.refreshTokens.rows, t.userId ≠ u
  no_reset : ∀ t ∈ w.passwordResetTokens.rows, t.userId ≠ u

theorem Gone.not_hasUser (h : Gone u w) : w.hasUser u = false := by
  cases hu : w.hasUser u with
  | false => rfl
  | true =>
    obtain ⟨c, hc⟩ := World.hasUser_iff.mp hu
    rw [h.account] at hc
    cases hc

/-- The id is not given out again, and a foreign key keeps every insert out. -/
theorem gone_exec (s : Stmt) (h : Gone u w) : Gone u (World.exec env s w).2 := by
  constructor
  · exact Nat.lt_of_lt_of_le h.given_out (World.exec_supply env s w)
  · rcases World.account_none_exec env s h.account with hnone | ⟨_, _, _, -, hsupply, -⟩
    · exact hnone
    · exact absurd hsupply (Nat.ne_of_gt h.given_out)
  · intro t ht
    rcases World.exec_source ht with ⟨t₀, ht₀, rfl⟩ | ⟨data, -, rfl, -, hu⟩
    · rw [(s.evolves_onRefreshToken t₀).userId_eq]
      exact h.no_session t₀ ht₀
    · rintro rfl
      rw [show (World.newRefreshToken w.supply data).userId = data.userId from rfl] at h
      rw [h.not_hasUser] at hu
      cases hu
  · intro t ht
    rcases World.exec_resetTokens ht with ⟨t₀, ht₀, hsame, -⟩ | ⟨userId, _, _, -, rfl, -, hu⟩
    · rw [hsame.2.1]
      exact h.no_reset t₀ ht₀
    · rintro rfl
      rw [h.not_hasUser] at hu
      cases hu

/-- The statement that deletes the user, and the two cascades. -/
theorem gone_deleteCredential (env : Env) (hu : u < w.supply) :
    Gone u (World.exec env (.deleteCredential u) w).2 := by
  refine ⟨hu, ?_, ?_, ?_⟩
  · refine List.find?_eq_none.mpr fun c hc => ?_
    simpa using (Table.mem_deleteWhere.mp hc).2
  · intro t ht
    simpa using (Table.mem_deleteWhere.mp ht).2
  · intro t ht
    simpa using (Table.mem_deleteWhere.mp ht).2

/-- A second deletion of a user deletes nothing. -/
theorem exec_deleteCredential_gone (env : Env) (h : Gone u w) :
    (World.exec env (.deleteCredential u) w).2.credentials = w.credentials ∧
      (World.exec env (.deleteCredential u) w).2.refreshTokens = w.refreshTokens ∧
      (World.exec env (.deleteCredential u) w).2.passwordResetTokens = w.passwordResetTokens := by
  refine ⟨Table.deleteWhere_none fun c hc => ?_, Table.deleteWhere_none fun t ht => ?_,
    Table.deleteWhere_none fun t ht => ?_⟩
  · exact Table.find?_none h.account c hc
  · exact decide_eq_false (h.no_session t ht)
  · exact decide_eq_false (h.no_reset t ht)

/-! ## Raw tokens -/

/-- The digest and the user of an insert into one of the token tables. -/
def Stmt.inserts? : Stmt → Option (TokenHash × Nat)
  | .createRefreshToken data => some (data.tokenHash, data.userId)
  | .createPasswordResetToken userId tokenHash _ => some (tokenHash, userId)
  | _ => none

/-- The raw token that the thread has drawn and not yet inserted. -/
def tokenDraw : Monitor sig (Option Nat) where
  next drawn s r :=
    match s, r with
    | .uuidv4, .ok raw => some raw
    | .createRefreshToken _, _ => none
    | .createPasswordResetToken _ _ _, _ => none
    | _, _ => drawn
  allowed drawn s := ∀ tokenHash userId, s.inserts? = some (tokenHash, userId) →
    drawn.map hashToken = some tokenHash

/-- Started in any phase, the program inserts the raw tokens only that it has drawn itself. -/
def Draws {α : Type} (p : AuthProg α) : Prop := ∀ drawn, tokenDraw.Conforms (fun _ _ => True) drawn p

theorem draws_of_uses {α : Type} {p : AuthProg α} (hp : p.Uses fun s : Stmt => s.inserts? = none) :
    Draws p :=
  Monitor.tracks_of_uses hp fun _ s hs tokenHash userId heq => by rw [hs] at heq; cases heq

theorem draws_bind {α β : Type} {p : AuthProg α} {f : α → AuthProg β} (hp : Draws p)
    (hf : ∀ a, Draws (f a)) : Draws (p.bind f) :=
  Monitor.tracks_bind hp hf

theorem inserts?_of_quiet {s : Stmt} (h : s.quiet = true) : s.inserts? = none := by
  cases s <;> first | rfl | cases h

theorem draws_query {s : Stmt} (hs : s.inserts? = none) : Draws (query s) := by
  refine draws_of_uses ?_
  unfold query
  exact (uses_perform _).mpr hs

theorem draws_perform_bind {α : Type} {s : Stmt} {f : s.Reply → AuthProg α} (hs : s.inserts? = none)
    (hf : ∀ a, Draws (f a)) : Draws ((query s).bind f) :=
  draws_bind (draws_query hs) hf

theorem draws_generateRefreshToken (userId : Nat)
    (deviceFingerprint ipAddress userAgent : Option String) :
    Draws (TokenService.generateRefreshToken env userId deviceFingerprint ipAddress userAgent) := by
  intro drawn
  unfold TokenService.generateRefreshToken RefreshTokenRepository.create
  simp only [bind_eq, bind_assoc]
  refine Monitor.conforms_perform_bind (by simp [tokenDraw, Stmt.inserts?]) (fun raw => ?_)
    fun _ => trivial
  refine Monitor.conforms_perform_bind (by simp [tokenDraw, Stmt.inserts?]) (fun now => ?_)
    fun _ => trivial
  refine Monitor.conforms_perform_bind (by simp [tokenDraw, Stmt.inserts?]) (fun issuedAt => ?_)
    fun _ => trivial
  refine Monitor.conforms_perform_bind ?_ (fun row => trivial) fun _ => trivial
  intro tokenHash userId heq
  cases heq
  rfl

/-! ## Every request inserts tokens of its own -/

theorem draws_registerSession (c : UserCredential) (ipAddress userAgent : Option String) :
    Draws (AuthService.registerSession env c ipAddress userAgent) := by
  unfold AuthService.registerSession
  refine draws_perform_bind rfl fun accessToken => ?_
  refine draws_bind (draws_generateRefreshToken _ _ _ _) fun pair => draws_of_uses ?_
  refine uses_bind (uses_enforceMaxSessions (fun _ => inserts?_of_quiet) fun _ _ => rfl) fun _ => ?_
  refine uses_bind (uses_publish rfl fun _ => rfl) fun _ => ?_
  exact uses_perform_bind rfl fun _ => trivial

theorem draws_register (email password : String) (ipAddress userAgent : Option String) :
    Draws (AuthService.register env email password ipAddress userAgent) := by
  unfold AuthService.register
  refine draws_perform_bind rfl fun existing => ?_
  cases existing with
  | some c => exact draws_of_uses trivial
  | none =>
    refine draws_bind ?_ fun c => draws_registerSession c ipAddress userAgent
    exact draws_perform_bind rfl fun _ => draws_query rfl

theorem draws_loginVerify (c : UserCredential) (email password : String)
    (ipAddress userAgent : Option String) :
    Draws (AuthService.loginVerify env c email password ipAddress userAgent) := by
  unfold AuthService.loginVerify
  refine draws_perform_bind rfl fun valid => ?_
  split
  · unfold AuthService.loginSucceeded
    refine draws_perform_bind rfl fun _ => ?_
    refine draws_bind (draws_perform_bind rfl fun _ => draws_query rfl)
      fun _ => ?_
    refine draws_perform_bind rfl fun accessToken => ?_
    refine draws_bind (draws_generateRefreshToken _ _ _ _) fun pair => draws_of_uses ?_
    refine uses_bind (uses_enforceMaxSessions (fun _ => inserts?_of_quiet) fun _ _ => rfl)
      fun _ => ?_
    refine uses_bind (uses_publish rfl fun _ => rfl) fun _ => ?_
    exact uses_perform_bind rfl fun _ => trivial
  · exact draws_of_uses (uses_loginFailed c email ipAddress userAgent
      (fun _ => inserts?_of_quiet) rfl (fun _ => rfl) fun _ => rfl)

theorem draws_login (email password : String) (ipAddress userAgent : Option String) :
    Draws (AuthService.login env email password ipAddress userAgent) := by
  refine login_induction (fun s f hs hf => draws_perform_bind ?_ hf)
    (fun _ _ => draws_perform_bind rfl fun _ => draws_of_uses trivial) (fun _ => draws_of_uses trivial)
    fun c => draws_loginVerify c email password ipAddress userAgent
  cases s <;> first | rfl | cases hs

theorem draws_rotate (t : RefreshToken) (ipAddress userAgent : Option String) :
    Draws (TokenService.rotate env t ipAddress userAgent) := by
  unfold TokenService.rotate
  refine draws_bind (draws_perform_bind rfl fun _ => draws_query rfl)
    fun _ => ?_
  refine draws_bind (draws_generateRefreshToken _ _ _ _) fun pair => draws_of_uses ?_
  refine uses_perform_bind rfl fun _ => ?_
  exact uses_bind (uses_perform_bind rfl fun _ => (uses_perform _).mpr rfl) fun _ => trivial

theorem draws_refreshToken (rawRefreshToken : Nat) :
    Draws (AuthController.refreshToken env rawRefreshToken) := by
  unfold AuthController.refreshToken
  refine draws_bind ?_ fun result => draws_of_uses
    (uses_issueAccessToken result (fun _ => rfl) fun _ _ _ => rfl)
  unfold TokenService.refreshTokens
  refine draws_perform_bind rfl fun existing? => ?_
  cases existing? with
  | none => exact draws_of_uses trivial
  | some t =>
    simp only
    split
    · exact draws_of_uses (uses_bind (uses_revokeAllUserTokens rfl fun _ => rfl) fun _ => trivial)
    · refine draws_perform_bind rfl fun now => ?_
      split
      · exact draws_of_uses trivial
      · exact draws_rotate t none none

theorem draws_forgotPassword (email : String) (ipAddress : Option String) :
    Draws (AuthService.forgotPassword env email ipAddress) := by
  unfold AuthService.forgotPassword
  refine draws_perform_bind rfl fun user? => ?_
  cases user? with
  | none => exact draws_of_uses trivial
  | some user =>
    intro drawn
    refine Monitor.conforms_perform_bind (by simp [tokenDraw, Stmt.inserts?]) (fun raw => ?_)
      fun _ => trivial
    refine Monitor.conforms_perform_bind (by simp [tokenDraw, Stmt.inserts?]) (fun now => ?_)
      fun _ => trivial
    refine Monitor.conforms_perform_bind (by simp [tokenDraw, Stmt.inserts?]) (fun _ => ?_)
      fun _ => trivial
    refine Monitor.conforms_perform_bind ?_ (fun row => ?_) fun _ => trivial
    · intro tokenHash userId heq
      cases heq
      rfl
    · refine draws_of_uses ?_ _
      exact uses_bind (uses_publish rfl fun _ => rfl) fun _ => (uses_perform _).mpr rfl

theorem inserts?_of_plain {s : Stmt} (h : s.plain = true) : s.inserts? = none := by
  cases s <;> first | rfl | cases h

theorem draws_handle (r : Request) : Draws (handle env r) := by
  cases r
  case register => exact draws_bind (draws_register _ _ _ _) fun _ => draws_of_uses trivial
  case login => exact draws_bind (draws_login _ _ _ _) fun _ => draws_of_uses trivial
  case refreshToken => exact draws_bind (draws_refreshToken _) fun _ => draws_of_uses trivial
  case forgotPassword => exact draws_bind (draws_forgotPassword _ _) fun _ => draws_of_uses trivial
  all_goals
    exact draws_of_uses ((uses_handle _).mono fun s hs => inserts?_of_plain (plain_of_footprint rfl hs))

/-! ## A raw token is inserted once -/

section Serving

variable {ι : Type} [DecidableEq ι] {req : ι → Request} {roles : Table Role} {supply : Nat} {now : Int}
  {q : Pool sig World ι fun _ => Response}

/-- The raw token that thread `i` holds. -/
def drawn (q : Pool sig World ι fun _ => Response) (i : ι) : Option Nat :=
  q.phase (fun _ => tokenDraw) (fun _ => none) i

/-- A row with the digest of `raw` has been inserted for user `u`. -/
def IssuedTo (q : Pool sig World ι fun _ => Response) (raw u : Nat) : Prop :=
  ∃ e ∈ q.log, e.stmt.inserts? = some (hashToken raw, u)

structure IssuedOnce (q : Pool sig World ι fun _ => Response) : Prop where
  drawn_lt : ∀ i raw, drawn q i = some raw → raw < q.world.supply
  drawn_inj : ∀ i j raw, drawn q i = some raw → drawn q j = some raw → i = j
  issued_lt : ∀ raw u, IssuedTo q raw u → raw < q.world.supply
  issued_ne : ∀ raw u i, IssuedTo q raw u → drawn q i ≠ some raw
  owner : ∀ raw u u', IssuedTo q raw u → IssuedTo q raw u' → u = u'
  sessions : ∀ t ∈ q.world.refreshTokens.rows, IssuedTo q t.tokenHash.preimage t.userId
  resets : ∀ t ∈ q.world.passwordResetTokens.rows, IssuedTo q t.tokenHash.preimage t.userId

variable {i : ι} {s : Stmt} {k : Except Exn s.Reply → AuthProg Response}

theorem issued_step (hp : q.prog i = .call s k) {raw u : Nat} :
    IssuedTo (q.step (World.machine env) (.run i)) raw u ↔
      s.inserts? = some (hashToken raw, u) ∨ IssuedTo q raw u := by
  rw [Pool.step_call hp]
  simp [IssuedTo]

/-- A raw token in hand was in hand before and is not being inserted, or it is drawn right now. -/
theorem drawn_step (hI : IssuedOnce q) (hp : q.prog i = .call s k)
    (ha : tokenDraw.allowed (drawn q i) s) {j : ι} {raw : Nat}
    (h : drawn (q.step (World.machine env) (.run i)) j = some raw) :
    (drawn q j = some raw ∧ ∀ u, s.inserts? ≠ some (hashToken raw, u)) ∨
      raw = q.world.supply ∧ j = i ∧ s = .uuidv4 := by
  by_cases hij : j = i
  · subst hij
    unfold drawn at h
    rw [phase_step_self hp] at h
    cases s
    case uuidv4 => cases h; exact .inr ⟨rfl, rfl, rfl⟩
    case createRefreshToken | createPasswordResetToken => cases h
    all_goals exact .inl ⟨h, fun u hu => by cases hu⟩
  · unfold drawn at h
    rw [phase_step_other hij] at h
    refine .inl ⟨h, fun u hu => hij ?_⟩
    have hheld := ha _ _ hu
    obtain ⟨raw', hraw', heq⟩ := Option.map_eq_some_iff.mp hheld
    cases heq
    exact hI.drawn_inj j i raw h hraw'

theorem issuedOnce_step (hI : IssuedOnce q) (hp : q.prog i = .call s k)
    (ha : tokenDraw.allowed (drawn q i) s) :
    IssuedOnce (q.step (World.machine env) (.run i)) := by
  have hworld : (q.step (World.machine env) (.run i)).world = (World.exec env s q.world).2 :=
    Pool.world_step hp
  have hsupply := World.exec_supply env s q.world
  have hinserted : ∀ {raw u : Nat}, s.inserts? = some (hashToken raw, u) → drawn q i = some raw := by
    intro raw u hs
    obtain ⟨raw', hraw', heq⟩ := Option.map_eq_some_iff.mp (ha _ _ hs)
    cases heq
    exact hraw'
  constructor
  · intro j raw h
    rw [hworld]
    rcases drawn_step hI hp ha h with ⟨hj, -⟩ | ⟨rfl, -, rfl⟩
    · exact Nat.lt_of_lt_of_le (hI.drawn_lt j raw hj) hsupply
    · exact Nat.lt_succ_self _
  · intro j l raw hj hl
    rcases drawn_step hI hp ha hj with ⟨hj', -⟩ | ⟨rfl, rfl, -⟩
    · rcases drawn_step hI hp ha hl with ⟨hl', -⟩ | ⟨rfl, -, -⟩
      · exact hI.drawn_inj j l raw hj' hl'
      · exact absurd (hI.drawn_lt j _ hj') (Nat.lt_irrefl _)
    · rcases drawn_step hI hp ha hl with ⟨hl', -⟩ | ⟨-, rfl, -⟩
      · exact absurd (hI.drawn_lt l _ hl') (Nat.lt_irrefl _)
      · rfl
  · intro raw u h
    rw [hworld]
    rcases (issued_step hp).mp h with hs | h
    · exact Nat.lt_of_lt_of_le (hI.drawn_lt i raw (hinserted hs)) hsupply
    · exact Nat.lt_of_lt_of_le (hI.issued_lt raw u h) hsupply
  · intro raw u j h hj
    rcases drawn_step hI hp ha hj with ⟨hj', hne⟩ | ⟨rfl, -, rfl⟩
    · rcases (issued_step hp).mp h with hs | h
      · exact hne u hs
      · exact hI.issued_ne raw u j h hj'
    · rcases (issued_step hp).mp h with hs | h
      · cases hs
      · exact absurd (hI.issued_lt _ u h) (Nat.lt_irrefl _)
  · intro raw u u' h h'
    rcases (issued_step hp).mp h with hs | hu
    · rcases (issued_step hp).mp h' with hs' | hu'
      · rw [hs] at hs'
        cases hs'
        rfl
      · exact absurd (hinserted hs) (hI.issued_ne raw u' i hu')
    · rcases (issued_step hp).mp h' with hs' | hu'
      · exact absurd (hinserted hs') (hI.issued_ne raw u i hu)
      · exact hI.owner raw u u' hu hu'
  · intro t ht
    rw [hworld] at ht
    refine (issued_step hp).mpr ?_
    rcases World.exec_source ht with ⟨t₀, ht₀, rfl⟩ | ⟨data, rfl, rfl, -, -⟩
    · have hevolves := s.evolves_onRefreshToken t₀
      rw [hevolves.userId_eq, hevolves.tokenHash_eq]
      exact .inr (hI.sessions t₀ ht₀)
    · exact .inl rfl
  · intro t ht
    rw [hworld] at ht
    refine (issued_step hp).mpr ?_
    rcases World.exec_resetTokens ht with ⟨t₀, ht₀, hsame, -⟩ | ⟨userId, tokenHash, _, rfl, rfl, -, -⟩
    · rw [hsame.2.1, hsame.2.2.1]
      exact .inr (hI.resets t₀ ht₀)
    · exact .inl rfl

theorem issuedOnce_serving
    (hr : Reach (World.machine env) (fun _ _ => True)
      (serving env req (World.initial roles supply now)) q) : IssuedOnce q := by
  have hconf : ∀ i, tokenDraw.Conforms (fun _ _ => True)
      (drawn (serving env req (World.initial roles supply now)) i) (handle env (req i)) := fun i =>
    draws_handle (req i) _
  refine hr.invariant_of_conforms hconf ?_ (fun q n hI _ => ?_) fun q i s k hI _ hp ha => ?_
  · constructor
    case sessions | resets => simp [serving, Pool.start, World.initial]
    all_goals simp [drawn, IssuedTo, Pool.phase, serving, Pool.start]
  · exact ⟨hI.drawn_lt, hI.drawn_inj, hI.issued_lt, hI.issued_ne, hI.owner, hI.sessions, hI.resets⟩
  · exact issuedOnce_step hI hp ha

/-! ## Requests that meet a deleted user -/

/-- A world without the user, and without a row for the raw token. -/
structure Void (u raw : Nat) (w : World) : Prop where
  gone : Gone u w
  no_session : ∀ t ∈ w.refreshTokens.rows, t.tokenHash ≠ hashToken raw
  no_reset : ∀ t ∈ w.passwordResetTokens.rows, t.tokenHash ≠ hashToken raw

theorem void_of_issued (hI : IssuedOnce q) (hgone : Gone u q.world) {raw : Nat}
    (howner : ∀ u', IssuedTo q raw u' → u' = u) : Void u raw q.world := by
  refine ⟨hgone, fun t ht heq => ?_, fun t ht heq => ?_⟩
  · have hissued := hI.sessions t ht
    rw [heq] at hissued
    exact hgone.no_session t ht (howner _ hissued)
  · have hissued := hI.resets t ht
    rw [heq] at hissued
    exact hgone.no_reset t ht (howner _ hissued)

variable {raw : Nat}

theorem ensures_refreshToken :
    (handle env (.refreshToken raw)).Ensures (World.machine env) (Void u raw)
      fun r => ∀ a, r ≠ .ok a := by
  refine ensures_bind (ensures_bind (ensures_perform_bind (fun w found hw hexec => ?_)
    fun w e hw _ => by simp))
  have hnone : w.refreshTokens.find? (fun t => t.tokenHash = hashToken raw) = none :=
    List.find?_eq_none.mpr fun t ht => by simpa using hw.no_session t ht
  cases hexec
  rw [hnone]
  intro a ha
  cases ha

theorem ensures_resetPassword {newPassword : String} {ipAddress : Option String} :
    (handle env (.resetPassword raw newPassword ipAddress)).Ensures (World.machine env)
      (Void u raw) fun r => ∀ a, r ≠ .ok a := by
  refine ensures_bind (ensures_perform_bind (fun w found hw hexec => ?_) fun w e hw _ => by simp)
  have hnone : w.passwordResetTokens.find? (fun t => t.tokenHash = hashToken raw) = none :=
    List.find?_eq_none.mpr fun t ht => by simpa using hw.no_reset t ht
  cases hexec
  rw [hnone]
  intro a ha
  cases ha

theorem verifyAccessToken_ok {token : Jwt} {at' : Int} {p : JwtPayload}
    (h : verifyAccessToken env token at' = .ok p) : token = .signed p := by
  cases token with
  | malformed => cases h
  | unsigned claims => cases h
  | signed payload =>
    simp only [verifyAccessToken] at h
    split at h
    · cases h
    · split at h
      · cases h
      · split at h <;> cases h
        rfl

theorem ensures_validateAccessToken {I : World → Prop} (token : Jwt) :
    (TokenService.validateAccessToken env token).Ensures (World.machine env) I
      fun r => ∃ v, r = .ok v ∧
        (v.valid = false ∨ ∃ p, v = ⟨true, some p, none⟩ ∧ token = .signed p) := by
  unfold TokenService.validateAccessToken BlacklistService.isBlacklisted
  refine ensures_perform_bind (fun w at' hw _ => ?_) fun w e hw hexec => by cases hexec
  cases hverify : verifyAccessToken env token at' with
  | error e => cases e <;> exact ⟨_, rfl, .inl rfl⟩
  | ok p =>
    refine ensures_bind (ensures_tryCatch fun w hw => ?_)
    show Ensures _ _ _ (if w.isBlacklisted p.jti then _ else _)
    split
    · exact ⟨_, rfl, .inl rfl⟩
    · exact ⟨_, rfl, .inr ⟨p, rfl, verifyAccessToken_ok hverify⟩⟩

theorem ensures_validateToken {token : Jwt} (hsub : (decodeToken token).bind (·.sub) = some u) :
    (handle env (.validateToken token)).Ensures (World.machine env) (Gone u)
      fun r => ∃ v, r = .ok (.validation v) ∧ v.valid = false := by
  refine ensures_bind (ensures_bind ((ensures_validateAccessToken token).mono fun r hr => ?_))
  obtain ⟨v, rfl, hv | ⟨p, rfl, rfl⟩⟩ := hr
  · simp only [hv]
    exact ⟨v, rfl, hv⟩
  · cases hsub
    refine ensures_tryCatch (ensures_perform_bind (fun w user? hw hexec => ?_)
      fun w e hw hexec => by cases hexec)
    have hnone : w.credentials.find? (fun c => c.id = p.sub) = none := hw.account
    cases hexec
    rw [hnone]
    exact ⟨_, rfl, rfl⟩

/-- Deleting again is answered as the first time. -/
theorem ensures_deleteCredentials (u : Nat) :
    (handle env (.deleteCredentials u)).Ensures (World.machine env) (fun _ => True)
      fun r => r = .ok .done := by
  refine ensures_bind (ensures_perform_bind (fun w deleted _ _ => ?_)
    fun w e _ hexec => by cases hexec)
  refine ensures_bind (ensures_perform_bind (fun w at' _ _ => ?_) fun w e _ hexec => by cases hexec)
  exact ensures_tryCatch fun w _ => fun w _ => rfl

/-! ## After the deletion -/

variable {p : Pool sig World ι fun _ => Response} {d : ι}

/-- A `deleteCredentials` that has begun has deleted the user, and nobody brings the user back. -/
theorem gone_reach (hu : u < p.world.supply) (hd : p.prog d = handle env (.deleteCredentials u))
    (hr : Reach (World.machine env) (fun _ _ => True) p q) :
    u < q.world.supply ∧ (q.prog d = handle env (.deleteCredentials u) ∨ Gone u q.world) := by
  refine hr.invariant_steps (I := fun q => u < q.world.supply ∧
    (q.prog d = handle env (.deleteCredentials u) ∨ Gone u q.world)) ⟨hu, .inl hd⟩ ?_ ?_
  · rintro q n - ⟨hlt, hgone⟩ -
    exact ⟨hlt, hgone.imp_right fun h => ⟨h.given_out, h.account, h.no_session, h.no_reset⟩⟩
  · rintro q i s k - ⟨hlt, hgone⟩ - hp
    rw [Pool.step_call hp]
    refine ⟨Nat.lt_of_lt_of_le hlt (World.exec_supply env s q.world), ?_⟩
    rcases hgone with hstart | hgone
    · by_cases hid : i = d
      · subst hid
        rw [hp] at hstart
        injection hstart with hs _
        subst hs
        exact .inr (gone_deleteCredential env hlt)
      · refine .inl ?_
        simpa [Function.update_of_ne (Ne.symm hid)] using hstart
    · exact .inr (gone_exec s hgone)

theorem gone_of_result (hu : u < p.world.supply)
    (hd : p.prog d = handle env (.deleteCredentials u))
    (hr : Reach (World.machine env) (fun _ _ => True) p q) {r : Except Exn Response}
    (hres : q.result? d = some r) : Gone u q.world := by
  rcases (gone_reach hu hd hr).2 with hstart | hgone
  · rw [Pool.result?, hstart] at hres
    cases hres
  · exact hgone

theorem gone_after (hgone : Gone u p.world)
    (hr : Reach (World.machine env) (fun _ _ => True) p q) : Gone u q.world := by
  refine hr.invariant_steps (I := fun q => Gone u q.world) hgone (fun q n _ h _ => ?_)
    fun q i s k _ h _ hp => ?_
  · exact ⟨h.given_out, h.account, h.no_session, h.no_reset⟩
  · rw [Pool.world_step hp]
    exact gone_exec s h

/-- The step of a request for user `u` that is gone leaves the tables of the user alone. -/
theorem tables_step (hgone : Gone u q.world)
    (huses : (q.prog i).Uses (Request.footprint (.deleteCredentials u))) :
    (q.step (World.machine env) (.run i)).world.credentials = q.world.credentials ∧
      (q.step (World.machine env) (.run i)).world.refreshTokens = q.world.refreshTokens ∧
      (q.step (World.machine env) (.run i)).world.passwordResetTokens =
        q.world.passwordResetTokens := by
  cases hp : q.prog i with
  | ret a => rw [Pool.step_finished (by simp [Pool.next?, hp])]; exact ⟨rfl, rfl, rfl⟩
  | throw e => rw [Pool.step_finished (by simp [Pool.next?, hp])]; exact ⟨rfl, rfl, rfl⟩
  | call s k =>
    rw [hp] at huses
    rw [Pool.world_step hp]
    have hs := huses.1
    cases s
    case deleteCredential id => cases hs; exact exec_deleteCredential_gone env hgone
    case createCredential | updateStatus | incrementFailedAttempts | resetFailedAttempts | lockAccount
        | unlockAccount | updateLastLogin | updatePassword | updateRoles | createRefreshToken
        | revokeToken | revokeAllByUserId | setReplacedBy | updateLastUsed | deleteExpiredAndRevoked
        | createPasswordResetToken | markAsUsed | deleteExpiredOrUsed | deleteResetTokensByUserId =>
      cases hs
    all_goals
      exact ⟨World.exec_credentials env _ _ rfl, World.exec_refreshTokens env _ _ rfl,
        World.exec_passwordResetTokens env _ _ rfl⟩

/-- What is left of user `u` to the requests `req`, in a run from `q` to `q'`. -/
structure FinallyGone (env : Env) (req : ι → Request) (u : Nat)
    (q q' : Pool sig World ι fun _ => Response) : Prop where
  no_session : ∀ t ∈ q'.world.refreshTokens.rows, t.userId ≠ u
  no_reset : ∀ t ∈ q'.world.passwordResetTokens.rows, t.userId ≠ u
  refresh_refused : ∀ i raw, req i = .refreshToken raw → q.prog i = handle env (req i) →
    IssuedTo q' raw u → ∀ a, q'.result? i ≠ some (.ok a)
  reset_refused : ∀ i raw newPassword ipAddress, req i = .resetPassword raw newPassword ipAddress →
    q.prog i = handle env (req i) → IssuedTo q' raw u → ∀ a, q'.result? i ≠ some (.ok a)
  token_rejected : ∀ i token r, req i = .validateToken token →
    (decodeToken token).bind (·.sub) = some u → q.prog i = handle env (req i) →
    q'.result? i = some r → ∃ v, r = .ok (.validation v) ∧ v.valid = false
  redeletion_succeeds : ∀ i r, req i = .deleteCredentials u → q'.result? i = some r → r = .ok .done
  redeletion_changes_nothing : ∀ i, req i = .deleteCredentials u →
    (q'.step (World.machine env) (.run i)).world.credentials = q'.world.credentials ∧
      (q'.step (World.machine env) (.run i)).world.refreshTokens = q'.world.refreshTokens ∧
      (q'.step (World.machine env) (.run i)).world.passwordResetTokens =
        q'.world.passwordResetTokens
  redeletion_served : (serve env (.deleteCredentials u) q'.world).1 = .ok .done ∧
    (serve env (.deleteCredentials u) q'.world).2.credentials = q'.world.credentials ∧
    (serve env (.deleteCredentials u) q'.world).2.refreshTokens = q'.world.refreshTokens ∧
    (serve env (.deleteCredentials u) q'.world).2.passwordResetTokens = q'.world.passwordResetTokens

/-- From the state where a `deleteCredentials` of a user has completed, on any run of any requests: no
token row of the user ever, no request started since then succeeds with a token of the user, and
deleting the user again succeeds and changes nothing. -/
theorem deletion_is_final (env : Env) (req : ι → Request) (roles : Table Role) (supply : Nat)
    (now : Int) {p q q' : Pool sig World ι fun _ => Response} {d : ι} {u : Nat}
    {r : Except Exn Response} (hd : req d = .deleteCredentials u)
    (hp : Reach (World.machine env) (fun _ _ => True)
      (serving env req (World.initial roles supply now)) p)
    (hu : u < p.world.supply) (hstart : p.prog d = handle env (req d))
    (hq : Reach (World.machine env) (fun _ _ => True) p q) (hres : q.result? d = some r)
    (hq' : Reach (World.machine env) (fun _ _ => True) q q') : FinallyGone env req u q q' := by
  rw [hd] at hstart
  have hgone : ∀ q₁, Reach (World.machine env) (fun _ _ => True) q q₁ → Gone u q₁.world :=
    fun q₁ h₁ => gone_after (gone_of_result hu hstart hq hres) h₁
  have hissued := issuedOnce_serving ((hp.trans hq).trans hq')
  -- a raw token of the user finds no row on the way from `q` to `q'`
  have hvoid : ∀ {raw : Nat}, IssuedTo q' raw u → ∀ q₁, Reach (World.machine env) (fun _ _ => True) q q₁ →
      Reach (World.machine env) (fun _ _ => True) q₁ q' → Void u raw q₁.world := by
    intro raw hraw q₁ h₁ h₂
    refine void_of_issued (issuedOnce_serving ((hp.trans hq).trans h₁)) (hgone q₁ h₁) fun u' hu' => ?_
    obtain ⟨e, he, hins⟩ := hu'
    exact hissued.owner raw u' u ⟨e, h₂.log_mono he, hins⟩ hraw
  have hfull : Reach (World.machine env) (fun _ _ => True)
      (serving env req (World.initial roles supply now)) q' := (hp.trans hq).trans hq'
  constructor
  · exact (hgone q' hq').no_session
  · exact (hgone q' hq').no_reset
  · intro i raw hi hfresh hraw a ha
    have hens : (q.prog i).Ensures (World.machine env) (Void u raw) fun r => ∀ a, r ≠ .ok a := by
      rw [hfresh, hi]
      exact ensures_refreshToken
    exact hq'.ensures_result (hvoid hraw) hens ha a rfl
  · intro i raw newPassword ipAddress hi hfresh hraw a ha
    have hens : (q.prog i).Ensures (World.machine env) (Void u raw) fun r => ∀ a, r ≠ .ok a := by
      rw [hfresh, hi]
      exact ensures_resetPassword
    exact hq'.ensures_result (hvoid hraw) hens ha a rfl
  · intro i token r hi hsub hfresh hr
    rw [hi] at hfresh
    exact hq'.ensures_result (fun q₁ h₁ _ => hgone q₁ h₁) (hfresh ▸ ensures_validateToken hsub) hr
  · intro i r hi hr
    have hens : (handle env (req i)).Ensures (World.machine env) (fun _ => True)
        fun r => r = .ok .done := by
      rw [hi]
      exact ensures_deleteCredentials u
    exact hfull.ensures_result (P := fun r => r = .ok .done) (fun _ _ _ => trivial) hens hr
  · intro i hi
    refine tables_step (hgone q' hq') (hfull.uses ?_)
    show Uses _ (handle env (req i))
    rw [hi]
    exact uses_handle _
  · exact ⟨rfl, exec_deleteCredential_gone env (hgone q' hq')⟩

end Serving

/-- A registration, its deletion, and a refresh with the token of the deleted user. -/
def departure : Fin 3 → Request
  | 0 => .register "a@x" "p" none none
  | 1 => .deleteCredentials 1
  | 2 => .refreshToken 3

/-- The registration has returned. -/
def arrived : Pool sig World (Fin 3) fun _ => Response :=
  (serving Env.plain departure (World.initial .empty 0 0)).runs (World.machine Env.plain)
    (List.replicate 13 (.run 0))

/-- The deletion has completed. -/
def departed : Pool sig World (Fin 3) fun _ => Response :=
  arrived.runs (World.machine Env.plain) (List.replicate 4 (.run 1))

theorem arrived_reach : Reach (World.machine Env.plain) (fun _ _ => True)
    (serving Env.plain departure (World.initial .empty 0 0)) arrived := .of_checked (by decide)

theorem departed_reach : Reach (World.machine Env.plain) (fun _ _ => True) arrived departed :=
  .of_checked (by decide)

/-- The refresh that comes after it presents the token that the user got. -/
theorem deletion_is_final_departed :
    departed.log.filterMap (fun e => e.stmt.inserts?) = [(hashToken 3, 1)] ∧
      FinallyGone Env.plain departure 1 departed
        (departed.runs (World.machine Env.plain) [.tick 1000, .run 2]) :=
  ⟨by decide,
    deletion_is_final (d := 1) (r := .ok .done) Env.plain departure .empty 0 0 rfl arrived_reach
      (by decide) rfl departed_reach rfl (Reach.of_checked (by decide))⟩

end Auth
