import AuthService.Deletion
import AuthService.Integrity

/-!
# AuthService.DeviceIdentity

What a session says about its client, from the login on and through its rotations. The refresh
endpoint passes neither address nor user agent on, so every rotation records a client without them.

* `Device`, `RefreshToken.origin` — the client columns of a row; they are written by its insert only.
* `tokenIssue` — a monitor of the raw token drawn last; a successful login and a successful rotation
  hand out the token of the one row that they insert (`Grown`).
* `Session.follow` — a session beside a run: its current raw token, and how often it was rotated.
* `session_keeps_device_iff` — the current token is listed with the device of the login: before the
  first rotation, or where the login had neither address nor user agent.
-/

namespace Auth

open Relational Resumption Prog

variable {env : Env} {w w₀ : World} {raw : Nat}

/-! ## The client columns -/

/-- What a session row records of the client. -/
structure Device where
  deviceFingerprint : Option String
  ipAddress : Option String
  userAgent : Option String
  deriving DecidableEq

/-- The device that `login` and `refreshTokens` record for an address and a user agent. -/
def Env.device (env : Env) (ipAddress userAgent : Option String) : Device :=
  ⟨some (env.generateDeviceFingerprint userAgent ipAddress), ipAddress, userAgent⟩

def RefreshToken.device (t : RefreshToken) : Device := ⟨t.deviceFingerprint, t.ipAddress, t.userAgent⟩

def SessionService.SessionInfo.device (s : SessionService.SessionInfo) : Device :=
  ⟨s.deviceFingerprint, s.ipAddress, s.userAgent⟩

/-- The user and the device that a row was inserted for. -/
def RefreshToken.origin (t : RefreshToken) : Nat × Device := (t.userId, t.device)

def NewRefreshToken.origin (data : NewRefreshToken) : Nat × Device :=
  (data.userId, ⟨data.deviceFingerprint, data.ipAddress, data.userAgent⟩)

/-- No statement rewrites the client columns of a row. -/
theorem origin_onRefreshToken (s : Stmt) (t : RefreshToken) : (s.onRefreshToken t).origin = t.origin := by
  unfold Stmt.onRefreshToken
  split
  · rename_i p f hs
    unfold Table.patchIf
    split
    · cases s
      case revokeToken | revokeAllByUserId | setReplacedBy | updateLastUsed => cases hs; rfl
      all_goals cases hs
    · rfl
  · rfl

/-! ## The rows of one request -/

/-- Since `w₀`: every row was there, or it has the digest of a raw token drawn since and an origin in
`N`. -/
structure Grown (w₀ : World) (N : Nat × Device → Prop) (drawn : Option Nat) (w : World) : Prop where
  supply : w₀.supply ≤ w.supply
  fresh : ∀ raw, drawn = some raw → w₀.supply ≤ raw ∧ raw < w.supply
  rows : ∀ t ∈ w.refreshTokens.rows,
    (∃ t₀ ∈ w₀.refreshTokens.rows, t₀.tokenHash = t.tokenHash ∧ t₀.origin = t.origin) ∨
      w₀.supply ≤ t.tokenHash.preimage ∧ N t.origin

variable {N : Nat × Device → Prop} {drawn drawn' : Option Nat}

theorem grown_refl (w : World) : Grown w N none w :=
  ⟨Nat.le_refl _, fun _ => nofun, fun t ht => .inl ⟨t, ht, rfl, rfl⟩⟩

theorem grown_exec {s : Stmt} (h : Grown w₀ N drawn w)
    (hinsert : ∀ data, s = .createRefreshToken data →
      drawn.map hashToken = some data.tokenHash ∧ N data.origin)
    (hdraw : ∀ raw, drawn' = some raw → drawn = some raw ∨ s = .uuidv4 ∧ raw = w.supply) :
    Grown w₀ N drawn' (World.exec env s w).2 := by
  have hle := World.exec_supply env s w
  constructor
  · exact Nat.le_trans h.supply hle
  · intro raw hraw
    rcases hdraw raw hraw with hold | ⟨rfl, rfl⟩
    · exact ⟨(h.fresh raw hold).1, Nat.lt_of_lt_of_le (h.fresh raw hold).2 hle⟩
    · exact ⟨h.supply, Nat.lt_succ_self _⟩
  · intro t' ht'
    rcases World.exec_source ht' with ⟨t, ht, rfl⟩ | ⟨data, rfl, rfl, -⟩
    · rw [(s.evolves_onRefreshToken t).tokenHash_eq, origin_onRefreshToken]
      exact h.rows t ht
    · obtain ⟨hhash, horigin⟩ := hinsert data rfl
      obtain ⟨raw, hraw, hhash⟩ := Option.map_eq_some_iff.mp hhash
      refine .inr ⟨?_, horigin⟩
      rw [show (World.newRefreshToken w.supply data).tokenHash = data.tokenHash from rfl, ← hhash]
      exact (h.fresh raw hraw).1

/-- Whatever a request is, its new rows have digests of raw tokens that it has drawn. -/
theorem grown_serve (r : Request) : ∃ drawn, Grown w (fun _ => True) drawn (serve env r w).2 := by
  have hstep : ∀ (drawn : Option Nat) (s : Stmt) (w' : World), Grown w (fun _ => True) drawn w' →
      tokenDraw.allowed drawn s →
      Grown w (fun _ => True) (tokenDraw.next drawn s (World.exec env s w').1) (World.exec env s w').2 := by
    intro drawn s w' h ha
    refine grown_exec h (fun data hs => ?_) fun raw hraw => ?_
    · subst hs
      exact ⟨ha _ _ rfl, trivial⟩
    · cases s
      case uuidv4 => cases hraw; exact .inr ⟨rfl, rfl⟩
      case createRefreshToken | createPasswordResetToken => cases hraw
      all_goals exact .inl hraw
  have hdraws : Draws (handle env r) := draws_handle r
  obtain ⟨drawn, -, h⟩ := (hdraws none).run (M := World.machine env) hstep (grown_refl w)
  exact ⟨drawn, h⟩

/-! ## Logins and rotations -/

/-- The raw token drawn last; an insert uses its digest, for an origin in `N`. -/
def tokenIssue (N : Nat × Device → Prop) : Monitor sig (Option Nat) where
  next drawn s r :=
    match s, r with
    | .uuidv4, .ok raw => some raw
    | _, _ => drawn
  allowed drawn s := ∀ data, s = .createRefreshToken data →
    drawn.map hashToken = some data.tokenHash ∧ N data.origin

/-- A response carries the raw token drawn last. -/
def handed (drawn : Option Nat) (r : Except Exn AuthResponse) : Prop :=
  ∀ response, r = .ok response → drawn = some response.refreshToken

def Stmt.drawsOrIssues : Stmt → Bool
  | .uuidv4 => true
  | .createRefreshToken _ => true
  | _ => false

theorem handed_error (drawn : Option Nat) (e : Exn) : handed drawn (.error e) := fun _ h => by cases h

theorem grown_tokenIssue {s : Stmt} (h : Grown w₀ N drawn w) (ha : (tokenIssue N).allowed drawn s) :
    Grown w₀ N ((tokenIssue N).next drawn s (World.exec env s w).1) (World.exec env s w).2 := by
  refine grown_exec h ha fun raw hraw => ?_
  cases s
  case uuidv4 => cases hraw; exact .inr ⟨rfl, rfl⟩
  all_goals exact .inl hraw

theorem issue_aside_bind {α : Type} {p : AuthProg α} {f : α → AuthProg AuthResponse}
    (hp : p.Uses fun s : Stmt => s.drawsOrIssues = false)
    (hf : ∀ a, (tokenIssue N).Conforms handed drawn (f a)) :
    (tokenIssue N).Conforms handed drawn (p.bind f) := by
  refine Monitor.conforms_uses_bind hp (fun s hs data heq => ?_) (fun s r hs => ?_) hf
    (handed_error drawn)
  · rw [heq] at hs
    cases hs
  · cases s
    case uuidv4 => cases hs
    all_goals rfl

theorem issue_generateRefreshToken_bind {userId : Nat}
    {deviceFingerprint ipAddress userAgent : Option String}
    {f : Nat × RefreshToken → AuthProg AuthResponse}
    (hN : N (userId, ⟨deviceFingerprint, ipAddress, userAgent⟩))
    (hf : ∀ pair, (tokenIssue N).Conforms handed (some pair.1) (f pair)) :
    (tokenIssue N).Conforms handed drawn
      ((TokenService.generateRefreshToken env userId deviceFingerprint ipAddress userAgent).bind f) := by
  have hother : ∀ (drawn : Option Nat) (s : Stmt), s.drawsOrIssues = false →
      (tokenIssue N).allowed drawn s := by
    rintro drawn s hs data rfl
    cases hs
  unfold TokenService.generateRefreshToken RefreshTokenRepository.create
  simp only [bind_eq, Prog.bind_assoc]
  refine Monitor.conforms_perform_bind (fun _ h => by cases h) (fun raw => ?_) (handed_error drawn)
  show (tokenIssue N).Conforms handed (some raw) _
  refine Monitor.conforms_perform_bind (hother _ _ rfl) (fun now => ?_) (handed_error _)
  refine Monitor.conforms_perform_bind (hother _ _ rfl) (fun issuedAt => ?_) (handed_error _)
  refine Monitor.conforms_perform_bind ?_ (fun row => hf (raw, row)) (handed_error _)
  rintro data heq
  cases heq
  exact ⟨rfl, hN⟩

theorem aside_publish {event : Int → DomainEvent} :
    (newDate.bind fun timestamp => EventService.safePublish (event timestamp)).Uses
      fun s : Stmt => s.drawsOrIssues = false :=
  uses_publish rfl fun _ => rfl

theorem issue_loginVerify (c : UserCredential) (email password : String)
    (ipAddress userAgent : Option String) :
    (tokenIssue fun o => o = (c.id, env.device ipAddress userAgent)).Conforms handed none
      (AuthService.loginVerify env c email password ipAddress userAgent) := by
  unfold AuthService.loginVerify
  refine issue_aside_bind ((uses_perform _).mpr rfl) fun valid => ?_
  cases valid with
  | true =>
    simp only [if_true]
    unfold AuthService.loginSucceeded
    refine issue_aside_bind ((uses_perform _).mpr rfl) fun _ => ?_
    refine issue_aside_bind (uses_perform_bind rfl fun _ => (uses_perform _).mpr rfl) fun _ => ?_
    refine issue_aside_bind ((uses_perform _).mpr rfl) fun accessToken => ?_
    refine issue_generateRefreshToken_bind rfl fun pair => ?_
    refine issue_aside_bind (uses_enforceMaxSessions_of rfl (fun _ => rfl) (fun _ => rfl)
      fun _ _ => rfl) fun _ => ?_
    refine issue_aside_bind aside_publish fun _ => ?_
    refine issue_aside_bind ((uses_perform _).mpr rfl) fun _ => ?_
    rintro response hok
    cases hok
    rfl
  | false =>
    simp only [Bool.false_eq_true, if_false]
    unfold AuthService.loginFailed
    refine issue_aside_bind ?_ fun n => ?_
    · refine uses_perform_bind rfl fun attempts? => ?_
      cases attempts? <;> trivial
    · refine issue_aside_bind aside_publish fun _ => ?_
      refine issue_aside_bind ?_ fun _ => ?_
      · unfold AuthService.lockOnBruteForce
        split
        · refine uses_perform_bind rfl fun _ => ?_
          refine uses_perform_bind rfl fun _ => ?_
          exact uses_bind aside_publish fun _ => uses_revokeAllUserTokens rfl fun _ => rfl
        · trivial
      · exact issue_aside_bind ((uses_perform _).mpr rfl) fun _ => handed_error _ _

/-- A rotation records the metadata that the controller passes on: none. -/
theorem issue_rotation (t : RefreshToken) :
    (tokenIssue fun o => o = (t.userId, env.device none none)).Conforms handed none
      ((TokenService.rotate env t none none).bind AuthController.issueAccessToken) := by
  unfold TokenService.rotate
  simp only [bind_eq, Prog.bind_assoc]
  refine issue_aside_bind (uses_perform_bind rfl fun _ => (uses_perform _).mpr rfl) fun _ => ?_
  refine issue_generateRefreshToken_bind rfl fun pair => ?_
  refine issue_aside_bind ((uses_perform _).mpr rfl) fun _ => ?_
  refine issue_aside_bind (uses_perform_bind rfl fun _ => (uses_perform _).mpr rfl) fun _ => ?_
  simp only [pure_eq, ret_bind]
  unfold AuthController.issueAccessToken
  refine issue_aside_bind ((uses_perform _).mpr rfl) fun credential? => ?_
  cases credential? with
  | none => exact handed_error _ _
  | some c =>
    refine issue_aside_bind ((uses_perform _).mpr rfl) fun accessToken => ?_
    rintro response hok
    cases hok
    rfl

theorem grown_of_conforms {p : AuthProg AuthResponse} (hp : (tokenIssue N).Conforms handed none p)
    (h : Grown w₀ N none w) {response : AuthResponse}
    (hok : (p.run (World.machine env) w).1 = .ok response) :
    Grown w₀ N (some response.refreshToken) (p.run (World.machine env) w).2 := by
  obtain ⟨drawn, hhanded, h⟩ := hp.run (J := Grown w₀ N) (M := World.machine env)
    (fun drawn s w' h ha => grown_tokenIssue h ha) h
  rw [hhanded response hok] at h
  exact h

variable {email password : String} {ipAddress userAgent : Option String} {response : AuthResponse}

/-- A request that answers with a token pair is a program that returned one. -/
theorem run_ok_of_auth {p : AuthProg AuthResponse}
    (hok : ((p.bind fun a => .ret (Response.auth a)).run (World.machine env) w).1 =
      .ok (.auth response)) : (p.run (World.machine env) w).1 = .ok response := by
  rw [run_bind] at hok
  rcases hrun : p.run (World.machine env) w with ⟨r, w'⟩
  rw [hrun] at hok
  cases r with
  | ok a => cases hok; rfl
  | error e => cases hok

/-- The session of a successful login is for its account and its client. -/
theorem grown_login
    (hok : (serve env (.login email password ipAddress userAgent) w).1 = .ok (.auth response)) :
    Grown w (fun o => o = (response.userId, env.device ipAddress userAgent))
      (some response.refreshToken) (serve env (.login email password ipAddress userAgent) w).2 := by
  have hlogin : (AuthService.login env email password ipAddress userAgent).run (World.machine env) w =
      (.ok response, (serve env (.login email password ipAddress userAgent) w).2) :=
    Prod.ext (run_ok_of_auth hok) (run_bind_ret _ _ _ _).symm
  cases hc : w.byEmail env email with
  | none =>
    obtain ⟨logs, hrun⟩ := run_login_unknown password ipAddress userAgent hc
    rw [hrun] at hlogin
    cases hlogin
  | some c =>
    cases hr : c.lockState.refusal w.now with
    | some e =>
      obtain ⟨logs, hrun⟩ := run_login_refused password ipAddress userAgent hc hr
      rw [hrun] at hlogin
      cases hlogin
    | none =>
      have hstart : Grown w (fun o => o = (c.id, env.device ipAddress userAgent)) none
          (if c.lockState.expired w.now then (World.exec env (.unlockAccount c.id) w).2 else w) := by
        split
        · exact grown_exec (grown_refl w) (fun _ => nofun) fun _ => nofun
        · exact grown_refl w
      rw [run_login_admitted hc hr] at hlogin
      rw [login_userId hc hr hok]
      have hgrown := grown_of_conforms (issue_loginVerify c email password ipAddress userAgent) hstart
        (congrArg Prod.fst hlogin)
      rw [hlogin] at hgrown
      exact hgrown

/-- A refresh that answers with a token pair has rotated the token that it was given. -/
theorem rotated_of_ok (hok : (serve env (.refreshToken raw) w).1 = .ok (.auth response)) :
    ∃ t, w.presented raw = some t ∧ t.revoked = false ∧ ¬ t.expiresAt < w.now := by
  cases hfound : w.presented raw with
  | none =>
    rw [serve_refreshToken_error (run_refreshTokens_unknown hfound)] at hok
    cases hok
  | some t =>
    cases hrev : t.revoked with
    | true =>
      rw [serve_refreshToken_error (run_refreshTokens_revoked hfound hrev)] at hok
      cases hok
    | false =>
      by_cases hexp : t.expiresAt < w.now
      · rw [serve_refreshToken_error (run_refreshTokens_expired hfound hrev hexp)] at hok
        cases hok
      · exact ⟨t, rfl, hrev, hexp⟩

/-- The session that a rotation leaves is for the same user, and for a client unknown. -/
theorem grown_rotation (hok : (serve env (.refreshToken raw) w).1 = .ok (.auth response)) :
    ∃ t, w.presented raw = some t ∧
      Grown w (fun o => o = (t.userId, env.device none none)) (some response.refreshToken)
        (serve env (.refreshToken raw) w).2 := by
  obtain ⟨t, ht, hrev, hexp⟩ := rotated_of_ok hok
  refine ⟨t, ht, ?_⟩
  rw [serve_refreshToken_rotates ht hrev hexp] at hok ⊢
  rw [run_bind_ret]
  exact grown_of_conforms (issue_rotation t) (grown_refl w) (run_ok_of_auth hok)

/-- The rows of a raw token that was drawn before are the rows it had. -/
theorem Grown.row_of_drawn {w' : World} (h : Grown w N drawn w') {raw : Nat} (hraw : raw < w.supply)
    {t : RefreshToken} (ht : t ∈ w'.refreshTokens.rows) (hhash : t.tokenHash = hashToken raw) :
    ∃ t₀ ∈ w.refreshTokens.rows, t₀.tokenHash = hashToken raw ∧ t₀.origin = t.origin := by
  rcases h.rows t ht with ⟨t₀, ht₀, hh, ho⟩ | ⟨hge, -⟩
  · exact ⟨t₀, ht₀, hh.trans hhash, ho⟩
  · rw [hhash] at hge
    exact absurd hraw (Nat.not_lt.mpr hge)

/-- The rows of the raw token that a response carries are new. -/
theorem Grown.row_of_handed {w' : World} (hI : Integrity env w)
    (h : Grown w N (some response.refreshToken) w') {t : RefreshToken}
    (ht : t ∈ w'.refreshTokens.rows) (hhash : t.tokenHash = hashToken response.refreshToken) :
    N t.origin := by
  rcases h.rows t ht with ⟨t₀, ht₀, hh, -⟩ | ⟨-, hN⟩
  · have hlt := hI.hash_lt t₀ ht₀
    rw [hh, hhash] at hlt
    exact absurd hlt (Nat.not_lt.mpr (h.fresh _ rfl).1)
  · exact hN

/-! ## A session and its rotations -/

structure Session where
  current : Nat
  rotations : Nat

/-- The session behind an action: a refresh with the current raw token that succeeds rotates it. -/
def Session.follow (env : Env) (w : World) : Action → Session → Session
  | .request (.refreshToken raw), s =>
    match (serve env (.refreshToken raw) w).1 with
    | .ok (.auth response) =>
      if raw = s.current then ⟨response.refreshToken, s.rotations + 1⟩ else s
    | _ => s
  | _, s => s

/-- What the rows of a session's current token say. -/
structure Session.Recorded (env : Env) (u : Nat) (d : Device) (s : Session) (w : World) : Prop where
  drawn : s.current < w.supply
  origin : ∀ t ∈ w.refreshTokens.rows, t.tokenHash = hashToken s.current →
    t.origin = (u, if s.rotations = 0 then d else env.device none none)

variable {u : Nat} {d : Device} {s : Session}

theorem Session.recorded_grown {w' : World} (h : s.Recorded env u d w) (hgrown : Grown w N drawn w') :
    s.Recorded env u d w' := by
  refine ⟨Nat.lt_of_lt_of_le h.drawn hgrown.supply, fun t ht hhash => ?_⟩
  obtain ⟨t₀, ht₀, hh, ho⟩ := hgrown.row_of_drawn h.drawn ht hhash
  rw [← ho]
  exact h.origin t₀ ht₀ hh

theorem Session.recorded_rotated (hI : Integrity env w) (h : s.Recorded env u d w)
    (hok : (serve env (.refreshToken s.current) w).1 = .ok (.auth response)) :
    Session.Recorded env u d ⟨response.refreshToken, s.rotations + 1⟩
      (serve env (.refreshToken s.current) w).2 := by
  obtain ⟨t, ht, hgrown⟩ := grown_rotation hok
  have huser : t.userId = u := congrArg Prod.fst (h.origin t (presented_mem ht).1 (presented_mem ht).2)
  refine ⟨(hgrown.fresh _ rfl).2, fun t' ht' hhash => ?_⟩
  rw [hgrown.row_of_handed hI ht' hhash, huser]
  rfl

theorem Session.recorded_act (hI : Integrity env w) (h : s.Recorded env u d w) (a : Action) :
    (Session.follow env w a s).Recorded env u d (act env w a) := by
  cases a with
  | pass n => exact ⟨h.drawn, h.origin⟩
  | request r =>
    obtain ⟨drawn, hgrown⟩ : ∃ drawn, Grown w (fun _ => True) drawn (serve env r w).2 :=
      grown_serve r
    have hkept : s.Recorded env u d (act env w (.request r)) := Session.recorded_grown h hgrown
    cases r
    case refreshToken raw =>
      simp only [Session.follow]
      split
      · rename_i response hok
        split
        · rename_i hraw
          subst hraw
          exact Session.recorded_rotated hI h hok
        · exact hkept
      · exact hkept
    all_goals exact hkept

/-- `getActiveSessions` lists a session with this id for this device. -/
def World.lists (env : Env) (w : World) (u sessionId : Nat) (d : Device) : Prop :=
  ∃ sessions, (serve env (.getActiveSessions u) w).1 = .ok (.sessions sessions) ∧
    ∃ s ∈ sessions, s.sessionId = sessionId ∧ s.device = d

theorem lists_iff {t : RefreshToken} (ht : t ∈ w.refreshTokens.rows) (hactive : t.active w.now = true) :
    w.lists env t.userId t.id d ↔ t.device = d := by
  have hserve : ∃ f : RefreshToken → SessionService.SessionInfo,
      (serve env (.getActiveSessions t.userId) w).1 = .ok (.sessions
        ((w.refreshTokens.select fun t' => t'.userId = t.userId && t'.active w.now).map f)) ∧
      ∀ t, (f t).sessionId = t.id ∧ (f t).device = t.device := ⟨_, rfl, fun _ => ⟨rfl, rfl⟩⟩
  obtain ⟨f, hserve, hf⟩ := hserve
  constructor
  · rintro ⟨sessions, hok, s, hs, hid, hd⟩
    rw [hserve] at hok
    cases hok
    obtain ⟨t', ht', rfl⟩ := List.mem_map.mp hs
    have heq : t' = t := Table.eq_of_key (List.mem_of_mem_filter ht') ht ((hf t').1.symm.trans hid)
    rw [← hd, (hf t').2, heq]
  · intro hd
    refine ⟨_, hserve, f t, List.mem_map.mpr ⟨t, ?_, rfl⟩, (hf t).1, (hf t).2.trans hd⟩
    exact List.mem_filter.mpr ⟨ht, by simp [hactive]⟩

/-- The current token of a session is listed with the device of the login as long as the session was
not rotated. A rotation keeps the device of a login only that has neither address nor user agent. -/
theorem session_keeps_device_iff (h : Reachable env w) {w₁ w' : World}
    (hlogin : serve env (.login email password ipAddress userAgent) w = (.ok (.auth response), w₁))
    (as : List Action) (hw' : w' = runs env w₁ as)
    (hs : s = record env (Session.follow env) w₁ ⟨response.refreshToken, 0⟩ as)
    {t : RefreshToken} (ht : w'.presented s.current = some t) (hactive : t.active w'.now = true) :
    w'.lists env response.userId t.id (env.device ipAddress userAgent) ↔
      s.rotations = 0 ∨ ipAddress = none ∧ userAgent = none := by
  have hgrown := grown_login (congrArg Prod.fst hlogin)
  have hreach : Reachable env (serve env (.login email password ipAddress userAgent) w).2 :=
    h.after [.request (.login email password ipAddress userAgent)]
  rw [hlogin] at hgrown hreach
  have hstart : Session.Recorded env response.userId (env.device ipAddress userAgent)
      ⟨response.refreshToken, 0⟩ w₁ :=
    ⟨(hgrown.fresh _ rfl).2, fun t ht hhash => hgrown.row_of_handed h.integrity ht hhash⟩
  have hrecorded := (record_invariant
    (I := fun w (s : Session) =>
      Reachable env w ∧ s.Recorded env response.userId (env.device ipAddress userAgent) w)
    (fun w s a hw => ⟨hw.1.after [a], Session.recorded_act hw.1.integrity hw.2 a⟩) ⟨hreach, hstart⟩ as).2
  rw [← hw', ← hs] at hrecorded
  have horigin := hrecorded.origin t (presented_mem ht).1 (presented_mem ht).2
  rw [← show t.userId = response.userId from congrArg Prod.fst horigin,
    lists_iff (presented_mem ht).1 hactive, show t.device = _ from congrArg Prod.snd horigin]
  by_cases hrot : s.rotations = 0
  · simp [hrot]
  · simp only [hrot, if_false, false_or]
    constructor
    · intro heq
      exact ⟨(congrArg Device.ipAddress heq).symm, (congrArg Device.userAgent heq).symm⟩
    · rintro ⟨rfl, rfl⟩
      rfl

/-- A login of the registered user, with the raw refresh token 6. -/
def loggedIn : World := (serve Env.plain (.login "a@x" "p" (some "192.0.2.1") (some "curl")) registered).2

def loginResponse : AuthResponse := ⟨.signed ⟨1, "a@x", ["USER"], .access, 5, 0, 900, "auth-service",
  "api-gateway"⟩, 6, 900, "Bearer", 1⟩

/-- The session of a rotation, with the raw refresh token 8. -/
def rotatedSession : RefreshToken :=
  ⟨9, 1, ⟨8⟩, 0, 604800000, false, none, none, some "|", none, none, some 0, none⟩

theorem serve_loggedIn :
    serve Env.plain (.login "a@x" "p" (some "192.0.2.1") (some "curl")) registered =
      (.ok (.auth loginResponse), loggedIn) := rfl

theorem session_keeps_device_iff_rotated :
    (runs Env.plain loggedIn [.request (.refreshToken 6)]).lists Env.plain 1 9
        (Env.plain.device (some "192.0.2.1") (some "curl")) ↔
      1 = 0 ∨ some "192.0.2.1" = none ∧ some "curl" = none :=
  session_keeps_device_iff (s := ⟨8, 1⟩) (t := rotatedSession) registered_reachable serve_loggedIn
    [.request (.refreshToken 6)] rfl rfl rfl rfl

/-- One rotation, and the session is listed without the client that logged in. -/
theorem rotation_forgets_device :
    ¬ ∀ (w w₁ : World) (email password ipAddress userAgent : String) (response : AuthResponse)
        (as : List Action) (t : RefreshToken), Reachable Env.plain w →
        serve Env.plain (.login email password (some ipAddress) (some userAgent)) w =
          (.ok (.auth response), w₁) →
        (runs Env.plain w₁ as).presented
          (record Env.plain (Session.follow Env.plain) w₁ ⟨response.refreshToken, 0⟩ as).current = some t →
        t.active (runs Env.plain w₁ as).now = true →
        (runs Env.plain w₁ as).lists Env.plain response.userId t.id
          (Env.plain.device (some ipAddress) (some userAgent)) := by
  intro h
  have hlists := h registered loggedIn "a@x" "p" "192.0.2.1" "curl" loginResponse
    [.request (.refreshToken 6)] rotatedSession registered_reachable serve_loggedIn rfl rfl
  have hrow : rotatedSession ∈
      (runs Env.plain loggedIn [.request (.refreshToken 6)]).refreshTokens.rows := by decide
  have hdevice := (lists_iff (t := rotatedSession) hrow rfl).mp hlists
  exact absurd hdevice (by decide)

end Auth
