import AuthService.Integrity
import AuthService.MaxSessions

/-!
# AuthService.RevocationRecords

What `revoked`, `revokedAt` and `revocationReason` of a refresh token say, once it is revoked.

* `KeepsRecords`  — every revoked row that is still there has kept its record.
* `SparesRecords` — no logout with, and no revocation of, a session that is revoked already.
* `held_exec`     — what one statement does to the record of a revoked row.
* `keepsRecords_act_iff` — one action keeps the records iff it spares them.
* `records_written_once` — so does a run of actions all of which spare them.

`revokeToken` has no guard like that of `revokeAllByUserId`. Rotation and eviction find a live row
first; `logout` and `revokeSession` do not look.
-/

namespace Auth

open Relational Resumption Prog

variable {env : Env} {w : World} {id : Nat} {r : Bool × Option Int × Option String}

def RefreshToken.record (t : RefreshToken) : Bool × Option Int × Option String :=
  (t.revoked, t.revokedAt, t.revocationReason)

def KeepsRecords (w w' : World) : Prop :=
  ∀ t ∈ w.refreshTokens.rows, t.revoked = true →
    ∀ t' ∈ w'.refreshTokens.rows, t'.id = t.id → t'.record = t.record

/-- The action revokes no revoked row, unless the row records this very revocation. -/
def SparesRecords (w : World) : Action → Prop
  | .request (.logout _ raw _ _) =>
    ∀ t, w.presented raw = some t → t.revoked = true → t.record = (true, some w.now, some "logout")
  | .request (.revokeSession sessionId) =>
    ∀ t ∈ w.refreshTokens.rows, t.id = sessionId → t.revoked = true →
      t.record = (true, some w.now, some "user_revoked")
  | _ => True

/-- If the session `id` is there, its record is `r`. -/
structure Held (id : Nat) (r : Bool × Option Int × Option String) (w : World) : Prop where
  drawn : id < w.supply
  record : ∀ t ∈ w.refreshTokens.rows, t.id = id → t.record = r

theorem record_revoke (t : RefreshToken) (reason : String) (revokedAt : Int) :
    ((RefreshToken.revoke reason revokedAt).apply t).record = (true, some revokedAt, some reason) := rfl

/-- A revoked row keeps its record, but for a revocation by its id. -/
theorem record_onRefreshToken {s : Stmt} {t : RefreshToken} (hrev : t.revoked = true)
    (hs : ∀ reason revokedAt, s = .revokeToken t.id reason revokedAt →
      t.record = (true, some revokedAt, some reason)) :
    (s.onRefreshToken t).record = t.record := by
  cases s
  case revokeToken i reason revokedAt =>
    by_cases hid : t.id = i
    · subst hid
      rw [hs reason revokedAt rfl]
      simp [Stmt.onRefreshToken, Stmt.tokenUpdate, Table.patchIf, record_revoke]
    · simp [Stmt.onRefreshToken, Stmt.tokenUpdate, Table.patchIf, hid]
  case revokeAllByUserId =>
    simp [Stmt.onRefreshToken, Stmt.tokenUpdate, Table.patchIf, hrev]
  case setReplacedBy | updateLastUsed =>
    simp only [Stmt.onRefreshToken, Stmt.tokenUpdate, Table.patchIf]
    split
    · rfl
    · rfl
  all_goals rfl

/-- Statements that do not revoke the session `id`, or revoke it as `r` says. -/
def Stmt.RevokesAs (id : Nat) (r : Bool × Option Int × Option String) : Stmt → Prop
  | .revokeToken i reason revokedAt => i = id → r = (true, some revokedAt, some reason)
  | _ => True

theorem held_exec {s : Stmt} (hr : r.1 = true) (hs : s.RevokesAs id r) (h : Held id r w) :
    Held id r (World.exec env s w).2 := by
  have hle := World.exec_supply env s w
  have hdrawn := h.drawn
  refine ⟨by omega, fun t' ht' hid => ?_⟩
  rcases World.exec_source ht' with ⟨t, ht, rfl⟩ | ⟨data, rfl, rfl, hsupply, -⟩
  · rw [(s.evolves_onRefreshToken t).id_eq] at hid
    have hrecord := h.record t ht hid
    have hrev : t.revoked = true := (congrArg Prod.fst hrecord).trans hr
    rw [record_onRefreshToken hrev, hrecord]
    rintro reason revokedAt rfl
    exact hrecord.trans (hs hid)
  · have hnew : (World.newRefreshToken w.supply data).id = w.supply := rfl
    omega

theorem held_of_uses {α : Type} {p : AuthProg α} (hr : r.1 = true)
    (hp : p.Uses (Stmt.RevokesAs id r)) : p.Keeps (World.machine env) (Held id r) :=
  keeps_of_uses hp fun _ _ hs h => held_exec hr hs h

/-! ## Rotation and eviction find a live row -/

/-- A live session is another one. -/
theorem Held.ne_of_live (hr : r.1 = true) (h : Held id r w) {t : RefreshToken}
    (ht : t ∈ w.refreshTokens.rows) (hlive : t.revoked = false) : t.id ≠ id := by
  intro hid
  have hrev := (congrArg Prod.fst (h.record t ht hid)).trans hr
  rw [show t.record.1 = t.revoked from rfl, hlive] at hrev
  cases hrev

theorem held_enforceMaxSessions (hr : r.1 = true) (userId : Nat) :
    (SessionService.enforceMaxSessions env userId).Keeps (World.machine env) (Held id r) := by
  intro w h
  obtain ⟨victims, w', hrun, -, hevicted⟩ := max_sessions_enforced env w userId
  rw [hrun, hevicted.world]
  refine ⟨h.drawn, fun t' ht' hid => ?_⟩
  obtain ⟨t, ht, rfl⟩ := Table.mem_updateWhere.mp ht'
  have hsame : t.id = id := (Table.key_patchIf _ _ t).symm.trans hid
  have hnot : ¬ t.id ∈ victims := by
    intro hmem
    have hactive := (hevicted.active t ht hmem).2
    simp only [RefreshToken.active, Bool.and_eq_true, Bool.not_eq_true'] at hactive
    exact h.ne_of_live hr ht hactive.1 hsame
  rw [Table.patchIf, if_neg (by simpa using hnot)]
  exact h.record t ht hsame

theorem held_rotate (hr : r.1 = true) (h : Held id r w) {t : RefreshToken}
    (ht : t ∈ w.refreshTokens.rows) (hlive : t.revoked = false) (ipAddress userAgent : Option String) :
    Held id r ((TokenService.rotate env t ipAddress userAgent).run (World.machine env) w).2 := by
  have hne := h.ne_of_live hr ht hlive
  refine held_of_uses hr ?_ w h
  refine (uses_rotate t ipAddress userAgent).mono fun s hs => ?_
  cases s
  case revokeToken i reason revokedAt =>
    obtain ⟨rfl, -⟩ := hs
    exact fun hid => absurd hid hne
  all_goals trivial

/-! ## One request -/

theorem revokesAs_of_quiet {s : Stmt} (hs : s.quiet = true) : s.RevokesAs id r := by
  cases s
  case revokeToken => cases hs
  all_goals trivial

theorem held_issue {α : Type} (hr : r.1 = true) {userId : Nat} {email : String}
    {roles : List String} {deviceFingerprint ipAddress userAgent : Option String}
    {event : Int → DomainEvent} {entry : AuditLog} {f : Jwt → Nat × RefreshToken → α} :
    ((TokenService.generateAccessToken userId email roles).bind fun token =>
      (TokenService.generateRefreshToken env userId deviceFingerprint ipAddress userAgent).bind
        fun pair => (SessionService.enforceMaxSessions env userId).bind fun _ =>
          (newDate.bind fun timestamp => EventService.safePublish (event timestamp)).bind fun _ =>
            (AuditLogRepository.create entry).bind fun _ => .ret (f token pair)).Keeps
      (World.machine env) (Held id r) := by
  refine keeps_bind (held_of_uses hr ((uses_perform _).mpr trivial)) fun token => ?_
  refine keeps_bind (held_of_uses hr (uses_generateRefreshToken (fun s hs => revokesAs_of_quiet hs)
    fun _ _ => trivial)) fun pair => ?_
  refine keeps_bind (held_enforceMaxSessions hr userId) fun _ => held_of_uses hr ?_
  exact uses_bind (uses_publish trivial fun _ => trivial) fun _ => uses_perform_bind trivial fun _ =>
    trivial

theorem held_register (hr : r.1 = true) (email password : String)
    (ipAddress userAgent : Option String) :
    (AuthService.register env email password ipAddress userAgent).Keeps (World.machine env)
      (Held id r) := by
  refine keeps_bind (held_of_uses hr ((uses_perform _).mpr trivial)) fun existing => ?_
  cases existing with
  | some c => exact keeps_throw _
  | none =>
    refine keeps_bind (held_of_uses hr ?_) fun c => held_issue hr
    exact uses_perform_bind trivial fun _ => (uses_perform _).mpr trivial

theorem held_loginVerify (hr : r.1 = true) (c : UserCredential) (email password : String)
    (ipAddress userAgent : Option String) :
    (AuthService.loginVerify env c email password ipAddress userAgent).Keeps (World.machine env)
      (Held id r) := by
  refine keeps_bind (held_of_uses hr ((uses_perform _).mpr trivial)) fun valid => ?_
  split
  · refine keeps_bind (held_of_uses hr ((uses_perform _).mpr trivial)) fun _ => ?_
    refine keeps_bind (held_of_uses hr (uses_perform_bind trivial fun _ =>
      (uses_perform _).mpr trivial)) fun _ => ?_
    exact held_issue hr
  · exact held_of_uses hr (uses_loginFailed_of c email ipAddress userAgent trivial trivial
      (fun _ _ _ => trivial) (fun _ => trivial) (fun _ _ _ => trivial) (fun _ => trivial)
      fun _ => trivial)

theorem held_login (hr : r.1 = true) (email password : String) (ipAddress userAgent : Option String) :
    (AuthService.login env email password ipAddress userAgent).Keeps (World.machine env)
      (Held id r) := by
  have hrefused : ∀ (entry : AuditLog) (e : Exn), ((AuditLogRepository.create entry).bind fun _ =>
      (.throw e : AuthProg AuthResponse)).Keeps (World.machine env) (Held id r) := fun entry e =>
    held_of_uses hr (uses_perform_bind trivial fun _ => trivial)
  refine keeps_bind (held_of_uses hr ((uses_perform _).mpr trivial)) fun credential? => ?_
  cases credential? with
  | none => exact hrefused _ _
  | some c =>
    cases hs : c.status with
    | active => simp only [hs]; exact held_loginVerify hr c email password ipAddress userAgent
    | banned => simp only [hs]; exact hrefused _ _
    | deleted => simp only [hs]; exact keeps_throw _
    | locked =>
      cases hl : c.lockedUntil with
      | none => simp only [hs, hl]; exact hrefused _ _
      | some lockedUntil =>
        simp only [hs, hl]
        refine keeps_bind (held_of_uses hr ((uses_perform _).mpr trivial)) fun now => ?_
        split
        · exact keeps_bind (held_of_uses hr ((uses_perform _).mpr trivial)) fun _ =>
            held_loginVerify hr c email password ipAddress userAgent
        · exact hrefused _ _

theorem held_refreshToken (hr : r.1 = true) (raw : Nat) (h : Held id r w) :
    Held id r (serve env (.refreshToken raw) w).2 := by
  refine serve_refreshToken_invariant (fun s w' _ hs hw' => held_exec hr ?_ hw') ?_
  · cases s
    case revokeToken => cases hs
    all_goals trivial
  · cases hfound : w.presented raw with
    | none =>
      rw [run_refreshTokens_unknown hfound]
      exact h
    | some t =>
      cases hrev : t.revoked with
      | true =>
        rw [run_refreshTokens_revoked hfound hrev]
        exact held_exec hr trivial h
      | false =>
        by_cases hexp : t.expiresAt < w.now
        · rw [run_refreshTokens_expired hfound hrev hexp]
          exact h
        · rw [run_refreshTokens_rotates hfound hrev hexp]
          exact held_rotate hr h (presented_mem hfound).1 hrev none none

/-- A logout revokes the presented session, in the table that it met. -/
theorem serve_logout_sessions (env : Env) (token : Jwt) (raw : Nat)
    (ipAddress userAgent : Option String) (w : World) :
    (serve env (.logout token raw ipAddress userAgent) w).2.refreshTokens =
      (afterLogoutSession env token raw w).2.refreshTokens := by
  have hsame : (w.revoked token).refreshTokens = w.refreshTokens := by
    unfold World.revoked
    split
    · rfl
    · split
      · rfl
      · rfl
  have hnow : (w.revoked token).now = w.now := by
    unfold World.revoked
    split
    · rfl
    · split
      · rfl
      · rfl
  have hlookup : (afterLogoutSession env token raw (w.revoked token)).2.refreshTokens =
      (afterLogoutSession env token raw w).2.refreshTokens := by
    unfold afterLogoutSession World.presented
    rw [hsame, hnow]
    split
    · exact congrArg (fun table : Table RefreshToken => table.updateWhere _ _) hsame
    · exact hsame
  unfold serve handle AuthService.logout
  rw [run_bind_ret]
  simp only [bind_eq]
  rw [run_bind_ok _ (run_revokeAccessToken env token w), run_bind_ok _ (run_logoutSession env token raw _)]
  refine run_invariant (A := fun s : Stmt => s.writesRefreshTokens = false)
    (I := fun v : World => v.refreshTokens = (afterLogoutSession env token raw w).2.refreshTokens) ?_
    (fun s v hs hv => (World.exec_refreshTokens env s v hs).trans hv) hlookup
  exact uses_bind (uses_publishLogout rfl fun _ _ _ => rfl) fun _ => (uses_perform _).mpr rfl

/-- A request other than a logout or the revocation of a session keeps every record. -/
theorem held_serve (hr : r.1 = true) {request : Request}
    (hlogout : ∀ token raw ip ua, request ≠ .logout token raw ip ua)
    (hrevoke : ∀ sessionId, request ≠ .revokeSession sessionId) (h : Held id r w) :
    Held id r (serve env request w).2 := by
  have hret : ∀ {α : Type} {p : AuthProg α} {f : α → Response},
      p.Keeps (World.machine env) (Held id r) →
        (p.bind fun a => .ret (f a)).Keeps (World.machine env) (Held id r) := fun hp =>
    keeps_bind hp fun _ => keeps_ret _
  cases request
  case register email password ip ua => exact hret (held_register hr email password ip ua) w h
  case login email password ip ua => exact hret (held_login hr email password ip ua) w h
  case refreshToken raw => exact held_refreshToken hr raw h
  case logout token raw ip ua => exact absurd rfl (hlogout token raw ip ua)
  case revokeSession sessionId => exact absurd rfl (hrevoke sessionId)
  all_goals
    refine held_of_uses hr ((uses_handle _).mono fun s hs => ?_) w h
    cases s
    case revokeToken => cases hs
    all_goals trivial

/-! ## Runs -/

theorem held_of_mem (h : Integrity env w) {t : RefreshToken} (ht : t ∈ w.refreshTokens.rows) :
    Held t.id t.record w := by
  refine ⟨h.id_lt t ht, fun t' ht' hid => ?_⟩
  rw [Table.eq_of_key ht' ht hid]

/-- A revocation by id, and the row that it meets. -/
theorem record_of_revoked {i : Nat} {reason : String} {t : RefreshToken}
    (ht : t ∈ w.refreshTokens.rows) (hid : t.id = i) :
    ∃ t' ∈ (World.exec env (.revokeToken i reason w.now) w).2.refreshTokens.rows, t'.id = t.id ∧
      t'.record = (true, some w.now, some reason) := by
  refine ⟨(RefreshToken.revoke reason w.now).apply t, Table.mem_updateWhere.mpr ⟨t, ht, ?_⟩, rfl, rfl⟩
  simp [Table.patchIf, hid]

theorem held_act (hr : r.1 = true) {a : Action} (ha : SparesRecords w a) (h : Held id r w) :
    Held id r (act env w a) := by
  cases a with
  | pass n => exact ⟨h.drawn, h.record⟩
  | request request =>
    cases request
    case logout token raw ip ua =>
      have hdrawn := h.drawn
      have hsupply := supply_serve env (.logout token raw ip ua) w
      refine ⟨by show id < (serve env _ w).2.supply; omega, fun t' ht' hid => ?_⟩
      change t' ∈ (serve env (.logout token raw ip ua) w).2.refreshTokens.rows at ht'
      rw [serve_logout_sessions, afterLogoutSession] at ht'
      cases hfound : w.presented raw with
      | none =>
        rw [hfound] at ht'
        exact h.record t' ht' hid
      | some t =>
        rw [hfound] at ht'
        have hrevokes : (Stmt.revokeToken t.id "logout" w.now).RevokesAs id r := by
          intro heq
          have hrecord := h.record t (presented_mem hfound).1 heq
          rw [← hrecord]
          exact ha t hfound ((congrArg Prod.fst hrecord).trans hr)
        have hheld : Held id r (World.exec env (.revokeToken t.id "logout" w.now) w).2 :=
          held_exec hr hrevokes h
        exact hheld.record t' ht' hid
    case revokeSession sessionId =>
      by_cases hrow : ∃ t ∈ w.refreshTokens.rows, t.id = id
      · obtain ⟨t, ht, hid⟩ := hrow
        have hrecord := h.record t ht hid
        have hrevokes : (Stmt.revokeToken sessionId "user_revoked" w.now).RevokesAs id r := by
          intro heq
          rw [← hrecord]
          exact ha t ht (hid.trans heq.symm) ((congrArg Prod.fst hrecord).trans hr)
        have hheld : Held id r (World.exec env (.revokeToken sessionId "user_revoked" w.now) w).2 :=
          held_exec hr hrevokes h
        exact hheld
      · refine ⟨h.drawn, fun t' ht' hid => absurd ?_ hrow⟩
        obtain ⟨t, ht, rfl⟩ := Table.mem_updateWhere.mp ht'
        exact ⟨t, ht, (Table.key_patchIf _ _ t).symm.trans hid⟩
    all_goals exact held_serve hr (by simp) (by simp) h

theorem held_runs (hr : r.1 = true) {as : List Action} (has : Along env SparesRecords w as)
    (h : Held id r w) : Held id r (runs env w as) := by
  induction as generalizing w with
  | nil => exact h
  | cons a as ih => exact ih has.2 (held_act hr has.1 h)

/-- One action keeps every record iff it spares them. -/
theorem keepsRecords_act_iff (h : Integrity env w) (a : Action) :
    KeepsRecords w (act env w a) ↔ SparesRecords w a := by
  constructor
  · intro hkeeps
    cases a with
    | pass n => trivial
    | request request =>
      cases request
      case logout token raw ip ua =>
        intro t hfound hrev
        have ht := (presented_mem hfound).1
        obtain ⟨t', ht', hid, hrecord⟩ : ∃ t' ∈ (World.exec env (.revokeToken _ "logout" w.now)
            w).2.refreshTokens.rows, _ := record_of_revoked ht rfl
        rw [← hrecord]
        refine (hkeeps t ht hrev t' ?_ hid).symm
        show t' ∈ (serve env (.logout token raw ip ua) w).2.refreshTokens.rows
        rw [serve_logout_sessions, afterLogoutSession, hfound]
        exact ht'
      case revokeSession sessionId =>
        intro t ht hid hrev
        obtain ⟨t', ht', hid', hrecord⟩ : ∃ t' ∈ (World.exec env
            (.revokeToken sessionId "user_revoked" w.now) w).2.refreshTokens.rows, _ :=
          record_of_revoked ht hid
        rw [← hrecord]
        exact (hkeeps t ht hrev t' ht' hid').symm
      all_goals trivial
  · intro hspares t ht hrev t' ht' hid
    exact (held_act hrev hspares (held_of_mem h ht)).record t' ht' hid

/-- An action keeps the records of the revoked sessions iff it revokes none of them again; in a run
of such actions a session that is revoked keeps its record for as long as its row is there. -/
theorem records_written_once (env : Env) :
    (∀ w, Reachable env w → ∀ a, KeepsRecords w (act env w a) ↔ SparesRecords w a) ∧
      ∀ w, Reachable env w → ∀ as, Along env SparesRecords w as → KeepsRecords w (runs env w as) := by
  constructor
  · intro w hw a
    exact keepsRecords_act_iff hw.integrity a
  · intro w hw as has t ht hrev t' ht' hid
    exact (held_runs hrev has (held_of_mem hw.integrity ht)).record t' ht' hid

/-- A session is rotated, then the user logs out of its successor and an administrator revokes all. -/
theorem records_written_once_rotated :
    let as : List Action :=
      [.request (.logout .malformed 5 none none), .request (.revokeAllTokens 1 none)]
    Reachable Env.plain (serve Env.plain (.refreshToken 3) registered).2 ∧
      KeepsRecords (serve Env.plain (.refreshToken 3) registered).2
        (runs Env.plain (serve Env.plain (.refreshToken 3) registered).2 as) := by
  intro as
  have hreach : Reachable Env.plain (serve Env.plain (.refreshToken 3) registered).2 :=
    registered_reachable.after [.request (.refreshToken 3)]
  refine ⟨hreach, (records_written_once Env.plain).2 _ hreach as ⟨?_, trivial, trivial⟩⟩
  intro t ht
  have hlive : ((serve Env.plain (.refreshToken 3) registered).2.presented 5).all
      (fun t => !t.revoked) = true := by decide +kernel
  rw [ht] at hlive
  intro hrev
  simp [hrev] at hlive

/-- A second later the old token is presented to `logout`: the row now says that it was revoked then,
by a logout. -/
theorem logout_rewrites_record :
    ¬ ∀ w, Reachable Env.plain w → ∀ as, KeepsRecords w (runs Env.plain w as) := by
  intro h
  have hkeeps := h _ (registered_reachable.after [.request (.refreshToken 3)])
    [.pass 1000, .request (.logout .malformed 3 none none)]
  revert hkeeps
  unfold KeepsRecords
  decide +kernel

end Auth
