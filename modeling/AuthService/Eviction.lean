import AuthService.Footprint
import AuthService.Resumption.Pool

/-!
# AuthService.Eviction

How many sessions a user has, and the login that keeps their number down.

* `World.sessions` — the active refresh tokens of a user at an instant, one of them possibly left out.
  The lemmas say what a statement and the passing of time make of that number.
* `EvictionPhase`  — where a login stands after its insert: the count, then for each session too many
  a clock reading, a search for the oldest and a `revokeToken`.
* `conforms_login` — a login that inserts a session goes through these phases and ends with no
  eviction left.
-/

namespace Auth

open Relational Resumption Prog

/-! ## Sessions of a user -/

/-- An active token of `u` at the instant `at'`, other than the one with the id `doomed`. -/
def RefreshToken.sessionOf (u : Nat) (at' : Int) (doomed : Option Nat) (t : RefreshToken) : Bool :=
  t.userId = u && t.active at' && decide (doomed ≠ some t.id)

/-- An `INSERT` of a session of `u`. -/
def Stmt.insertsFor (u : Nat) : Stmt → Bool
  | .createRefreshToken data => data.userId = u
  | _ => false

namespace World

def sessions (w : World) (u : Nat) (at' : Int) (doomed : Option Nat) : Nat :=
  w.refreshTokens.count (RefreshToken.sessionOf u at' doomed)

variable {env : Env} {w : World} {u : Nat} {at' later : Int} {doomed : Option Nat}

theorem sessionOf_earlier {t : RefreshToken} (h : at' ≤ later)
    (ht : t.sessionOf u later doomed = true) : t.sessionOf u at' doomed = true := by
  simp only [RefreshToken.sessionOf, RefreshToken.active, Bool.and_eq_true, Bool.not_eq_true',
    decide_eq_true_eq] at ht ⊢
  obtain ⟨⟨hu, hrev, hexp⟩, hd⟩ := ht
  exact ⟨⟨hu, hrev, Int.lt_of_le_of_lt h hexp⟩, hd⟩

theorem sessionOf_evolves {t t' : RefreshToken} (h : t.Evolves t')
    (ht : t'.sessionOf u at' doomed = true) : t.sessionOf u at' doomed = true := by
  simp only [RefreshToken.sessionOf, RefreshToken.active, Bool.and_eq_true, Bool.not_eq_true',
    decide_eq_true_eq, h.id_eq, h.userId_eq, h.expiresAt_eq] at ht ⊢
  refine ⟨⟨ht.1.1, ?_, ht.1.2.2⟩, ht.2⟩
  cases hrev : t.revoked with
  | false => rfl
  | true =>
    rw [h.revoked hrev] at ht
    exact ht.1.2.1

/-- Sessions expire. -/
theorem sessions_later (h : at' ≤ later) :
    w.sessions u later doomed ≤ w.sessions u at' doomed :=
  Table.count_mono fun _ _ ht => sessionOf_earlier h ht

theorem sessions_exec_of_update {s : Stmt} {p : RefreshToken → Bool} {f : Patch RefreshToken}
    (hs : s.tokenUpdate = some (p, f))
    (hrows : (exec env s w).2.refreshTokens = w.refreshTokens.updateWhere p f) :
    (exec env s w).2.sessions u at' doomed ≤ w.sessions u at' doomed := by
  unfold sessions
  rw [hrows]
  refine Table.count_updateWhere_le fun t _ ht => ?_
  have hev := s.evolves_onRefreshToken t
  rw [Stmt.onRefreshToken, hs] at hev
  exact sessionOf_evolves hev ht

/-- Only an insert for the user adds a session. -/
theorem sessions_exec_le (env : Env) (w : World) {s : Stmt} (hs : s.insertsFor u = false)
    (at' : Int) (doomed : Option Nat) :
    (exec env s w).2.sessions u at' doomed ≤ w.sessions u at' doomed := by
  by_cases hw : s.writesRefreshTokens = true
  · cases s
    case createRefreshToken data =>
      rcases exec_createRefreshToken env w data with ⟨e, he⟩ | ⟨table, he, hrows, -⟩
      · rw [he]
      · rw [he]
        have hnew : (newRefreshToken w.supply data).sessionOf u at' doomed = false := by
          have hu : data.userId ≠ u := of_decide_eq_false hs
          simp [RefreshToken.sessionOf, newRefreshToken, hu]
        show table.rows.countP _ ≤ _
        rw [hrows, List.countP_append, List.countP_singleton, hnew]
        exact Nat.le_refl _
    case revokeToken | revokeAllByUserId | setReplacedBy | updateLastUsed =>
      exact sessions_exec_of_update rfl rfl
    case deleteExpiredAndRevoked | deleteCredential => exact Table.count_deleteWhere_le _
    all_goals cases hw
  · unfold sessions
    rw [exec_refreshTokens env s w (by simpa using hw)]

/-- An insert adds at most one. -/
theorem sessions_insert_le (env : Env) (w : World) (data : NewRefreshToken) (u : Nat) (at' : Int)
    (doomed : Option Nat) :
    (exec env (.createRefreshToken data) w).2.sessions u at' doomed ≤ w.sessions u at' doomed + 1 := by
  rcases exec_createRefreshToken env w data with ⟨e, he⟩ | ⟨table, he, hrows, -⟩
  · rw [he]
    exact Nat.le_succ _
  · rw [he]
    show table.rows.countP _ ≤ _
    rw [hrows, List.countP_append]
    exact Nat.add_le_add_left List.countP_le_length _

theorem sessions_revokeToken_le (id : Nat) (reason : String) (revokedAt : Int) :
    (exec env (.revokeToken id reason revokedAt) w).2.sessions u at' doomed ≤
      w.refreshTokens.count fun t => t.sessionOf u at' doomed && decide (t.id ≠ id) := by
  refine Table.count_updateWhere_le fun t _ ht => ?_
  rw [Bool.and_eq_true, decide_eq_true_eq]
  refine ⟨sessionOf_evolves (RefreshToken.evolves_patchIf
    (fun t => t.evolves_revoke reason revokedAt) _ t) ht, ?_⟩
  rintro rfl
  simp [RefreshToken.sessionOf, RefreshToken.active, Table.patchIf, RefreshToken.revoke] at ht

/-- A `revokeToken` on a session takes it away. -/
theorem sessions_revoke (env : Env) {t : RefreshToken} (ht : t ∈ w.refreshTokens.rows)
    (hs : t.sessionOf u at' doomed = true) (reason : String) (revokedAt : Int) :
    (exec env (.revokeToken t.id reason revokedAt) w).2.sessions u at' doomed + 1 ≤
      w.sessions u at' doomed :=
  Nat.le_trans (Nat.add_le_add_right (sessions_revokeToken_le t.id reason revokedAt) 1)
    (Table.count_without ht hs)

theorem sessionOf_doomed {t : RefreshToken} {id : Nat} :
    t.sessionOf u at' (some id) = (t.sessionOf u at' none && decide (t.id ≠ id)) := by
  by_cases h : t.id = id
  · simp [RefreshToken.sessionOf, h]
  · simp [RefreshToken.sessionOf, h, Ne.symm h]

/-- One of the sessions is left out. -/
theorem sessions_doomed {t : RefreshToken} (ht : t ∈ w.refreshTokens.rows)
    (hs : t.sessionOf u at' none = true) :
    w.sessions u at' (some t.id) + 1 ≤ w.sessions u at' none := by
  refine Nat.le_trans (Nat.add_le_add_right (Table.count_mono fun s _ h => ?_) 1)
    (Table.count_without ht hs)
  rwa [sessionOf_doomed] at h

/-- The `revokeToken` on the session that was left out. -/
theorem sessions_evict (id : Nat) (reason : String) (revokedAt : Int) :
    (exec env (.revokeToken id reason revokedAt) w).2.sessions u at' none ≤
      w.sessions u at' (some id) := by
  refine Nat.le_trans (sessions_revokeToken_le id reason revokedAt) (Table.count_mono fun t _ h => ?_)
  rwa [sessionOf_doomed]

theorem select_active_eq (w : World) (u : Nat) (at' : Int) :
    (w.refreshTokens.select fun t => t.userId = u && t.active at').length =
      w.sessions u at' none := by
  rw [Table.length_select, sessions, Table.count, Table.count]
  exact List.countP_congr fun t _ => by simp [RefreshToken.sessionOf]

end World

/-! ## Where a login stands -/

/-- `idle` is every place before the insert, and all of a login of another user. The instant is that
of the last clock reading. -/
inductive EvictionPhase where
  | idle
  | inserted
  | counting (at' : Int)
  | evicting (at' : Int) (left : Nat)
  | seeking (at' : Int) (left : Nat)
  | selected (at' : Int) (left : Nat) (oldest : RefreshToken)
  deriving DecidableEq

namespace EvictionPhase

def next (env : Env) (u : Nat) : EvictionPhase → (s : Stmt) → Except Exn s.Reply → EvictionPhase
  | .idle, .createRefreshToken data, .ok _ => if data.userId = u then .inserted else .idle
  | .inserted, .newDate, .ok now => .counting now
  | .counting c, .countActiveByUserId _ _, .ok n => .evicting c (n - env.maxSessions)
  | .evicting _ (left + 1), .newDate, .ok now => .seeking now left
  | .seeking c left, .findOldestActiveByUserId _ _, .ok (some t) => .selected c left t
  | .seeking c left, .findOldestActiveByUserId _ _, .ok none => .evicting c left
  | .selected c left _, .revokeToken _ _ _, .ok _ => .evicting c left
  | .evicting c 0, _, _ => .evicting c 0
  | φ, _, .ok _ => φ
  | _, _, .error _ => .idle

def allowed (u : Nat) : EvictionPhase → Stmt → Prop
  | .idle, _ => True
  | .inserted, .newDate => True
  | .counting c, .countActiveByUserId id now => id = u ∧ now = c
  | .evicting _ _, .newDate => True
  | .evicting _ 0, .publish _ => True
  | .evicting _ 0, .createAuditLog _ => True
  | .seeking c _, .findOldestActiveByUserId id now => id = u ∧ now = c
  | .selected _ _ _, .newDate => True
  | .selected _ _ t, .revokeToken id _ _ => id = t.id
  | _, _ => False

/-- No eviction is left. -/
def settled : EvictionPhase → Prop
  | .idle => True
  | .evicting _ 0 => True
  | _ => False

def monitor (env : Env) (u : Nat) : Monitor sig EvictionPhase := ⟨next env u, allowed u⟩

variable {env : Env} {u : Nat} {α : Type}

/-- A login ends settled, whatever it returns or throws. -/
def final (φ : EvictionPhase) (_ : Except Exn α) : Prop := φ.settled

theorem settled_error (φ : EvictionPhase) (s : Stmt) (e : Exn) :
    (next env u φ s (.error e)).settled := by
  cases φ with
  | evicting c left => cases left <;> cases s <;> trivial
  | _ => cases s <;> trivial

theorem final_error (φ : EvictionPhase) (s : Stmt) (e : Exn) :
    final ((monitor env u).next φ s (.error e)) (.error e : Except Exn α) := settled_error φ s e

theorem next_idle {s : Stmt} (hs : s.insertsFor u = false) (reply : Except Exn s.Reply) :
    next env u .idle s reply = .idle := by
  cases reply with
  | error e => cases s <;> rfl
  | ok a =>
    cases s
    case createRefreshToken data => exact if_neg (of_decide_eq_false hs)
    all_goals rfl

theorem next_settled {c : Int} {s : Stmt} (reply : Except Exn s.Reply) :
    (monitor env u).next (.evicting c 0) s reply = .evicting c 0 := by
  cases s <;> rfl

/-- Statements that insert no session of the user, then the rest. -/
theorem conforms_idle_bind {β : Type} {p : AuthProg α} {f : α → AuthProg β}
    (hp : p.Uses fun s : Stmt => s.insertsFor u = false)
    (hf : ∀ a, (monitor env u).Conforms final .idle (f a)) :
    (monitor env u).Conforms final .idle (p.bind f) :=
  Monitor.conforms_uses_bind hp (fun _ _ => trivial) (fun _ reply hs => next_idle hs reply) hf
    fun _ => trivial

theorem conforms_idle {p : AuthProg α} (hp : p.Uses fun s : Stmt => s.insertsFor u = false) :
    (monitor env u).Conforms final .idle p :=
  Monitor.conforms_of_uses hp (fun _ _ => trivial) (fun _ reply hs => next_idle hs reply)
    fun _ => trivial

/-- Nothing to evict is left, and nothing else is counted. -/
theorem conforms_settled {p : AuthProg α} {c : Int} (hp : p.Uses (allowed u (.evicting c 0))) :
    (monitor env u).Conforms final (.evicting c 0) p :=
  Monitor.conforms_of_uses hp (fun _ hs => hs) (fun _ reply _ => next_settled reply) fun _ => trivial

/-- A pass of the loop takes one off the evictions left. -/
theorem conforms_evictOldest {left : Nat} {k : AuthProg α}
    (hk : ∀ c, (monitor env u).Conforms final (.evicting c left) k) (c : Int) :
    (monitor env u).Conforms final (.evicting c (left + 1))
      ((SessionService.evictOldest u).bind fun _ => k) := by
  unfold SessionService.evictOldest RefreshTokenRepository.findOldestActiveByUserId
  simp only [bind_eq, bind_assoc]
  refine Monitor.conforms_perform_bind trivial (fun now => ?_) fun e => final_error _ _ e
  show (monitor env u).Conforms final (.seeking now left) _
  refine Monitor.conforms_perform_bind ⟨rfl, rfl⟩ (fun oldest? => ?_) fun e => final_error _ _ e
  cases oldest? with
  | none => exact hk now
  | some t =>
    show (monitor env u).Conforms final (.selected now left t) _
    unfold RefreshTokenRepository.revokeToken
    simp only [bind_eq, bind_assoc]
    refine Monitor.conforms_perform_bind trivial (fun revokedAt => ?_) fun e => final_error _ _ e
    refine Monitor.conforms_perform_bind rfl (fun _ => ?_) fun e => final_error _ _ e
    exact hk now

theorem conforms_repeatN {k : AuthProg α}
    (hk : ∀ c, (monitor env u).Conforms final (.evicting c 0) k) (left : Nat) :
    ∀ c, (monitor env u).Conforms final (.evicting c left)
      ((repeatN (SessionService.evictOldest u) left).bind fun _ => k) := by
  induction left with
  | zero => exact hk
  | succ left ih =>
    intro c
    rw [repeatN, bind_assoc]
    exact conforms_evictOldest ih c

theorem conforms_enforceMaxSessions {k : AuthProg α}
    (hk : ∀ c, (monitor env u).Conforms final (.evicting c 0) k) :
    (monitor env u).Conforms final .inserted
      ((SessionService.enforceMaxSessions env u).bind fun _ => k) := by
  unfold SessionService.enforceMaxSessions RefreshTokenRepository.countActiveByUserId
  simp only [bind_eq, bind_assoc]
  refine Monitor.conforms_perform_bind trivial (fun now => ?_) fun e => final_error _ _ e
  show (monitor env u).Conforms final (.counting now) _
  refine Monitor.conforms_perform_bind ⟨rfl, rfl⟩ (fun activeCount => ?_)
    fun e => final_error _ _ e
  show (monitor env u).Conforms final (.evicting now (activeCount - env.maxSessions)) _
  split
  · rename_i hle
    rw [Nat.sub_eq_zero_of_le hle]
    exact hk now
  · exact conforms_repeatN hk _ now

theorem conforms_loginSucceeded (c : UserCredential) (hc : c.id = u) (email : String)
    (ipAddress userAgent : Option String) :
    (monitor env u).Conforms final .idle
      (AuthService.loginSucceeded env c email ipAddress userAgent) := by
  subst hc
  unfold AuthService.loginSucceeded
  refine conforms_idle_bind ((uses_perform _).mpr rfl) fun _ => ?_
  refine conforms_idle_bind (uses_perform_bind rfl fun _ => (uses_perform _).mpr rfl) fun _ => ?_
  refine conforms_idle_bind ((uses_perform _).mpr rfl) fun accessToken => ?_
  unfold TokenService.generateRefreshToken RefreshTokenRepository.create
  simp only [bind_eq, bind_assoc]
  refine conforms_idle_bind ((uses_perform _).mpr rfl) fun rawToken => ?_
  refine conforms_idle_bind ((uses_perform _).mpr rfl) fun now => ?_
  refine conforms_idle_bind ((uses_perform _).mpr rfl) fun issuedAt => ?_
  refine Monitor.conforms_perform_bind trivial (fun row => ?_) fun e => final_error _ _ e
  simp only [monitor, next, if_true, pure_eq, ret_bind]
  refine conforms_enforceMaxSessions fun c' => conforms_settled ?_
  refine uses_bind (uses_publish trivial fun _ => trivial) fun _ => ?_
  exact uses_perform_bind trivial fun _ => trivial

theorem conforms_loginVerify (c : UserCredential) (email password : String)
    (ipAddress userAgent : Option String) :
    (monitor env u).Conforms final .idle
      (AuthService.loginVerify env c email password ipAddress userAgent) := by
  by_cases hc : c.id = u
  · unfold AuthService.loginVerify
    refine conforms_idle_bind ((uses_perform _).mpr rfl) fun valid => ?_
    split
    · exact conforms_loginSucceeded c hc email ipAddress userAgent
    · refine conforms_idle (uses_loginFailed c email ipAddress userAgent (fun s hs => ?_) rfl
        (fun _ => rfl) fun _ => rfl)
      cases s <;> first | rfl | cases hs
  · -- the login of another user inserts for that user
    refine conforms_idle ((uses_loginVerify c email password ipAddress userAgent).mono fun s hs => ?_)
    cases s
    case createRefreshToken data => exact decide_eq_false ((show data.userId = c.id from hs) ▸ hc)
    all_goals rfl

theorem conforms_login (email password : String) (ipAddress userAgent : Option String) :
    (monitor env u).Conforms final .idle
      (AuthService.login env email password ipAddress userAgent) := by
  refine login_induction (fun s f hs hf => conforms_idle_bind ((uses_perform _).mpr ?_) hf)
    (fun _ _ => conforms_idle (uses_perform_bind rfl fun _ => trivial)) (fun _ => trivial)
    fun c => conforms_loginVerify c email password ipAddress userAgent
  cases s <;> first | rfl | cases hs

/-! ## What the evictions left are good for -/

/-- Inserted, but not counted yet. -/
def uncounted : EvictionPhase → Bool
  | .inserted => true
  | .counting _ => true
  | _ => false

/-- The session about to be evicted. -/
def doomed : EvictionPhase → Option Nat
  | .selected _ _ t => some t.id
  | _ => none

def clock : EvictionPhase → Option Int
  | .idle => none
  | .inserted => none
  | .counting c => some c
  | .evicting c _ => some c
  | .seeking c _ => some c
  | .selected c _ _ => some c

/-- With `owed` sessions still to be inserted, the login will count them all or has evictions enough
left for them. -/
def Covers (env : Env) (u : Nat) (w : World) (owed : Nat) : EvictionPhase → Prop
  | .idle => False
  | .inserted => True
  | .counting _ => True
  | .evicting c left => w.sessions u c none + owed ≤ env.maxSessions + left
  | .seeking c left => w.sessions u c none + owed ≤ env.maxSessions + left + 1
  | .selected c left t => w.sessions u c (some t.id) + owed ≤ env.maxSessions + left

/-- The next statement misses a session that is owed: a count, or a search that finds nothing. -/
def misses (u : Nat) (w : World) (owed : Nat) : EvictionPhase → Bool
  | .counting _ => decide (owed ≠ 0)
  | .seeking c _ => decide (w.sessions u c none = 0)
  | _ => false

variable {w : World} {φ : EvictionPhase} {s : Stmt} {owed : Nat}

theorem covers_of_uncounted (h : φ.uncounted = true) : Covers env u w owed φ := by
  cases φ <;> trivial

/-- A login that covers a world covers each one with no more sessions. -/
theorem Covers.mono {w' : World} {owed' : Nat} (h : Covers env u w owed φ)
    (hle : ∀ c, φ.clock = some c →
      w'.sessions u c φ.doomed + owed' ≤ w.sessions u c φ.doomed + owed) :
    Covers env u w' owed' φ := by
  cases φ with
  | idle => exact h
  | inserted => trivial
  | counting c => trivial
  | evicting c left => exact Nat.le_trans (hle c rfl) h
  | seeking c left => exact Nat.le_trans (hle c rfl) h
  | selected c left t => exact Nat.le_trans (hle c rfl) h

/-- The clock reading of a phase is an earlier one or that of the step. -/
theorem clock_next {reply : Except Exn s.Reply} {c : Int} (hr : (World.exec env s w).1 = reply)
    (h : (next env u φ s reply).clock = some c) : φ.clock = some c ∨ c = w.now := by
  revert h
  fun_cases next env u φ s reply
  all_goals intro h
  case case3 => cases h; exact .inr (Except.ok.inj hr).symm
  case case5 => cases h; exact .inr (Except.ok.inj hr).symm
  all_goals first | exact .inl h | cases h

/-- A login's step adds no session, or takes the login to its count. -/
theorem inserted_or_le (env : Env) (w : World) (ha : allowed u φ s) :
    next env u φ s (World.exec env s w).1 = .inserted ∨
      ∀ c doomed, (World.exec env s w).2.sessions u c doomed ≤ w.sessions u c doomed := by
  by_cases hs : s.insertsFor u = true
  · cases s
    case createRefreshToken data =>
      rcases World.exec_createRefreshToken env w data with ⟨e, he⟩ | ⟨table, he, -, -⟩
      · rw [he]
        exact .inr fun _ _ => Nat.le_refl _
      · rw [he]
        cases φ with
        | idle => exact .inl (if_pos (of_decide_eq_true hs))
        | evicting c left => cases left <;> exact ha.elim
        | _ => exact ha.elim
    all_goals cases hs
  · exact .inr (World.sessions_exec_le env w (by simpa using hs))

/-- The count: no session is owed, so the evictions are enough for what it has counted. -/
theorem covers_count {c : Int} (ha : allowed u (.counting c) s)
    (hm : (EvictionPhase.counting c).misses u w owed = false) :
    Covers env u (World.exec env s w).2 owed (next env u (.counting c) s (World.exec env s w).1) := by
  cases s
  case countActiveByUserId id now =>
    obtain ⟨rfl, rfl⟩ := ha
    have howed : owed = 0 := by simpa [misses] using hm
    show w.sessions id now none + owed ≤ env.maxSessions +
      ((w.refreshTokens.select fun t => t.userId = id && t.active now).length - env.maxSessions)
    rw [World.select_active_eq]
    omega
  all_goals exact ha.elim

/-- The search: the session that it selects leaves one fewer, once it is evicted. -/
theorem covers_search {c : Int} {left : Nat} (ha : allowed u (.seeking c left) s)
    (hm : (EvictionPhase.seeking c left).misses u w owed = false)
    (h : Covers env u w owed (.seeking c left)) :
    Covers env u (World.exec env s w).2 owed
      (next env u (.seeking c left) s (World.exec env s w).1) := by
  cases s
  case findOldestActiveByUserId id now =>
    obtain ⟨rfl, rfl⟩ := ha
    have hcover : w.sessions id now none + owed ≤ env.maxSessions + left + 1 := h
    cases hpick : env.oldest.pick
        (w.refreshTokens.select fun t => t.userId = id && t.active now) with
    | none =>
      have hzero := congrArg List.length (env.oldest.pick_none hpick)
      rw [World.select_active_eq] at hzero
      simp [misses, hzero] at hm
    | some t =>
      obtain ⟨hmem, hactive⟩ := List.mem_filter.mp (env.oldest.pick_mem hpick)
      have hdoomed : w.sessions id now (some t.id) + 1 ≤ w.sessions id now none :=
        World.sessions_doomed hmem (by simpa [RefreshToken.sessionOf] using hactive)
      simp only [World.exec, hpick, next]
      show w.sessions id now (some t.id) + owed ≤ env.maxSessions + left
      omega
  all_goals exact ha.elim

/-- A login that covers the sessions still does after its own step, if the step misses none. -/
theorem covers_next (ha : allowed u φ s) (hclock : ∀ c, φ.clock = some c → c ≤ w.now)
    (hm : φ.misses u w owed = false) (h : Covers env u w owed φ) :
    Covers env u (World.exec env s w).2 owed (next env u φ s (World.exec env s w).1) := by
  cases φ with
  | idle => exact h.elim
  | inserted =>
    cases s
    case newDate => trivial
    all_goals exact ha.elim
  | counting c => exact covers_count ha hm
  | evicting c left =>
    cases left with
    | zero =>
      cases s
      case newDate | publish | createAuditLog => exact h
      all_goals exact ha.elim
    | succ left =>
      cases s
      case newDate =>
        have hlater : w.sessions u w.now none ≤ w.sessions u c none :=
          World.sessions_later (hclock c rfl)
        have hcover : w.sessions u c none + owed ≤ env.maxSessions + (left + 1) := h
        show w.sessions u w.now none + owed ≤ env.maxSessions + left + 1
        omega
      all_goals exact ha.elim
  | seeking c left => exact covers_search ha hm h
  | selected c left t =>
    cases s
    case newDate => exact h
    case revokeToken id reason revokedAt =>
      obtain rfl : id = t.id := ha
      exact Nat.le_trans (Nat.add_le_add_right (World.sessions_evict t.id reason revokedAt) owed) h
    all_goals exact ha.elim

end EvictionPhase
end Auth
