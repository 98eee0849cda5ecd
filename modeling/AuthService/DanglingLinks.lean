import AuthService.ForensicWindow

/-!
# AuthService.DanglingLinks

Rotation links and the cleanup, in any interleaving.

* `Follows`  — a token, as long as it is there, has a successor that expires no earlier.
* `Lasting`  — every link leads to a follower, and no token is revoked more than seven days ahead of
  its expiry; so whatever the cleanup deletes of a chain, it deletes what comes before.
* `LinkPhase` — the token that a refresh has found, and the successor that it has inserted for it.
* `no_dangling_links` — as long as no revocation carries a date from before the token was issued, no
  link ever dangles. `dangling_link` is a run with such a revocation.
-/

namespace Auth

open Relational Resumption Prog

variable {env : Env} {w : World} {s : Stmt}

/-! ## One statement -/

/-- The rows that a statement revokes. -/
def Stmt.revokes : Stmt → RefreshToken → Bool
  | .revokeToken id _ _, t => t.id = id
  | .revokeAllByUserId userId _ _, t => t.userId = userId && !t.revoked
  | _, _ => false

/-- A row that a statement does not revoke keeps its revocation; one that it revokes bears its
date. -/
theorem revocation_onRefreshToken (s : Stmt) (t : RefreshToken) :
    (s.revokes t = false ∧ (s.onRefreshToken t).revoked = t.revoked ∧
        (s.onRefreshToken t).revokedAt = t.revokedAt) ∨
      s.revokes t = true ∧ ∃ revokedAt, s.revokedAt? = some revokedAt ∧
        (s.onRefreshToken t).revokedAt = some revokedAt := by
  cases s
  case revokeToken id reason revokedAt =>
    by_cases hid : t.id = id
    · right
      simp [Stmt.revokes, Stmt.revokedAt?, Stmt.onRefreshToken, Stmt.tokenUpdate, Table.patchIf,
        hid, RefreshToken.revoke]
    · left
      simp [Stmt.revokes, Stmt.onRefreshToken, Stmt.tokenUpdate, Table.patchIf, hid]
  case revokeAllByUserId userId reason revokedAt =>
    by_cases hp : (decide (t.userId = userId) && !t.revoked) = true
    · right
      refine ⟨hp, revokedAt, rfl, ?_⟩
      simp only [Stmt.onRefreshToken, Stmt.tokenUpdate, Table.patchIf, if_pos hp]
      rfl
    · left
      refine ⟨by simpa [Stmt.revokes] using hp, ?_⟩
      simp only [Stmt.onRefreshToken, Stmt.tokenUpdate, Table.patchIf, if_neg hp, and_self]
  case setReplacedBy | updateLastUsed =>
    left
    simp only [Stmt.onRefreshToken, Stmt.tokenUpdate, Table.patchIf]
    split <;> exact ⟨rfl, rfl, rfl⟩
  all_goals exact .inl ⟨rfl, rfl, rfl⟩

/-- The row with id `j` stays at least as long as the row with id `i`. -/
def Follows (w : World) (i j : Nat) : Prop :=
  ∀ t ∈ w.refreshTokens.rows, t.id = i →
    ∃ n ∈ w.refreshTokens.rows, n.id = j ∧ n.userId = t.userId ∧ t.expiresAt ≤ n.expiresAt

/-- What the revocation of a token leaves of its seven days. -/
def RefreshToken.Lapsed (t : RefreshToken) : Prop :=
  t.revoked = true → ∃ revokedAt, t.revokedAt = some revokedAt ∧ t.expiresAt ≤ revokedAt + retention

/-- A token that is revoked for long has expired. -/
theorem RefreshToken.Lapsed.kept {t : RefreshToken} (h : t.Lapsed) {c : Int}
    (hexp : ¬ t.expiresAt < c) : World.expiredOrLongRevoked c t = false := by
  unfold World.expiredOrLongRevoked
  rw [decide_eq_false hexp, Bool.false_or]
  cases hrev : t.revoked with
  | false => rfl
  | true =>
    obtain ⟨revokedAt, hat, hle⟩ := h hrev
    rw [hat]
    unfold retention at hle
    simp only [Bool.true_and, decide_eq_false_iff_not]
    omega

/-- No statement separates the two rows: where the first is kept, so is the second. -/
theorem follows_exec {i j : Nat} (hi : i < w.supply)
    (hlapsed : ∀ t ∈ w.refreshTokens.rows, t.Lapsed) (h : Follows w i j) :
    Follows (World.exec env s w).2 i j := by
  intro t' ht' hid
  by_cases hdel : s.deletesRefreshTokens = false
  · rcases World.exec_source ht' with ⟨t, ht, rfl⟩ | ⟨data, rfl, rfl, -⟩
    · have hev := s.evolves_onRefreshToken t
      obtain ⟨n, hn, hnid, huser, hle⟩ := h t ht (hev.id_eq.symm.trans hid)
      have hevn := s.evolves_onRefreshToken n
      refine ⟨_, World.exec_keeps env hdel hn, hevn.id_eq.trans hnid, ?_, ?_⟩
      · rw [hevn.userId_eq, hev.userId_eq, huser]
      · rw [hevn.expiresAt_eq, hev.expiresAt_eq]
        exact hle
    · have hnew : w.supply = i := hid
      omega
  · cases s
    case deleteCredential u =>
      obtain ⟨ht, hu⟩ := Table.mem_deleteWhere.mp ht'
      obtain ⟨n, hn, hnid, huser, hle⟩ := h t' ht hid
      refine ⟨n, Table.mem_deleteWhere.mpr ⟨hn, ?_⟩, hnid, huser, hle⟩
      rw [huser]
      exact hu
    case deleteExpiredAndRevoked c =>
      obtain ⟨ht, hkept⟩ := Table.mem_deleteWhere.mp ht'
      obtain ⟨n, hn, hnid, huser, hle⟩ := h t' ht hid
      have hexp : ¬ t'.expiresAt < c := of_decide_eq_false (Bool.or_eq_false_iff.mp hkept).1
      have hexpn : ¬ n.expiresAt < c := by omega
      exact ⟨n, Table.mem_deleteWhere.mpr ⟨hn, (hlapsed n hn).kept hexpn⟩, hnid, huser, hle⟩
    all_goals exact absurd rfl hdel

structure Lasting (w : World) : Prop where
  id_lt : ∀ t ∈ w.refreshTokens.rows, t.id < w.supply
  expires_le : ∀ t ∈ w.refreshTokens.rows, t.expiresAt ≤ w.now + retention
  lapsed : ∀ t ∈ w.refreshTokens.rows, t.Lapsed
  follows : ∀ t ∈ w.refreshTokens.rows, ∀ j, t.replacedByTokenId = some j → Follows w t.id j

/-- What a statement has to meet: an insert expires within seven days, a revocation is dated at most
seven days ahead of the expiry, a link leads to a follower. -/
theorem lasting_exec
    (hnew : ∀ data, s = .createRefreshToken data → data.expiresAt ≤ w.now + retention)
    (hdate : ∀ revokedAt, s.revokedAt? = some revokedAt → ∀ t ∈ w.refreshTokens.rows,
      s.revokes t = true → t.expiresAt ≤ revokedAt + retention)
    (hlink : ∀ i j, s = .setReplacedBy i j → Follows w i j) (h : Lasting w) :
    Lasting (World.exec env s w).2 := by
  have hsupply := World.exec_supply env s w
  constructor
  · intro t' ht'
    rcases World.exec_source ht' with ⟨t, ht, rfl⟩ | ⟨data, rfl, rfl, hnext, -⟩
    · have hold := h.id_lt t ht
      rw [(s.evolves_onRefreshToken t).id_eq]
      omega
    · rw [hnext]
      exact Nat.lt_succ_self _
  · intro t' ht'
    rw [World.exec_now]
    rcases World.exec_source ht' with ⟨t, ht, rfl⟩ | ⟨data, rfl, rfl, -⟩
    · rw [(s.evolves_onRefreshToken t).expiresAt_eq]
      exact h.expires_le t ht
    · exact hnew data rfl
  · intro t' ht' hrev
    rcases World.exec_source ht' with ⟨t, ht, rfl⟩ | ⟨data, rfl, rfl, -⟩
    · rw [(s.evolves_onRefreshToken t).expiresAt_eq]
      rcases revocation_onRefreshToken s t with ⟨-, hsame, hat⟩ | ⟨hhit, revokedAt, hs, hat⟩
      · rw [hat]
        exact h.lapsed t ht (hsame.symm.trans hrev)
      · exact ⟨revokedAt, hat, hdate revokedAt hs t ht hhit⟩
    · cases hrev
  · intro t' ht' j hj
    rcases World.exec_source ht' with ⟨t, ht, rfl⟩ | ⟨data, rfl, rfl, -⟩
    · rw [(s.evolves_onRefreshToken t).id_eq]
      refine follows_exec (h.id_lt t ht) h.lapsed ?_
      by_cases hset : s = .setReplacedBy t.id j
      · exact hlink t.id j hset
      · refine h.follows t ht j ?_
        rw [← hj]
        by_cases hother : ∃ j', s = .setReplacedBy t.id j'
        · obtain ⟨j', rfl⟩ := hother
          have hnext : some j' = some j := by
            simpa [Stmt.onRefreshToken, Stmt.tokenUpdate, Table.patchIf, RefreshToken.setReplacedBy]
              using hj
          cases hnext
          exact absurd rfl hset
        · exact (Stmt.onRefreshToken_link fun j' heq => hother ⟨j', heq⟩).symm
    · cases hj

/-! ## A refresh, from its lookup to its link -/

/-- The token that a refresh has found, with the clock readings since, the latest first; then the
successor as well. -/
inductive LinkPhase where
  | idle
  | holding (existing : RefreshToken) (readings : List Int)
  | linking (existing new : RefreshToken)

namespace LinkPhase

def next : LinkPhase → (s : Stmt) → Except Exn s.Reply → LinkPhase
  | .idle, .findRefreshTokenByHash _, .ok (some t) => .holding t []
  | .holding t φ, .newDate, .ok now => .holding t (now :: φ)
  | .holding t _, .createRefreshToken _, .ok new => .linking t new
  | φ, _, _ => φ

/-- The successor is the same user's, and the clock is read twice between the lookup and its
insert. -/
def allowed : LinkPhase → Stmt → Prop
  | .holding t φ, .createRefreshToken data => 2 ≤ φ.length ∧ data.userId = t.userId
  | .linking t new, .setReplacedBy i j => i = t.id ∧ j = new.id
  | .linking _ _, .createRefreshToken _ => False
  | _, .setReplacedBy _ _ => False
  | _, _ => True

/-- No request but a refresh sets links. -/
def monitor : Request → Monitor sig LinkPhase
  | .refreshToken _ => ⟨next, allowed⟩
  | _ => ⟨fun _ _ _ => .idle, fun _ s => ∀ i j, s ≠ .setReplacedBy i j⟩

theorem conforms_rotate (t : RefreshToken) {φ : List Int} (ipAddress userAgent : Option String) :
    (⟨next, allowed⟩ : Monitor sig LinkPhase).Conforms (fun _ _ => True) (.holding t φ)
      (TokenService.rotate env t ipAddress userAgent) := by
  unfold TokenService.rotate RefreshTokenRepository.revokeToken
  simp only [bind_eq, Prog.bind_assoc]
  refine Monitor.conforms_perform_bind trivial (fun revokedAt => ?_) fun _ => trivial
  refine Monitor.conforms_perform_bind trivial (fun _ => ?_) fun _ => trivial
  unfold TokenService.generateRefreshToken RefreshTokenRepository.create
  simp only [bind_eq, Prog.bind_assoc]
  refine Monitor.conforms_perform_bind trivial (fun rawToken => ?_) fun _ => trivial
  refine Monitor.conforms_perform_bind trivial (fun now => ?_) fun _ => trivial
  refine Monitor.conforms_perform_bind trivial (fun issuedAt => ?_) fun _ => trivial
  refine Monitor.conforms_perform_bind ⟨by simp, rfl⟩ (fun new => ?_) fun _ => trivial
  show Monitor.Conforms _ _ (LinkPhase.linking t new) _
  unfold RefreshTokenRepository.setReplacedBy RefreshTokenRepository.updateLastUsed
  simp only [bind_eq, Prog.bind_assoc]
  refine Monitor.conforms_perform_bind ⟨rfl, rfl⟩ (fun _ => ?_) fun _ => trivial
  refine Monitor.conforms_perform_bind trivial (fun lastUsedAt => ?_) fun _ => trivial
  exact Monitor.conforms_perform_bind trivial (fun _ => trivial) fun _ => trivial

/-- Statements that are allowed in every phase. -/
theorem conforms_of_allowed {α : Type} {p : AuthProg α} (φ : LinkPhase)
    (hp : p.Uses fun s : Stmt => ∀ φ, allowed φ s) :
    (⟨next, allowed⟩ : Monitor sig LinkPhase).Conforms (fun _ _ => True) φ p :=
  Monitor.conforms_of_always_allowed hp (fun φ _ hs => hs φ) (fun _ _ => trivial) φ

theorem conforms_refreshTokens (raw : Nat) (ipAddress userAgent : Option String) :
    (⟨next, allowed⟩ : Monitor sig LinkPhase).Conforms (fun _ _ => True) .idle
      (TokenService.refreshTokens env raw ipAddress userAgent) := by
  unfold TokenService.refreshTokens
  refine Monitor.conforms_perform_bind trivial (fun existing? => ?_) fun _ => trivial
  cases existing? with
  | none => trivial
  | some t =>
    show Monitor.Conforms _ _ (LinkPhase.holding t []) _
    simp only
    split
    · refine conforms_of_allowed _ ?_
      refine uses_bind (uses_revokeAllUserTokens ?_ fun at' => ?_) fun _ => trivial
      · intro φ
        cases φ <;> trivial
      · intro φ
        cases φ <;> trivial
    · refine Monitor.conforms_perform_bind trivial (fun now => ?_) fun _ => trivial
      split
      · trivial
      · exact conforms_rotate t ipAddress userAgent

theorem conforms_refreshToken (raw : Nat) :
    (⟨next, allowed⟩ : Monitor sig LinkPhase).Conforms (fun _ _ => True) .idle
      (handle env (.refreshToken raw)) := by
  have hrest : ∀ (result : RefreshResult) (φ : LinkPhase),
      (⟨next, allowed⟩ : Monitor sig LinkPhase).Conforms (fun _ _ => True) φ
        (AuthController.issueAccessToken result) := by
    intro result φ
    refine conforms_of_allowed φ (uses_issueAccessToken result (fun id φ => ?_) ?_)
    · cases φ <;> trivial
    · intro sub email roles φ
      cases φ <;> trivial
  have hboth : (⟨next, allowed⟩ : Monitor sig LinkPhase).Conforms (fun _ _ => True) .idle
      (AuthController.refreshToken env raw) := by
    refine Monitor.conforms_bind ((conforms_refreshTokens raw none none).mono fun φ r _ => ?_)
    cases r with
    | ok result => exact hrest result φ
    | error e => trivial
  refine Monitor.conforms_bind (hboth.mono fun φ r _ => ?_)
  cases r <;> trivial

theorem conforms_handle (r : Request) :
    (monitor r).Conforms (fun _ _ => True) .idle (handle env r) := by
  cases r
  case refreshToken raw => exact conforms_refreshToken raw
  case register | login =>
    refine Monitor.conforms_of_uses (uses_handle _) ?_ (fun _ _ _ => rfl) fun _ => trivial
    rintro s hs i j rfl
    obtain ⟨_, hs⟩ := hs
    cases hs
  all_goals
    refine Monitor.conforms_of_uses (uses_handle _) ?_ (fun _ _ _ => rfl) fun _ => trivial
    rintro s hs i j rfl
    cases hs

end LinkPhase

/-! ## Any requests in any interleaving -/

section Concurrent

variable {ι : Type} [DecidableEq ι] {req : ι → Request}

abbrev RequestPool (ι : Type) : Type := Pool sig World ι fun _ => Response

namespace RequestPool

/-- The clock readings of a request so far. -/
def readings (env : Env) (q : RequestPool ι) (i : ι) : List Int :=
  q.phase (fun _ => Readings.monitor env) (fun _ => []) i

def linkPhase (req : ι → Request) (q : RequestPool ι) (i : ι) : LinkPhase :=
  q.phase (fun i => LinkPhase.monitor (req i)) (fun _ => .idle) i

/-- A token that is inserted expires seven days of 24 hours after the reading that its expiry is
counted from, the one before the last. -/
def SevenDays (env : Env) (q : RequestPool ι) : Label ι → Prop
  | .tick _ => True
  | .run i => ∀ data ∈ (q.next? i).bind Stmt.inserts, ∀ now ∈ (readings env q i)[1]?,
      data.expiresAt = now + retention

/-- No token is revoked as of an instant more than seven days before it expires: as of one before
its issue, that is. -/
def Punctual (q : RequestPool ι) : Label ι → Prop
  | .tick _ => True
  | .run i => ∀ s ∈ q.next? i, ∀ revokedAt ∈ s.revokedAt?, ∀ t ∈ q.world.refreshTokens.rows,
      s.revokes t = true → t.expiresAt ≤ revokedAt + retention

instance (env : Env) (q : RequestPool ι) : (l : Label ι) → Decidable (SevenDays env q l)
  | .tick _ => .isTrue trivial
  | .run _ => inferInstanceAs (Decidable (∀ data ∈ (_ : Option NewRefreshToken),
      ∀ now ∈ (_ : Option Int), _ = _))

instance (q : RequestPool ι) : (l : Label ι) → Decidable (Punctual q l)
  | .tick _ => .isTrue trivial
  | .run _ => inferInstanceAs (Decidable (∀ s ∈ (_ : Option Stmt), ∀ revokedAt ∈ (_ : Option Int),
      ∀ t ∈ _, _ = true → _ ≤ _))

/-- What is true of the token that a refresh has found, as long as the token is there. -/
def Grounded (w : World) (readings : List Int) : LinkPhase → Prop
  | .idle => True
  | .holding t φ => t.id < w.supply ∧ t.expiresAt ≤ w.now + retention ∧
      (φ <+: readings ∧ ∀ d ∈ φ, t.expiresAt ≤ d + retention) ∧
      ∀ t' ∈ w.refreshTokens.rows, t'.id = t.id → t'.userId = t.userId ∧ t'.expiresAt = t.expiresAt
  | .linking t new => t.id < w.supply ∧ Follows w t.id new.id

structure Unbroken (env : Env) (req : ι → Request) (q : RequestPool ι) : Prop where
  lasting : Lasting q.world
  past : ∀ i, ∀ d ∈ readings env q i, d ≤ q.world.now
  grounded : ∀ i, Grounded q.world (readings env q i) (linkPhase req q i)

variable {q : RequestPool ι} {i j : ι} {k : Except Exn s.Reply → AuthProg Response}

theorem readings_self (hp : q.prog i = .call s k) :
    readings env (q.step (World.machine env) (.run i)) i =
      Readings.next (readings env q i) s (World.exec env s q.world).1 :=
  phase_step_self hp

theorem readings_other (hij : j ≠ i) :
    readings env (q.step (World.machine env) (.run i)) j = readings env q j :=
  phase_step_other hij

theorem linkPhase_self (hp : q.prog i = .call s k) :
    linkPhase req (q.step (World.machine env) (.run i)) i =
      (LinkPhase.monitor (req i)).next (linkPhase req q i) s (World.exec env s q.world).1 :=
  phase_step_self hp

theorem linkPhase_other (hij : j ≠ i) :
    linkPhase req (q.step (World.machine env) (.run i)) j = linkPhase req q j :=
  phase_step_other hij

/-- A statement of another request. -/
theorem grounded_exec {φ : LinkPhase} {read : List Int} (hw : Lasting w) (h : Grounded w read φ) :
    Grounded (World.exec env s w).2 read φ := by
  have hsupply := World.exec_supply env s w
  cases φ with
  | idle => trivial
  | holding t φ =>
    obtain ⟨hid, hexp, hread, hrow⟩ := h
    refine ⟨by omega, ?_, hread, fun t' ht' hid' => ?_⟩
    · rw [World.exec_now]
      exact hexp
    · rcases World.exec_source ht' with ⟨t₀, ht₀, rfl⟩ | ⟨data, rfl, rfl, -⟩
      · have hev := s.evolves_onRefreshToken t₀
        rw [hev.userId_eq, hev.expiresAt_eq]
        exact hrow t₀ ht₀ (hev.id_eq.symm.trans hid')
      · have hnew : w.supply = t.id := hid'
        omega
  | linking t new =>
    exact ⟨Nat.lt_of_lt_of_le h.1 hsupply, follows_exec h.1 hw.lapsed h.2⟩

/-- The successor that a refresh inserts: it counts its expiry from a reading after the lookup. -/
theorem follows_insert {t : RefreshToken} {φ read : List Int} {data : NewRefreshToken}
    (h : Grounded w read (.holding t φ))
    (ha : LinkPhase.allowed (.holding t φ) (.createRefreshToken data))
    (hdated : Readings.allowed env read (.createRefreshToken data))
    (hseven : ∀ now ∈ read[1]?, data.expiresAt = now + retention) {new : RefreshToken}
    (hnew : (World.exec env (.createRefreshToken data) w).1 = .ok new) :
    Follows (World.exec env (.createRefreshToken data) w).2 t.id new.id := by
  obtain ⟨hid, -, ⟨hpre, hread⟩, hrow⟩ := h
  obtain ⟨hlen, huser⟩ := ha
  obtain ⟨now, rest, rfl, -⟩ := hdated
  have hlife : data.expiresAt = now + retention := hseven now (by simp)
  -- the refresh has read the clock twice since the lookup, so the reading is one of its own
  have hmem : now ∈ φ := by
    obtain ⟨later, hsplit⟩ := hpre
    match φ, hlen with
    | _ :: _ :: _, _ =>
      simp only [List.cons_append, List.cons.injEq] at hsplit
      simp [hsplit.2.1]
  have hexp : t.expiresAt ≤ data.expiresAt := by
    have := hread now hmem
    omega
  rcases World.exec_createRefreshToken env w data with ⟨e, he⟩ | ⟨table, he, hrows, -⟩
  · rw [he] at hnew
    cases hnew
  · rw [he] at hnew ⊢
    obtain rfl := Except.ok.inj hnew
    intro t' ht' hid'
    simp only [hrows, List.mem_append, List.mem_singleton] at ht' ⊢
    rcases ht' with ht' | rfl
    · obtain ⟨huser', hexp'⟩ := hrow t' ht' hid'
      refine ⟨_, .inr rfl, rfl, ?_, ?_⟩
      · show data.userId = t'.userId
        rw [huser, huser']
      · show t'.expiresAt ≤ data.expiresAt
        rw [hexp']
        exact hexp
    · have hsame : w.supply = t.id := hid'
      omega

/-- A statement of the refresh itself. -/
theorem grounded_next {φ : LinkPhase} {read : List Int} (hw : Lasting w) (h : Grounded w read φ)
    (ha : LinkPhase.allowed φ s) (hdated : Readings.allowed env read s)
    (hseven : ∀ data ∈ s.inserts, ∀ now ∈ read[1]?, data.expiresAt = now + retention) :
    Grounded (World.exec env s w).2 (Readings.next read s (World.exec env s w).1)
      (LinkPhase.next φ s (World.exec env s w).1) := by
  have hexec : Grounded (World.exec env s w).2 read φ := grounded_exec hw h
  cases φ with
  | idle =>
    cases s
    case findRefreshTokenByHash tokenHash =>
      cases hfind : w.refreshTokens.find? fun t => t.tokenHash = tokenHash with
      | none =>
        simp only [World.exec, hfind]
        trivial
      | some t =>
        obtain ⟨ht, -⟩ := Table.find?_mem hfind
        simp only [World.exec, hfind, LinkPhase.next]
        refine ⟨hw.id_lt t ht, hw.expires_le t ht, ⟨List.nil_prefix, by simp⟩, fun t' ht' hid => ?_⟩
        obtain rfl := Table.eq_of_key ht' ht hid
        exact ⟨rfl, rfl⟩
    all_goals trivial
  | holding t φ =>
    cases s
    case newDate =>
      obtain ⟨hid, hexp, ⟨hpre, hread⟩, hrow⟩ := h
      refine ⟨hid, hexp, ⟨List.cons_prefix_cons.mpr ⟨rfl, hpre⟩, fun d hd => ?_⟩, hrow⟩
      rcases List.mem_cons.mp hd with rfl | hd
      · exact hexp
      · exact hread d hd
    case createRefreshToken data =>
      cases hnew : (World.exec env (.createRefreshToken data) w).1 with
      | error e =>
        exact hexec
      | ok new =>
        exact ⟨hexec.1, follows_insert h ha hdated (hseven data rfl) hnew⟩
    all_goals exact hexec
  | linking t new =>
    have hsame : LinkPhase.next (.linking t new) s (World.exec env s w).1 = .linking t new := by
      cases s <;> rfl
    rw [hsame]
    exact hexec

theorem lasting_step (hI : Unbroken env req q) (hseven : SevenDays env q (.run i))
    (hpunctual : Punctual q (.run i)) (hp : q.prog i = .call s k)
    (ha : (LinkPhase.monitor (req i)).allowed (linkPhase req q i) s)
    (hdated : Readings.allowed env (readings env q i) s) :
    Lasting (World.exec env s q.world).2 := by
  have hnext := Pool.next?_of_call hp
  refine lasting_exec ?_ ?_ ?_ hI.lasting
  · rintro data rfl
    obtain ⟨now, rest, hread, -⟩ := hdated
    have hlife : data.expiresAt = now + retention :=
      hseven data (by rw [hnext]; rfl) now (by rw [hread]; rfl)
    have hpast : now ≤ q.world.now := hI.past i now (by rw [hread]; simp)
    omega
  · intro revokedAt hs t ht hhit
    exact hpunctual s hnext revokedAt hs t ht hhit
  · rintro a b rfl
    have hgrounded := hI.grounded i
    cases hr : req i
    case refreshToken raw =>
      rw [hr] at ha
      cases hφ : linkPhase req q i with
      | linking t new =>
        rw [hφ] at ha hgrounded
        obtain ⟨rfl, rfl⟩ := ha
        exact hgrounded.2
      | idle | holding =>
        rw [hφ] at ha
        exact ha.elim
    all_goals
      rw [hr] at ha
      exact absurd rfl (ha a b)

theorem unbroken_step (hI : Unbroken env req q) (hseven : SevenDays env q (.run i))
    (hpunctual : Punctual q (.run i)) (hp : q.prog i = .call s k)
    (ha : (LinkPhase.monitor (req i)).allowed (linkPhase req q i) s)
    (hdated : Readings.allowed env (readings env q i) s) :
    Unbroken env req (q.step (World.machine env) (.run i)) := by
  have hworld : (q.step (World.machine env) (.run i)).world = (World.exec env s q.world).2 :=
    Pool.world_step hp
  constructor
  · rw [hworld]
    exact lasting_step hI hseven hpunctual hp ha hdated
  · intro j d hd
    rw [hworld, World.exec_now]
    by_cases hj : j = i
    · subst hj
      rw [readings_self hp] at hd
      cases s
      case newDate =>
        rcases List.mem_cons.mp hd with rfl | hd
        · exact le_refl _
        · exact hI.past j d hd
      all_goals exact hI.past j d hd
    · rw [readings_other hj] at hd
      exact hI.past j d hd
  · intro j
    rw [hworld]
    by_cases hj : j = i
    · subst hj
      rw [readings_self hp, linkPhase_self hp]
      cases hr : req j
      case refreshToken raw =>
        rw [hr] at ha
        refine grounded_next hI.lasting (hI.grounded j) ha hdated fun data hs now hnow => ?_
        exact hseven data (by rw [Pool.next?_of_call hp]; exact hs) now hnow
      all_goals trivial
    · rw [readings_other hj, linkPhase_other hj]
      exact grounded_exec hI.lasting (hI.grounded j)

theorem lasting_initial (roles : Table Role) (supply : Nat) (now : Int) :
    Lasting (World.initial roles supply now) := by
  constructor <;> simp [World.initial]

theorem unbroken_tick (hI : Unbroken env req q) (n : Nat) :
    Unbroken env req (q.step (World.machine env) (.tick n)) := by
  have hnow : q.world.now ≤ q.world.now + n := by omega
  have hlast := hI.lasting
  constructor
  · exact ⟨hlast.id_lt, fun t ht => (hlast.expires_le t ht).trans (by
      show q.world.now + retention ≤ q.world.now + n + retention
      omega), hlast.lapsed, hlast.follows⟩
  · intro i d hd
    exact (hI.past i d hd).trans hnow
  · intro i
    have hgrounded := hI.grounded i
    show Grounded _ (readings env q i) (linkPhase req q i)
    cases hφ : linkPhase req q i with
    | idle => trivial
    | holding t φ =>
      rw [hφ] at hgrounded
      obtain ⟨hid, hexp, hrest⟩ := hgrounded
      refine ⟨hid, ?_, hrest⟩
      show t.expiresAt ≤ q.world.now + n + retention
      omega
    | linking t new =>
      rw [hφ] at hgrounded
      exact hgrounded

end RequestPool

/-- Every link leads to a row. -/
def World.NoLinkDangles (w : World) : Prop :=
  ∀ t ∈ w.refreshTokens.rows, ∀ j ∈ t.replacedByTokenId, ∃ n ∈ w.refreshTokens.rows, n.id = j

instance (w : World) : Decidable w.NoLinkDangles :=
  inferInstanceAs (Decidable (∀ t ∈ _, ∀ j ∈ (_ : Option Nat), ∃ n ∈ _, _ = _))

open RequestPool in
/-- Any requests, the cleanup among them, any number at a time: as long as no revocation bears a
date from before the issue of the token that it revokes, no link dangles. -/
theorem no_dangling_links (env : Env) (req : ι → Request) (roles : Table Role) (supply : Nat)
    (now : Int) {q : RequestPool ι}
    (hr : Reach (World.machine env) (fun q l => SevenDays env q l ∧ Punctual q l)
      (serving env req (World.initial roles supply now)) q) : q.world.NoLinkDangles := by
  have hstart : Unbroken env req (serving env req (World.initial roles supply now)) := by
    refine ⟨lasting_initial roles supply now, fun i d hd => absurd hd List.not_mem_nil, fun i => ?_⟩
    show Grounded _ [] .idle
    trivial
  have hI : Unbroken env req q := by
    refine hr.invariant_steps (M := World.machine env) (I := Unbroken env req) hstart
      (fun q n _ hI _ => unbroken_tick hI n) ?_
    rintro q i s k hq hI ⟨hseven, hpunctual⟩ hp
    have hlink : (LinkPhase.monitor (req i)).Conforms (fun _ _ => True)
        (q.phase (fun i => LinkPhase.monitor (req i)) (fun _ => .idle) i) (q.prog i) :=
      conforms_reach (m := fun i => LinkPhase.monitor (req i)) (F := fun _ _ _ => True) hq
        (LinkPhase.conforms_handle (req i))
    have hdated : (Readings.monitor env).Conforms (fun _ _ => True)
        (q.phase (fun _ => Readings.monitor env) (fun _ => []) i) (q.prog i) :=
      conforms_reach (m := fun _ => Readings.monitor env) (F := fun _ _ _ => True) hq
        (dated_handle env (req i) [])
    rw [hp] at hlink hdated
    exact unbroken_step hI hseven hpunctual hp hlink.1 hdated.1
  intro t ht j hj
  obtain ⟨n, hn, hid, -⟩ := hI.lasting.follows t ht j hj t ht rfl
  exact ⟨n, hn, hid⟩

end Concurrent

/-! ### A revocation with an old date -/

/-- All sessions are revoked while the user logs in and refreshes; then the cleanup. -/
def staleRevocation : Fin 5 → Request
  | 0 => .register "a@x" "p" none none
  | 1 => .revokeAllTokens 1 none
  | 2 => .login "a@x" "p" none none
  | 3 => .refreshToken 6
  | 4 => .cleanupRefreshTokens

/-- The revocation reads the clock, the user logs in and refreshes, and the revocation takes effect
on the new token. Seven days after the login, the cleanup takes the new token for long revoked and
leaves the other. -/
def revokedLate : List (Label (Fin 5)) :=
  List.replicate 20 (.run 0) ++ [.run 1, .tick 1] ++ List.replicate 20 (.run 2) ++
    List.replicate 20 (.run 3) ++ [.run 1, .tick (7 * 24 * 60 * 60 * 1000), .run 4, .run 4]

def staleRequests : RequestPool (Fin 5) :=
  serving Env.plain staleRevocation (World.initial .empty 0 0)

theorem cleanup_cuts_link :
    ¬ ∀ (req : Fin 5 → Request) (roles : Table Role) (supply : Nat) (now : Int)
        (q : RequestPool (Fin 5)),
      Reach (World.machine Env.plain) (RequestPool.SevenDays Env.plain)
        (serving Env.plain req (World.initial roles supply now)) q → q.world.NoLinkDangles := by
  intro h
  have hr : Reach (World.machine Env.plain) (RequestPool.SevenDays Env.plain) staleRequests
      (staleRequests.runs (World.machine Env.plain) revokedLate) :=
    Reach.of_checked (by decide +kernel)
  have hwhole := h _ _ _ _ _ hr
  revert hwhole
  decide +kernel

/-- The revocation is over before the login. -/
def revokedInTurn : List (Label (Fin 5)) :=
  List.replicate 20 (.run 0) ++ [.run 1, .run 1, .tick 1] ++ List.replicate 20 (.run 2) ++
    List.replicate 20 (.run 3) ++ [.tick (7 * 24 * 60 * 60 * 1000), .run 4, .run 4]

theorem no_dangling_links_in_turn :
    let w := (staleRequests.runs (World.machine Env.plain) revokedInTurn).world
    (w.refreshTokens.rows.map (·.replacedByTokenId)) = [some 9, none] ∧ w.NoLinkDangles := by
  have hr : Reach (World.machine Env.plain)
      (fun q l => RequestPool.SevenDays Env.plain q l ∧ RequestPool.Punctual q l) staleRequests
      (staleRequests.runs (World.machine Env.plain) revokedInTurn) :=
    Reach.of_checked (by decide +kernel)
  exact ⟨by decide +kernel, no_dangling_links Env.plain staleRevocation .empty 0 0 hr⟩

end Auth
