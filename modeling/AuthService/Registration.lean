import AuthService.Deletion
import AuthService.Ownership
import AuthService.Statuses

/-!
# AuthService.Registration

Concurrent registrations under one email.

* `Attained`      — the worlds that any interleaving of requests and jobs reaches from an empty
  database.
* `OneMatch`      — at most one account matches an email up to case: emails are in lower case.
* `Fresh`         — a thread that is about to insert a token holds a raw token of its own.
* `Stage`         — how far a registration is; `Registering` — the invariant of the interleavings.
* `Unhindered`    — the steps on which a registration meets no failure but a taken email.
* `register_once` — one registration succeeds at most, and the others are answered with 409 and
  create nothing.
-/

namespace Auth

open Relational Resumption Prog

/-- A world that some requests and jobs, interleaved in any way, reach from an empty database. -/
def Attained (env : Env) (w : World) : Prop :=
  ∃ (roles : Table Role) (supply : Nat) (now : Int) (κ : Type) (_ : DecidableEq κ)
    (acts : κ → Activity) (q : Pool sig.refusable World κ fun _ => Response),
    Reach (World.machine env).refusable (fun _ _ => True)
      (answering env acts (World.initial roles supply now)) q ∧ w = q.world

/-- At most one account matches an email in the query of `findByEmail`. -/
def OneMatch (env : Env) (w : World) : Prop :=
  ∀ email, ∀ c ∈ w.credentials.rows, ∀ c' ∈ w.credentials.rows,
    env.sqlLower c.email = env.sqlLower email → env.sqlLower c'.email = env.sqlLower email → c = c'

variable {env : Env} {w : World} {ι : Type} [DecidableEq ι] {acts : ι → Activity}
  {C : Pool sig.refusable World ι (fun _ => Response) → Label ι → Prop}
  {q : Pool sig.refusable World ι fun _ => Response} {i : ι} {s : sig.refusable.Stmt}
  {k : Except Exn (sig.refusable.Reply s) → Prog sig.refusable Response}

/-- A property of worlds that a statement keeps, whether or not it is refused. -/
theorem exec_refusable_keeps {I : World → Prop} (h : I w) (hexec : I (World.exec env s.1 w).2) :
    I ((World.machine env).refusable.exec s w).2 := by
  obtain ⟨s, refused⟩ := s
  cases refused with
  | none => exact hexec
  | some e => exact h

/-! ## Emails -/

/-- The email of an account that is inserted is in lower case already. -/
def Stmt.Lower (env : Env) : Stmt → Prop
  | .createCredential email _ _ => env.sqlLower email = email
  | _ => True

def Lowered (env : Env) (w : World) : Prop :=
  ∀ c ∈ w.credentials.rows, env.sqlLower c.email = c.email

theorem lowered_exec {s : Stmt} (hs : s.Lower env) (h : Lowered env w) :
    Lowered env (World.exec env s w).2 := by
  intro c hc
  by_cases hch : s.changesAccounts = true
  · cases s
    case createCredential email hash roles =>
      simp only [World.exec] at hc
      split at hc
      · rename_i table hinsert
        rcases (Table.mem_insert? hinsert).mp hc with hc | rfl
        · exact h c hc
        · exact hs
      · exact h c hc
    case deleteCredential id => exact h c (Table.mem_deleteWhere.mp hc).1
    all_goals cases hch
  · rw [World.exec_credentialRows (by simpa using hch)] at hc
    obtain ⟨c₀, hc₀, rfl⟩ := List.mem_map.mp hc
    rw [Stmt.onCredential_email]
    exact h c₀ hc₀

theorem uses_register_lower {email : String} (password : String)
    (ipAddress userAgent : Option String) (h : env.sqlLower email = email) :
    (AuthService.register env email password ipAddress userAgent).Uses (Stmt.Lower env) := by
  refine uses_perform_bind trivial fun existing => ?_
  cases existing with
  | some c => trivial
  | none =>
    refine uses_bind (uses_perform_bind trivial fun _ => (uses_perform _).mpr h) fun c => ?_
    refine (uses_registerSession c ipAddress userAgent).mono fun s hs => ?_
    cases s <;> trivial

/-- Accounts are inserted by `register` only. -/
theorem lower_of_footprint {r : Request}
    (hr : ∀ email password ip ua, r ≠ .register email password ip ua) {s : Stmt}
    (hs : r.footprint s) : s.Lower env := by
  cases s
  case createCredential email hash roles =>
    cases r
    case register => exact absurd rfl (hr _ _ _ _)
    case login => obtain ⟨a, hs⟩ := hs; cases hs
    case refreshToken => rcases hs with hs | ⟨t, hs⟩ <;> cases hs
    all_goals cases hs
  all_goals trivial

theorem uses_lower (hlower : ∀ s, env.sqlLower (env.toLowerCase s) = env.toLowerCase s)
    (a : Activity) : (a.program env).Uses fun s : Stmt × Option Exn => s.1.Lower env := by
  cases a with
  | http r =>
    refine uses_submit (S := sig) (A := Stmt.Lower env) ?_
    obtain ⟨headers, ip, route⟩ := r
    cases route
    case register email password =>
      exact uses_bind (uses_register_lower _ _ _ (hlower _)) fun _ => trivial
    all_goals
      exact (uses_handle _).mono fun s hs => lower_of_footprint (fun _ _ _ _ h => by cases h) hs
  | job j =>
    refine uses_submit (S := sig) (A := Stmt.Lower env)
      ((uses_handle _).mono fun s hs => lower_of_footprint (fun _ _ _ _ h => ?_) hs)
    cases j <;> cases h
  | pass n => trivial

theorem lowered_reach (hlower : ∀ s, env.sqlLower (env.toLowerCase s) = env.toLowerCase s)
    (hr : Reach (World.machine env).refusable C (answering env acts w) q) (h : Lowered env w) :
    Lowered env q.world := by
  refine hr.invariant_steps (I := fun q => Lowered env q.world) h (fun q n _ ih _ => ?_)
    fun q i s k hq ih _ hp => ?_
  · exact fun c hc => ih c hc
  · have huses := hq.uses (i := i) (uses_lower hlower (acts i))
    rw [hp] at huses
    rw [Pool.world_step hp]
    exact exec_refusable_keeps ih (lowered_exec huses.1 ih)

theorem oneMatch_of_lowered (h : Lowered env w) : OneMatch env w := by
  intro email c hc c' hc' he he'
  refine Table.eq_of_uniq hc hc' ?_
  show c.email = c'.email
  rw [← h c hc, ← h c' hc', he, he']

/-! ## Raw tokens -/

/-- The raw token that thread `i` has drawn and not yet inserted. -/
def inHand (q : Pool sig.refusable World ι fun _ => Response) (i : ι) : Option Nat :=
  q.phase (fun _ => tokenDraw.refusable) (fun _ => none) i

structure Fresh (q : Pool sig.refusable World ι fun _ => Response) : Prop where
  drawn : Drawn q.world
  hand_lt : ∀ i raw, inHand q i = some raw → raw < q.world.supply
  hand_inj : ∀ i j raw, inHand q i = some raw → inHand q j = some raw → i = j
  unused : ∀ i raw, inHand q i = some raw →
    ∀ t ∈ q.world.refreshTokens.rows, t.tokenHash.preimage ≠ raw

theorem fresh_start (h : Drawn w) : Fresh (answering env acts w) := by
  refine ⟨h, ?_, ?_, ?_⟩ <;> simp [inHand, Pool.phase, answering, Pool.start]

/-- A raw token in hand was in hand before and is not being inserted, or it is drawn right now. -/
theorem inHand_step (hF : Fresh q) (hp : q.prog i = .call s k)
    (ha : tokenDraw.allowed (inHand q i) s.1) {j : ι} {raw : Nat}
    (h : inHand (q.step (World.machine env).refusable (.run i)) j = some raw) :
    (inHand q j = some raw ∧ ∀ u, s.1.inserts? ≠ some (hashToken raw, u)) ∨
      raw = q.world.supply ∧ j = i ∧ s = (.uuidv4, none) := by
  by_cases hij : j = i
  · subst hij
    unfold inHand at h
    rw [phase_step_self hp] at h
    obtain ⟨s, refused⟩ := s
    cases s
    case uuidv4 =>
      cases refused with
      | none => cases h; exact .inr ⟨rfl, rfl, rfl⟩
      | some e => exact .inl ⟨h, fun u hu => by cases hu⟩
    case createRefreshToken | createPasswordResetToken => cases h
    all_goals exact .inl ⟨h, fun u hu => by cases hu⟩
  · unfold inHand at h
    rw [phase_step_other hij] at h
    refine .inl ⟨h, fun u hu => hij ?_⟩
    obtain ⟨raw', hraw', heq⟩ := Option.map_eq_some_iff.mp (ha _ _ hu)
    cases heq
    exact hF.hand_inj j i raw h hraw'

theorem fresh_step (hF : Fresh q) (hp : q.prog i = .call s k)
    (ha : tokenDraw.allowed (inHand q i) s.1) :
    Fresh (q.step (World.machine env).refusable (.run i)) := by
  have hworld : (q.step (World.machine env).refusable (.run i)).world =
      ((World.machine env).refusable.exec s q.world).2 := Pool.world_step hp
  have hsupply : q.world.supply ≤ (q.step (World.machine env).refusable (.run i)).world.supply := by
    rw [hworld]
    exact exec_refusable_keeps (I := fun w => q.world.supply ≤ w.supply) (Nat.le_refl _)
      (World.exec_supply env s.1 q.world)
  have hinserted : ∀ {tokenHash : TokenHash} {u : Nat}, s.1.inserts? = some (tokenHash, u) →
      inHand q i = some tokenHash.preimage := by
    intro tokenHash u hs
    obtain ⟨raw, hraw, rfl⟩ := Option.map_eq_some_iff.mp (ha _ _ hs)
    exact hraw
  constructor
  · rw [hworld]
    refine exec_refusable_keeps hF.drawn
      (drawn_exec env (fun data hs => ?_) (fun _ _ _ hs => ?_) hF.drawn)
    · exact hF.hand_lt i _ (hinserted (by rw [hs]; rfl))
    · exact hF.hand_lt i _ (hinserted (by rw [hs]; rfl))
  · intro j raw h
    rcases inHand_step hF hp ha h with ⟨hj, -⟩ | ⟨rfl, -, rfl⟩
    · exact Nat.lt_of_lt_of_le (hF.hand_lt j raw hj) hsupply
    · rw [hworld]
      exact Nat.lt_succ_self _
  · intro j l raw hj hl
    rcases inHand_step hF hp ha hj with ⟨hj', -⟩ | ⟨rfl, rfl, -⟩
    · rcases inHand_step hF hp ha hl with ⟨hl', -⟩ | ⟨rfl, -, -⟩
      · exact hF.hand_inj j l raw hj' hl'
      · exact absurd (hF.hand_lt j _ hj') (Nat.lt_irrefl _)
    · rcases inHand_step hF hp ha hl with ⟨hl', -⟩ | ⟨-, rfl, -⟩
      · exact absurd (hF.hand_lt l _ hl') (Nat.lt_irrefl _)
      · rfl
  · intro j raw h
    have hold : ∀ t ∈ q.world.refreshTokens.rows, t.tokenHash.preimage ≠ raw := by
      intro t ht
      rcases inHand_step hF hp ha h with ⟨hj, -⟩ | ⟨rfl, -, -⟩
      · exact hF.unused j raw hj t ht
      · exact Nat.ne_of_lt (hF.drawn.hash_lt t ht)
    rw [hworld]
    refine exec_refusable_keeps
      (I := fun w => ∀ t ∈ w.refreshTokens.rows, t.tokenHash.preimage ≠ raw) hold fun t' ht' => ?_
    rcases World.exec_source ht' with ⟨t, ht, rfl⟩ | ⟨data, hs, rfl, -⟩
    · rw [(s.1.evolves_onRefreshToken t).tokenHash_eq]
      exact hold t ht
    · rcases inHand_step hF hp ha h with ⟨-, hne⟩ | ⟨-, -, rfl⟩
      · rintro rfl
        exact hne data.userId (by rw [hs]; rfl)
      · cases hs

theorem draws_program (env : Env) (a : Activity) :
    tokenDraw.refusable.Conforms (fun _ _ => True) none (a.program env) := by
  cases a with
  | http r => exact Monitor.conforms_submit (draws_handle _ _)
  | job j => exact Monitor.conforms_submit (draws_handle _ _)
  | pass n => trivial

/-- What a thread issues next is allowed with what it has in hand. -/
theorem inHand_allowed (hr : Reach (World.machine env).refusable C (answering env acts w) q)
    (hp : q.prog i = .call s k) : tokenDraw.allowed (inHand q i) s.1 := by
  have hconf : tokenDraw.refusable.Conforms (fun _ _ => True) (inHand q i) (q.prog i) :=
    conforms_reach (m := fun _ => tokenDraw.refusable) (F := fun _ _ _ => True) hr
      (draws_program env (acts i))
  rw [hp] at hconf
  exact hconf.1

theorem fresh_reach (hr : Reach (World.machine env).refusable C (answering env acts w) q)
    (h : Drawn w) : Fresh q := by
  refine hr.invariant_steps (I := Fresh) (fresh_start h) (fun q n _ ih _ => ?_)
    fun q i s k hq ih _ hp => ?_
  · exact ⟨⟨ih.drawn.id_lt, ih.drawn.hash_lt, ih.drawn.owner, ih.drawn.reset_id_lt,
      ih.drawn.reset_hash_lt⟩, ih.hand_lt, ih.hand_inj, ih.unused⟩
  · exact fresh_step ih hp (inHand_allowed hq hp)

theorem Attained.drawn (h : Attained env w) : Drawn w := by
  obtain ⟨roles, supply, now, κ, _, acts, q, hr, rfl⟩ := h
  refine (fresh_reach hr ?_).drawn
  refine ⟨?_, ?_, ?_, ?_, ?_⟩ <;> simp [World.initial]

theorem Attained.lowered (hlower : ∀ s, env.sqlLower (env.toLowerCase s) = env.toLowerCase s)
    (h : Attained env w) : Lowered env w := by
  obtain ⟨roles, supply, now, κ, _, acts, q, hr, rfl⟩ := h
  refine lowered_reach hlower hr ?_
  simp [Lowered, World.initial]

/-! ## How far a registration is -/

inductive Stage where
  | searching
  | taken
  | created (id : Nat)
  | broken
  deriving DecidableEq

namespace Stage

/-- A failure that is no 409, of whatever statement, breaks the registration. -/
def next : Stage → (s : Stmt) → Except Exn s.Reply → Stage
  | .searching, .findCredentialByEmail _, .ok (some _) => .taken
  | .searching, .createCredential _ _ _, .ok c => .created c.id
  | .searching, .createCredential _ _ _, .error e => if e.status = 409 then .taken else .broken
  | φ, _, .ok _ => φ
  | _, _, .error _ => .broken

/-- Tokens are for the account that has been created. -/
def allowed (email : String) : Stage → Stmt → Prop
  | .broken, _ => True
  | φ, .createCredential e _ _ => φ = .searching ∧ e = email
  | φ, .createRefreshToken data => φ = .created data.userId
  | φ, .signAccessToken _ _ _ _ => ∃ id, φ = .created id
  | _, .hashPassword _ => True
  | _, s => s.total = true

def monitor (email : String) : Monitor sig Stage := ⟨next, allowed email⟩

def final {α : Type} : Stage → Except Exn α → Prop
  | .broken, _ => True
  | .taken, .error e => e.status = 409
  | .created _, .ok _ => True
  | _, _ => False

variable {email : String} {id : Nat} {α β : Type}

@[simp] theorem next_created_ok (s : Stmt) (a : s.Reply) :
    next (.created id) s (.ok a) = .created id := by
  cases s <;> rfl

@[simp] theorem next_created_error (s : Stmt) (e : Exn) :
    next (.created id) s (.error e) = .broken := by
  cases s <;> rfl

@[simp] theorem next_broken (s : Stmt) (r : Except Exn s.Reply) : next .broken s r = .broken := by
  cases r <;> cases s <;> rfl

theorem allowed_of_total {φ : Stage} {s : Stmt} (hs : s.total = true) : allowed email φ s := by
  cases φ <;> cases s <;> trivial

theorem created_of_allowed {φ : Stage} {data : NewRefreshToken} (hφ : φ ≠ .broken)
    (ha : allowed email φ (.createRefreshToken data)) : φ = .created data.userId := by
  cases φ <;> first | exact ha | exact absurd rfl hφ

theorem signing_of_allowed {φ : Stage} {sub : Nat} {e : String} {roles : List String}
    {tokenType : TokenType} (hφ : φ ≠ .broken)
    (ha : allowed email φ (.signAccessToken sub e roles tokenType)) : ∃ id, φ = .created id := by
  cases φ <;> first | exact ha | exact absurd rfl hφ

theorem searching_of_allowed {φ : Stage} {e hash : String} {roles : List String} (hφ : φ ≠ .broken)
    (ha : allowed email φ (.createCredential e hash roles)) : φ = .searching ∧ e = email := by
  cases φ <;> first | exact ha | exact absurd rfl hφ

theorem not_allowed_reset {φ : Stage} {userId : Nat} {tokenHash : TokenHash} {expiresAt : Int}
    (hφ : φ ≠ .broken) :
    ¬ allowed email φ (.createPasswordResetToken userId tokenHash expiresAt) := by
  cases φ <;> first | exact absurd rfl hφ | exact nofun

theorem conforms_broken (p : AuthProg α) : (monitor email).Conforms final .broken p := by
  induction p with
  | ret a => trivial
  | throw e => trivial
  | call s k ih =>
    refine ⟨trivial, fun r => ?_⟩
    show (monitor email).Conforms final (next .broken s r) (k r)
    rw [next_broken]
    exact ih r

/-- Once the account is there, statements that cannot fail by themselves, and then the rest. -/
theorem conforms_created_bind {p : AuthProg α} {f : α → AuthProg β}
    (hp : p.Completes fun s : Stmt => s.total = true)
    (hf : ∀ a, (monitor email).Conforms final (.created id) (f a)) :
    (monitor email).Conforms final (.created id) (p.bind f) := by
  induction p with
  | ret a => exact hf a
  | throw e => exact hp.elim
  | call s k ih =>
    refine ⟨allowed_of_total hp.1, fun r => ?_⟩
    cases r with
    | ok a =>
      show (monitor email).Conforms final (next (.created id) s (.ok a)) _
      rw [next_created_ok]
      exact ih _ (hp.2 a)
    | error e =>
      show (monitor email).Conforms final (next (.created id) s (.error e)) _
      rw [next_created_error]
      exact conforms_broken _

theorem conforms_registerSession (c : UserCredential) (ipAddress userAgent : Option String) :
    (monitor email).Conforms final (.created c.id)
      (AuthService.registerSession env c ipAddress userAgent) := by
  unfold AuthService.registerSession TokenService.generateRefreshToken RefreshTokenRepository.create
  simp only [bind_eq, Prog.bind_assoc, pure_eq, ret_bind]
  refine Monitor.conforms_perform_bind ⟨c.id, rfl⟩ (fun accessToken => ?_) fun _ => trivial
  refine Monitor.conforms_perform_bind rfl (fun rawToken => ?_) fun _ => trivial
  refine Monitor.conforms_perform_bind rfl (fun now => ?_) fun _ => trivial
  refine Monitor.conforms_perform_bind rfl (fun issuedAt => ?_) fun _ => trivial
  refine Monitor.conforms_perform_bind rfl (fun row => ?_) fun _ => trivial
  refine conforms_created_bind (completes_enforceMaxSessions env c.id) fun _ => ?_
  refine conforms_created_bind completes_publish fun _ => ?_
  exact Monitor.conforms_perform_bind rfl (fun _ => trivial) fun _ => trivial

theorem conforms_register (password : String) (ipAddress userAgent : Option String) :
    (monitor email).Conforms final .searching
      (AuthService.register env email password ipAddress userAgent) := by
  unfold AuthService.register
  refine Monitor.conforms_perform_bind rfl (fun existing => ?_) fun _ => trivial
  cases existing with
  | some c => exact rfl
  | none =>
    unfold CredentialService.createCredential
    simp only [bind_eq, Prog.bind_assoc]
    refine Monitor.conforms_perform_bind trivial (fun passwordHash => ?_) fun _ => trivial
    refine Monitor.conforms_perform_bind ⟨rfl, rfl⟩ (fun c => conforms_registerSession c _ _)
      fun e => ?_
    show final (if e.status = 409 then .taken else .broken) _
    by_cases he : e.status = 409
    · rw [if_pos he]
      exact he
    · rw [if_neg he]
      trivial

end Stage

/-! ## The registrations under one email -/

/-- The request registers under an email that is `email` when trimmed and in lower case. -/
def Registers (env : Env) (email : String) (r : HttpRequest) : Prop :=
  ∃ spelling password, r.route = .register spelling password ∧ env.normalizeEmail spelling = email

/-- The statements that make an account, a session or an access token. -/
def Stmt.makes : Stmt → Bool
  | .createCredential _ _ _ => true
  | .createRefreshToken _ => true
  | .signAccessToken _ _ _ _ => true
  | _ => false

/-- What the statement needs of the host: a password can be hashed, and the configured expiry is a
timespan. -/
def Stmt.Provided (env : Env) (w : World) : Stmt → Prop
  | .hashPassword password => (env.hashPassword password w.supply).isSome = true
  | .signAccessToken _ _ _ _ => (env.timespan env.accessTokenExpiry).isSome = true
  | _ => True

/-- The statement is not refused for what the client has sent, and the host provides for it. -/
def Unhindered (env : Env) (q : Pool sig.refusable World ι fun _ => Response) : Label ι → Prop
  | .tick _ => True
  | .run i => ∀ s, q.next? i = some s → s.2 = none ∧ s.1.Provided env q.world

variable {email : String} {reqs : ι → HttpRequest} {r : HttpRequest}

theorem conforms_registers (hr : Registers env email r) :
    (Stage.monitor email).refusable.Conforms Stage.final .searching (r.program env) := by
  obtain ⟨spelling, password, hroute, rfl⟩ := hr
  obtain ⟨headers, ip, route⟩ := r
  cases hroute
  refine Monitor.conforms_submit (Monitor.conforms_bind
    ((Stage.conforms_register password ip headers.userAgent).mono fun φ r hfinal => ?_))
  cases r with
  | ok a => cases φ <;> exact hfinal
  | error e => cases φ <;> exact hfinal

theorem uses_registers (hr : Registers env email r) :
    (r.program env).Uses fun s : Stmt × Option Exn => s.1.writesCredentials = true →
      ∃ email hash roles, s.1 = .createCredential email hash roles := by
  obtain ⟨spelling, password, hroute, rfl⟩ := hr
  obtain ⟨headers, ip, route⟩ := r
  cases hroute
  refine uses_submit (S := sig) (A := fun s : Stmt => s.writesCredentials = true →
    ∃ email hash roles, s = .createCredential email hash roles)
    ((uses_handle _).mono fun s hs hw => ?_)
  cases s
  case createCredential email hash roles => exact ⟨email, hash, roles, rfl⟩
  case updateStatus | incrementFailedAttempts | resetFailedAttempts | lockAccount | unlockAccount
      | updateLastLogin | updatePassword | updateRoles | deleteCredential =>
    obtain ⟨a, ha⟩ := hs
    cases ha
  all_goals cases hw

def stage (email : String) (q : Pool sig.refusable World ι fun _ => Response) (i : ι) : Stage :=
  q.phase (fun _ => (Stage.monitor email).refusable) (fun _ => .searching) i

structure Registering (email : String) (q : Pool sig.refusable World ι fun _ => Response) :
    Prop where
  whole : ∀ i, stage email q i ≠ .broken
  account : ∀ i a, stage email q i = .created a →
    ∃ c ∈ q.world.credentials.rows, c.id = a ∧ c.email = email
  once : ∀ i j a b, stage email q i = .created a → stage email q j = .created b → i = j
  made : ∀ e ∈ q.log, e.stmt.1.makes = true → (∃ a, e.reply = .ok a) →
    ∃ a, stage email q e.thread = .created a

/-- What a registration issues next, with what its monitors say of it. -/
structure Issues (env : Env) (email : String) (q : Pool sig.refusable World ι fun _ => Response)
    (i : ι) (s : Stmt) : Prop where
  allowed : Stage.allowed email (stage email q i) s
  draws : tokenDraw.allowed (inHand q i) s
  writes : s.writesCredentials = true → ∃ email hash roles, s = .createCredential email hash roles
  provided : s.Provided env q.world

theorem issues_of_reach (hreqs : ∀ i, Registers env email (reqs i))
    (hr : Reach (World.machine env).refusable C (answering env (fun i => .http (reqs i)) w) q)
    (hp : q.prog i = .call s k) (hprovided : s.1.Provided env q.world) :
    Issues env email q i s.1 := by
  have hconf : (Stage.monitor email).refusable.Conforms Stage.final (stage email q i) (q.prog i) :=
    conforms_reach (m := fun _ => (Stage.monitor email).refusable) (F := fun _ => Stage.final) hr
      (conforms_registers (hreqs i))
  have huses := hr.uses (i := i) (uses_registers (hreqs i))
  rw [hp] at hconf huses
  exact ⟨hconf.1, inHand_allowed hr hp, huses.1, hprovided⟩

variable {t : Stmt}

/-- Only the insert of the account can fail. -/
theorem reply_ok (hR : Registering email q) (hF : Fresh q) (hi : Issues env email q i t)
    (hne : ∀ e hash roles, t ≠ .createCredential e hash roles) :
    ∃ a, (World.exec env t q.world).1 = .ok a := by
  cases t
  case createCredential e hash roles => exact absurd rfl (hne e hash roles)
  case hashPassword password =>
    obtain ⟨hash, hhash⟩ := Option.isSome_iff_exists.mp hi.provided
    exact ⟨hash, by simp [World.exec, hhash]⟩
  case signAccessToken sub e roles tokenType =>
    obtain ⟨lifetime, hlifetime⟩ := Option.isSome_iff_exists.mp hi.provided
    refine ⟨.signed ⟨sub, e, roles, tokenType, q.world.supply, World.seconds q.world.now,
      World.seconds q.world.now + lifetime, env.issuer, env.audience⟩, ?_⟩
    simp only [World.exec, hlifetime]
  case createRefreshToken data =>
    obtain ⟨c, hc, hid, -⟩ := hR.account i _ (Stage.created_of_allowed (hR.whole i) hi.allowed)
    obtain ⟨raw, hraw, hhash⟩ := Option.map_eq_some_iff.mp (hi.draws _ _ rfl)
    cases hexec : World.exec env (.createRefreshToken data) q.world with
    | mk reply w' =>
      cases reply with
      | ok a => exact ⟨a, rfl⟩
      | error e =>
        refine absurd hexec (exec_createRefreshToken_ok hF.drawn.id_lt ?_
          ⟨c, World.account_of_mem hc hid⟩)
        rw [← hhash]
        exact hF.unused i raw hraw
  case createPasswordResetToken =>
    exact absurd hi.allowed (Stage.not_allowed_reset (hR.whole i))
  all_goals exact ⟨_, rfl⟩

/-! ## One step -/

section Step

variable {k : Except Exn t.Reply → Prog sig.refusable Response}

theorem stage_step (hp : q.prog i = .call (t, none) k) :
    stage email (q.step (World.machine env).refusable (.run i)) i =
      (stage email q i).next t (World.exec env t q.world).1 :=
  phase_step_self hp

theorem stage_step_other {j : ι} (hij : j ≠ i) :
    stage email (q.step (World.machine env).refusable (.run i)) j = stage email q j :=
  phase_step_other hij

/-- What the step of one registration keeps, by the stage and the accounts it leads to. -/
theorem registering_run (φ : Stage) (hR : Registering email q) (hp : q.prog i = .call (t, none) k)
    (hnext : (stage email q i).next t (World.exec env t q.world).1 = φ)
    (hrows : ∀ c ∈ q.world.credentials.rows, c ∈ (World.exec env t q.world).2.credentials.rows)
    (hwhole : φ ≠ .broken) (hkept : ∀ a, stage email q i = .created a → φ = .created a)
    (hcreated : ∀ a, φ = .created a →
      (∃ c ∈ (World.exec env t q.world).2.credentials.rows, c.id = a ∧ c.email = email) ∧
        ∀ j b, stage email q j = .created b → j = i)
    (hmade : t.makes = true → (∃ a, (World.exec env t q.world).1 = .ok a) → ∃ a, φ = .created a) :
    Registering email (q.step (World.machine env).refusable (.run i)) := by
  have hself : stage email (q.step (World.machine env).refusable (.run i)) i = φ :=
    (stage_step hp).trans hnext
  have hworld : (q.step (World.machine env).refusable (.run i)).world =
      (World.exec env t q.world).2 := Pool.world_step hp
  constructor
  · intro j
    by_cases hij : j = i
    · rw [hij, hself]
      exact hwhole
    · rw [stage_step_other hij]
      exact hR.whole j
  · intro j a hj
    rw [hworld]
    by_cases hij : j = i
    · rw [hij, hself] at hj
      exact (hcreated a hj).1
    · rw [stage_step_other hij] at hj
      obtain ⟨c, hc, hfields⟩ := hR.account j a hj
      exact ⟨c, hrows c hc, hfields⟩
  · intro j l a b hj hl
    by_cases hij : j = i
    · by_cases hil : l = i
      · rw [hij, hil]
      · rw [hij, hself] at hj
        rw [stage_step_other hil] at hl
        rw [hij]
        exact ((hcreated a hj).2 l b hl).symm
    · rw [stage_step_other hij] at hj
      by_cases hil : l = i
      · rw [hil, hself] at hl
        rw [hil]
        exact (hcreated b hl).2 j a hj
      · rw [stage_step_other hil] at hl
        exact hR.once j l a b hj hl
  · intro e he hmakes hok
    rw [Pool.step_call hp] at he
    rcases List.mem_cons.mp he with rfl | he
    · obtain ⟨a, ha⟩ := hmade hmakes hok
      exact ⟨a, hself.trans ha⟩
    · obtain ⟨a, ha⟩ := hR.made e he hmakes hok
      by_cases hij : e.thread = i
      · rw [hij] at ha ⊢
        exact ⟨a, hself.trans (hkept a ha)⟩
      · exact ⟨a, (stage_step_other hij).trans ha⟩

/-- The insert of the account: the unique index lets one through. -/
theorem registering_create {hash : String} {roles : List String}
    {k : Except Exn UserCredential → Prog sig.refusable Response} (hR : Registering email q)
    (hp : q.prog i = .call (.createCredential email hash roles, none) k)
    (hs : stage email q i = .searching) :
    Registering email (q.step (World.machine env).refusable (.run i)) := by
  have hkept : ∀ (φ : Stage) a, stage email q i = .created a → φ = .created a := by
    intro φ a ha
    rw [hs] at ha
    cases ha
  cases hinsert :
      q.world.credentials.insert? (World.newCredential q.world.supply email hash roles) with
  | none =>
    have hexec : World.exec env (.createCredential email hash roles) q.world =
        (.error .uniqueViolation, q.world) := by
      simp only [World.exec, hinsert]
    refine registering_run .taken hR hp ?_ ?_ (by simp) (hkept _) (by simp) ?_
    · rw [hs, hexec]
      rfl
    · rw [hexec]
      exact fun c hc => hc
    · rw [hexec]
      rintro - ⟨a, ha⟩
      cases ha
  | some table =>
    have hexec : World.exec env (.createCredential email hash roles) q.world =
        (.ok (World.newCredential q.world.supply email hash roles),
          { q.world with credentials := table, supply := q.world.supply + 1 }) := by
      simp only [World.exec, hinsert]
    have hnone : ∀ c ∈ q.world.credentials.rows, c.email ≠ email := by
      intro c hc he
      have hclash :=
        (Table.insert?_eq_none (a := World.newCredential q.world.supply email hash roles)).mpr
          (.inr (List.mem_map.mpr ⟨c, hc, he⟩))
      rw [hinsert] at hclash
      cases hclash
    refine registering_run (.created q.world.supply) hR hp ?_ ?_ (by simp) (hkept _) ?_
      fun _ _ => ⟨_, rfl⟩
    · rw [hs, hexec]
      rfl
    · rw [hexec]
      exact fun c hc => (Table.mem_insert? hinsert).mpr (.inl hc)
    · rintro a heq
      cases heq
      rw [hexec]
      refine ⟨⟨_, (Table.mem_insert? hinsert).mpr (.inr rfl), rfl, rfl⟩, fun j b hj => ?_⟩
      obtain ⟨c, hc, -, he⟩ := hR.account j b hj
      exact absurd he (hnone c hc)

/-- The other statements leave the accounts as they are. -/
theorem registering_other (hR : Registering email q) (hF : Fresh q)
    (hp : q.prog i = .call (t, none) k) (hi : Issues env email q i t)
    (hne : ∀ e hash roles, t ≠ .createCredential e hash roles) :
    Registering email (q.step (World.machine env).refusable (.run i)) := by
  obtain ⟨a, ha⟩ := reply_ok hR hF hi hne
  have hcredentials : (World.exec env t q.world).2.credentials = q.world.credentials := by
    refine World.exec_credentials env t q.world (Bool.eq_false_iff.mpr fun hw => ?_)
    obtain ⟨e, hash, roles, rfl⟩ := hi.writes hw
    exact hne e hash roles rfl
  have hrows : ∀ c ∈ q.world.credentials.rows,
      c ∈ (World.exec env t q.world).2.credentials.rows := by
    rw [hcredentials]
    exact fun c hc => hc
  have hmakes : t.makes = true → ∃ id, stage email q i = .created id := by
    intro hmakes
    cases t
    case createCredential e hash roles => exact absurd rfl (hne e hash roles)
    case createRefreshToken data => exact ⟨_, Stage.created_of_allowed (hR.whole i) hi.allowed⟩
    case signAccessToken => exact Stage.signing_of_allowed (hR.whole i) hi.allowed
    all_goals cases hmakes
  by_cases hmove : (stage email q i).next t (.ok a) = stage email q i
  · refine registering_run _ hR hp ((congrArg _ ha).trans hmove) hrows (hR.whole i) (fun _ h => h)
      (fun id hid => ⟨?_, fun j b hj => hR.once j i b id hj hid⟩) fun h _ => hmakes h
    rw [hcredentials]
    exact hR.account i id hid
  · have htaken : stage email q i = .searching ∧ (stage email q i).next t (.ok a) = .taken := by
      cases hs : stage email q i with
      | searching =>
        rw [hs] at hmove
        cases t
        case findCredentialByEmail e =>
          cases a <;> first | exact absurd rfl hmove | exact ⟨rfl, rfl⟩
        case createCredential e hash roles => exact absurd rfl (hne e hash roles)
        all_goals exact absurd rfl hmove
      | created id => rw [hs, Stage.next_created_ok] at hmove; exact absurd rfl hmove
      | taken => rw [hs] at hmove; cases t <;> exact absurd rfl hmove
      | broken => exact absurd hs (hR.whole i)
    refine registering_run _ hR hp ((congrArg _ ha).trans htaken.2) hrows (by simp)
      (fun id hid => ?_) (by simp) fun h _ => ?_
    · rw [htaken.1] at hid
      cases hid
    · obtain ⟨id, hid⟩ := hmakes h
      rw [htaken.1] at hid
      cases hid

theorem registering_step (hR : Registering email q) (hF : Fresh q)
    (hp : q.prog i = .call (t, none) k) (hi : Issues env email q i t) :
    Registering email (q.step (World.machine env).refusable (.run i)) := by
  by_cases hcreate : ∃ e hash roles, t = .createCredential e hash roles
  · obtain ⟨e, hash, roles, rfl⟩ := hcreate
    obtain ⟨hs, rfl⟩ := Stage.searching_of_allowed (hR.whole i) hi.allowed
    exact registering_create hR hp hs
  · exact registering_other hR hF hp hi fun e hash roles ht => hcreate ⟨e, hash, roles, ht⟩

end Step

/-! ## Any interleaving -/

theorem registering_reach (hreqs : ∀ i, Registers env email (reqs i)) (hw : Drawn w)
    (hr : Reach (World.machine env).refusable (Unhindered env)
      (answering env (fun i => .http (reqs i)) w) q) : Registering email q := by
  refine hr.invariant_steps (I := Registering email) ?_ (fun q n _ ih _ => ?_)
    fun q i s k hq ih hc hp => ?_
  · refine ⟨?_, ?_, ?_, ?_⟩ <;> simp [stage, Pool.phase, answering, Pool.start]
  · exact ⟨ih.whole, ih.account, ih.once, ih.made⟩
  · obtain ⟨hspared, hprovided⟩ := hc s (Pool.next?_of_call hp)
    have hi := issues_of_reach hreqs hq hp hprovided
    obtain ⟨t, refused⟩ := s
    obtain rfl : refused = none := hspared
    exact registering_step ih (fresh_reach hq hw) hp hi

/-- What unique accounts mean for registrations under one email. -/
structure RegisteredOnce (env : Env) (q : Pool sig.refusable World ι fun _ => Response) : Prop where
  one : ∀ i j a b, q.result? i = some (.ok a) → q.result? j = some (.ok b) → i = j
  conflict : ∀ i e, q.result? i = some (.error e) → e.status = 409
  nothing_made : ∀ i e, q.result? i = some (.error e) →
    ∀ event ∈ q.log, event.thread = i → event.stmt.1.makes = true → ∀ a, event.reply ≠ .ok a
  one_match : OneMatch env q.world

/-- Any number of registrations under one email, interleaved in any way from any world that requests
and jobs lead to: where every step is unhindered, accounts are unique. -/
theorem register_once (hlower : ∀ s, env.sqlLower (env.toLowerCase s) = env.toLowerCase s)
    (hreqs : ∀ i, Registers env email (reqs i)) (hw : Attained env w)
    (hr : Reach (World.machine env).refusable (Unhindered env)
      (answering env (fun i => .http (reqs i)) w) q) : RegisteredOnce env q := by
  have hR := registering_reach hreqs hw.drawn hr
  have hfinal : ∀ i r, q.result? i = some r → Stage.final (stage email q i) r := fun i r =>
    final_of_result (F := fun _ => Stage.final) hr (conforms_registers (hreqs i))
  have hok : ∀ i a, q.result? i = some (.ok a) → ∃ id, stage email q i = .created id := by
    intro i a hres
    have hend := hfinal i _ hres
    have hwhole := hR.whole i
    cases hs : stage email q i with
    | created id => exact ⟨id, rfl⟩
    | broken => exact absurd hs hwhole
    | searching | taken => rw [hs] at hend; cases hend
  have herror : ∀ i e, q.result? i = some (.error e) →
      stage email q i = .taken ∧ e.status = 409 := by
    intro i e hres
    have hend := hfinal i _ hres
    have hwhole := hR.whole i
    cases hs : stage email q i with
    | taken => rw [hs] at hend; exact ⟨rfl, hend⟩
    | broken => exact absurd hs hwhole
    | searching | created => rw [hs] at hend; cases hend
  constructor
  · intro i j a b hi hj
    obtain ⟨id, hid⟩ := hok i a hi
    obtain ⟨id', hid'⟩ := hok j b hj
    exact hR.once i j id id' hid hid'
  · exact fun i e hres => (herror i e hres).2
  · rintro _ e hres event hevent rfl hmakes a ha
    obtain ⟨id, hid⟩ := hR.made event hevent hmakes ⟨a, ha⟩
    rw [(herror _ e hres).1] at hid
    cases hid
  · exact oneMatch_of_lowered (lowered_reach hlower hr (hw.lowered hlower))

/-- A registration of `a@x`, with the value of its `X-Request-ID`. -/
def registration (requestId : Option String) : HttpRequest :=
  ⟨⟨requestId, none, none, none, .token .malformed⟩, none, .register "a@x" "p"⟩

theorem registers_registration (requestId : Option String) :
    Registers Env.plain "a@x" (registration requestId) := ⟨"a@x", "p", rfl, rfl⟩

theorem attained_initial : Attained Env.plain (World.initial .empty 0 0) :=
  ⟨.empty, 0, 0, Empty, inferInstance, Empty.elim, _, .refl, rfl⟩

/-- Both find no account and hash the password; the second insert meets the unique index. -/
theorem register_once_race :
    let q := (answering Env.plain (fun _ : Fin 2 => .http (registration none))
      (World.initial .empty 0 0)).runs (World.machine Env.plain).refusable
        [.run 0, .run 1, .run 0, .run 1, .run 0, .run 1]
    q.result? 1 = some (.error .uniqueViolation) ∧ RegisteredOnce Env.plain q := by
  intro q
  have hr : Reach (World.machine Env.plain).refusable (Unhindered Env.plain)
      (answering Env.plain (fun _ : Fin 2 => .http (registration none))
        (World.initial .empty 0 0)) q := by
    refine .step (.run 1) (.step (.run 0) (.step (.run 1) (.step (.run 0) (.step (.run 1)
      (.step (.run 0) .refl ?_) ?_) ?_) ?_) ?_) ?_
    all_goals
      rintro s hs
      cases hs
      exact ⟨rfl, by trivial⟩
  exact ⟨rfl, register_once (fun _ => rfl) (fun _ => registers_registration none)
    attained_initial hr⟩

/-- A registration with an `X-Request-ID` of 37 characters has made its account and its tokens when
it is answered with 500. -/
theorem registration_half_done :
    ¬ ∀ (env : Env) (ι : Type) [DecidableEq ι] (email : String) (reqs : ι → HttpRequest)
        (w : World), (∀ s, env.sqlLower (env.toLowerCase s) = env.toLowerCase s) →
        (∀ i, Registers env email (reqs i)) → Attained env w →
        ∀ q : Pool sig.refusable World ι fun _ => Response,
          Reach (World.machine env).refusable (fun _ _ => True)
            (answering env (fun i => .http (reqs i)) w) q → RegisteredOnce env q := by
  intro h
  let requestId := "0123456789012345678901234567890123456"
  let p := answering Env.plain (fun _ : Fin 1 => .http (registration (some requestId)))
    (World.initial .empty 0 0)
  let q := p.runs (World.machine Env.plain).refusable (List.replicate 13 (.run 0))
  have hr : Reach (World.machine Env.plain).refusable (fun _ _ => True) p q :=
    Reach.of_checked (by decide +kernel)
  have hresult : q.result? 0 = some (.error .dataException) := by decide +kernel
  have honce := h Env.plain (Fin 1) "a@x" _ _ (fun _ => rfl)
    (fun _ => registers_registration (some requestId)) attained_initial q hr
  exact absurd (honce.conflict 0 _ hresult) (by decide)

end Auth
