import AuthService.LoginRace

/-!
# AuthService.AutoUnlock

Expired locks are lifted by `UnlockExpiredLockoutsJob` and by a login that meets one. Both read the
account, decide, and write ACTIVE by id alone, beside any number of locks and bans.

* `Party`            — an unlock job, a login, or an operation of an administrator.
* `Party.holds`      — a path stands between its read of an account and its unlock write.
* `NoOverwrite`      — nobody writes the lock state of an account that another path holds.
* `unlock_meets_expired_lock` — under that condition every unlock write meets an expired lock.

The `UPDATE` has no `WHERE status = 'LOCKED' AND locked_until < now()`: `unlock_overwrites_ban`.
-/

namespace Auth

open Relational Resumption Prog

/-- The account row is LOCKED and its lock has run out. -/
def LockPassed (w : World) (a : Nat) : Prop :=
  ∀ c ∈ w.credentials.rows, c.id = a →
    c.status = .locked ∧ ∃ t, c.lockedUntil = some t ∧ t ≤ w.now

/-- The account whose status or lock expiry a statement writes. -/
def lockTarget : Stmt → Option Nat
  | .updateStatus id _ => some id
  | .lockAccount id _ => some id
  | .unlockAccount id => some id
  | _ => none

theorem onCredential_of_lockTarget {s : Stmt} {c : UserCredential} (h : lockTarget s ≠ some c.id) :
    (s.onCredential c).status = c.status ∧ (s.onCredential c).lockedUntil = c.lockedUntil := by
  cases s
  case updateStatus | lockAccount | unlockAccount =>
    rw [Stmt.onCredential_other]
    · exact ⟨rfl, rfl⟩
    · rintro f hf
      cases hf
      exact h rfl
  case incrementFailedAttempts | resetFailedAttempts | updateLastLogin | updatePassword
      | updateRoles =>
    simp only [Stmt.onCredential, Stmt.credentialUpdate]
    split
    · exact ⟨rfl, rfl⟩
    · exact ⟨rfl, rfl⟩
  all_goals exact ⟨rfl, rfl⟩

/-- A statement that writes the lock state of another account leaves an expired lock alone. -/
theorem LockPassed.exec {env : Env} {w : World} {s : Stmt} {a : Nat} (h : LockPassed w a)
    (hs : s.changesAccounts = false) (ht : lockTarget s ≠ some a) :
    LockPassed (World.exec env s w).2 a := by
  intro c hc hid
  rw [World.exec_credentialRows hs] at hc
  obtain ⟨c₀, hmem, rfl⟩ := List.mem_map.mp hc
  rw [Stmt.onCredential_id] at hid
  obtain ⟨hstatus, huntil⟩ := onCredential_of_lockTarget (s := s) (c := c₀) (by rwa [hid])
  obtain ⟨hlocked, t, ht', hle⟩ := h c₀ hmem hid
  exact ⟨hstatus.trans hlocked, t, huntil.trans ht', by rw [World.exec_now]; exact hle⟩

theorem LockPassed.tick {w : World} {a : Nat} (h : LockPassed w a) (n : Nat) :
    LockPassed { w with now := w.now + n } a := by
  intro c hc hid
  obtain ⟨hlocked, t, ht, hle⟩ := h c hc hid
  refine ⟨hlocked, t, ht, ?_⟩
  show t ≤ w.now + n
  omega

/-! ## The job -/

inductive JobPhase where
  | start
  | clocked (now : Int)
  | holding (accounts : List Nat)

namespace JobPhase

def next : JobPhase → (s : Stmt) → Except Exn s.Reply → JobPhase
  | .start, .newDate, .ok now => .clocked now
  | .clocked _, .findLockedAccountsToUnlock _, .ok cs => .holding (cs.map (·.id))
  | .holding (_ :: as), .unlockAccount _, _ => .holding as
  | φ, _, _ => φ

def allowed : JobPhase → Stmt → Prop
  | .start, .newDate => True
  | .clocked now, .findLockedAccountsToUnlock t => t = now
  | .holding (a :: _), .unlockAccount id => id = a
  | _, _ => False

def monitor : Monitor sig JobPhase := ⟨next, allowed⟩

def final (_ : JobPhase) (_ : Except Exn Unit) : Prop := True

/-- The loop, by induction on the accounts left to unlock. -/
theorem conforms_unlocks (accounts : List UserCredential) :
    monitor.Conforms final (.holding (accounts.map (·.id)))
      (forEach (fun account =>
        (UserCredentialRepository.unlockAccount account.id).tryCatch fun _ => .ret ())
          accounts) := by
  induction accounts with
  | nil => exact trivial
  | cons c cs ih =>
    refine Monitor.conforms_bind (Monitor.conforms_tryCatch (Monitor.conforms_perform rfl
      fun r => ?_))
    cases r with
    | ok _ => exact ih
    | error e => exact ih

theorem conforms_handleUnlock :
    monitor.Conforms final .start UnlockExpiredLockoutsJob.handleUnlock := by
  unfold UnlockExpiredLockoutsJob.handleUnlock UserCredentialRepository.findLockedAccountsToUnlock
  simp only [bind_eq, bind_assoc, pure_eq]
  refine Monitor.conforms_tryCatch ?_
  refine Monitor.conforms_perform_bind trivial (fun now => ?_) fun e => trivial
  refine Monitor.conforms_perform_bind rfl (fun accounts => ?_) fun e => trivial
  refine (conforms_unlocks accounts).mono fun φ r _ => ?_
  cases r with
  | ok _ => trivial
  | error e => exact trivial

theorem changesAccounts_of_allowed {φ : JobPhase} {s : Stmt} (ha : allowed φ s) :
    s.changesAccounts = false := by
  cases s
  case createCredential | deleteCredential =>
    cases φ with
    | holding accounts => cases accounts <;> exact ha.elim
    | _ => exact ha.elim
  all_goals rfl

end JobPhase

/-! ## The parties -/

inductive Party where
  | job
  | login (email password : String) (ipAddress userAgent : Option String)
  | admin (u : Nat) (d : Lockdown)

namespace Party

abbrev Ret : Party → Type
  | .job => Unit
  | .login _ _ _ _ => AuthResponse
  | .admin _ _ => Unit

abbrev Phase : Party → Type
  | .job => JobPhase
  | .login _ _ _ _ => LoginPhase
  | .admin _ _ => LockdownPhase

def prog (env : Env) : (p : Party) → AuthProg p.Ret
  | .job => UnlockExpiredLockoutsJob.handleUnlock
  | .login email password ipAddress userAgent =>
    AuthService.login env email password ipAddress userAgent
  | .admin u d => d.prog env u

def monitor (env : Env) : (p : Party) → Monitor sig p.Phase
  | .job => JobPhase.monitor
  | .login email password _ _ => LoginPhase.monitor env email password
  | .admin _ d => LockdownPhase.monitor d

def phase₀ : (p : Party) → p.Phase
  | .job => .start
  | .login _ _ _ _ => .start
  | .admin u d => LockdownPhase.phase₀ u d

def final : (p : Party) → p.Phase → Except Exn p.Ret → Prop
  | .job => JobPhase.final
  | .login _ _ _ _ => LoginPhase.final
  | .admin _ _ => LockdownPhase.final

theorem conforms_prog (env : Env) (p : Party) :
    (p.monitor env).Conforms p.final p.phase₀ (p.prog env) := by
  cases p with
  | job => exact JobPhase.conforms_handleUnlock
  | login email password ipAddress userAgent => exact LoginPhase.conforms_login ipAddress userAgent
  | admin u d => exact LockdownPhase.conforms_lockdown

/-- The path has read account `a` and not yet written it back. -/
def holds (a : Nat) : (p : Party) → p.Phase → Bool
  | .job, .holding accounts => a ∈ accounts
  | .login _ _ _ _, .timed c => c.id = a
  | .login _ _ _ _, .unlocking c => c.id = a
  | _, _ => false

/-- What a path knows of the accounts it holds. -/
def Sound (w : World) : (p : Party) → p.Phase → Prop
  | .job, .clocked now => now ≤ w.now
  | .job, .holding accounts => accounts.Nodup ∧ ∀ a ∈ accounts, LockPassed w a
  | .login _ _ _ _, .timed c =>
    ∀ c' ∈ w.credentials.rows, c'.id = c.id → c'.status = .locked ∧ c'.lockedUntil = c.lockedUntil
  | .login _ _ _ _, .unlocking c => LockPassed w c.id
  | _, _ => True

variable {env : Env} {w : World} {s : Stmt}

theorem allowed_changesAccounts {p : Party} {φ : p.Phase} (ha : (p.monitor env).allowed φ s) :
    s.changesAccounts = false := by
  cases p with
  | job => exact JobPhase.changesAccounts_of_allowed ha
  | login email password ipAddress userAgent => exact (LoginPhase.not_deletes_of_allowed ha).2
  | admin u d => cases s <;> first | rfl | (cases φ <;> exact ha.elim)

/-- The row with the id of a row is that row. -/
theorem row_eq {c c' : UserCredential} (hc : c ∈ w.credentials.rows)
    (hc' : c' ∈ w.credentials.rows) (hid : c'.id = c.id) : c' = c :=
  Table.eq_of_key hc' hc hid

theorem sound_tick {p : Party} {φ : p.Phase} (h : p.Sound w φ) (n : Nat) :
    p.Sound { w with now := w.now + n } φ := by
  cases p with
  | job =>
    cases φ with
    | start => trivial
    | clocked now =>
      have hle : now ≤ w.now := h
      show now ≤ w.now + n
      omega
    | holding accounts => exact ⟨h.1, fun a ha => (h.2 a ha).tick n⟩
  | login email password ipAddress userAgent =>
    cases φ with
    | timed c => exact h
    | unlocking c => exact LockPassed.tick h n
    | _ => trivial
  | admin u d => trivial

/-- A statement of another thread that writes the lock state of no account the path holds. -/
theorem sound_other {p : Party} {φ : p.Phase} (h : p.Sound w φ) (hs : s.changesAccounts = false)
    (hfree : ∀ a, lockTarget s = some a → p.holds a φ = false) :
    p.Sound (World.exec env s w).2 φ := by
  cases p with
  | job =>
    cases φ with
    | start => trivial
    | clocked now =>
      show now ≤ (World.exec env s w).2.now
      rw [World.exec_now]
      exact h
    | holding accounts =>
      refine ⟨h.1, fun a ha => (h.2 a ha).exec hs fun ht => ?_⟩
      have hnot := hfree a ht
      simp [holds, ha] at hnot
  | login email password ipAddress userAgent =>
    cases φ with
    | timed c =>
      intro c' hc' hid
      rw [World.exec_credentialRows hs] at hc'
      obtain ⟨c₀, hmem, rfl⟩ := List.mem_map.mp hc'
      rw [Stmt.onCredential_id] at hid
      obtain ⟨hstatus, huntil⟩ := onCredential_of_lockTarget (s := s) (c := c₀) fun ht => by
        have hnot := hfree c₀.id ht
        simp [holds, hid] at hnot
      obtain ⟨hlocked, hsame⟩ := h c₀ hmem hid
      exact ⟨hstatus.trans hlocked, huntil.trans hsame⟩
    | unlocking c =>
      refine LockPassed.exec h hs fun ht => ?_
      have hnot := hfree c.id ht
      simp [holds] at hnot
    | _ => trivial
  | admin u d => trivial

theorem sound_job {φ : JobPhase} (h : Sound w .job φ) (ha : JobPhase.allowed φ s) :
    Sound (World.exec env s w).2 .job (JobPhase.next φ s (World.exec env s w).1) := by
  cases φ with
  | start =>
    cases s
    case newDate => exact Int.le_refl w.now
    all_goals exact ha.elim
  | clocked now =>
    cases s
    case findLockedAccountsToUnlock t =>
      obtain rfl : t = now := ha
      have hle : t ≤ w.now := h
      refine ⟨List.Nodup.sublist (List.Sublist.map _ List.filter_sublist) w.credentials.key_nodup,
        fun a ha => ?_⟩
      obtain ⟨c, hc, rfl⟩ := List.mem_map.mp ha
      obtain ⟨hmem, hp⟩ := List.mem_filter.mp hc
      intro c' hc' hid
      obtain rfl := row_eq hmem hc' hid
      rw [Bool.and_eq_true, decide_eq_true_eq] at hp
      refine ⟨hp.1, ?_⟩
      cases hl : c'.lockedUntil with
      | none => rw [hl] at hp; simp at hp
      | some l =>
        rw [hl] at hp
        have hlt : l < t := by simpa using hp.2
        refine ⟨l, rfl, ?_⟩
        show l ≤ w.now
        omega
    all_goals exact ha.elim
  | holding accounts =>
    cases accounts with
    | nil => exact ha.elim
    | cons a as =>
      cases s
      case unlockAccount id =>
        obtain rfl : id = a := ha
        obtain ⟨hnodup, hpassed⟩ := h
        obtain ⟨hnot, hnodup'⟩ := List.nodup_cons.mp hnodup
        refine ⟨hnodup', fun b hb => (hpassed b (List.mem_cons_of_mem _ hb)).exec rfl ?_⟩
        intro ht
        obtain rfl : id = b := Option.some.inj ht
        exact hnot hb
      all_goals exact ha.elim

theorem sound_login {email password : String} {ipAddress userAgent : Option String}
    {φ : LoginPhase} (h : Sound w (.login email password ipAddress userAgent) φ)
    (ha : LoginPhase.allowed env email password φ s) {reply : Except Exn s.Reply}
    (hr : (World.exec env s w).1 = reply) :
    Sound (World.exec env s w).2 (.login email password ipAddress userAgent)
      (LoginPhase.next φ s reply) := by
  fun_cases LoginPhase.next φ s reply
  case case2 =>
    rename_i e c
    have hmem : c ∈ w.credentials.rows :=
      (Table.find?_mem (Except.ok.inj hr : w.credentials.find? _ = some c)).1
    unfold LoginPhase.admission
    split
    · trivial
    · rename_i l hlocked huntil
      intro c' hc' hid
      obtain rfl := row_eq hmem hc' hid
      exact ⟨hlocked, rfl⟩
    · trivial
  case case3 =>
    rename_i c now hexp
    obtain rfl : w.now = now := Except.ok.inj hr
    intro c' hc' hid
    obtain ⟨hlocked, huntil⟩ := h c' hc' hid
    refine ⟨hlocked, ?_⟩
    cases hl : c.lockedUntil with
    | none => simp [LoginPhase.lockExpired, hl] at hexp
    | some t =>
      refine ⟨t, huntil.trans hl, ?_⟩
      show t ≤ w.now
      simpa [LoginPhase.lockExpired, hl] using hexp
  case case11 =>
    rename_i hunlock _ _ _ _
    cases φ with
    | timed c =>
      cases s
      case newDate => exact h
      all_goals exact ha.elim
    | unlocking c =>
      obtain ⟨id, rfl⟩ : ∃ id, s = .unlockAccount id := by
        cases s <;> first | exact ⟨_, rfl⟩ | exact ha.elim
      exact (hunlock c id () rfl rfl (heq_of_eq hr.symm)).elim
    | _ => trivial
  all_goals trivial

/-- A step of the path itself. -/
theorem sound_self {p : Party} {φ : p.Phase} (h : p.Sound w φ) (ha : (p.monitor env).allowed φ s) :
    p.Sound (World.exec env s w).2 ((p.monitor env).next φ s (World.exec env s w).1) := by
  cases p with
  | job => exact sound_job h ha
  | login email password ipAddress userAgent => exact sound_login h ha rfl
  | admin u d => trivial

/-- A path about to write ACTIVE holds the account and knows its lock has passed. -/
theorem lockPassed_of_unlock {p : Party} {φ : p.Phase} {a : Nat} (h : p.Sound w φ)
    (ha : (p.monitor env).allowed φ (.unlockAccount a)) : LockPassed w a := by
  cases p with
  | job =>
    cases φ with
    | holding accounts =>
      cases accounts with
      | nil => exact ha.elim
      | cons b bs =>
        obtain rfl : a = b := ha
        exact h.2 a List.mem_cons_self
    | _ => exact ha.elim
  | login email password ipAddress userAgent =>
    cases φ with
    | unlocking c =>
      obtain rfl : a = c.id := ha
      exact h
    | _ => cases ha
  | admin u d => cases φ <;> exact ha.elim

end Party

/-! ## Any number of parties -/

section Parties

variable {ι : Type} [DecidableEq ι] {env : Env} {w : World} {party : ι → Party}

abbrev PartyPool (party : ι → Party) : Type := Pool sig World ι fun i => (party i).Ret

def parties (env : Env) (w : World) (party : ι → Party) : PartyPool party :=
  Pool.start w fun i => (party i).prog env

namespace PartyPool

def phaseAt (env : Env) (q : PartyPool party) (i : ι) : (party i).Phase :=
  q.phase (fun i => (party i).monitor env) (fun i => (party i).phase₀) i

/-- No statement writes the lock state of an account that another path holds. -/
def NoOverwrite (env : Env) (q : PartyPool party) : Label ι → Prop
  | .tick _ => True
  | .run i => ∀ j, j ≠ i → ((q.next? i).bind lockTarget).all (fun a =>
      !(party j).holds a (phaseAt env q j)) = true

instance [Fintype ι] (q : PartyPool party) : (l : Label ι) → Decidable (NoOverwrite env q l)
  | .tick _ => .isTrue trivial
  | .run _ => inferInstanceAs (Decidable (∀ _, _))

theorem sound_reach {q : PartyPool party}
    (hr : Reach (World.machine env) (NoOverwrite env) (parties env w party) q) (i : ι) :
    (party i).Sound q.world (phaseAt env q i) := by
  have hconf : ∀ i, ((party i).monitor env).Conforms (party i).final
      (phaseAt env (parties env w party) i) ((parties env w party).prog i) :=
    fun i => Party.conforms_prog env (party i)
  refine hr.invariant_of_conforms (I := fun q => ∀ i, (party i).Sound q.world (phaseAt env q i))
    hconf (fun i => ?_) (fun q n hI _ i => ?_) (fun q i s k hI hC hp ha j => ?_) i
  · show (party i).Sound w (party i).phase₀
    cases party i with
    | job => trivial
    | login email password ipAddress userAgent => trivial
    | admin u d => trivial
  · exact Party.sound_tick (hI i) n
  · rw [Pool.world_step hp]
    by_cases hj : j = i
    · subst hj
      have hself : phaseAt env (q.step (World.machine env) (.run j)) j =
          ((party j).monitor env).next (phaseAt env q j) s (World.exec env s q.world).1 :=
        phase_step_self (m := fun i => (party i).monitor env) hp
      rw [hself]
      exact Party.sound_self (hI j) ha
    · have hother : phaseAt env (q.step (World.machine env) (.run i)) j = phaseAt env q j :=
        phase_step_other hj
      rw [hother]
      refine Party.sound_other (hI j) (Party.allowed_changesAccounts ha) fun a hta => ?_
      have hfree := hC j hj
      rw [Pool.next?_of_call hp] at hfree
      simpa [hta] using hfree

end PartyPool

/-- With no overwrite between a path's read and its write, the write meets an expired lock. -/
theorem unlock_meets_expired_lock {q : PartyPool party} {i : ι} {a : Nat}
    (hr : Reach (World.machine env) (PartyPool.NoOverwrite env) (parties env w party) q)
    (hnext : q.next? i = some (.unlockAccount a)) : LockPassed q.world a := by
  have hconf : ((party i).monitor env).Conforms (party i).final (PartyPool.phaseAt env q i)
      (q.prog i) :=
    conforms_reach (m := fun i => (party i).monitor env) (F := fun i => (party i).final) hr
      (Party.conforms_prog env (party i))
  unfold Pool.next? at hnext
  cases hp : q.prog i with
  | ret r => rw [hp] at hnext; cases hnext
  | throw e => rw [hp] at hnext; cases hnext
  | call s k =>
    rw [hp] at hnext hconf
    obtain rfl : s = .unlockAccount a := Option.some.inj hnext
    exact Party.lockPassed_of_unlock (PartyPool.sound_reach hr i) hconf.1

/-! ### A ban between the read of the job and its write -/

/-- An administrator has locked the registered account for a minute, which has passed. -/
def lockRanOut : World :=
  runs Env.plain registered [.request (.lockAccount 1 "review" (some 1) none), .pass 60001]

def jobAndBan (isJob : Bool) : Party :=
  if isJob then .job else .admin 1 (.ban "fraud" none)

def banInsideJob : List (Label Bool) :=
  List.replicate 2 (.run true) ++ List.replicate 7 (.run false)

theorem unlock_overwrites_ban :
    ¬ ∀ (w : World), Reachable Env.plain w → ∀ (party : Bool → Party)
        (schedule : List (Label Bool)) (q : PartyPool party),
      q = (parties Env.plain w party).runs (World.machine Env.plain) schedule →
      ∀ i a, q.next? i = some (.unlockAccount a) → LockPassed q.world a := by
  intro h
  have hpassed := h lockRanOut (registered_reachable.after _) jobAndBan banInsideJob _ rfl true 1 (by rfl)
  obtain ⟨c, hc, hid, hbanned⟩ : ∃ c ∈ ((parties Env.plain lockRanOut jobAndBan).runs
      (World.machine Env.plain) banInsideJob).world.credentials.rows,
      c.id = 1 ∧ c.status = .banned := ⟨_, List.mem_singleton.mpr rfl, by rfl, by rfl⟩
  have hlocked := (hpassed c hc hid).1
  rw [hbanned] at hlocked
  cases hlocked

/-- The ban has read the account, and the job is about to write. -/
def jobReady : PartyPool jobAndBan :=
  (parties Env.plain lockRanOut jobAndBan).runs (World.machine Env.plain)
    (.run false :: List.replicate 2 (.run true))

/-- The job writes, and then the ban. -/
def jobThenBan : PartyPool jobAndBan :=
  (parties Env.plain lockRanOut jobAndBan).runs (World.machine Env.plain)
    (.run false :: List.replicate 3 (.run true) ++ List.replicate 6 (.run false))

theorem unlock_meets_expired_lock_banned :
    jobReady.next? true = some (.unlockAccount 1) ∧ LockPassed jobReady.world 1 ∧
      Reach (World.machine Env.plain) (PartyPool.NoOverwrite Env.plain) jobReady jobThenBan ∧
      (jobThenBan.world.account 1).map (·.status) = some .banned := by
  have hr : Reach (World.machine Env.plain) (PartyPool.NoOverwrite Env.plain)
      (parties Env.plain lockRanOut jobAndBan) jobReady := Reach.of_checked (by decide +kernel)
  have hban : Reach (World.machine Env.plain) (PartyPool.NoOverwrite Env.plain) jobReady
      (jobReady.runs (World.machine Env.plain) (.run true :: List.replicate 6 (.run false))) :=
    Reach.of_checked (by decide +kernel)
  exact ⟨by rfl, unlock_meets_expired_lock hr (i := true) (by rfl), hban, by rfl⟩

end Parties
end Auth
