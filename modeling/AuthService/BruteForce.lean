import AuthService.Login

/-!
# AuthService.BruteForce

Concurrent logins with wrong passwords on one account, up to the moment the account is locked.

* `guesses`         — how many password verifications have been executed.
* `AdmitsBelowMax`  — a lookup that reads the row ACTIVE does so while the failed attempts counted in
  the row and the logins not counted yet are fewer than the maximum together.
* `guesses_le_max`  — under that condition no more guesses than the maximum come before the lock.

The code checks the counter after the verification only, so any number of logins may have read the
row ACTIVE by then: `guesses_exceed_max`.
-/

namespace Auth

open Relational Resumption Prog

abbrev LoginPool (ι : Type) : Type := Pool sig World ι fun _ => AuthResponse

def isGuess : Stmt → Bool
  | .verifyPassword _ _ => true
  | _ => false

def isLock : Stmt → Bool
  | .lockAccount _ _ => true
  | _ => false

def isLookup : Stmt → Bool
  | .findCredentialByEmail _ => true
  | _ => false

namespace LoginPhase

/-- The row is read, the verification still to come. -/
def isChecking : LoginPhase → Bool
  | .checking _ => true
  | _ => false

/-- The verification has failed, the attempt is not counted yet. -/
def isWrong : LoginPhase → Bool
  | .wrong _ => true
  | _ => false

def isUncounted (φ : LoginPhase) : Bool := φ.isChecking || φ.isWrong

/-- A login that works on the row `a`, with the password hash `hash`, and has not been locked out. -/
def Guessing (a : Nat) (hash : String) : LoginPhase → Prop
  | .start => True
  | .checking c => c.id = a ∧ c.passwordHash = hash
  | .wrong c => c.id = a
  | .counted c _ => c.id = a
  | _ => False

end LoginPhase

section BruteForce

variable {ι : Type} [DecidableEq ι] {env : Env} {w : World} {email password : ι → String}
  {ipAddress userAgent : ι → Option String} {a : Nat} {c₀ : UserCredential}

def logins (env : Env) (w : World) (email password : ι → String)
    (ipAddress userAgent : ι → Option String) : LoginPool ι :=
  Pool.start w fun i => AuthService.login env (email i) (password i) (ipAddress i) (userAgent i)

namespace LoginPool

/-- Password verifications executed so far. -/
def guesses (q : LoginPool ι) : Nat := q.log.countP fun e => isGuess e.stmt

/-- No login has executed `lockAccount`. -/
def unlocked (q : LoginPool ι) : Bool := q.log.all fun e => !isLock e.stmt

def attempt (env : Env) (email password : ι → String) (q : LoginPool ι) (i : ι) : LoginPhase :=
  q.phase (fun i => LoginPhase.monitor env (email i) (password i)) (fun _ => .start) i

variable [Fintype ι]

/-- A lookup reads the account ACTIVE only while there is room for one more guess. -/
def AdmitsBelowMax (env : Env) (email password : ι → String) (a : Nat) (q : LoginPool ι) :
    Label ι → Prop
  | .tick _ => True
  | .run i => (q.next? i).any isLookup = true → (q.world.account a).all (fun c =>
      c.status ≠ .active ||
        c.failedLoginAttempts + tally (fun j => (attempt env email password q j).isUncounted) <
          env.maxLoginAttempts) = true

instance (q : LoginPool ι) : (l : Label ι) → Decidable (AdmitsBelowMax env email password a q l)
  | .tick _ => .isTrue trivial
  | .run _ => inferInstanceAs (Decidable (_ → _))

/-- Up to the first lock: every guess is counted in the row or about to be. -/
structure Bounded (env : Env) (email password : ι → String) (a : Nat) (hash : String)
    (q : LoginPool ι) (c : UserCredential) : Prop where
  account : q.world.account a = some c
  lookup : ∀ i, q.world.byEmail env (email i) = some c
  active : c.status = .active
  hash_eq : c.passwordHash = hash
  guessing : ∀ i, (attempt env email password q i).Guessing a hash
  counted : guesses q =
    c.failedLoginAttempts + tally fun i => (attempt env email password q i).isWrong
  below : c.failedLoginAttempts + tally (fun i => (attempt env email password q i).isUncounted) ≤
    env.maxLoginAttempts

variable {hash : String} {q : LoginPool ι} {c : UserCredential} {i : ι} {s : Stmt}
  {k : Except Exn s.Reply → AuthProg AuthResponse}

omit [Fintype ι] in
theorem attempt_self (hp : q.prog i = .call s k) :
    attempt env email password (q.step (World.machine env) (.run i)) i =
      (attempt env email password q i).next s (World.exec env s q.world).1 :=
  phase_step_self (m := fun i => LoginPhase.monitor env (email i) (password i)) hp

omit [Fintype ι] in
theorem attempt_other {j : ι} (hj : j ≠ i) :
    attempt env email password (q.step (World.machine env) (.run i)) j =
      attempt env email password q j := phase_step_other hj

omit [Fintype ι] in
theorem guesses_step (hp : q.prog i = .call s k) :
    guesses (q.step (World.machine env) (.run i)) = guesses q + (isGuess s).toNat := by
  rw [Pool.step_call hp]
  unfold guesses
  cases hs : isGuess s <;> simp [hs]

omit [Fintype ι] in
theorem unlocked_step (hp : q.prog i = .call s k) :
    unlocked (q.step (World.machine env) (.run i)) = (!isLock s && unlocked q) := by
  rw [Pool.step_call hp]
  rfl

/-- One step of login `i`: the bounds hold again if what the statement adds to the counter of the row
makes up for what leaves the tallies. -/
theorem bounded_step (hB : Bounded env email password a hash q c) (hp : q.prog i = .call s k)
    (hs : s.changesAccounts = false) (hactive : (s.onCredential c).status = .active)
    (hhash : (s.onCredential c).passwordHash = hash)
    (hφ : ((attempt env email password q i).next s (World.exec env s q.world).1).Guessing a hash)
    (hcount : c.failedLoginAttempts + (isGuess s).toNat +
        (attempt env email password q i).isWrong.toNat =
      (s.onCredential c).failedLoginAttempts +
        ((attempt env email password q i).next s (World.exec env s q.world).1).isWrong.toNat)
    (hbelow : (s.onCredential c).failedLoginAttempts +
        tally (fun j => (attempt env email password q j).isUncounted) +
        ((attempt env email password q i).next s (World.exec env s q.world).1).isUncounted.toNat ≤
      env.maxLoginAttempts + (attempt env email password q i).isUncounted.toNat) :
    Bounded env email password a hash (q.step (World.machine env) (.run i)) (s.onCredential c) := by
  have hworld := Pool.world_step (M := World.machine env) hp
  have hself : attempt env email password (q.step (World.machine env) (.run i)) i =
      (attempt env email password q i).next s (World.exec env s q.world).1 := attempt_self hp
  have hother : ∀ j, j ≠ i → attempt env email password (q.step (World.machine env) (.run i)) j =
      attempt env email password q j := fun j hj => attempt_other hj
  have htally : ∀ f : LoginPhase → Bool,
      tally (fun j => f (attempt env email password (q.step (World.machine env) (.run i)) j)) +
          (f (attempt env email password q i)).toNat =
        tally (fun j => f (attempt env email password q j)) +
          (f ((attempt env email password q i).next s (World.exec env s q.world).1)).toNat := by
    intro f
    rw [← hself]
    exact tally_step (fun j => f (attempt env email password q j))
      (fun j => f (attempt env email password (q.step (World.machine env) (.run i)) j))
      fun j hj => by rw [hother j hj]
  have hwrong := htally LoginPhase.isWrong
  have hunc := htally LoginPhase.isUncounted
  refine ⟨?_, fun j => ?_, hactive, hhash, fun j => ?_, ?_, ?_⟩
  · rw [hworld]
    exact (World.account_exec hs).trans (by rw [hB.account]; rfl)
  · rw [hworld]
    exact (World.byEmail_exec hs (email j)).trans (by rw [hB.lookup j]; rfl)
  · by_cases hj : j = i
    · subst hj
      rw [hself]
      exact hφ
    · rw [hother j hj]
      exact hB.guessing j
  · have hc := hB.counted
    rw [guesses_step hp]
    omega
  · omega

/-- The lookup: there is room for one more guess, by the condition on the step. -/
theorem bounded_lookup (hB : Bounded env email password a hash q c)
    (hC : AdmitsBelowMax env email password a q (.run i)) (hp : q.prog i = .call s k)
    (hφ : attempt env email password q i = .start)
    (ha : LoginPhase.allowed env (email i) (password i) .start s) :
    Bounded env email password a hash (q.step (World.machine env) (.run i)) (s.onCredential c) := by
  have hbelow := hB.below
  cases s
  case findCredentialByEmail e =>
    obtain rfl : e = email i := ha
    have hnext : LoginPhase.next .start (.findCredentialByEmail (email i))
        (World.exec env (.findCredentialByEmail (email i)) q.world).1 = .checking c := by
      have hfind : (World.exec env (.findCredentialByEmail (email i)) q.world).1 =
          .ok (some c) := congrArg Except.ok (hB.lookup i)
      rw [hfind]
      simp [LoginPhase.next, LoginPhase.admission, hB.active]
    have hroom : c.failedLoginAttempts +
        tally (fun j => (attempt env email password q j).isUncounted) < env.maxLoginAttempts := by
      have hC' := hC (by rw [Pool.next?_of_call hp]; rfl)
      rw [hB.account] at hC'
      simpa [hB.active] using hC'
    refine bounded_step hB hp rfl hB.active hB.hash_eq ?_ ?_ ?_
    · rw [hφ, hnext]
      exact ⟨World.account_id hB.account, hB.hash_eq⟩
    · rw [hφ, hnext]
      rfl
    · rw [hφ, hnext]
      show c.failedLoginAttempts + _ + 1 ≤ _ + 0
      omega
  all_goals exact ha.elim

/-- The verification: the password is wrong, and the guess is still to be counted. -/
theorem bounded_verify {c' : UserCredential} (hB : Bounded env email password a hash q c)
    (hbad : ∀ i, env.verifyPassword hash (password i) = false) (hp : q.prog i = .call s k)
    (hφ : attempt env email password q i = .checking c')
    (ha : LoginPhase.allowed env (email i) (password i) (.checking c') s) :
    Bounded env email password a hash (q.step (World.machine env) (.run i)) (s.onCredential c) := by
  have hbelow := hB.below
  have hguessing := hB.guessing i
  rw [hφ] at hguessing
  cases s
  case verifyPassword storedHash given =>
    obtain ⟨rfl, rfl⟩ := ha
    have hnext : LoginPhase.next (.checking c') (.verifyPassword c'.passwordHash (password i))
        (World.exec env (.verifyPassword c'.passwordHash (password i)) q.world).1 =
          .wrong c' := by
      have hverify : (World.exec env (.verifyPassword c'.passwordHash (password i))
          q.world).1 = .ok false := congrArg Except.ok (hguessing.2 ▸ hbad i)
      rw [hverify]
      rfl
    refine bounded_step hB hp rfl hB.active hB.hash_eq ?_ ?_ ?_
    · rw [hφ, hnext]
      exact hguessing.1
    · rw [hφ, hnext]
      rfl
    · rw [hφ, hnext]
      show c.failedLoginAttempts + _ + 1 ≤ _ + 1
      omega
  all_goals exact ha.elim

/-- The increment: the counter of the row takes the guess over from the tally. -/
theorem bounded_increment {c' : UserCredential} (hB : Bounded env email password a hash q c)
    (hp : q.prog i = .call s k) (hφ : attempt env email password q i = .wrong c')
    (ha : LoginPhase.allowed env (email i) (password i) (.wrong c') s) :
    Bounded env email password a hash (q.step (World.machine env) (.run i)) (s.onCredential c) := by
  have hbelow := hB.below
  have hguessing := hB.guessing i
  rw [hφ] at hguessing
  cases s
  case incrementFailedAttempts id =>
    obtain rfl : id = c'.id := ha
    have hga : c'.id = a := hguessing
    have hrow : (Stmt.incrementFailedAttempts c'.id).onCredential c =
        { c with failedLoginAttempts := c.failedLoginAttempts + 1 } := by
      show (if c.id = c'.id then _ else c) = _
      rw [if_pos ((World.account_id hB.account).trans hga.symm)]
      rfl
    have hnext : LoginPhase.next (.wrong c') (.incrementFailedAttempts c'.id)
        (World.exec env (.incrementFailedAttempts c'.id) q.world).1 =
          .counted c' (c.failedLoginAttempts + 1) := by
      have hcount : (World.exec env (.incrementFailedAttempts c'.id) q.world).1 =
          .ok (some (c.failedLoginAttempts + 1)) := by
        have hacc : (World.exec env (.incrementFailedAttempts c'.id) q.world).2.account a =
            some { c with failedLoginAttempts := c.failedLoginAttempts + 1 } :=
          (World.account_exec rfl).trans (by rw [hB.account]; exact congrArg some hrow)
        rw [← hga] at hacc
        exact congrArg (fun o => Except.ok (Option.map _ o)) hacc
      rw [hcount]
      rfl
    refine bounded_step hB hp rfl ?_ ?_ ?_ ?_ ?_
    · rw [hrow]
      exact hB.active
    · rw [hrow]
      exact hB.hash_eq
    · rw [hφ, hnext]
      exact hguessing
    · rw [hφ, hnext, hrow]
      rfl
    · rw [hφ, hnext, hrow]
      show c.failedLoginAttempts + 1 + _ + 0 ≤ _ + 1
      omega
  all_goals exact ha.elim

/-- After the increment a login touches no account, the lock apart. -/
theorem bounded_counted {c' : UserCredential} {n : Nat} (hB : Bounded env email password a hash q c)
    (hp : q.prog i = .call s k) (hφ : attempt env email password q i = .counted c' n)
    (ha : LoginPhase.allowed env (email i) (password i) (.counted c' n) s)
    (hlock : isLock s = false) :
    Bounded env email password a hash (q.step (World.machine env) (.run i)) (s.onCredential c) := by
  have hbelow := hB.below
  have hguessing := hB.guessing i
  rw [hφ] at hguessing
  have hquiet : s.changesAccounts = false ∧ s.onCredential c = c ∧ isGuess s = false := by
    cases s
    case lockAccount => cases hlock
    all_goals first | exact ⟨rfl, rfl, rfl⟩ | cases ha
  obtain ⟨hs, hrow, hg⟩ := hquiet
  refine bounded_step hB hp hs ?_ ?_ ?_ ?_ ?_
  · rw [hrow]
    exact hB.active
  · rw [hrow]
    exact hB.hash_eq
  · rw [hφ]
    exact hguessing
  · rw [hφ, hrow, hg]
    rfl
  · rw [hφ, hrow]
    show c.failedLoginAttempts + _ + 0 ≤ _ + 0
    omega

/-- A step before the lock. The phase says which statement it is. -/
theorem bounded_run (hB : Bounded env email password a hash q c)
    (hbad : ∀ i, env.verifyPassword hash (password i) = false)
    (hC : AdmitsBelowMax env email password a q (.run i)) (hp : q.prog i = .call s k)
    (ha : LoginPhase.allowed env (email i) (password i) (attempt env email password q i) s)
    (hlock : isLock s = false) :
    Bounded env email password a hash (q.step (World.machine env) (.run i)) (s.onCredential c) := by
  have hguessing := hB.guessing i
  cases hφ : attempt env email password q i with
  | start =>
    rw [hφ] at ha
    exact bounded_lookup hB hC hp hφ ha
  | checking c' =>
    rw [hφ] at ha
    exact bounded_verify hB hbad hp hφ ha
  | wrong c' =>
    rw [hφ] at ha
    exact bounded_increment hB hp hφ ha
  | counted c' n =>
    rw [hφ] at ha
    exact bounded_counted hB hp hφ ha hlock
  | _ => rw [hφ] at hguessing; exact hguessing.elim

theorem bounded_start (hrow : c₀ ∈ w.credentials.rows)
    (hlookup : ∀ i, w.byEmail env (email i) = some c₀) (hactive : c₀.status = .active)
    (hzero : c₀.failedLoginAttempts = 0) :
    Bounded env email password c₀.id c₀.passwordHash
      (logins env w email password ipAddress userAgent) c₀ := by
  have hnone : ∀ f : LoginPhase → Bool, f .start = false →
      tally (fun i => f (attempt env email password
        (logins env w email password ipAddress userAgent) i)) = 0 :=
    fun f hf => tally_eq_zero fun i => hf
  refine ⟨World.account_of_mem hrow rfl, hlookup, hactive, rfl, fun j => trivial, ?_, ?_⟩
  · rw [hnone LoginPhase.isWrong rfl, hzero]
    rfl
  · rw [hnone LoginPhase.isUncounted rfl, hzero]
    exact Nat.zero_le _

end LoginPool

open LoginPool in
/-- Before the lock, the logins on an account make at most the maximum of guesses. -/
theorem guesses_le_max [Fintype ι] {q : LoginPool ι} (hrow : c₀ ∈ w.credentials.rows)
    (hlookup : ∀ i, w.byEmail env (email i) = some c₀) (hactive : c₀.status = .active)
    (hzero : c₀.failedLoginAttempts = 0)
    (hbad : ∀ i, env.verifyPassword c₀.passwordHash (password i) = false)
    (hr : Reach (World.machine env) (AdmitsBelowMax env email password c₀.id)
      (logins env w email password ipAddress userAgent) q)
    (hu : unlocked q = true) : guesses q ≤ env.maxLoginAttempts := by
  have hconf : ∀ i, (LoginPhase.monitor env (email i) (password i)).Conforms LoginPhase.final
      (attempt env email password (logins env w email password ipAddress userAgent) i)
      ((logins env w email password ipAddress userAgent).prog i) :=
    fun i => LoginPhase.conforms_login (ipAddress i) (userAgent i)
  have hI : unlocked q = true → ∃ c, Bounded env email password c₀.id c₀.passwordHash q c := by
    refine hr.invariant_of_conforms (I := fun q => unlocked q = true →
      ∃ c, Bounded env email password c₀.id c₀.passwordHash q c) hconf
      (fun _ => ⟨c₀, bounded_start hrow hlookup hactive hzero⟩)
      (fun q n hI _ hu => ?_) fun q i s k hI hC hp ha hu => ?_
    · obtain ⟨c, hB⟩ := hI hu
      exact ⟨c, hB.account, hB.lookup, hB.active, hB.hash_eq, hB.guessing, hB.counted, hB.below⟩
    · rw [unlocked_step hp, Bool.and_eq_true, Bool.not_eq_true'] at hu
      obtain ⟨c, hB⟩ := hI hu.2
      exact ⟨_, bounded_run hB hbad hC hp ha hu.1⟩
  obtain ⟨c, hB⟩ := hI hu
  have hcounted := hB.counted
  have hbelow := hB.below
  have hle : tally (fun i => (attempt env email password q i).isWrong) ≤
      tally fun i => (attempt env email password q i).isUncounted :=
    tally_mono fun i hi => by rw [LoginPhase.isUncounted, hi, Bool.or_true]
  omega

/-! ### One login more than the maximum -/

/-- Six logins with a wrong password on the registered account; the maximum is five. -/
def sixLogins : LoginPool (Fin 6) :=
  logins Env.plain registered (fun _ => "a@x") (fun _ => "wrong") (fun _ => none) fun _ => none

/-- All six read the row, then all six verify the password. -/
def readsFirst : List (Label (Fin 6)) :=
  (List.finRange 6).map .run ++ (List.finRange 6).map .run

theorem guesses_exceed_max :
    ¬ ∀ (w : World), Reachable Env.plain w → ∀ (c : UserCredential) (email : String)
        (password : Fin 6 → String) (schedule : List (Label (Fin 6))) (q : LoginPool (Fin 6)),
      q = (logins Env.plain w (fun _ => email) password (fun _ => none) fun _ => none).runs
        (World.machine Env.plain) schedule →
      c ∈ w.credentials.rows → w.byEmail Env.plain email = some c → c.status = .active →
      c.failedLoginAttempts = 0 →
      (∀ i, Env.plain.verifyPassword c.passwordHash (password i) = false) →
      q.unlocked = true → q.guesses ≤ Env.plain.maxLoginAttempts := by
  intro h
  obtain ⟨c, hrow, hc⟩ : ∃ c ∈ registered.credentials.rows,
      registered.byEmail Env.plain "a@x" = some c ∧ c.status = .active ∧
        c.failedLoginAttempts = 0 ∧ Env.plain.verifyPassword c.passwordHash "wrong" = false :=
    ⟨_, List.mem_singleton.mpr rfl, by rfl, by rfl, by rfl, by decide +kernel⟩
  obtain ⟨hlookup, hactive, hzero, hbad⟩ := hc
  have hsix := h registered registered_reachable c "a@x" (fun _ => "wrong") readsFirst _ rfl hrow
    hlookup hactive hzero (fun _ => hbad) (by decide +kernel)
  exact absurd hsix (by decide +kernel)

/-- Five of them one after the other, each up to its increment. -/
def fiveInTurn : LoginPool (Fin 6) :=
  sixLogins.runs (World.machine Env.plain)
    (((List.finRange 6).take 5).flatMap fun i => List.replicate 3 (.run i))

theorem guesses_le_max_five :
    fiveInTurn.guesses = 5 ∧ fiveInTurn.guesses ≤ Env.plain.maxLoginAttempts := by
  obtain ⟨c, hrow, hlookup, hactive, hzero, hbad, hid⟩ : ∃ c ∈ registered.credentials.rows,
      registered.byEmail Env.plain "a@x" = some c ∧ c.status = .active ∧
        c.failedLoginAttempts = 0 ∧ Env.plain.verifyPassword c.passwordHash "wrong" = false ∧
          c.id = 1 :=
    ⟨_, List.mem_singleton.mpr rfl, by rfl, by rfl, by rfl, by decide +kernel, by rfl⟩
  have hr : Reach (World.machine Env.plain)
      (LoginPool.AdmitsBelowMax Env.plain (fun _ => "a@x") (fun _ => "wrong") c.id) sixLogins
      fiveInTurn := by
    rw [hid]
    exact Reach.of_checked (by decide +kernel)
  exact ⟨by decide +kernel, guesses_le_max hrow (fun _ => hlookup) hactive hzero (fun _ => hbad) hr
    (by decide +kernel)⟩

end BruteForce
end Auth
