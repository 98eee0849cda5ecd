import AuthService.Ranges

/-!
# AuthService.Lockout

The lockout machine of one account against its counting specification, over runs of whole requests
whose values PostgreSQL refuses beyond the ranges of their columns.

* `LockoutEvent`, `history` — what a run did to the account: wrong passwords and resets, in order.
* `sinceReset`              — the specification: wrong-password logins since the last reset.
* `Counted`                 — the invariant: an ACTIVE row counts exactly these, below the maximum.
* `Counting`                — it holds of every account, so that no counter leaves its column's range.
* `lockout_exact`           — in every reachable state a login locks the account iff it is the one
  that reaches the maximum, a lock in force refuses every login, and ACTIVE means not locked;
  `lockout_beyond_dates` is what happens where a lock would end beyond the last `Date`.
* `ban_permanent`           — a ban holds as long as no timed lock is placed on the banned account;
  `timed_lock_lifts_ban` is what such a lock does.
-/

namespace Auth

open Relational Resumption Prog

/-! ## The counting specification -/

inductive LockoutEvent where
  | wrongPassword
  | reset
  deriving DecidableEq

/-- Wrong-password logins after the last reset of a history. -/
def sinceReset (h : List LockoutEvent) : Nat := (h.reverse.takeWhile (· ≠ .reset)).length

theorem sinceReset_reset (h : List LockoutEvent) : sinceReset (h ++ [.reset]) = 0 := by
  simp [sinceReset]

theorem sinceReset_wrongPassword (h : List LockoutEvent) :
    sinceReset (h ++ [.wrongPassword]) = sinceReset h + 1 := by
  simp [sinceReset]

/-- The events of a login: none when the status checks refuse it, an auto-unlock first when the lock
has expired. -/
def LockState.loginEvents (l : LockState) (now : Int) (valid : Bool) : List LockoutEvent :=
  match l.refusal now with
  | some _ => []
  | none =>
    (if l.expired now then [.reset] else []) ++ [if valid then .reset else .wrongPassword]

/-- The lockout events of account `u` in one action. -/
def events (env : Env) (u : Nat) (w : World) : Action → List LockoutEvent
  | .request (.login email password _ _) =>
    match w.byEmail env email with
    | none => []
    | some c =>
      if c.id = u then
        c.lockState.loginEvents w.now (env.verifyPassword c.passwordHash password)
      else []
  | .request (.unlockAccount id _) => if id = u then [.reset] else []
  | .request .unlockExpiredLockouts =>
    if (w.lockState u).any (·.ranOut w.now) then [.reset] else []
  | _ => []

def history (env : Env) (u : Nat) : World → List Action → List LockoutEvent
  | _, [] => []
  | w, a :: as => events env u w a ++ history env u (actRanged env w a) as

variable {env : Env} {u : Nat} {w : World} {l : LockState}

/-! ## The invariant -/

/-- An ACTIVE row has no lock expiry and counts the wrong passwords since the last reset, which are
fewer than the maximum. -/
def Counted (env : Env) (l : LockState) (h : List LockoutEvent) : Prop :=
  l.status = .active →
    l.lockedUntil = none ∧ l.failedLoginAttempts = sinceReset h ∧
      sinceReset h < env.maxLoginAttempts

theorem counted_unlocked (hm : 1 ≤ env.maxLoginAttempts) (h : List LockoutEvent) :
    Counted env ⟨.active, 0, none⟩ (h ++ [.reset]) := by
  intro _
  rw [sinceReset_reset]
  exact ⟨rfl, rfl, hm⟩

theorem LockState.active_of_refusal {now : Int} (hr : l.refusal now = none)
    (he : l.expired now = false) : l.status = .active := by
  unfold refusal at hr
  unfold expired at he
  cases hs : l.status with
  | active => rfl
  | locked =>
    simp only [hs, decide_true, Bool.true_and] at hr he
    simp [he] at hr
  | banned => simp [hs] at hr
  | deleted => simp [hs] at hr

/-- One wrong password on an ACTIVE row: counted, and a lock exactly when it reaches the maximum. -/
theorem counted_failed (now : Int) {h : List LockoutEvent} (hs : l.status = .active)
    (hI : Counted env l h) :
    Counted env (l.failed env now) (h ++ [.wrongPassword]) ∧
      ((l.failed env now).status = .locked ↔ sinceReset h + 1 = env.maxLoginAttempts) := by
  obtain ⟨hnone, hcount, hlt⟩ := hI hs
  unfold LockState.failed
  by_cases hm : env.maxLoginAttempts ≤ l.failedLoginAttempts + 1
  · rw [if_pos hm]
    refine ⟨fun hactive => ?_, fun _ => by omega, fun _ => rfl⟩
    cases hactive
  · rw [if_neg hm]
    refine ⟨fun _ => ⟨hnone, ?_, ?_⟩, fun h => ?_, fun h => ?_⟩
    · rw [sinceReset_wrongPassword, ← hcount]
    · rw [sinceReset_wrongPassword]
      omega
    · rw [show ({ l with failedLoginAttempts := l.failedLoginAttempts + 1 } : LockState).status =
        l.status from rfl, hs] at h
      cases h
    · omega

/-- A login keeps the invariant, whatever the state and the password. -/
theorem counted_afterLogin {now : Int} {valid : Bool} {h : List LockoutEvent}
    (hm : 1 ≤ env.maxLoginAttempts) (hI : Counted env l h) :
    Counted env (l.afterLogin env now valid) (h ++ l.loginEvents now valid) := by
  unfold LockState.afterLogin LockState.loginEvents
  cases hr : l.refusal now with
  | some e => simpa using hI
  | none =>
    have hstart : ∃ l' h', (if l.expired now then ⟨.active, 0, none⟩ else l) = l' ∧
        h ++ (if l.expired now then [.reset] else []) = h' ∧ l'.status = .active ∧
          Counted env l' h' := by
      cases he : l.expired now with
      | true => exact ⟨_, _, rfl, rfl, rfl, counted_unlocked hm h⟩
      | false => exact ⟨_, _, rfl, rfl, LockState.active_of_refusal hr he, by simpa using hI⟩
    obtain ⟨l', h', hl', hh', hactive, hI'⟩ := hstart
    simp only [hl', ← List.append_assoc, hh']
    cases valid with
    | true =>
      intro _
      obtain ⟨hnone, -, -⟩ := hI' hactive
      exact ⟨hnone, (sinceReset_reset h').symm, by simp only [if_true, sinceReset_reset]; omega⟩
    | false => exact (counted_failed now hactive hI').1

/-! ## Before the account exists -/

theorem lockState_eq_none : w.lockState u = none ↔ w.account u = none := Option.map_eq_none_iff

/-- Only a registration adds an account, and it leaves the new one ACTIVE with nothing counted. -/
theorem lockState_serve_new (env : Env) (r : Request) (h : w.lockState u = none) :
    (serve env r w).2.lockState u = none ∨
      (serve env r w).2.lockState u = some ⟨.active, 0, none⟩ := by
  by_cases hr : ∃ email password ip ua, r = .register email password ip ua
  · obtain ⟨email, password, ip, ua, rfl⟩ := hr
    refine serve_invariant (I := fun w : World =>
      w.lockState u = none ∨ w.lockState u = some ⟨.active, 0, none⟩) (fun s w hs hw => ?_) (.inl h)
    rcases hw with hw | hw
    · rcases World.account_none_exec env s (lockState_eq_none.mp hw) with
        hnone | ⟨_, _, _, -, -, hsome⟩
      · exact .inl (lockState_eq_none.mpr hnone)
      · exact .inr (by rw [World.lockState, hsome]; rfl)
    · refine .inr (lockState_exec ?_ hw)
      cases s <;> first | rfl | (obtain ⟨a, ha⟩ := hs; cases ha)
  · refine .inl (serve_invariant (I := fun w : World => w.lockState u = none) (fun s w hs hw => ?_) h)
    rcases World.account_none_exec env s (lockState_eq_none.mp hw) with
      hnone | ⟨email, passwordHash, roles, rfl, -, -⟩
    · exact lockState_eq_none.mpr hnone
    · cases r
      case register => exact absurd ⟨_, _, _, _, rfl⟩ hr
      case login =>
        obtain ⟨a, ha⟩ := hs
        cases ha
      case refreshToken => rcases hs with hs | ⟨t, hs⟩ <;> cases hs
      all_goals cases hs

/-! ## Runs -/

/-- The invariant along a run: no account yet and nothing counted, or a row that counts. -/
def Tracked (env : Env) (u : Nat) (w : World) (h : List LockoutEvent) : Prop :=
  w.lockState u = none ∧ sinceReset h = 0 ∨ ∃ l, w.lockState u = some l ∧ Counted env l h

/-- Without an account there is nothing to count. -/
theorem tracked_act_none (a : Action) (hn : w.lockState u = none) {h : List LockoutEvent}
    (hc : sinceReset h = 0) (hm : 1 ≤ env.maxLoginAttempts) :
    Tracked env u (act env w a) (h ++ events env u w a) := by
  have hzero : sinceReset (h ++ events env u w a) = 0 := by
    unfold events
    split
    · split
      · simpa using hc
      · rename_i c hbe
        rw [if_neg, List.append_nil, hc]
        rintro rfl
        rw [byEmail_lockState hbe] at hn
        cases hn
    · split
      · exact sinceReset_reset h
      · simpa using hc
    · rw [hn]
      simpa using hc
    · simpa using hc
  cases a with
  | pass n => exact .inl ⟨hn, hzero⟩
  | request r =>
    rcases lockState_serve_new env r hn with hnone | hsome
    · exact .inl ⟨hnone, hzero⟩
    · refine .inr ⟨_, hsome, fun _ => ⟨rfl, hzero.symm, ?_⟩⟩
      omega

/-- An action on an existing account keeps the invariant: a login counts or resets, an unlock resets,
a lock or a ban leaves ACTIVE. -/
theorem counted_after (a : Action) (hl : w.lockState u = some l) {h : List LockoutEvent}
    (hI : Counted env l h) (hm : 1 ≤ env.maxLoginAttempts) :
    Counted env (l.after env u w a) (h ++ events env u w a) := by
  have hkeep : l.after env u w a = l → events env u w a = [] →
      Counted env (l.after env u w a) (h ++ events env u w a) := by
    intro hafter he
    rw [hafter, he, List.append_nil]
    exact hI
  cases a with
  | pass n => exact hkeep rfl rfl
  | request r =>
    cases r with
    | login email password ip ua =>
      cases hbe : w.byEmail env email with
      | none => exact hkeep (by simp [LockState.after, hbe]) (by simp [events, hbe])
      | some c =>
        by_cases hid : c.id = u
        · subst hid
          obtain rfl : c.lockState = l := lockState_of_byEmail hbe hl
          simp only [LockState.after, events, hbe, if_true]
          exact counted_afterLogin hm hI
        · exact hkeep (by simp [LockState.after, hbe, hid]) (by simp [events, hbe, hid])
    | lockAccount id reason duration admin =>
      by_cases hid : id = u
      · intro hs
        simp [LockState.after, hid] at hs
      · exact hkeep (if_neg hid) rfl
    | unlockAccount id admin =>
      by_cases hid : id = u
      · simp only [LockState.after, events, hid, if_true]
        exact counted_unlocked hm h
      · exact hkeep (if_neg hid) (if_neg hid)
    | banUser id reason admin =>
      by_cases hid : id = u
      · intro hs
        simp [LockState.after, hid] at hs
      · exact hkeep (if_neg hid) rfl
    | unlockExpiredLockouts =>
      simp only [LockState.after, events, hl, Option.any_some]
      cases hro : l.ranOut w.now with
      | true => exact counted_unlocked hm h
      | false => simpa using hI
    | _ => exact hkeep rfl rfl

theorem tracked_act (a : Action) (hm : 1 ≤ env.maxLoginAttempts) (hdel : a.deletes u = false)
    {h : List LockoutEvent} (hw : Tracked env u w h) :
    Tracked env u (act env w a) (h ++ events env u w a) := by
  rcases hw with ⟨hn, hc⟩ | ⟨l, hl, hI⟩
  · exact tracked_act_none a hn hc hm
  · exact .inr ⟨_, lockState_act env a hl hdel, counted_after a hl hI hm⟩

/-- Every account counts some history. -/
def Counting (env : Env) (w : World) : Prop :=
  ∀ u l, w.lockState u = some l → ∃ h, Counted env l h

theorem lockState_serve_deleted (env : Env) (w : World) (u : Nat) :
    (serve env (.deleteCredentials u) w).2.lockState u = none :=
  lockState_eq_none.mpr (World.account_deleted env w u)

theorem counting_act (a : Action) (hm : 1 ≤ env.maxLoginAttempts) (hw : Counting env w) :
    Counting env (act env w a) := by
  intro u l hl
  cases hold : w.lockState u with
  | some l₀ =>
    obtain ⟨h, hI⟩ := hw u l₀ hold
    cases hdel : a.deletes u with
    | false =>
      obtain rfl : l₀.after env u w a = l :=
        Option.some.inj ((lockState_act env a hold hdel).symm.trans hl)
      exact ⟨_, counted_after a hold hI hm⟩
    | true =>
      have hgone : (act env w a).lockState u = none := by
        cases a with
        | pass n => cases hdel
        | request r =>
          cases r
          case deleteCredentials id =>
            obtain rfl : id = u := of_decide_eq_true hdel
            exact lockState_serve_deleted env w id
          all_goals cases hdel
      rw [hgone] at hl
      cases hl
  | none =>
    rcases tracked_act_none (h := []) a hold rfl hm with ⟨hnone, -⟩ | ⟨l', hl', hI⟩
    · rw [hnone] at hl
      cases hl
    · obtain rfl : l' = l := Option.some.inj (hl'.symm.trans hl)
      exact ⟨_, hI⟩

/-- No counter of an ACTIVE row has reached the maximum, so it can be incremented. -/
theorem Counting.room (hw : Counting env w) (hcolumn : env.maxLoginAttempts ≤ maxInteger) (u : Nat)
    (l : LockState) (hl : w.lockState u = some l) (hs : l.status = .active) :
    l.failedLoginAttempts < maxInteger := by
  obtain ⟨h, hI⟩ := hw u l hl
  obtain ⟨-, hcount, hlt⟩ := hI hs
  omega

theorem events_fitted (a : Action) : events env u w (a.fitted env w.now) = events env u w a := by
  unfold Action.fitted
  split
  · split
    · rfl
    · rfl
  · rfl

theorem deletes_fitted (a : Action) {now : Int} (h : a.deletes u = false) :
    (a.fitted env now).deletes u = false := by
  unfold Action.fitted
  split
  · split
    · rfl
    · rfl
  · exact h

/-- A run in which every lock placed by a login ends at a valid `Date`. -/
theorem tracked_runsRanged (hm : 1 ≤ env.maxLoginAttempts) (hcolumn : env.maxLoginAttempts ≤ maxInteger)
    {as : List Action} (hdel : ∀ a ∈ as, a.deletes u = false)
    (hdate : ∀ t, w.now ≤ t → t ≤ (runsRanged env w as).now →
      env.zone.setMinutesPlus t env.lockoutDurationMinutes ≤ maxDate)
    {h : List LockoutEvent} (hw : Tracked env u w h) (hcounting : Counting env w) :
    Tracked env u (runsRanged env w as) (h ++ history env u w as) ∧
      Counting env (runsRanged env w as) := by
  induction as generalizing w h with
  | nil => exact ⟨by simpa [history, runsRanged] using hw, hcounting⟩
  | cons a as ih =>
    obtain ⟨ha, hdel⟩ := List.forall_mem_cons.mp hdel
    have hlater : w.now ≤ (actRanged env w a).now := actRanged_now a
    have hend : (actRanged env w a).now ≤ (runsRanged env w (a :: as)).now := runsRanged_now as
    have hact : actRanged env w a = act env w (a.fitted env w.now) :=
      actRanged_eq a (hcounting.room hcolumn) (hdate w.now (Int.le_refl _) (Int.le_trans hlater hend))
    have hstep : Tracked env u (actRanged env w a) (h ++ events env u w a) := by
      rw [hact, ← events_fitted a]
      exact tracked_act _ hm (deletes_fitted a ha) hw
    have hcounting' : Counting env (actRanged env w a) := by
      rw [hact]
      exact counting_act _ hm hcounting
    have hrest := ih hdel (fun t ht => hdate t (Int.le_trans hlater ht)) hstep hcounting'
    rwa [List.append_assoc] at hrest

/-! ## The machine against the specification -/

/-- A login on account `u` with a password that does not match. -/
def WrongPassword (env : Env) (u : Nat) (w : World) (email password : String) : Prop :=
  ∃ c, w.byEmail env email = some c ∧ c.id = u ∧ env.verifyPassword c.passwordHash password = false

/-- The account's status after one login. -/
def World.statusAfterLogin (env : Env) (w : World) (u : Nat) (email password : String)
    (ipAddress userAgent : Option String) : Option UserStatus :=
  ((serveRanged env (.login email password ipAddress userAgent) w).2.lockState u).map (·.status)

/-- Account `u` with lock state `l` in the state `w` reached with history `h`. -/
structure LockoutExact (env : Env) (u : Nat) (w : World) (l : LockState) (h : List LockoutEvent) :
    Prop where
  /-- A login locks an ACTIVE account iff it is the wrong password that reaches the maximum. -/
  locks_iff : l.status = .active → ∀ email password ipAddress userAgent,
    w.statusAfterLogin env u email password ipAddress userAgent = some .locked ↔
      WrongPassword env u w email password ∧ sinceReset h + 1 = env.maxLoginAttempts
  /-- A login that finds an expired lock resets first, and counts its own password after that. -/
  relocks_iff : l.expired w.now = true → ∀ email password ipAddress userAgent c,
    w.byEmail env email = some c → c.id = u →
      (w.statusAfterLogin env u email password ipAddress userAgent = some .locked ↔
        WrongPassword env u w email password ∧
          sinceReset (h ++ [.reset]) + 1 = env.maxLoginAttempts)
  /-- A lock in force refuses every login and nothing is written. -/
  refuses : l.status = .locked → (l.lockedUntil = none ∨ ∃ t, l.lockedUntil = some t ∧ w.now < t) →
    ∀ email password ipAddress userAgent c, w.byEmail env email = some c → c.id = u →
      (serveRanged env (.login email password ipAddress userAgent) w).1 =
        .error (.forbidden ErrorMessages.AUTH_ACCOUNT_LOCKED) ∧
      (serveRanged env (.login email password ipAddress userAgent) w).2.credentials = w.credentials
  active : l.status = .active →
    l.lockedUntil = none ∧ l.failedLoginAttempts < env.maxLoginAttempts

/-- No login from here leaves the range of a column. -/
def World.LoginsInRange (env : Env) (w : World) : Prop :=
  ∀ email password ipAddress userAgent,
    serveRanged env (.login email password ipAddress userAgent) w =
      serve env (.login email password ipAddress userAgent) w

section Exact

variable {email password : String} {ipAddress userAgent : Option String} {h : List LockoutEvent}

theorem statusAfterLogin_of_byEmail (hranged : w.LoginsInRange env) {c : UserCredential}
    (hc : w.byEmail env email = some c) :
    w.statusAfterLogin env c.id email password ipAddress userAgent =
      some (c.lockState.afterLogin env w.now (env.verifyPassword c.passwordHash password)).status := by
  rw [World.statusAfterLogin, hranged, lockState_login hc]
  rfl

theorem wrongPassword_iff {c : UserCredential} (hc : w.byEmail env email = some c) :
    WrongPassword env c.id w email password ↔
      env.verifyPassword c.passwordHash password = false := by
  constructor
  · rintro ⟨c', hc', -, hv⟩
    obtain rfl : c = c' := Option.some.inj (hc.symm.trans hc')
    exact hv
  · intro hv
    exact ⟨c, hc, rfl, hv⟩

/-- An admitted login on a row that counts, once any expired lock has been lifted to `l'`. -/
theorem afterLogin_locked_iff {now : Int} {valid : Bool} {l' : LockState}
    (hr : l.refusal now = none) (hl' : (if l.expired now then ⟨.active, 0, none⟩ else l) = l')
    (hs : l'.status = .active) (hI : Counted env l' h) :
    (l.afterLogin env now valid).status = .locked ↔
      valid = false ∧ sinceReset h + 1 = env.maxLoginAttempts := by
  unfold LockState.afterLogin
  simp only [hr, hl']
  cases valid with
  | true => simp [hs]
  | false => simpa using (counted_failed now hs hI).2

theorem locks_iff_of_counted (hranged : w.LoginsInRange env) (hl : w.lockState u = some l) (hI : Counted env l h)
    (hs : l.status = .active) :
    w.statusAfterLogin env u email password ipAddress userAgent = some .locked ↔
      WrongPassword env u w email password ∧ sinceReset h + 1 = env.maxLoginAttempts := by
  by_cases hbe : ∃ c, w.byEmail env email = some c ∧ c.id = u
  · obtain ⟨c, hc, rfl⟩ := hbe
    obtain rfl : c.lockState = l := lockState_of_byEmail hc hl
    have hr : c.lockState.refusal w.now = none := by simp [LockState.refusal, hs]
    have he : c.lockState.expired w.now = false := by simp [LockState.expired, hs]
    rw [statusAfterLogin_of_byEmail hranged hc, wrongPassword_iff hc, Option.some.injEq]
    exact afterLogin_locked_iff hr (by rw [he]; rfl) hs hI
  · have hsame : w.statusAfterLogin env u email password ipAddress userAgent = some l.status := by
      rw [World.statusAfterLogin, hranged, lockState_login_other (fun c hc hid => hbe ⟨c, hc, hid⟩) hl]
      rfl
    constructor
    · intro hlocked
      rw [hsame, hs] at hlocked
      cases hlocked
    · rintro ⟨⟨c, hc, hid, -⟩, -⟩
      exact absurd ⟨c, hc, hid⟩ hbe

theorem relocks_iff_of_expired (hranged : w.LoginsInRange env) (hm : 1 ≤ env.maxLoginAttempts) {c : UserCredential}
    (hc : w.byEmail env email = some c) (he : c.lockState.expired w.now = true) :
    w.statusAfterLogin env c.id email password ipAddress userAgent = some .locked ↔
      WrongPassword env c.id w email password ∧
        sinceReset (h ++ [.reset]) + 1 = env.maxLoginAttempts := by
  have hr : c.lockState.refusal w.now = none := by
    obtain ⟨hs, ht⟩ := Bool.and_eq_true_iff.mp he
    simp only [LockState.refusal, of_decide_eq_true hs, ht, if_true]
  rw [statusAfterLogin_of_byEmail hranged hc, wrongPassword_iff hc, Option.some.injEq]
  exact afterLogin_locked_iff hr (by rw [he]; rfl) rfl (counted_unlocked hm h)

theorem login_locked (password : String) (ipAddress userAgent : Option String)
    {c : UserCredential} (hc : w.byEmail env email = some c)
    (hs : c.status = .locked)
    (hlu : c.lockedUntil = none ∨ ∃ t, c.lockedUntil = some t ∧ w.now < t) :
    ∃ logs, serve env (.login email password ipAddress userAgent) w =
      (.error (.forbidden ErrorMessages.AUTH_ACCOUNT_LOCKED), { w with auditLogs := logs }) := by
  have hr : c.lockState.refusal w.now =
      some (.forbidden ErrorMessages.AUTH_ACCOUNT_LOCKED) := by
    unfold LockState.refusal UserCredential.lockState
    rcases hlu with hnone | ⟨t, hsome, hlt⟩
    · simp [hs, hnone]
    · have : ¬ t ≤ w.now := by omega
      simp [hs, hsome, this]
  obtain ⟨logs, hrun⟩ := run_login_refused password ipAddress userAgent hc hr
  exact ⟨logs, run_bind_error _ hrun⟩

end Exact

theorem lockoutExact_of_counted (hranged : w.LoginsInRange env) (hm : 1 ≤ env.maxLoginAttempts) {h : List LockoutEvent}
    (hl : w.lockState u = some l) (hI : Counted env l h) : LockoutExact env u w l h where
  locks_iff hs _ _ _ _ := locks_iff_of_counted hranged hl hI hs
  relocks_iff he email password ip ua c hc hid := by
    subst hid
    obtain rfl : c.lockState = l := lockState_of_byEmail hc hl
    exact relocks_iff_of_expired hranged hm hc he
  refuses hs hlu email password ip ua c hc hid := by
    subst hid
    obtain rfl : c.lockState = l := lockState_of_byEmail hc hl
    obtain ⟨logs, hserve⟩ := login_locked password ip ua hc hs hlu
    rw [hranged, hserve]
    exact ⟨rfl, rfl⟩
  active hs := by
    obtain ⟨hnone, hcount, hlt⟩ := hI hs
    exact ⟨hnone, by omega⟩

/-- Any maximum that the counter's column holds, any run that does not delete the account and in which
a lock placed at any instant ends at a valid `Date`: the lockout machine is the counting specification. -/
theorem lockout_exact (env : Env) (hm : 1 ≤ env.maxLoginAttempts)
    (hcolumn : env.maxLoginAttempts ≤ maxInteger) (roles : Table Role) (supply : Nat) (now : Int)
    (as : List Action) (u : Nat) (hdel : ∀ a ∈ as, a.deletes u = false)
    (hdate : ∀ t, now ≤ t → t ≤ (runsRanged env (World.initial roles supply now) as).now →
      env.zone.setMinutesPlus t env.lockoutDurationMinutes ≤ maxDate)
    (l : LockState) (hl : (runsRanged env (World.initial roles supply now) as).lockState u = some l) :
    LockoutExact env u (runsRanged env (World.initial roles supply now) as) l
      (history env u (World.initial roles supply now) as) := by
  have hstart : Tracked env u (World.initial roles supply now) [] := .inl ⟨rfl, rfl⟩
  have hempty : Counting env (World.initial roles supply now) := fun u l hl => by cases hl
  obtain ⟨htracked, hcounting⟩ := tracked_runsRanged hm hcolumn hdel hdate hstart hempty
  have hlast : now ≤ (runsRanged env (World.initial roles supply now) as).now := runsRanged_now as
  have hranged : (runsRanged env (World.initial roles supply now) as).LoginsInRange env :=
    fun email password ip ua => serveRanged_login email password ip ua (hcounting.room hcolumn)
      (hdate _ hlast (Int.le_refl _))
  rcases htracked with ⟨hnone, -⟩ | ⟨l', hl', hI⟩
  · rw [hnone] at hl
    cases hl
  · obtain rfl : l' = l := Option.some.inj (hl'.symm.trans hl)
    exact lockoutExact_of_counted hranged hm hl hI

/-- A registration and four wrong passwords. -/
def fourWrong : List Action :=
  .request (.register "a@x" "p" none none) :: .replicate 4 (.request (.login "a@x" "q" none none))

theorem wrongPassword_of_any {email password : String}
    (h : (w.byEmail env email).any
      (fun c => c.id = u && !env.verifyPassword c.passwordHash password) = true) :
    WrongPassword env u w email password := by
  obtain ⟨c, hc, hv⟩ := (Option.any_eq_true _ _).mp h
  obtain ⟨hid, hv⟩ := Bool.and_eq_true_iff.mp hv
  exact ⟨c, hc, of_decide_eq_true hid, by simpa using hv⟩

/-- The next wrong password is the fifth of five: it locks. -/
theorem lockout_exact_fifth :
    (runsRanged Env.plain (World.initial .empty 0 0) fourWrong).statusAfterLogin Env.plain 1 "a@x" "q"
      none none = some .locked := by
  have hend : (runsRanged Env.plain (World.initial .empty 0 0) fourWrong).now = 0 := by decide +kernel
  have hexact := lockout_exact Env.plain (by decide) (by decide) .empty 0 0 fourWrong 1 (by decide)
    (fun t ht hle => by
      obtain rfl : t = 0 := by omega
      decide)
    ⟨.active, 4, none⟩ (by decide +kernel)
  exact (hexact.locks_iff rfl "a@x" "q" none none).mpr
    ⟨wrongPassword_of_any (by decide +kernel), by decide +kernel⟩

/-- Five attempts, and a lock of 200,000,000,000 minutes. -/
def Env.longLock : Env :=
  { Env.plain with
    config :=
      ⟨fun path => if path = "auth.lockoutDurationMinutes" then some 200000000000 else none,
        fun _ => none⟩ }

/-- A lock that would end beyond the last `Date` is refused, and the fifth wrong password does not lock. -/
theorem lockout_beyond_dates :
    ¬ ∀ (env : Env), 1 ≤ env.maxLoginAttempts → 1 ≤ env.lockoutDurationMinutes →
      ∀ (as : List Action) (u : Nat), (∀ a ∈ as, a.deletes u = false) → ∀ l,
        (runsRanged env (World.initial .empty 0 0) as).lockState u = some l →
          LockoutExact env u (runsRanged env (World.initial .empty 0 0) as) l
            (history env u (World.initial .empty 0 0) as) := by
  intro h
  have hexact := h Env.longLock (by decide) (by decide) fourWrong 1 (by decide) ⟨.active, 4, none⟩
    (by decide +kernel)
  have hlocked := (hexact.locks_iff rfl "a@x" "q" none none).mpr
    ⟨wrongPassword_of_any (by decide +kernel), by decide +kernel⟩
  have hactive : (runsRanged Env.longLock (World.initial .empty 0 0) fourWrong).statusAfterLogin
      Env.longLock 1 "a@x" "q" none none = some .active := by decide +kernel
  rw [hactive] at hlocked
  cases hlocked

/-! ## Bans -/

/-- An action that lifts an expired lock of account `u`: a login on it, or the job. -/
def Action.lifts (env : Env) (u : Nat) (w : World) : Action → Bool
  | .request (.login email _ _ _) =>
    (w.byEmail env email).any fun c => c.id = u && c.lockState.expired w.now
  | .request .unlockExpiredLockouts => (w.lockState u).any (·.ranOut w.now)
  | _ => false

/-- An administrator unlocks account `u`. -/
def Action.unlocks (u : Nat) : Action → Bool
  | .request (.unlockAccount id _) => id = u
  | _ => false

/-- An administrator locks account `u` for some minutes. -/
def Action.locksForATime (u : Nat) : Action → Bool
  | .request (.lockAccount id _ (some (_ + 1)) _) => id = u
  | _ => false

/-- After the action account `u` is not ACTIVE, and the action is no successful login on it. -/
def KeptOut (env : Env) (u : Nat) (w : World) (a : Action) : Prop :=
  ((act env w a).lockState u).map (·.status) ≠ some .active ∧
    ∀ email password ipAddress userAgent response,
      a = .request (.login email password ipAddress userAgent) →
      (serve env (.login email password ipAddress userAgent) w).1 = .ok (.auth response) →
        response.userId ≠ u

theorem LockState.refusal_of_not_active {now : Int} (hs : l.status ≠ .active)
    (he : l.expired now = false) : ∃ e, l.refusal now = some e := by
  cases hr : l.refusal now with
  | some e => exact ⟨e, rfl⟩
  | none => exact absurd (LockState.active_of_refusal hr he) hs

/-- While nothing lifts or unlocks it, an account that is not ACTIVE is at most locked or banned
anew. -/
theorem after_of_not_active (a : Action) (hl : w.lockState u = some l) (hs : l.status ≠ .active)
    (hlift : a.lifts env u w = false) (hunlock : a.unlocks u = false) :
    l.after env u w a = l ∨
    (∃ reason duration adminUserId,
      a = .request (.lockAccount u reason duration adminUserId) ∧
      l.after env u w a = ⟨.locked, l.failedLoginAttempts, lockUntil env duration w.now⟩) ∨
    l.after env u w a = { l with status := .banned } := by
  cases a with
  | pass n => exact .inl rfl
  | request r =>
    cases r with
    | login email password ip ua =>
      refine .inl ?_
      cases hbe : w.byEmail env email with
      | none => simp [LockState.after, hbe]
      | some c =>
        by_cases hid : c.id = u
        · subst hid
          obtain rfl : c.lockState = l := lockState_of_byEmail hbe hl
          have he : c.lockState.expired w.now = false := by
            simpa [Action.lifts, hbe] using hlift
          obtain ⟨e, hr⟩ := LockState.refusal_of_not_active hs he
          simp [LockState.after, hbe, LockState.afterLogin, hr]
        · simp [LockState.after, hbe, hid]
    | lockAccount id reason duration admin =>
      by_cases hid : id = u
      · subst hid
        exact .inr (.inl ⟨_, _, _, rfl, if_pos rfl⟩)
      · exact .inl (if_neg hid)
    | unlockAccount id admin => exact .inl (if_neg (of_decide_eq_false hunlock))
    | banUser id reason admin =>
      by_cases hid : id = u
      · exact .inr (.inr (if_pos hid))
      · exact .inl (if_neg hid)
    | unlockExpiredLockouts =>
      have hro : l.ranOut w.now = false := by simpa [Action.lifts, hl] using hlift
      exact .inl (by simp [LockState.after, hro])
    | _ => exact .inl rfl

/-- Out of ACTIVE, only the lifting of an expired lock and an administrator's unlock lead back. -/
theorem not_active_after (a : Action) (hl : w.lockState u = some l) (hs : l.status ≠ .active)
    (hlift : a.lifts env u w = false) (hunlock : a.unlocks u = false) :
    (l.after env u w a).status ≠ .active := by
  rcases after_of_not_active a hl hs hlift hunlock with h | ⟨reason, duration, admin, -, h⟩ | h
  · rwa [h]
  · simp [h]
  · simp [h]

/-- A login that succeeds does so on a row it finds ACTIVE or with an expired lock. -/
theorem login_of_not_active {email password : String} {ipAddress userAgent : Option String}
    {response : AuthResponse} (hl : w.lockState u = some l) (hs : l.status ≠ .active)
    (hlift : (Action.request (.login email password ipAddress userAgent)).lifts env u w = false)
    (hok : (serve env (.login email password ipAddress userAgent) w).1 = .ok (.auth response)) :
    response.userId ≠ u := by
  have hrun : ∀ {e : Exn} {w' : World},
      (AuthService.login env email password ipAddress userAgent).run (World.machine env) w =
        (.error e, w') → False := by
    intro e w' h
    rw [show serve env (.login email password ipAddress userAgent) w = (.error e, w') from
      run_bind_error _ h] at hok
    cases hok
  cases hbe : w.byEmail env email with
  | none =>
    obtain ⟨logs, h⟩ := run_login_unknown password ipAddress userAgent hbe
    exact (hrun h).elim
  | some c =>
    cases hr : c.lockState.refusal w.now with
    | some e =>
      obtain ⟨logs, h⟩ := run_login_refused password ipAddress userAgent hbe hr
      exact (hrun h).elim
    | none =>
      rintro hid
      have hc : c.id = u := by
        rw [← hid]
        exact (login_userId hbe hr hok).symm
      subst hc
      obtain rfl : c.lockState = l := lockState_of_byEmail hbe hl
      have he : c.lockState.expired w.now = false := by simpa [Action.lifts, hbe] using hlift
      exact hs (LockState.active_of_refusal hr he)

theorem along_keptOut {as : List Action} (hdel : ∀ a ∈ as, a.deletes u = false)
    (hunlock : ∀ a ∈ as, a.unlocks u = false)
    (hlift : Along env (fun w a => a.lifts env u w = false) w as) (hl : w.lockState u = some l)
    (hs : l.status ≠ .active) : Along env (KeptOut env u) w as := by
  induction as generalizing w l with
  | nil => trivial
  | cons a as ih =>
    obtain ⟨hhere, hrest⟩ := hlift
    obtain ⟨hdel_a, hdel⟩ := List.forall_mem_cons.mp hdel
    obtain ⟨hunlock_a, hunlock⟩ := List.forall_mem_cons.mp hunlock
    have hl' := lockState_act env a hl hdel_a
    have hs' := not_active_after a hl hs hhere hunlock_a
    refine ⟨⟨?_, ?_⟩, ih hdel hunlock hrest hl' hs'⟩
    · rw [hl']
      exact fun hactive => hs' (Option.some.inj hactive)
    · rintro email password ip ua response rfl hok
      exact login_of_not_active hl hs hhere hok

/-- Every run from the ban on, as long as no login on the account and no run of the job meets it
with an expired lock. -/
theorem ban_permanent (env : Env) (w : World) (u : Nat) (reason : String)
    (adminUserId : Option String)
    (hban : (serve env (.banUser u reason adminUserId) w).1 = .ok .done) (as : List Action)
    (hdel : ∀ a ∈ as, a.deletes u = false) (hunlock : ∀ a ∈ as, a.unlocks u = false)
    (hlift : Along env (fun w a => a.lifts env u w = false)
      (serve env (.banUser u reason adminUserId) w).2 as) :
    Along env (KeptOut env u) (serve env (.banUser u reason adminUserId) w).2 as := by
  obtain ⟨l, hl⟩ := banUser_found hban
  refine along_keptOut hdel hunlock hlift (lockState_banUser hl) ?_
  intro hs
  cases hs

/-- The banned account tries to log in, an indefinite lock is placed on it, the job runs. -/
theorem ban_permanent_indefinite :
    Along Env.plain (KeptOut Env.plain 1) (serve Env.plain (.banUser 1 "fraud" none) registered).2
      [.request (.login "a@x" "p" none none), .request (.lockAccount 1 "fraud" none none),
        .pass 60001, .request .unlockExpiredLockouts, .request (.login "a@x" "p" none none)] :=
  ban_permanent Env.plain registered 1 "fraud" none (by decide +kernel) _ (by decide) (by decide)
    ⟨by decide +kernel, by decide +kernel, by decide +kernel, by decide +kernel, by decide +kernel,
      trivial⟩

/-- A one-minute lock on the banned account: a minute later the login succeeds and the account is
ACTIVE. -/
theorem timed_lock_lifts_ban :
    (serve Env.plain (.banUser 1 "fraud" none) registered).1 = .ok .done ∧
    ¬ Along Env.plain (KeptOut Env.plain 1)
      (serve Env.plain (.banUser 1 "fraud" none) registered).2
      [.request (.lockAccount 1 "spam" (some 1) none), .pass 60000,
        .request (.login "a@x" "p" none none)] := by
  refine ⟨by decide +kernel, ?_⟩
  rintro ⟨-, -, ⟨hstatus, -⟩, -⟩
  exact hstatus (by decide +kernel)

/-! ## Where an expired lock on a banned account comes from -/

/-- Banned, or locked without an end. -/
def LockState.Barred (l : LockState) : Prop :=
  l.status = .banned ∨ l.status = .locked ∧ l.lockedUntil = none

theorem not_lifts_of_barred (a : Action) (hl : w.lockState u = some l) (hb : l.Barred) :
    a.lifts env u w = false := by
  have hro : l.ranOut w.now = false := by
    rcases hb with hs | ⟨-, hnone⟩
    · simp [LockState.ranOut, hs]
    · simp [LockState.ranOut, hnone]
  have he : l.expired w.now = false := by
    rcases hb with hs | ⟨-, hnone⟩
    · simp [LockState.expired, hs]
    · simp [LockState.expired, hnone]
  fun_cases Action.lifts env u w a
  case case1 email password ip ua =>
    cases hbe : w.byEmail env email with
    | none => rfl
    | some c =>
      rw [Option.any_some, Bool.and_eq_false_iff]
      by_cases hid : c.id = u
      · subst hid
        obtain rfl : c.lockState = l := lockState_of_byEmail hbe hl
        exact .inr he
      · exact .inl (decide_eq_false hid)
  case case2 => rw [hl, Option.any_some, hro]
  case case3 => rfl

theorem barred_after (a : Action) (hl : w.lockState u = some l) (hb : l.Barred)
    (hunlock : a.unlocks u = false) (htimed : a.locksForATime u = false) :
    (l.after env u w a).Barred := by
  have hs : l.status ≠ .active := by
    rcases hb with hs | ⟨hs, -⟩
    · simp [hs]
    · simp [hs]
  rcases after_of_not_active a hl hs (not_lifts_of_barred a hl hb) hunlock with
    h | ⟨reason, duration, admin, rfl, h⟩ | h
  · rwa [h]
  · rw [h]
    refine .inr ⟨rfl, ?_⟩
    cases duration with
    | none => rfl
    | some minutes =>
      cases minutes with
      | zero => rfl
      | succ n => simp [Action.locksForATime] at htimed
  · rw [h]
    exact .inl rfl

/-- Without a timed lock on it a banned account never has an expired one. -/
theorem not_lifts_of_untimed {as : List Action} (hdel : ∀ a ∈ as, a.deletes u = false)
    (hunlock : ∀ a ∈ as, a.unlocks u = false) (htimed : ∀ a ∈ as, a.locksForATime u = false)
    (hl : w.lockState u = some l) (hb : l.Barred) :
    Along env (fun w a => a.lifts env u w = false) w as := by
  induction as generalizing w l with
  | nil => trivial
  | cons a as ih =>
    obtain ⟨hdel_a, hdel⟩ := List.forall_mem_cons.mp hdel
    obtain ⟨hunlock_a, hunlock⟩ := List.forall_mem_cons.mp hunlock
    obtain ⟨htimed_a, htimed⟩ := List.forall_mem_cons.mp htimed
    have hb' : (l.after env u w a).Barred := barred_after a hl hb hunlock_a htimed_a
    exact ⟨not_lifts_of_barred a hl hb,
      ih hdel hunlock htimed (lockState_act env a hl hdel_a) hb'⟩

end Auth
