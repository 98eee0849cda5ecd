import AuthService.AccessTokens

/-!
# AuthService.Blacklist

The blacklist keys that logouts write, among any number of concurrent requests.

* `Request.presented`  — the access token of a logout request.
* `clock`              — a monitor of the last instant a request has read: a key is only ever written
  with the time that was left to the presented token at that instant.
* `CoveredToEnd`       — a token is past its expiry, or its key outlives it.
* `revocation_covers`  — once a logout has revoked a token the token is covered, whatever else is
  served, as long as no logout names its `jti` with an earlier expiry.
* `blacklisted_genuine` — the keys of a run whose logouts present genuine tokens only.
-/

namespace Auth

open Relational Resumption Prog

variable {env : Env} {w : World} {p : JwtPayload}

/-! ## The clock that a logout has read -/

/-- The access token of a logout; no other request writes the blacklist. -/
def Request.presented : Request → Jwt
  | .logout accessToken _ _ _ => accessToken
  | _ => .malformed

/-- The last reply to `new Date()`. A blacklist key is written for the presented token, with the time
that it had left then. -/
def clock (token : Jwt) : Monitor sig (Option Int) where
  next last s r :=
    match s, r with
    | .newDate, .ok t => some t
    | _, _ => last
  allowed last s :=
    match s with
    | .setBlacklist jti ttl =>
      ∃ t, last = some t ∧ extractJti token = some jti ∧ ttl = remainingTtl token t ∧ 0 < ttl
    | _ => True

theorem clock_allowed {token : Jwt} {last : Option Int} {s : Stmt}
    (hs : ∀ jti ttl, s ≠ .setBlacklist jti ttl) : (clock token).allowed last s := by
  cases s
  case setBlacklist => exact absurd rfl (hs _ _)
  all_goals trivial

theorem conforms_revokeAccessToken {α : Type} (token : Jwt) {f : Unit → AuthProg α}
    (hf : (f ()).Uses fun s : Stmt => ∀ jti ttl, s ≠ .setBlacklist jti ttl) :
    (clock token).Conforms (fun _ _ => True) none
      ((TokenService.revokeAccessToken token).bind f) := by
  have hrest : ∀ last, (clock token).Conforms (fun _ _ => True) last (f ()) :=
    Monitor.conforms_of_always_allowed hf (fun _ _ hs => clock_allowed hs) fun _ _ => trivial
  unfold TokenService.revokeAccessToken
  cases hjti : extractJti token with
  | none => exact hrest none
  | some jti =>
    simp only [bind_eq, bind_assoc]
    refine Monitor.conforms_perform_bind trivial (fun now => ?_) fun _ => trivial
    by_cases httl : remainingTtl token now > 0
    · unfold BlacklistService.blacklistToken
      rw [if_pos httl, if_neg (by omega)]
      exact Monitor.conforms_perform_bind ⟨now, rfl, hjti, rfl, httl⟩ (fun _ => hrest _) fun _ => trivial
    · rw [if_neg httl]
      exact hrest _

/-- What a logout issues after the revocation of its access token. -/
theorem uses_afterRevocation (accessToken : Jwt) (refreshToken : Nat) (jti : Option Nat)
    (entry : Option Nat → AuditLog) :
    ((AuthService.logoutSession accessToken refreshToken).bind fun userId =>
      (AuthService.publishLogout userId jti).bind fun _ =>
        AuditLogRepository.create (entry userId)).Uses
      fun s : Stmt => ∀ jti ttl, s ≠ .setBlacklist jti ttl := by
  have hq : ∀ s : Stmt, s.tacit = true → ∀ jti ttl, s ≠ .setBlacklist jti ttl := by
    rintro s hs jti ttl rfl
    cases hs
  refine uses_bind (uses_logoutSession (hq _ rfl) (hq _ rfl) (by simp)) fun userId => ?_
  exact uses_bind (uses_publishLogout (hq _ rfl) (by simp)) fun _ => (uses_perform _).mpr (by simp)

theorem conforms_clock (env : Env) (r : Request) :
    (clock r.presented).Conforms (fun _ _ => True) none (handle env r) := by
  cases r
  case logout token raw ip ua =>
    unfold handle AuthService.logout
    simp only [bind_eq]
    rw [bind_assoc]
    exact conforms_revokeAccessToken token
      (uses_bind (uses_afterRevocation token raw _ _) fun _ => trivial)
  all_goals
    refine Monitor.conforms_of_always_allowed (uses_handle _) (fun last s hs => ?_)
      (fun _ _ => trivial) none
    refine clock_allowed ?_
    rintro jti ttl rfl
    exact not_setBlacklist (by simp) hs

/-! ## Covered tokens -/

/-- The token is past its expiry, or has a blacklist key that outlives it. -/
def CoveredToEnd (p : JwtPayload) (w : World) : Prop :=
  p.exp ≤ World.seconds w.now ∨ ∃ e ∈ w.blacklist, e.jti = p.jti ∧ 1000 * p.exp ≤ e.evictedAt

theorem seconds_mono {t t' : Int} (h : t ≤ t') : World.seconds t ≤ World.seconds t' :=
  Int.ediv_le_ediv (by decide) h

theorem seconds_bounds (t : Int) : 1000 * World.seconds t ≤ t ∧ t < 1000 * World.seconds t + 1000 := by
  unfold World.seconds
  omega

/-- What is left of a token's life, in whole seconds from the second of `t` on. -/
theorem remainingTtl_pos {token : Jwt} {t : Int} (h : 0 < remainingTtl token t) :
    ∃ exp, (decodeToken token).bind (·.exp) = some exp ∧ World.seconds t < exp ∧
      remainingTtl token t = exp - World.seconds t := by
  unfold remainingTtl at h ⊢
  cases hexp : (decodeToken token).bind (·.exp) with
  | none => simp [hexp] at h
  | some exp =>
    simp only [hexp] at h ⊢
    split at h
    · rename_i hpos
      exact ⟨exp, rfl, by omega, by rw [if_pos hpos]⟩
    · omega

/-- A key written at `now` with the time left at `t` lives to the expiry, and less than a second and
the delay longer. -/
theorem evictedAt_bounds (exp t now : Int) :
    1000 * exp + (now - t) ≤ now + (exp - World.seconds t) * 1000 ∧
      now + (exp - World.seconds t) * 1000 < 1000 * exp + 1000 + (now - t) := by
  have := seconds_bounds t
  omega

theorem CoveredToEnd.later (h : CoveredToEnd p w) (n : Nat) :
    CoveredToEnd p { w with now := w.now + n } := by
  refine h.imp_left fun hexp => Int.le_trans hexp (seconds_mono ?_)
  simp only
  omega

/-- Keys of other tokens, and keys that live as long, leave a token covered. -/
theorem CoveredToEnd.exec {s : Stmt} (h : CoveredToEnd p w)
    (hset : ∀ ttl, s = .setBlacklist p.jti ttl → 1000 * p.exp ≤ w.now + ttl * 1000) :
    CoveredToEnd p (World.exec env s w).2 := by
  unfold CoveredToEnd
  rw [World.exec_now]
  refine h.imp_right ?_
  rintro ⟨e, he, hjti, hlong⟩
  cases s
  case setBlacklist jti ttl =>
    by_cases hsame : e.jti = jti
    · have hp : p.jti = jti := hjti.symm.trans hsame
      exact ⟨⟨jti, w.now + ttl * 1000⟩, List.mem_cons_self, hp.symm, hset ttl (by rw [hp])⟩
    · refine ⟨e, List.mem_cons_of_mem _ (List.mem_filter.mpr ⟨he, ?_⟩), hjti, hlong⟩
      simpa using hsame
  all_goals
    rw [exec_blacklist (by simp)]
    exact ⟨e, he, hjti, hlong⟩

/-- `validateAccessToken` does not accept a covered token. -/
theorem CoveredToEnd.rejects (env : Env) (h : CoveredToEnd p w) :
    ∃ reason, (TokenService.validateAccessToken env (.signed p)).run (World.machine env) w =
      (.ok ⟨false, none, some reason⟩, w) := by
  unfold TokenService.validateAccessToken verifyAccessToken
  simp only [bind_eq, pure_eq]
  rw [run_newDate_bind]
  by_cases hexp : World.seconds w.now ≥ p.exp
  · exact ⟨"expired", by simp only [if_pos hexp]; rfl⟩
  rw [if_neg hexp]
  by_cases haud : p.aud ≠ env.audience
  · exact ⟨"invalid_signature", by simp only [if_pos haud]; rfl⟩
  rw [if_neg haud]
  by_cases hiss : p.iss ≠ env.issuer
  · exact ⟨"invalid_signature", by simp only [if_pos hiss]; rfl⟩
  rw [if_neg hiss]
  have hlist : w.isBlacklisted p.jti = true := by
    rcases h with hpast | ⟨e, he, hjti, hlong⟩
    · exact absurd hpast hexp
    · refine List.any_eq_true.mpr ⟨e, he, ?_⟩
      have hsec := seconds_bounds w.now
      simp only [hjti, decide_true, Bool.true_and, decide_eq_true_eq]
      omega
  refine ⟨"blacklisted", ?_⟩
  simp only
  rw [run_isBlacklisted_bind, hlist]
  rfl

/-! ## Any number of requests -/

section Pool

variable {ι : Type} [DecidableEq ι] {req : ι → Request} {w₀ : World}
  {q : Pool sig World ι fun _ => Response}

/-- The last clock reading of thread `i`. -/
abbrev clockOf (req : ι → Request) (q : Pool sig World ι fun _ => Response) (i : ι) : Option Int :=
  q.phase (fun i => clock (req i).presented) (fun _ => none) i

/-- The call of `revokeAccessToken` in thread `d` is over: the key is set, or no time was left. -/
def CallReturned (d : ι) (p : JwtPayload) (q : Pool sig World ι fun _ => Response) : Prop :=
  (∃ ttl, ⟨d, .setBlacklist p.jti ttl, .ok ()⟩ ∈ q.log) ∨
    ∃ t, p.exp ≤ World.seconds t ∧ ⟨d, .newDate, .ok t⟩ ∈ q.log

/-- No step of a logout that names the token's `jti` with an earlier expiry, still to come. -/
def Respects (req : ι → Request) (p : JwtPayload) (q : Pool sig World ι fun _ => Response) :
    Label ι → Prop
  | .tick _ => True
  | .run i =>
    extractJti (req i).presented = some p.jti →
      ∀ exp ∈ (decodeToken (req i).presented).bind (·.exp),
        p.exp ≤ exp ∨ exp ≤ World.seconds q.world.now

instance (req : ι → Request) (p : JwtPayload) (q : Pool sig World ι fun _ => Response) :
    (l : Label ι) → Decidable (Respects req p q l)
  | .tick _ => inferInstanceAs (Decidable True)
  | .run i =>
    inferInstanceAs (Decidable (extractJti (req i).presented = some p.jti →
      ∀ exp ∈ (decodeToken (req i).presented).bind (·.exp),
        p.exp ≤ exp ∨ exp ≤ World.seconds q.world.now))

def Stmt.readsClock : Stmt → Bool
  | .newDate => true
  | _ => false

theorem newDate_of_readsClock {s : Stmt} (h : s.readsClock = true) : s = .newDate := by
  cases s <;> first | rfl | cases h

theorem clock_next (env : Env) (token : Jwt) (last : Option Int) (s : Stmt) (w : World) :
    (clock token).next last s (World.exec env s w).1 = if s.readsClock then some w.now else last := by
  cases s <;> rfl

/-- What holds of the clocks and of the token `p` while requests are served. -/
structure KeysCover (req : ι → Request) (p : JwtPayload) (q : Pool sig World ι fun _ => Response) :
    Prop where
  clock_le : ∀ i t, clockOf req q i = some t → t ≤ q.world.now
  respects : ∀ i t exp, clockOf req q i = some t → extractJti (req i).presented = some p.jti →
    (decodeToken (req i).presented).bind (·.exp) = some exp → p.exp ≤ exp ∨ exp ≤ World.seconds t
  covered : ∀ d, (req d).presented = .signed p → CallReturned d p q → CoveredToEnd p q.world

theorem KeysCover.tick (h : KeysCover req p q) (n : Nat) :
    KeysCover req p (q.step (World.machine env) (.tick n)) where
  clock_le i t ht := by
    have hle := h.clock_le i t ht
    show t ≤ q.world.now + n
    omega
  respects := h.respects
  covered d hd hret := (h.covered d hd hret).later n

/-- A step of thread `i` moves its own clock only, to the present. -/
theorem clockOf_step {i : ι} {s : Stmt} {k : Except Exn s.Reply → AuthProg Response}
    (hq : q.prog i = .call s k) {j : ι} {t : Int}
    (ht : clockOf req (q.step (World.machine env) (.run i)) j = some t) :
    clockOf req q j = some t ∨ j = i ∧ s = .newDate ∧ t = q.world.now := by
  by_cases hj : j = i
  · subst hj
    have hnext : clockOf req (q.step (World.machine env) (.run j)) j =
        (clock (req j).presented).next (clockOf req q j) s (World.exec env s q.world).1 :=
      phase_step_self hq
    rw [hnext, clock_next] at ht
    split at ht
    · rename_i hs
      exact .inr ⟨rfl, newDate_of_readsClock hs, (Option.some.inj ht).symm⟩
    · exact .inl ht
  · rw [clockOf, phase_step_other hj] at ht
    exact .inl ht

/-- A key that a thread writes lives to the expiry that its token names. -/
theorem setBlacklist_covers {i : ι} {jti : Nat} {ttl : Int} (h : KeysCover req p q)
    (ha : (clock (req i).presented).allowed (clockOf req q i) (.setBlacklist jti ttl))
    (hjti : jti = p.jti) : 1000 * p.exp ≤ q.world.now + ttl * 1000 := by
  obtain ⟨t, ht, hjti', rfl, hpos⟩ := ha
  obtain ⟨exp, hexp, hsec, hleft⟩ := remainingTtl_pos hpos
  rcases h.respects i t exp ht (hjti ▸ hjti') hexp with hle | hpast
  · have hbounds := evictedAt_bounds exp t q.world.now
    have hclock := h.clock_le i t ht
    rw [hleft]
    omega
  · omega

/-- The call of `revokeAccessToken` returns with its token covered. -/
theorem covered_of_event {d : ι} {s : Stmt} (h : KeysCover req p q)
    (ha : (clock (req d).presented).allowed (clockOf req q d) s)
    (hret : (∃ ttl, s = .setBlacklist p.jti ttl) ∨ s = .newDate ∧ p.exp ≤ World.seconds q.world.now) :
    CoveredToEnd p (World.exec env s q.world).2 := by
  rcases hret with ⟨ttl, rfl⟩ | ⟨rfl, hexp⟩
  · exact .inr ⟨⟨p.jti, q.world.now + ttl * 1000⟩, List.mem_cons_self, rfl,
      setBlacklist_covers h ha rfl⟩
  · exact .inl hexp

theorem KeysCover.run {i : ι} {s : Stmt} {k : Except Exn s.Reply → AuthProg Response}
    (h : KeysCover req p q) (hq : q.prog i = .call s k) (hC : Respects req p q (.run i))
    (ha : (clock (req i).presented).allowed (clockOf req q i) s) :
    KeysCover req p (q.step (World.machine env) (.run i)) := by
  have hworld : (q.step (World.machine env) (.run i)).world = (World.exec env s q.world).2 :=
    Pool.world_step hq
  constructor
  · intro j t ht
    rw [hworld, World.exec_now]
    rcases clockOf_step hq ht with ht | ⟨-, -, rfl⟩
    · exact h.clock_le j t ht
    · exact Int.le_refl _
  · intro j t exp ht hjti hexp
    rcases clockOf_step hq ht with ht | ⟨rfl, -, rfl⟩
    · exact h.respects j t exp ht hjti hexp
    · exact hC hjti exp hexp
  · intro d hd hret
    rw [hworld]
    have hlog : (q.step (World.machine env) (.run i)).log =
        ⟨i, s, (World.exec env s q.world).1⟩ :: q.log := by
      rw [Pool.step_call hq]
      rfl
    -- the call was over before, or this statement ends it
    by_cases hbefore : CallReturned d p q
    · refine (h.covered d hd hbefore).exec fun ttl hs => ?_
      subst hs
      exact setBlacklist_covers h ha rfl
    · rcases hret with ⟨ttl, hmem⟩ | ⟨t, hexp, hmem⟩
      · rw [hlog] at hmem
        rcases List.mem_cons.mp hmem with heq | hmem
        · cases heq
          exact covered_of_event h ha (.inl ⟨ttl, rfl⟩)
        · exact absurd (.inl ⟨ttl, hmem⟩) hbefore
      · rw [hlog] at hmem
        rcases List.mem_cons.mp hmem with heq | hmem
        · cases heq
          exact covered_of_event h ha (.inr ⟨rfl, hexp⟩)
        · exact absurd (.inr ⟨t, hexp, hmem⟩) hbefore

theorem keysCover_reach (hr : Reach (World.machine env) (Respects req p) (serving env req w₀) q) :
    KeysCover req p q := by
  have hconf : ∀ i, (clock (req i).presented).Conforms (fun _ _ => True)
      (clockOf req (serving env req w₀) i) ((serving env req w₀).prog i) := fun i =>
    conforms_clock env (req i)
  refine hr.invariant_of_conforms hconf ?_ (fun q n h _ => h.tick n)
    fun q i s k h hC hq ha => h.run hq hC ha
  constructor
  · intro i t ht
    cases ht
  · intro i t exp ht
    cases ht
  · intro d _ hret
    rcases hret with ⟨ttl, hmem⟩ | ⟨t, -, hmem⟩
    · cases hmem
    · cases hmem

/-- A reading that the clock shows is in the log. -/
theorem clockOf_mem {C : Pool sig World ι (fun _ => Response) → Label ι → Prop} {i : ι} {t : Int}
    (hr : Reach (World.machine env) C (serving env req w₀) q) (ht : clockOf req q i = some t) :
    ⟨i, .newDate, .ok t⟩ ∈ q.log ∧ t ≤ q.world.now := by
  refine hr.invariant_steps (I := fun q => ∀ i t, clockOf req q i = some t →
    ⟨i, .newDate, .ok t⟩ ∈ q.log ∧ t ≤ q.world.now) ?_ ?_ ?_ i t ht
  · intro i t ht
    cases ht
  · intro q n _ ih _ j t ht
    obtain ⟨hmem, hle⟩ := ih j t ht
    refine ⟨hmem, ?_⟩
    show t ≤ q.world.now + n
    omega
  · intro q i s k _ ih _ hq j t ht
    rw [Pool.step_call hq]
    simp only
    rw [show ((World.machine env).exec s q.world).2.now = q.world.now from World.exec_now env s _]
    rcases clockOf_step hq ht with ht | ⟨rfl, rfl, rfl⟩
    · exact ⟨List.mem_cons_of_mem _ (ih j t ht).1, (ih j t ht).2⟩
    · exact ⟨List.mem_cons_self, Int.le_refl _⟩

/-- The key that a logout writes: computed from its last clock reading, it lives to the expiry of the
token, and beyond it for less than a second and the delay since that reading. -/
theorem setBlacklist_lifetime {C : Pool sig World ι (fun _ => Response) → Label ι → Prop} {d : ι}
    {jti : Nat} {ttl : Int} {k : Except Exn Unit → AuthProg Response}
    (hr : Reach (World.machine env) C (serving env req w₀) q) (hd : (req d).presented = .signed p)
    (hq : q.prog d = .call (.setBlacklist jti ttl) k) :
    ∃ t, ⟨d, .newDate, .ok t⟩ ∈ q.log ∧ t ≤ q.world.now ∧ ttl = p.exp - World.seconds t ∧
      ∃ e ∈ (q.step (World.machine env) (.run d)).world.blacklist, e.jti = p.jti ∧
        1000 * p.exp ≤ e.evictedAt ∧ e.evictedAt < 1000 * p.exp + 1000 + (q.world.now - t) := by
  have hconf : (clock (req d).presented).Conforms (fun _ _ => True) (clockOf req q d) (q.prog d) :=
    conforms_reach (m := fun i => clock (req i).presented) (F := fun _ _ _ => True) hr
      (conforms_clock env (req d))
  rw [hq] at hconf
  obtain ⟨t, ht, hjti, httl, hpos⟩ := hconf.1
  obtain ⟨hmem, hle⟩ := clockOf_mem hr ht
  rw [hd] at hjti httl
  obtain ⟨exp, hexp, -, hleft⟩ := remainingTtl_pos (httl ▸ hpos)
  cases hjti
  cases hexp
  refine ⟨t, hmem, hle, httl.trans hleft, ⟨p.jti, q.world.now + ttl * 1000⟩, ?_, rfl, ?_⟩
  · rw [Pool.world_step hq]
    exact List.mem_cons_self
  · have hbounds := evictedAt_bounds p.exp t q.world.now
    rw [httl, hleft]
    simp only
    omega

/-- Among any requests: as long as no logout names the token's `jti` with an earlier expiry that is still
to come, the token is not accepted at any instant after a logout of it has revoked it. The key that
such a logout writes outlives the token by less than a second and the delay before it was written. -/
theorem revocation_covers (env : Env) (req : ι → Request) (w₀ : World) (p : JwtPayload) (d : ι)
    (hd : (req d).presented = .signed p) :
    (∀ q, Reach (World.machine env) (Respects req p) (serving env req w₀) q → CallReturned d p q →
      ∃ reason, (TokenService.validateAccessToken env (.signed p)).run (World.machine env) q.world =
        (.ok ⟨false, none, some reason⟩, q.world)) ∧
    ∀ q, Reach (World.machine env) (fun _ _ => True) (serving env req w₀) q → ∀ jti ttl k,
      q.prog d = .call (.setBlacklist jti ttl) k →
      ∃ t, ⟨d, .newDate, .ok t⟩ ∈ q.log ∧ t ≤ q.world.now ∧ ttl = p.exp - World.seconds t ∧
        ∃ e ∈ (q.step (World.machine env) (.run d)).world.blacklist, e.jti = p.jti ∧
          1000 * p.exp ≤ e.evictedAt ∧
          e.evictedAt < 1000 * p.exp + 1000 + (q.world.now - t) := by
  constructor
  · intro q hr hret
    exact ((keysCover_reach hr).covered d hd hret).rejects env
  · intro q hr jti ttl k hq
    exact setBlacklist_lifetime hr hd hq

end Pool

/-- The registered user logs out, half a second after the registration. -/
def firstLogout : Unit → Request := fun _ => .logout (.signed firstToken) 3 none none

/-- The clock is read, a second and a half goes by, and the key is set. -/
def logoutSchedule : List (Label Unit) := [.tick 500, .run (), .tick 1500, .run ()]

theorem revocation_covers_logout :
    ∃ reason, (TokenService.validateAccessToken Env.plain (.signed firstToken)).run
        (World.machine Env.plain)
        ((serving Env.plain firstLogout registered).runs (World.machine Env.plain)
          (logoutSchedule ++ [.tick 897999])).world =
      (.ok ⟨false, none, some reason⟩,
        ((serving Env.plain firstLogout registered).runs (World.machine Env.plain)
          (logoutSchedule ++ [.tick 897999])).world) := by
  refine (revocation_covers Env.plain firstLogout registered firstToken () rfl).1 _
    (Reach.of_checked (by decide +kernel)) (.inl ⟨900, ?_⟩)
  exact List.mem_cons_self

/-- A logout with the right token, then one with a forged token of the same `jti` that runs out a second
later: two seconds on, the revoked token is accepted again. -/
theorem revoked_token_comes_back :
    firstToken ∈ registered.signed ∧
    ((TokenService.validateAccessToken Env.plain (.signed firstToken)).run (World.machine Env.plain)
      (runs Env.plain registered [.request (.logout (.signed firstToken) 3 none none)])).1 =
        .ok ⟨false, none, some "blacklisted"⟩ ∧
    ((TokenService.validateAccessToken Env.plain (.signed firstToken)).run (World.machine Env.plain)
      (runs Env.plain registered [.request (.logout (.signed firstToken) 3 none none),
        .request (.logout (.unsigned ⟨none, some 2, some 1⟩) 0 none none), .pass 2000])).1 =
        .ok ⟨true, some firstToken, none⟩ := by
  decide +kernel

/-! ## Whole runs -/

/-- The logout, if it is one, presents a token that the service has signed, or one that sets no key. -/
def Genuine (w : World) : Action → Prop
  | .request r =>
    (∃ p ∈ w.signed, r.presented = .signed p) ∨ extractJti r.presented = none ∨
      remainingTtl r.presented w.now ≤ 0
  | .pass _ => True

/-- The signed tokens and the keys of the blacklist. -/
structure SignedKeys (env : Env) (w : World) : Prop where
  jti_lt : ∀ p ∈ w.signed, p.jti < w.supply
  jti_inj : ∀ p ∈ w.signed, ∀ p' ∈ w.signed, p.jti = p'.jti → p = p'
  life : ∀ p ∈ w.signed, ∃ lifetime, env.timespan env.accessTokenExpiry = some lifetime ∧
    p.exp ≤ World.seconds w.now + lifetime
  keys : ∀ e ∈ w.blacklist, ∃ p ∈ w.signed, p.jti = e.jti

theorem signedKeys_initial (env : Env) (roles : Table Role) (supply : Nat) (now : Int) :
    SignedKeys env (World.initial roles supply now) := by
  constructor <;> simp [World.initial]

/-- A statement signs nothing, or one token, with a new `jti` and the configured lifetime. -/
theorem exec_signed_cases (env : Env) (s : Stmt) (w : World) :
    (World.exec env s w).2.signed = w.signed ∨
      ∃ p lifetime, (World.exec env s w).2.signed = p :: w.signed ∧ p.jti = w.supply ∧
        (World.exec env s w).2.supply = w.supply + 1 ∧
        env.timespan env.accessTokenExpiry = some lifetime ∧
        p.exp = World.seconds w.now + lifetime := by
  cases hs : s.signsFor with
  | none => exact .inl (exec_signed hs)
  | some sub =>
    cases s
    case signAccessToken =>
      simp only [World.exec]
      split
      · exact .inl rfl
      · rename_i lifetime hspan
        exact .inr ⟨_, lifetime, rfl, rfl, rfl, hspan, rfl⟩
    all_goals cases hs

/-- Every statement but `SET blacklist` keeps them in step. -/
theorem signedKeys_exec {s : Stmt} (hs : ∀ jti ttl, s ≠ .setBlacklist jti ttl) (h : SignedKeys env w) :
    SignedKeys env (World.exec env s w).2 := by
  have hle := World.exec_supply env s w
  have hkeys : ∀ e ∈ (World.exec env s w).2.blacklist, ∃ p ∈ w.signed, p.jti = e.jti := by
    rw [exec_blacklist hs]
    exact h.keys
  rcases exec_signed_cases env s w with hsame | ⟨q, lifetime, hnew, hjti, hsupply, hspan, hexp⟩
  · constructor
    · intro p hp
      have := h.jti_lt p (hsame ▸ hp)
      omega
    · rw [hsame]
      exact h.jti_inj
    · rw [hsame, World.exec_now]
      exact h.life
    · rw [hsame]
      exact hkeys
  · constructor
    · rw [hnew, hsupply]
      intro p hp
      rcases List.mem_cons.mp hp with rfl | hp
      · omega
      · have := h.jti_lt p hp
        omega
    · rw [hnew]
      intro p hp p' hp' heq
      rcases List.mem_cons.mp hp with hpq | hp <;> rcases List.mem_cons.mp hp' with hpq' | hp'
      · rw [hpq, hpq']
      · have := h.jti_lt p' hp'
        rw [hpq] at heq
        omega
      · have := h.jti_lt p hp
        rw [hpq'] at heq
        omega
      · exact h.jti_inj p hp p' hp' heq
    · rw [hnew, World.exec_now]
      intro p hp
      rcases List.mem_cons.mp hp with rfl | hp
      · exact ⟨lifetime, hspan, Int.le_of_eq hexp⟩
      · exact h.life p hp
    · rw [hnew]
      intro e he
      obtain ⟨p, hp, hjti'⟩ := hkeys e he
      exact ⟨p, List.mem_cons_of_mem _ hp, hjti'⟩

theorem SignedKeys.later (h : SignedKeys env w) (n : Nat) :
    SignedKeys env { w with now := w.now + n } := by
  refine ⟨h.jti_lt, h.jti_inj, fun p hp => ?_, h.keys⟩
  obtain ⟨lifetime, hspan, hexp⟩ := h.life p hp
  have hsec : World.seconds w.now ≤ World.seconds (w.now + n) := seconds_mono (by omega)
  exact ⟨lifetime, hspan, by simp only; omega⟩

theorem presented_signed {r : Request} (h : r.presented = .signed p) :
    ∃ raw ip ua, r = .logout (.signed p) raw ip ua := by
  cases r
  case logout token raw ip ua => exact ⟨raw, ip, ua, by rw [← h]; rfl⟩
  all_goals cases h

/-- A request writes the key of the token that it presents, or none. -/
theorem serve_keys (env : Env) (r : Request) (w : World) :
    (serve env r w).2.blacklist = (w.revoked r.presented).blacklist := by
  cases r
  case logout token raw ip ua => exact (serve_logout_keys env token raw ip ua w).1
  all_goals exact blacklist_serve (by simp)

/-- The keys after `revokeAccessToken` on a genuine token: as before, or one more, for that token. -/
theorem revoked_genuine {r : Request} (h : Genuine w (.request r)) :
    (w.revoked r.presented).blacklist = w.blacklist ∨
      ∃ p ∈ w.signed, r.presented = .signed p ∧
        (w.revoked r.presented).blacklist =
          (w.setBlacklist p.jti (p.exp - World.seconds w.now)).blacklist := by
  rcases h with ⟨p, hp, hpres⟩ | hnone | hpast
  · rw [hpres]
    by_cases hpos : 0 < remainingTtl (.signed p) w.now
    · obtain ⟨exp, hexp, -, hleft⟩ := remainingTtl_pos hpos
      cases hexp
      refine .inr ⟨p, hp, rfl, ?_⟩
      rw [hleft] at hpos
      simp only [World.revoked, extractJti, decodeToken, Option.bind_some, hleft, if_pos hpos]
    · refine .inl ?_
      simp only [World.revoked, extractJti, decodeToken, Option.bind_some, if_neg hpos]
  · refine .inl ?_
    simp only [World.revoked, hnone]
  · refine .inl ?_
    unfold World.revoked
    split
    · rfl
    · rw [if_neg (by omega)]

/-- What one action does to the blacklist, where only genuine tokens are revoked. -/
structure OnlyGenuine (env : Env) (w : World) (a : Action) : Prop where
  /-- Every key is for a token that the service has signed. -/
  signed : ∀ e ∈ (act env w a).blacklist, ∃ p ∈ (act env w a).signed, p.jti = e.jti
  /-- A new key lives for the configured lifetime at most. -/
  ttl : ∀ e ∈ (act env w a).blacklist, e ∉ w.blacklist → ∃ lifetime,
    env.timespan env.accessTokenExpiry = some lifetime ∧ e.evictedAt ≤ w.now + lifetime * 1000
  /-- A token is invalidated by a logout that presents it. -/
  own : ∀ p ∈ w.signed, w.isBlacklisted p.jti = false → (act env w a).isBlacklisted p.jti = true →
    ∃ raw ip ua, a = .request (.logout (.signed p) raw ip ua)

theorem revoked_eq (w : World) (token : Jwt) :
    w.revoked token = { w with blacklist := (w.revoked token).blacklist } := by
  unfold World.revoked
  split
  · rfl
  · split <;> rfl

theorem mem_setBlacklist {e : BlacklistEntry} {jti : Nat} {ttl : Int}
    (he : e ∈ (w.setBlacklist jti ttl).blacklist) :
    e = ⟨jti, w.now + ttl * 1000⟩ ∨ e ∈ w.blacklist := by
  rcases List.mem_cons.mp he with rfl | he
  · exact .inl rfl
  · exact .inr (List.mem_filter.mp he).1

/-- A new key of a genuine revocation is the key of the token presented. -/
theorem mem_revoked {r : Request} (hC : Genuine w (.request r)) {e : BlacklistEntry}
    (he : e ∈ (w.revoked r.presented).blacklist) :
    e ∈ w.blacklist ∨ ∃ p ∈ w.signed, r.presented = .signed p ∧
      e = ⟨p.jti, w.now + (p.exp - World.seconds w.now) * 1000⟩ := by
  rcases revoked_genuine hC with hsame | ⟨p, hp, hpres, hnew⟩
  · exact .inl (hsame ▸ he)
  · rw [hnew] at he
    rcases mem_setBlacklist he with rfl | he
    · exact .inr ⟨p, hp, hpres, rfl⟩
    · exact .inl he

theorem signedKeys_revoked {r : Request} (hC : Genuine w (.request r)) (h : SignedKeys env w) :
    SignedKeys env (w.revoked r.presented) := by
  have hkeys : ∀ e ∈ (w.revoked r.presented).blacklist, ∃ p ∈ w.signed, p.jti = e.jti := by
    intro e he
    rcases mem_revoked hC he with he | ⟨p, hp, -, rfl⟩
    · exact h.keys e he
    · exact ⟨p, hp, rfl⟩
  rw [revoked_eq]
  exact ⟨h.jti_lt, h.jti_inj, h.life, hkeys⟩

theorem signedKeys_act {a : Action} (hC : Genuine w a) (h : SignedKeys env w) :
    SignedKeys env (act env w a) := by
  have hother : ∀ {r : Request}, (∀ token raw ip ua, r ≠ .logout token raw ip ua) →
      SignedKeys env (serve env r w).2 := by
    intro r hr
    refine serve_invariant (fun s w hs hw => signedKeys_exec ?_ hw) h
    rintro jti ttl rfl
    exact not_setBlacklist hr hs
  cases a with
  | pass n => exact h.later n
  | request r =>
    cases r
    case logout token raw ip ua =>
      have hstart : SignedKeys env (w.revoked token) := signedKeys_revoked hC h
      show SignedKeys env (serve env (.logout token raw ip ua) w).2
      unfold serve handle AuthService.logout
      rw [run_bind_ret]
      simp only [bind_eq]
      rw [run_bind_ok _ (run_revokeAccessToken env token w)]
      exact run_invariant (I := SignedKeys env) (uses_afterRevocation token raw _ _)
        (fun s w hs hw => signedKeys_exec hs hw) hstart
    all_goals exact hother (by simp)

/-- A genuine action does nothing else to the blacklist. -/
theorem onlyGenuine_act {a : Action} (hC : Genuine w a) (h : SignedKeys env w) :
    OnlyGenuine env w a := by
  refine ⟨(signedKeys_act hC h).keys, ?_, ?_⟩
  · intro e he hnew
    cases a with
    | pass n => exact absurd he hnew
    | request r =>
      rw [show (act env w (.request r)).blacklist = _ from serve_keys env r w] at he
      rcases mem_revoked hC he with he | ⟨p, hp, -, rfl⟩
      · exact absurd he hnew
      · obtain ⟨lifetime, hspan, hexp⟩ := h.life p hp
        refine ⟨lifetime, hspan, ?_⟩
        simp only
        omega
  · intro p hp hbefore hafter
    obtain ⟨e, he, hlive⟩ := List.any_eq_true.mp hafter
    simp only [Bool.and_eq_true, decide_eq_true_eq] at hlive
    obtain ⟨hjti, hlater⟩ := hlive
    have hnow : w.now ≤ (act env w a).now := by
      cases a with
      | pass n => simp only [act]; omega
      | request r => exact Int.le_of_eq (now_serve r).symm
    have hold : e ∉ w.blacklist := by
      intro hmem
      have hdead := List.any_eq_false.mp hbefore e hmem
      simp only [hjti, decide_true, Bool.true_and, decide_eq_true_eq] at hdead
      omega
    cases a with
    | pass n => exact absurd he hold
    | request r =>
      rw [show (act env w (.request r)).blacklist = _ from serve_keys env r w] at he
      rcases mem_revoked hC he with he | ⟨q, hq, hpres, rfl⟩
      · exact absurd he hold
      · obtain rfl := h.jti_inj q hq p hp hjti
        obtain ⟨raw, ip, ua, rfl⟩ := presented_signed hpres
        exact ⟨raw, ip, ua, rfl⟩

/-- In every run whose logouts present genuine tokens, or tokens that set no key, only genuine tokens
are blacklisted, for their lifetime at most, and each by its own holder. -/
theorem blacklisted_genuine (env : Env) (roles : Table Role) (supply : Nat) (now : Int)
    (as : List Action) (hC : Along env Genuine (World.initial roles supply now) as) :
    Along env (OnlyGenuine env) (World.initial roles supply now) as := by
  have hrun : ∀ w, SignedKeys env w → Along env Genuine w as → Along env (OnlyGenuine env) w as := by
    clear hC
    induction as with
    | nil => exact fun _ _ _ => trivial
    | cons a as ih =>
      rintro w h ⟨ha, hrest⟩
      exact ⟨onlyGenuine_act ha h, ih _ (signedKeys_act ha h) hrest⟩
  exact hrun _ (signedKeys_initial env roles supply now) hC

theorem blacklisted_genuine_logout :
    Along Env.plain (OnlyGenuine Env.plain) (World.initial .empty 0 0)
      [.request (.register "a@x" "p" none none), .pass 500,
        .request (.logout (.signed firstToken) 3 none none)] := by
  refine blacklisted_genuine Env.plain .empty 0 0 _ ⟨.inr (.inl rfl), trivial, .inl ?_, trivial⟩
  exact ⟨firstToken, List.mem_cons_self, rfl⟩

/-- Forged tokens: a key for a `jti` that no token has, and the registered user's token invalidated for
longer than any token lives, by a sender who has never seen it. -/
theorem forged_logout_blacklists :
    (World.initial .empty 0 0).signed = [] ∧
    (act Env.plain (World.initial .empty 0 0)
      (.request (.logout (.unsigned ⟨none, some 77, some 60⟩) 0 none none))).blacklist =
        [⟨77, 60000⟩] ∧
    firstToken ∈ registered.signed ∧ registered.isBlacklisted firstToken.jti = false ∧
    (act Env.plain registered
      (.request (.logout (.unsigned ⟨none, some 2, some 100000⟩) 0 none none))).blacklist =
        [⟨firstToken.jti, 100000000⟩] ∧
    ¬ OnlyGenuine Env.plain registered
      (.request (.logout (.unsigned ⟨none, some 2, some 100000⟩) 0 none none)) := by
  refine ⟨rfl, by decide +kernel, by decide +kernel, by decide +kernel, by decide +kernel, fun h => ?_⟩
  obtain ⟨raw, ip, ua, heq⟩ :=
    h.own firstToken (by decide +kernel) (by decide +kernel) (by decide +kernel)
  cases heq

end Auth
