import AuthService.Warrants

/-!
# AuthService.Provenance

Where sessions, access tokens and passwords come from, in any interleaving of requests and jobs.

* `Authenticated` — some request has proved that it acts for the user; `Vouched` — or the user had a
  session before the run.
* `SessionProvenance` — the invariant; `sessions_have_provenance` — what it says of the tables.
* `Redeemable`, `ChosenHash` — the reset tokens and the password hashes that have an origin.
* `PasswordProvenance` — the invariant; `passwords_have_provenance`.
-/

namespace Auth

open Relational Resumption Prog

variable {env : Env} {ι : Type} [DecidableEq ι] {acts : ι → Activity} {w : World}
  {C : Pool sig.refusable World ι (fun _ => Response) → Label ι → Prop}
  {q : Pool sig.refusable World ι fun _ => Response} {i : ι} {s : sig.refusable.Stmt}
  {k : Except Exn (sig.refusable.Reply s) → Prog sig.refusable Response}

/-! ## Sessions and access tokens -/

/-- Some request has proved that it acts for user `u`. -/
def Authenticated (env : Env) (acts : ι → Activity) (q : Pool sig.refusable World ι fun _ => Response)
    (u : Nat) : Prop :=
  ∃ i r, (acts i).Serves env r ∧ ProvedIdentity r (q.seen i) u

/-- Or the user had a session that was not revoked when the run began. -/
def Vouched (env : Env) (acts : ι → Activity) (w : World)
    (q : Pool sig.refusable World ι fun _ => Response) (u : Nat) : Prop :=
  (∃ t ∈ w.refreshTokens.rows, t.userId = u ∧ t.revoked = false) ∨ Authenticated env acts q u

structure SessionProvenance (env : Env) (acts : ι → Activity) (w : World)
    (q : Pool sig.refusable World ι fun _ => Response) : Prop where
  rows : ∀ t ∈ q.world.refreshTokens.rows,
    (∃ t₀ ∈ w.refreshTokens.rows, t₀.Evolves t) ∨ Vouched env acts w q t.userId
  signed : ∀ p ∈ q.world.signed, p ∈ w.signed ∨ Vouched env acts w q p.sub
  /-- What a lookup of an unrevoked session has found. -/
  found : ∀ i tokenHash t, ⟨.findRefreshTokenByHash tokenHash, .ok (some t)⟩ ∈ q.seen i →
    t.revoked = false → Vouched env acts w q t.userId
  account : ∀ i v c, ⟨.findCredentialById v, .ok (some c)⟩ ∈ q.seen i → c.id = v

theorem Vouched.step {M : Machine sig.refusable World} {u : Nat} (hp : q.prog i = .call s k)
    (hv : Vouched env acts w q u) : Vouched env acts w (q.step M (.run i)) u := by
  rcases hv with hv | ⟨j, r, hserves, hproved⟩
  · exact .inl hv
  · exact .inr ⟨j, r, hserves, hproved.mono (Pool.seen_step_mono hp j)⟩

theorem SessionProvenance.vouched {r : Request} {u : Nat} (hq : SessionProvenance env acts w q)
    (hserves : (acts i).Serves env r) (hi : Identified r (q.seen i) u) : Vouched env acts w q u := by
  cases hi with
  | proved hp => exact .inr ⟨i, r, hserves, hp⟩
  | presented t hp =>
    obtain ⟨raw, -, ht, hrev, rfl⟩ := hp
    exact hq.found i _ t ht hrev
  | account t v c hp hc hu =>
    obtain ⟨raw, -, ht, hrev, rfl⟩ := hp
    rw [← hu, hq.account i _ c hc]
    exact hq.found i _ t ht hrev

/-- A row of the world that is not revoked has a user that is vouched for. -/
theorem SessionProvenance.live {t : RefreshToken} (hq : SessionProvenance env acts w q)
    (ht : t ∈ q.world.refreshTokens.rows) (hrev : t.revoked = false) :
    Vouched env acts w q t.userId := by
  rcases hq.rows t ht with ⟨t₀, ht₀, hev⟩ | hv
  · refine .inl ⟨t₀, ht₀, hev.userId_eq.symm, ?_⟩
    cases hrev₀ : t₀.revoked with
    | false => rfl
    | true =>
      rw [hev.revoked hrev₀] at hrev
      cases hrev
  · exact hv

theorem mem_signed_source {s : Stmt} {v : World} {p : JwtPayload}
    (hp : p ∈ (World.exec env s v).2.signed) : p ∈ v.signed ∨ s.signsFor = some p.sub := by
  cases s
  case signAccessToken sub email roles tokenType =>
    simp only [World.exec] at hp
    split at hp
    · exact .inl hp
    · rcases List.mem_cons.mp hp with rfl | hp
      · exact .inr rfl
      · exact .inl hp
  all_goals
    rw [exec_signed rfl] at hp
    exact .inl hp

theorem sessionProvenance_step (hq : SessionProvenance env acts w q) (hp : q.prog i = .call s k)
    (hw : ∃ r, (acts i).Serves env r ∧ r.Warrants (q.seen i) s.1) :
    SessionProvenance env acts w (q.step (World.machine env).refusable (.run i)) := by
  obtain ⟨r, hserves, hwarrants⟩ := hw
  have hworld := Pool.world_step (M := (World.machine env).refusable) hp
  obtain ⟨s, refused⟩ := s
  refine ⟨fun t ht => ?_, fun p hmem => ?_, fun j tokenHash t ht hrev => ?_, fun j v c hc => ?_⟩
  · rw [hworld] at ht
    have hold : t ∈ q.world.refreshTokens.rows → (∃ t₀ ∈ w.refreshTokens.rows, t₀.Evolves t) ∨
        Vouched env acts w (q.step (World.machine env).refusable (.run i)) t.userId := fun ht =>
      (hq.rows t ht).imp_right (Vouched.step hp)
    cases refused with
    | some e => exact hold ht
    | none =>
      rcases World.exec_origin (s := s) ht with ⟨t', ht', hev⟩ | ⟨data, rfl, rfl⟩
      · rcases hq.rows t' ht' with ⟨t₀, ht₀, hev₀⟩ | hv
        · exact .inl ⟨t₀, ht₀, hev₀.trans hev⟩
        · rw [hev.userId_eq]
          exact .inr (hv.step hp)
      · exact .inr ((hq.vouched hserves hwarrants).step hp)
  · rw [hworld] at hmem
    have hold : p ∈ q.world.signed → p ∈ w.signed ∨
        Vouched env acts w (q.step (World.machine env).refusable (.run i)) p.sub := fun hmem =>
      (hq.signed p hmem).imp_right (Vouched.step hp)
    cases refused with
    | some e => exact hold hmem
    | none =>
      rcases mem_signed_source (s := s) hmem with hmem | hsub
      · exact hold hmem
      · cases s
        case signAccessToken sub email roles tokenType =>
          cases hsub
          exact .inr ((hq.vouched hserves hwarrants.1).step hp)
        all_goals cases hsub
  · -- the reply of this very step comes from a row of the world
    rcases Pool.mem_seen_step hp ht with ht | ⟨-, hreply | ⟨e, he⟩⟩
    · exact (hq.found j tokenHash t ht hrev).step hp
    · have hfound := Except.ok.inj hreply
      exact (hq.live (Table.find?_mem hfound.symm).1 hrev).step hp
    · cases he
  · rcases Pool.mem_seen_step hp hc with hc | ⟨-, hreply | ⟨e, he⟩⟩
    · exact hq.account j v c hc
    · have hfound := Except.ok.inj hreply
      exact World.account_id hfound.symm
    · cases he

theorem sessionProvenance_reach (hr : Reach (World.machine env).refusable C (answering env acts w) q) :
    SessionProvenance env acts w q := by
  refine hr.invariant_steps (I := SessionProvenance env acts w) ?_ (fun q n _ ih _ => ?_)
    fun q i s k hq ih _ hp => sessionProvenance_step ih hp (warranted hq hp)
  · refine ⟨fun t ht => .inl ⟨t, ht, .refl t⟩, fun p hp => .inl hp, ?_, ?_⟩
    · intro i tokenHash t ht
      cases ht
    · intro i v c hc
      cases hc
  · exact ⟨ih.rows, ih.signed, ih.found, ih.account⟩

/-- No session is stored and no access token signed by a request that has not proved for whom it
acts, and the chain of presented tokens behind it begins with a registration, a verified password, or
a session from before the run. -/
theorem sessions_have_provenance
    (hr : Reach (World.machine env).refusable C (answering env acts w) q) :
    (∀ i data reply, ⟨.createRefreshToken data, reply⟩ ∈ q.seen i →
        ∃ r, (acts i).Serves env r ∧ Identified r (q.seen i) data.userId) ∧
      (∀ i sub email roles tokenType reply,
        ⟨.signAccessToken sub email roles tokenType, reply⟩ ∈ q.seen i →
          ∃ r, (acts i).Serves env r ∧ Identified r (q.seen i) sub) ∧
      (∀ t ∈ q.world.refreshTokens.rows,
        (∃ t₀ ∈ w.refreshTokens.rows, t₀.Evolves t) ∨ Vouched env acts w q t.userId) ∧
      ∀ p ∈ q.world.signed, p ∈ w.signed ∨ Vouched env acts w q p.sub := by
  have hq := sessionProvenance_reach hr
  refine ⟨?_, ?_, hq.rows, hq.signed⟩
  · intro i data reply hx
    exact warranted_log hr i _ hx
  · intro i sub email roles tokenType reply hx
    obtain ⟨r, hserves, hi, -⟩ := warranted_log hr i _ hx
    exact ⟨r, hserves, hi⟩

/-- A registration and a login that starts once the account is there. -/
theorem sessions_have_provenance_login :
    let acts : Bool → Activity := fun b =>
      if b then signIn "a@x" "p" else .http (registration none)
    let q := (answering Env.plain acts (World.initial .empty 0 0)).runs
      (World.machine Env.plain).refusable
        (List.replicate 4 (.run false) ++ List.replicate 20 (.run true) ++
          List.replicate 20 (.run false))
    q.world.refreshTokens.rows.length = 2 ∧ ∀ t ∈ q.world.refreshTokens.rows,
      Vouched Env.plain acts (World.initial .empty 0 0) q t.userId := by
  intro acts q
  have hr : Reach (World.machine Env.plain).refusable (fun _ _ => True)
      (answering Env.plain acts (World.initial .empty 0 0)) q := Reach.of_checked (by decide +kernel)
  refine ⟨by decide +kernel, fun t ht => ?_⟩
  rcases (sessions_have_provenance hr).2.2.1 t ht with ⟨t₀, ht₀, -⟩ | hv
  · cases ht₀
  · exact hv

/-! ## Passwords -/

/-- A reset token of user `u` was asked for under the user's email. -/
def Requested (env : Env) (acts : ι → Activity) (q : Pool sig.refusable World ι fun _ => Response)
    (u : Nat) (tokenHash : TokenHash) : Prop :=
  ∃ i r, (acts i).Serves env r ∧ Requests r (q.seen i) u tokenHash

/-- A reset token of the user, from before the run or asked for in it. -/
def Redeemable (env : Env) (acts : ι → Activity) (w : World)
    (q : Pool sig.refusable World ι fun _ => Response) (u : Nat) (tokenHash : TokenHash) : Prop :=
  (∃ t ∈ w.passwordResetTokens.rows, t.userId = u ∧ t.tokenHash = tokenHash ∧ t.used = false) ∨
    Requested env acts q u tokenHash

/-- The password is that of the registration that created user `u`, or of a reset of the user's
password. -/
def Chosen (env : Env) (acts : ι → Activity) (w : World)
    (q : Pool sig.refusable World ι fun _ => Response) (u : Nat) (password : String) : Prop :=
  (∃ i email ip ua passwordHash roles c, (acts i).Serves env (.register email password ip ua) ∧
      ⟨.createCredential email passwordHash roles, .ok c⟩ ∈ q.seen i ∧ c.id = u) ∨
    ∃ i raw ip, (acts i).Serves env (.resetPassword raw password ip) ∧
      Redeemable env acts w q u (hashToken raw)

/-- The hash is that of a chosen password. -/
def ChosenHash (env : Env) (acts : ι → Activity) (w : World)
    (q : Pool sig.refusable World ι fun _ => Response) (u : Nat) (passwordHash : String) : Prop :=
  ∃ password salt, env.hashPassword password salt = some passwordHash ∧ Chosen env acts w q u password

structure PasswordProvenance (env : Env) (acts : ι → Activity) (w : World)
    (q : Pool sig.refusable World ι fun _ => Response) : Prop where
  hashes : ∀ c ∈ q.world.credentials.rows,
    (∃ c₀ ∈ w.credentials.rows, c₀.id = c.id ∧ c₀.passwordHash = c.passwordHash) ∨
      ChosenHash env acts w q c.id c.passwordHash
  resets : ∀ t ∈ q.world.passwordResetTokens.rows, t.used = false →
    Redeemable env acts w q t.userId t.tokenHash
  found : ∀ i tokenHash t, ⟨.findResetTokenByHash tokenHash, .ok (some t)⟩ ∈ q.seen i →
    t.used = false → Redeemable env acts w q t.userId tokenHash
  hashed : ∀ i password passwordHash, ⟨.hashPassword password, .ok passwordHash⟩ ∈ q.seen i →
    ∃ salt, env.hashPassword password salt = some passwordHash

theorem Redeemable.step {M : Machine sig.refusable World} {u : Nat} {tokenHash : TokenHash}
    (hp : q.prog i = .call s k) (h : Redeemable env acts w q u tokenHash) :
    Redeemable env acts w (q.step M (.run i)) u tokenHash := by
  rcases h with h | ⟨j, r, hserves, email, ip, c, raw, hr, hc, hu, hraw, hhash⟩
  · exact .inl h
  · have hsub := Pool.seen_step_mono (M := M) hp j
    exact .inr ⟨j, r, hserves, email, ip, c, raw, hr, hsub hc, hu, hsub hraw, hhash⟩

theorem ChosenHash.step {M : Machine sig.refusable World} {u : Nat} {passwordHash : String}
    (hp : q.prog i = .call s k) (h : ChosenHash env acts w q u passwordHash) :
    ChosenHash env acts w (q.step M (.run i)) u passwordHash := by
  obtain ⟨password, salt, hhash, ⟨j, email, ip, ua, hash, roles, c, hserves, hx, hu⟩ |
    ⟨j, raw, ip, hserves, hredeem⟩⟩ := h
  · exact ⟨password, salt, hhash, .inl ⟨j, email, ip, ua, hash, roles, c, hserves,
      Pool.seen_step_mono hp j hx, hu⟩⟩
  · exact ⟨password, salt, hhash, .inr ⟨j, raw, ip, hserves, hredeem.step hp⟩⟩

/-- The row that a registration has inserted. -/
theorem PasswordProvenance.registered {r : Request} {email passwordHash : String}
    {roles : List String} {c : UserCredential} (hq : PasswordProvenance env acts w q)
    (hserves : (acts i).Serves env r) (h : Chooses r (q.seen i) email passwordHash)
    {q' : Pool sig.refusable World ι fun _ => Response}
    (hx : ⟨.createCredential email passwordHash roles, .ok c⟩ ∈ q'.seen i) :
    ChosenHash env acts w q' c.id passwordHash := by
  obtain ⟨password, ip, ua, rfl, hhash⟩ := h
  obtain ⟨salt, hhash⟩ := hq.hashed i _ _ hhash
  exact ⟨password, salt, hhash, .inl ⟨i, email, ip, ua, _, roles, c, hserves, hx, rfl⟩⟩

/-- A request that redeems has found a row of the user. -/
theorem PasswordProvenance.redeemed {r : Request} {u : Nat} {passwordHash : String}
    (hq : PasswordProvenance env acts w q) (hserves : (acts i).Serves env r)
    (h : Redeems r (q.seen i) u passwordHash) : ChosenHash env acts w q u passwordHash := by
  obtain ⟨raw, newPassword, ip, t, rfl, ht, hused, rfl, hx⟩ := h
  obtain ⟨salt, hhash⟩ := hq.hashed i _ _ hx
  exact ⟨newPassword, salt, hhash, .inr ⟨i, raw, ip, hserves, hq.found i _ t ht hused⟩⟩

/-- Only `updatePassword` writes the hash of a row. -/
theorem passwordHash_onCredential (s : Stmt) (c : UserCredential) :
    (s.onCredential c).passwordHash = c.passwordHash ∨
      ∃ passwordHash at', s = .updatePassword c.id passwordHash at' ∧
        (s.onCredential c).passwordHash = passwordHash := by
  cases s
  case updatePassword id passwordHash at' =>
    by_cases hid : c.id = id
    · subst hid
      exact .inr ⟨passwordHash, at', rfl, by simp [Stmt.onCredential, Stmt.credentialUpdate,
        UserCredential.setPassword]⟩
    · exact .inl (by simp [Stmt.onCredential, Stmt.credentialUpdate, hid])
  all_goals
    left
    simp only [Stmt.onCredential, Stmt.credentialUpdate] <;> split <;> rfl

theorem passwordProvenance_step (hq : PasswordProvenance env acts w q) (hp : q.prog i = .call s k)
    (hw : ∃ r, (acts i).Serves env r ∧ r.Warrants (q.seen i) s.1) :
    PasswordProvenance env acts w (q.step (World.machine env).refusable (.run i)) := by
  obtain ⟨r, hserves, hwarrants⟩ := hw
  have hworld := Pool.world_step (M := (World.machine env).refusable) hp
  obtain ⟨s, refused⟩ := s
  refine ⟨fun c hc => ?_, fun t ht hused => ?_, fun j tokenHash t ht hused => ?_,
    fun j password hash hx => ?_⟩
  · rw [hworld] at hc
    have hold : ∀ c₀ ∈ q.world.credentials.rows, c₀.id = c.id → c₀.passwordHash = c.passwordHash →
        (∃ c₀ ∈ w.credentials.rows, c₀.id = c.id ∧ c₀.passwordHash = c.passwordHash) ∨
          ChosenHash env acts w (q.step (World.machine env).refusable (.run i)) c.id
            c.passwordHash := by
      intro c₀ hc₀ hid hhash
      have h₀ := (hq.hashes c₀ hc₀).imp_right (ChosenHash.step (M := (World.machine env).refusable) hp)
      rwa [hid, hhash] at h₀
    cases refused with
    | some e => exact hold c hc rfl rfl
    | none =>
      rcases World.exec_credentialSource (s := s) hc with ⟨c₀, hc₀, rfl⟩ | ⟨email, hash, roles, rfl, rfl⟩
      · rcases passwordHash_onCredential s c₀ with hsame | ⟨hash, at', rfl, hnew⟩
        · exact hold c₀ hc₀ (s.onCredential_id c₀).symm hsame.symm
        · rw [hnew, Stmt.onCredential_id]
          exact .inr ((hq.redeemed hserves hwarrants).step hp)
      · rcases World.exec_createCredential env q.world email hash roles with ⟨e, he⟩ | ⟨table, he, -⟩
        · have hmem : World.newCredential q.world.supply email hash roles ∈
              (World.exec env (.createCredential email hash roles) q.world).2.credentials.rows := hc
          rw [he] at hmem
          exact hold _ hmem rfl rfl
        · right
          have hx : ⟨.createCredential email hash roles,
              .ok (World.newCredential q.world.supply email hash roles)⟩ ∈
                (q.step (World.machine env).refusable (.run i)).seen i := by
            rw [Pool.seen_step hp, if_pos rfl]
            exact List.mem_cons.mpr (.inl (by simp [Machine.refusable, World.machine, he]))
          exact hq.registered hserves hwarrants.1 hx
  · rw [hworld] at ht
    cases refused with
    | some e => exact (hq.resets t ht hused).step hp
    | none =>
      rcases World.exec_resetTokens (s := s) ht with
        ⟨t₀, ht₀, ⟨-, huser, hhash, -, hrose⟩, -⟩ | ⟨u, tokenHash, expiresAt, rfl, rfl, -⟩
      · rw [huser, hhash]
        refine (hq.resets t₀ ht₀ ?_).step hp
        cases hused₀ : t₀.used with
        | false => rfl
        | true =>
          rw [hrose hused₀] at hused
          cases hused
      · exact Redeemable.step hp (.inr ⟨i, r, hserves, hwarrants⟩)
  · rcases Pool.mem_seen_step hp ht with ht | ⟨-, hreply | ⟨e, he⟩⟩
    · exact (hq.found j tokenHash t ht hused).step hp
    · have hfound := Except.ok.inj hreply
      obtain ⟨hmem, hhash⟩ := Table.find?_mem hfound.symm
      have hhash : t.tokenHash = tokenHash := by simpa using hhash
      rw [← hhash]
      exact (hq.resets t hmem hused).step hp
    · cases he
  · rcases Pool.mem_seen_step hp hx with hx | ⟨-, hreply | ⟨e, he⟩⟩
    · exact hq.hashed j password hash hx
    · simp only [World.machine, World.exec] at hreply
      split at hreply
      · rename_i hash' hhash
        exact ⟨_, by rw [hhash, Except.ok.inj hreply]⟩
      · cases hreply
    · cases he

theorem passwordProvenance_reach
    (hr : Reach (World.machine env).refusable C (answering env acts w) q) :
    PasswordProvenance env acts w q := by
  refine hr.invariant_steps (I := PasswordProvenance env acts w) ?_ (fun q n _ ih _ => ?_)
    fun q i s k hq ih _ hp => passwordProvenance_step ih hp (warranted hq hp)
  · refine ⟨fun c hc => .inl ⟨c, hc, rfl, rfl⟩, fun t ht hused => .inl ⟨t, ht, rfl, rfl, hused⟩, ?_, ?_⟩
    · intro i tokenHash t ht
      cases ht
    · intro i password passwordHash hx
      cases hx
  · exact ⟨ih.hashes, ih.resets, ih.found, ih.hashed⟩

/-- A stored hash is that of a password which its owner has registered with, or chosen when redeeming a
reset token that was asked for under the owner's email. -/
theorem passwords_have_provenance
    (hr : Reach (World.machine env).refusable C (answering env acts w) q) :
    (∀ i u passwordHash at' reply, ⟨.updatePassword u passwordHash at', reply⟩ ∈ q.seen i →
        ∃ raw newPassword ip, (acts i).Serves env (.resetPassword raw newPassword ip) ∧
          (∃ salt, env.hashPassword newPassword salt = some passwordHash) ∧
          Redeemable env acts w q u (hashToken raw)) ∧
      ∀ c ∈ q.world.credentials.rows,
        (∃ c₀ ∈ w.credentials.rows, c₀.id = c.id ∧ c₀.passwordHash = c.passwordHash) ∨
          ChosenHash env acts w q c.id c.passwordHash := by
  have hq := passwordProvenance_reach hr
  refine ⟨?_, hq.hashes⟩
  intro i u passwordHash at' reply hx
  obtain ⟨r, hserves, raw, newPassword, ip, t, rfl, ht, hused, rfl, hhash⟩ := warranted_log hr i _ hx
  exact ⟨raw, newPassword, ip, hserves, hq.hashed i _ _ hhash, hq.found i _ t ht hused⟩

/-- The registered user asks for a reset token, and redeems it before the request has announced it. -/
theorem passwords_have_provenance_reset :
    let headers : Headers := ⟨none, none, none, none, .token .malformed⟩
    let acts : Bool → Activity := fun b =>
      .http ⟨headers, none, if b then .resetPassword 5 "q" else .forgotPassword "a@x"⟩
    let q := (answering Env.plain acts registered).runs (World.machine Env.plain).refusable
      (List.replicate 5 (.run false) ++ List.replicate 6 (.run true))
    ∃ c ∈ q.world.credentials.rows, c.passwordHash = "$argon2q" ∧
      ChosenHash Env.plain acts registered q c.id c.passwordHash := by
  intro headers acts q
  have hr : Reach (World.machine Env.plain).refusable (fun _ _ => True)
      (answering Env.plain acts registered) q := Reach.of_checked (by decide +kernel)
  have hnew : ∃ c ∈ q.world.credentials.rows, c.passwordHash = "$argon2q" := by decide +kernel
  obtain ⟨c, hc, hhash⟩ := hnew
  refine ⟨c, hc, hhash, ?_⟩
  rcases (passwords_have_provenance hr).2 c hc with ⟨c₀, hc₀, -, hold⟩ | h
  · have hrows : ∀ c ∈ registered.credentials.rows, c.passwordHash ≠ "$argon2q" := by decide +kernel
    exact absurd (hold.trans hhash) (hrows c₀ hc₀)
  · exact h

end Auth
