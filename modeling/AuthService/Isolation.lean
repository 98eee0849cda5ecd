import AuthService.AccessTokens
import AuthService.Addressing
import AuthService.Resumption.Unwinding

/-!
# AuthService.Isolation

Requests of one user and of others, interleaved statement by statement.

* `Stmt.asks`  — the statement goes by a key.
* `Apart`      — whoever answers to a key that is gone by: nobody but the user for the requests of one
  group, and not the user for all other requests.
* `Recalled`   — what has become of the rows that the requests have in memory.
* `Parted`     — the requests of the group have come to the user's rows only, the others to none of them.
* `Beside`     — the relation between a run and its remainder, the group served alone.
* `interleaved_users_do_not_interfere` — in the remainder every request of the group ends as it does in
  the run, and the user's rows are the same.
-/

namespace Auth

open Relational Resumption Prog

variable {env : Env} {w w' : World} {u : Nat} {s : Stmt} {r : Request}

/-- The statement goes by the key. A key that names a user is gone by all along. -/
def Stmt.asks : Stmt → Key → Bool
  | _, .user _ => true
  | .findCredentialByEmail email, .email email' => email = email'
  | .findRefreshTokenByHash tokenHash, .refreshToken raw => tokenHash = hashToken raw
  | .findResetTokenByHash tokenHash, .resetToken raw => tokenHash = hashToken raw
  | .revokeToken id _ _, .session id' => id = id'
  | .setReplacedBy id _, .session id' => id = id'
  | .updateLastUsed id _, .session id' => id = id'
  | _, _ => false

/-! ## Rows in memory -/

/-- The session by that id, where it is still there, is its user's still. -/
def Stable (t : RefreshToken) (w : World) : Prop :=
  t.id < w.supply ∧ ∀ t' ∈ w.refreshTokens.rows, t'.id = t.id → t'.userId = t.userId

def StableReset (t : PasswordResetToken) (w : World) : Prop :=
  t.id < w.supply ∧ ∀ t' ∈ w.passwordResetTokens.rows, t'.id = t.id → t'.userId = t.userId

theorem stable_of_mem {t : RefreshToken} (hdrawn : Drawn w) (ht : t ∈ w.refreshTokens.rows) :
    Stable t w := by
  refine ⟨hdrawn.id_lt t ht, fun t' ht' hid => ?_⟩
  rw [Table.eq_of_key ht' ht hid]

theorem stableReset_of_mem {t : PasswordResetToken} (hdrawn : Drawn w)
    (ht : t ∈ w.passwordResetTokens.rows) : StableReset t w := by
  refine ⟨hdrawn.reset_id_lt t ht, fun t' ht' hid => ?_⟩
  rw [Table.eq_of_key ht' ht hid]

theorem Stable.exec {t : RefreshToken} (h : Stable t w) : Stable t (World.exec env s w).2 := by
  refine ⟨Nat.lt_of_lt_of_le h.1 (World.exec_supply env s w), fun t' ht' hid => ?_⟩
  rcases World.exec_source ht' with ⟨t₀, ht₀, rfl⟩ | ⟨data, -, rfl, -⟩
  · have hev := s.evolves_onRefreshToken t₀
    rw [hev.userId_eq]
    exact h.2 t₀ ht₀ (hev.id_eq.symm.trans hid)
  · exact absurd hid (Nat.ne_of_gt h.1)

theorem StableReset.exec {t : PasswordResetToken} (h : StableReset t w) :
    StableReset t (World.exec env s w).2 := by
  refine ⟨Nat.lt_of_lt_of_le h.1 (World.exec_supply env s w), fun t' ht' hid => ?_⟩
  rcases World.exec_resetTokens ht' with ⟨t₀, ht₀, hsame, -⟩ | ⟨_, _, _, -, rfl, -⟩
  · rw [hsame.2.1]
    exact h.2 t₀ ht₀ (hsame.1.symm.trans hid)
  · exact absurd hid (Nat.ne_of_gt h.1)

theorem mem_own_resetTokens {t : PasswordResetToken} :
    t ∈ (w.own u).passwordResetTokens ↔ t ∈ w.passwordResetTokens.rows ∧ t.userId = u := by
  simp [World.own, Table.select]

/-! ## Statements of the others -/

section Others

variable {h : List (Exchange sig)}

theorem own_updateReset_other {id : Nat} {f : Patch PasswordResetToken}
    (hf : ∀ t, (f.apply t).userId = t.userId)
    (hid : ∀ t ∈ w.passwordResetTokens.rows, t.id = id → t.userId ≠ u) :
    World.own u { w with
      passwordResetTokens := w.passwordResetTokens.updateWhere (fun t => t.id = id) f } = w.own u := by
  have hrows : (w.passwordResetTokens.updateWhere (fun t => decide (t.id = id)) f).select
      (fun t => decide (t.userId = u)) =
        w.passwordResetTokens.select fun t => decide (t.userId = u) := by
    rw [Table.select_updateWhere fun t => by rw [hf]]
    refine map_patchIf_of_none fun t ht => decide_eq_false fun heq => ?_
    obtain ⟨hmem, huser⟩ := List.mem_filter.mp ht
    exact hid t hmem heq (of_decide_eq_true huser)
  exact congrArg (Own.mk (w.own u).credentials (w.own u).refreshTokens) hrows

/-- A request that has come to no row of the user's leaves the user's rows alone. -/
theorem own_addressed (ha : r.Addresses h s) (hlt : u < w.supply) (hreach : ∀ v, Reaches r h v → v ≠ u)
    (hnamed : ∀ id, r.key? = some (.session id) → s.asks (.session id) = true → NotMine u id w)
    (hobtained : ∀ t, Obtains r h t → NotMine u t.id w)
    (hreset : ∀ id, HoldsReset r h id → ∀ t ∈ w.passwordResetTokens.rows, t.id = id → t.userId ≠ u) :
    (World.exec env s w).2.own u = w.own u := by
  have hsession : ∀ id, Holds r h id → s.asks (.session id) = true → NotMine u id w := by
    intro id hid hasks
    cases hid with
    | named hk => exact hnamed id hk hasks
    | obtained t ht hid => exact hid ▸ hobtained t ht
  by_cases hrow : s.byRow = true
  · cases s
    case revokeToken id reason at' =>
      exact (framed_update (fun _ => rfl) (hsession id ha (decide_eq_true rfl)) ⟨rfl, hlt⟩).1
    case setReplacedBy id replacedBy =>
      exact (framed_update (fun _ => rfl) (hsession id ha (decide_eq_true rfl)) ⟨rfl, hlt⟩).1
    case updateLastUsed id at' =>
      exact (framed_update (fun _ => rfl) (hsession id ha (decide_eq_true rfl)) ⟨rfl, hlt⟩).1
    case markAsUsed id at' => exact own_updateReset_other (fun _ => rfl) (hreset id ha)
    case deleteExpiredAndRevoked | deleteExpiredOrUsed => exact ha.elim
    all_goals cases hrow
  · refine own_exec env ⟨by simpa using hrow, fun hsubject => ?_⟩ hlt
    cases s
    case updateStatus | incrementFailedAttempts | resetFailedAttempts | lockAccount | unlockAccount
        | updateLastLogin | updatePassword | updateRoles | deleteCredential | createRefreshToken
        | revokeAllByUserId | createPasswordResetToken | deleteResetTokensByUserId =>
      exact hreach _ ha (Option.some.inj hsubject)
    all_goals cases hsubject

/-- A request that judges an access token reads only. -/
theorem reads_validates (hr : r.validates = true) :
    (handle env r).Uses fun s => ∀ v : World, (World.exec env s v).2 = v := by
  cases r
  case validateToken token =>
    exact uses_bind (uses_validateToken_of token (fun _ => rfl) (fun _ _ => rfl) fun _ _ => rfl)
      fun _ => trivial
  case introspect token =>
    exact uses_bind (uses_introspect_of token (fun _ => rfl) fun _ _ => rfl) fun _ => trivial
  all_goals cases hr

end Others

/-! ## Statements of the group -/

section Group

variable {h : List (Exchange sig)} {F : Key → Prop}

theorem confined_addressed (ha : r.Addresses h s) (hreach : ∀ v, Reaches r h v → ¬ F (.user v))
    (hkey : ∀ k, r.key? = some k → s.asks k = true → ¬ F k) (hinsert : s.inserts? = none)
    (hcreate : ∀ email hash roles, s ≠ .createCredential email hash roles) : s.Confined F := by
  cases s
  case findCredentialByEmail email => exact hkey _ ha (by simp [Stmt.asks])
  case findRefreshTokenByHash tokenHash =>
    obtain ⟨raw, rfl, hk⟩ := ha
    exact hkey _ hk (decide_eq_true rfl)
  case findResetTokenByHash tokenHash =>
    obtain ⟨raw, rfl, hk⟩ := ha
    exact hkey _ hk (decide_eq_true rfl)
  case findCredentialById | incrementFailedAttempts | deleteCredential | findActiveByUserId
      | revokeAllByUserId | countActiveByUserId | findOldestActiveByUserId => exact hreach _ ha
  case createCredential => exact absurd rfl (hcreate _ _ _)
  case createRefreshToken | createPasswordResetToken => cases hinsert
  case findLockedAccountsToUnlock | deleteExpiredAndRevoked | deleteExpiredOrUsed | existsBlacklist =>
    exact ha.elim
  all_goals trivial

/-- The digest of a token that is about to be inserted: drawn, and new in both tables. -/
structure Unused (tokenHash : TokenHash) (w : World) : Prop where
  drawn : tokenHash.preimage < w.supply
  tokens : ∀ t ∈ w.refreshTokens.rows, t.tokenHash ≠ tokenHash
  resets : ∀ t ∈ w.passwordResetTokens.rows, t.tokenHash ≠ tokenHash

/-- Twin worlds answer a statement of the group alike. -/
theorem twins_addressed (htwins : Twins env u F w w') (ha : r.Addresses h s)
    (hreach : ∀ v, Reaches r h v → ¬ F (.user v))
    (hkey : ∀ k, r.key? = some k → s.asks k = true → ¬ F k)
    (hcreate : ∀ email hash roles, s ≠ .createCredential email hash roles)
    (hnew : ∀ tokenHash v, s.inserts? = some (tokenHash, v) → Unused tokenHash w ∧ Unused tokenHash w') :
    (World.exec env s w).1 = (World.exec env s w').1 ∧
      Twins env u F (World.exec env s w).2 (World.exec env s w').2 := by
  cases hinsert : s.inserts? with
  | none => exact relates_confined (confined_addressed ha hreach hkey hinsert hcreate) w w' htwins
  | some p =>
    obtain ⟨tokenHash, v⟩ := p
    obtain ⟨hw, hw'⟩ := hnew tokenHash v hinsert
    cases s
    case createRefreshToken data =>
      cases hinsert
      exact htwins.createRefreshToken (hreach _ ha) hw.drawn hw.tokens hw'.tokens
    case createPasswordResetToken userId hash expiresAt =>
      cases hinsert
      exact htwins.createResetToken (hreach _ ha) hw.drawn hw.resets hw'.resets
    all_goals cases hinsert

/-- A statement of the group gives nobody else a key. -/
theorem foreign_addressed (htwins : Twins env u F w w') (ha : r.Addresses h s)
    (hreach : ∀ v, Reaches r h v → ¬ F (.user v))
    (hcreate : ∀ email hash roles, s ≠ .createCredential email hash roles) {k : Key}
    (hk : (World.exec env s w').2.foreign env u k = true) : w'.foreign env u k = true := by
  have hmine : ∀ v, Reaches r h v → w'.hasUser v = true → v = u := by
    intro v hv huser
    obtain ⟨c, hc⟩ := World.hasUser_iff.mp huser
    have hcid := World.account_id hc
    rw [← hcid]
    exact mine_of_user (htwins.clear (hreach v hv)).2 (Table.find?_mem hc).1 hcid
  cases s
  case createRefreshToken data =>
    rcases World.exec_createRefreshToken env w' data with ⟨e, he⟩ | ⟨table, he, hrows, huser⟩
    · rw [he] at hk
      exact hk
    · have hu : data.userId = u := hmine _ ha huser
      rw [he] at hk
      cases k <;> simpa [World.foreign, World.owns, hrows, World.newRefreshToken, hu] using hk
  case createPasswordResetToken userId hash expiresAt =>
    rcases World.exec_createPasswordResetToken env w' userId hash expiresAt with
      ⟨e, he⟩ | ⟨table, he, hrows, huser⟩
    · rw [he] at hk
      exact hk
    · have hu : userId = u := hmine _ ha huser
      rw [he] at hk
      cases k <;> simpa [World.foreign, World.owns, hrows, hu] using hk
  case createCredential => exact absurd rfl (hcreate _ _ _)
  case setReplacedBy i j => exact owns_exec (.inr ⟨i, j, rfl⟩) hk
  all_goals exact owns_exec (.inl rfl) hk

end Group

/-! ## Interleavings -/

section Interleaved

variable {ι : Type} [DecidableEq ι] {req : ι → HttpRequest} {mine : ι → Bool}
  {C : Pool sig.refusable World ι (fun _ => Response) → Label ι → Prop}
  {q : Pool sig.refusable World ι fun _ => Response} {i : ι} {st : sig.refusable.Stmt}
  {k : Except Exn (sig.refusable.Reply st) → Prog sig.refusable Response}

/-- The HTTP requests `req`, one in each thread. -/
abbrev requesting (env : Env) (req : ι → HttpRequest) (w : World) :
    Pool sig.refusable World ι fun _ => Response :=
  answering env (fun i => .http (req i)) w

/-- A key that a request of the group looks up is nobody else's, now and at the start, and the user's if
it is to be registered; a key that another request looks up is not the user's. -/
def Apart (env : Env) (u : Nat) (w : World) (mine : ι → Bool) (req : ι → HttpRequest)
    (q : Pool sig.refusable World ι fun _ => Response) : Label ι → Prop
  | .tick _ => True
  | .run i => ∀ s ∈ q.next? i, ∀ key ∈ ((req i).request env).key?, s.1.asks key = true →
    if mine i = true then
      q.world.foreign env u key = false ∧ w.foreign env u key = false ∧
        (((req i).request env).registers = true →
          q.world.owns env (fun v => decide (v = u)) key = true)
    else q.world.owns env (fun v => decide (v = u)) key = false ∧ key ≠ .user u

instance : (l : Label ι) → Decidable (Apart env u w mine req q l)
  | .tick _ => .isTrue trivial
  | .run i => inferInstanceAs (Decidable (∀ s ∈ q.next? i, ∀ key ∈ ((req i).request env).key?, _ → _))

omit [DecidableEq ι] in
theorem Apart.of_mine (h : Apart env u w mine req q (.run i)) (hp : q.prog i = .call st k)
    (hi : mine i = true) {key : Key} (hkey : ((req i).request env).key? = some key)
    (hasks : st.1.asks key = true) :
    q.world.foreign env u key = false ∧ w.foreign env u key = false ∧
      (((req i).request env).registers = true →
        q.world.owns env (fun v => decide (v = u)) key = true) := by
  have hkeys := h st (Pool.next?_of_call hp) key hkey hasks
  rwa [if_pos hi] at hkeys

omit [DecidableEq ι] in
theorem Apart.of_others (h : Apart env u w mine req q (.run i)) (hp : q.prog i = .call st k)
    (hi : mine i = false) {key : Key} (hkey : ((req i).request env).key? = some key)
    (hasks : st.1.asks key = true) :
    q.world.owns env (fun v => decide (v = u)) key = false ∧ key ≠ .user u := by
  have hkeys := h st (Pool.next?_of_call hp) key hkey hasks
  rwa [if_neg (by simp [hi])] at hkeys

/-- What a thread issues next is addressed as its request is, unless this judges an access token. -/
theorem addressing (hr : Reach (World.machine env).refusable C (requesting env req w) q)
    (hp : q.prog i = .call st k) (hi : ((req i).request env).addressed = true) :
    ((req i).request env).Addresses (q.seen i) st.1 := by
  refine hr.justified_seen (J := fun i h s => ((req i).request env).addressed = true →
    ((req i).request env).Addresses h s) rfl (fun i => ?_) hp hi
  by_cases hi : ((req i).request env).addressed = true
  · exact (justified_submit (addresses_handle env hi)).mono fun h s hs _ => hs
  · exact justified_of_forall _ fun _ _ h => absurd h hi

structure Recalled (q : Pool sig.refusable World ι fun _ => Response) : Prop where
  found : ∀ i hash t, ⟨.findRefreshTokenByHash hash, .ok (some t)⟩ ∈ q.seen i → Stable t q.world
  oldest : ∀ i v now t, ⟨.findOldestActiveByUserId v now, .ok (some t)⟩ ∈ q.seen i →
    t.userId = v ∧ Stable t q.world
  stored : ∀ i data t, ⟨.createRefreshToken data, .ok t⟩ ∈ q.seen i →
    t.userId = data.userId ∧ Stable t q.world
  resets : ∀ i hash t, ⟨.findResetTokenByHash hash, .ok (some t)⟩ ∈ q.seen i → StableReset t q.world

theorem Stable.step {t : RefreshToken} (h : Stable t q.world) (hp : q.prog i = .call st k) :
    Stable t (q.step (World.machine env).refusable (.run i)).world := by
  rw [Pool.world_step hp]
  exact exec_refusable_keeps h h.exec

theorem StableReset.step {t : PasswordResetToken} (h : StableReset t q.world)
    (hp : q.prog i = .call st k) :
    StableReset t (q.step (World.machine env).refusable (.run i)).world := by
  rw [Pool.world_step hp]
  exact exec_refusable_keeps h h.exec

theorem recalled_step (hq : Recalled q) (hdrawn : Drawn q.world)
    (hdrawn' : Drawn (q.step (World.machine env).refusable (.run i)).world)
    (hp : q.prog i = .call st k) : Recalled (q.step (World.machine env).refusable (.run i)) := by
  constructor
  · intro j hash t hx
    rcases Pool.mem_seen_step_ok hp hx with hx | ⟨-, -, hreply, -⟩
    · exact (hq.found j hash t hx).step hp
    · exact (stable_of_mem hdrawn (Table.find?_mem (Except.ok.inj hreply)).1).step hp
  · intro j v now t hx
    rcases Pool.mem_seen_step_ok hp hx with hx | ⟨-, -, hreply, -⟩
    · exact (hq.oldest j v now t hx).imp_right fun h => h.step hp
    · obtain ⟨hmem, hactive⟩ := List.mem_filter.mp (env.oldest.pick_mem (Except.ok.inj hreply))
      refine ⟨?_, (stable_of_mem hdrawn hmem).step hp⟩
      exact of_decide_eq_true (Bool.and_eq_true_iff.mp hactive).1
  · intro j data t hx
    rcases Pool.mem_seen_step_ok hp hx with hx | ⟨-, -, hreply, hworld⟩
    · exact (hq.stored j data t hx).imp_right fun h => h.step hp
    · rcases World.exec_createRefreshToken env q.world data with ⟨e, he⟩ | ⟨table, he, hrows, -⟩
      · have hexec : (World.exec env (.createRefreshToken data) q.world).1 = .ok t := hreply
        rw [he] at hexec
        cases hexec
      · have hexec : (World.exec env (.createRefreshToken data) q.world).1 = .ok t := hreply
        have hafter : (q.step (World.machine env).refusable (.run i)).world =
            (World.exec env (.createRefreshToken data) q.world).2 := hworld
        rw [he] at hexec hafter
        cases hexec
        refine ⟨rfl, stable_of_mem hdrawn' ?_⟩
        rw [hafter]
        simp [hrows]
  · intro j hash t hx
    rcases Pool.mem_seen_step_ok hp hx with hx | ⟨-, -, hreply, -⟩
    · exact (hq.resets j hash t hx).step hp
    · exact (stableReset_of_mem hdrawn (Table.find?_mem (Except.ok.inj hreply)).1).step hp

theorem recalled_reach {acts : ι → Activity}
    (hr : Reach (World.machine env).refusable C (answering env acts w) q) (h : Drawn w) :
    Recalled q := by
  refine hr.invariant_steps (I := Recalled) ?_ (fun q n _ ih _ => ?_) fun q i st k hq ih hc hp => ?_
  · refine ⟨fun _ _ _ hx => ?_, fun _ _ _ _ hx => ?_, fun _ _ _ hx => ?_, fun _ _ _ hx => ?_⟩ <;>
      cases hx
  · exact ⟨ih.found, ih.oldest, ih.stored, ih.resets⟩
  · exact recalled_step ih (fresh_reach hq h).drawn (fresh_reach (.step _ hq hc) h).drawn hp

/-- No thread has read the clock ahead of time. -/
theorem read_le_now {acts : ι → Activity}
    (hr : Reach (World.machine env).refusable C (answering env acts w) q) {now : Int}
    (hread : ⟨.newDate, .ok now⟩ ∈ q.seen i) : now ≤ q.world.now := by
  refine hr.invariant_steps
    (I := fun q => ∀ now, ⟨.newDate, .ok now⟩ ∈ q.seen i → now ≤ q.world.now) ?_ ?_ ?_ now hread
  · intro now hmem
    cases hmem
  · intro q n _ ih _ now hmem
    have hle := ih now hmem
    show now ≤ q.world.now + n
    omega
  · intro q j st k _ ih _ hp now hmem
    have hnow : (q.step (World.machine env).refusable (.run j)).world.now = q.world.now := by
      rw [Pool.world_step hp]
      exact exec_refusable_keeps (I := fun v => v.now = q.world.now) rfl
        (World.exec_now env st.1 q.world)
    rw [hnow]
    rcases Pool.mem_seen_step_ok hp hmem with hold | ⟨-, -, hreply, -⟩
    · exact ih now hold
    · exact Int.le_of_eq (Except.ok.inj hreply).symm

/-- By their lookups, the requests of the group have come to the user only, and the others to other
users; a registration of the group has found its email taken. -/
structure Parted (env : Env) (u : Nat) (mine : ι → Bool) (req : ι → HttpRequest)
    (q : Pool sig.refusable World ι fun _ => Response) : Prop where
  registered : u < q.world.supply
  own : ∀ i v, mine i = true → Reaches ((req i).request env) (q.seen i) v →
    v = u ∨ ((req i).request env).key? = some (.user v)
  other : ∀ i v, mine i = false → Reaches ((req i).request env) (q.seen i) v →
    v ≠ u ∨ ((req i).request env).key? = some (.user v)
  taken : ∀ i email, mine i = true → ((req i).request env).registers = true →
    ((req i).request env).key? = some (.email email) →
      ⟨.findCredentialByEmail email, .ok none⟩ ∉ q.seen i

section Step

variable (hq : Parted env u mine req q) (hC : Apart env u w mine req q (.run i))
  (hp : q.prog i = .call st k)
include hq hC hp

theorem parted_own (ha : ((req i).request env).addressed = true →
      ((req i).request env).Addresses (q.seen i) st.1) {j : ι} {v : Nat} (hj : mine j = true)
    (haddressed : ((req j).request env).addressed = true)
    (hv : Reaches ((req j).request env) ((q.step (World.machine env).refusable (.run i)).seen j) v) :
    v = u ∨ ((req j).request env).key? = some (.user v) := by
  cases hv with
  | named hk => exact .inr hk
  | byEmail email c hk hc hu =>
    rcases Pool.mem_seen_step_ok hp hc with hc | ⟨rfl, rfl, hreply, -⟩
    · exact hq.own j v hj (.byEmail email c hk hc hu)
    · obtain ⟨hclear, -⟩ := hC.of_mine hp hj hk (decide_eq_true rfl)
      obtain ⟨hmem, he⟩ := Table.find?_mem (Except.ok.inj hreply)
      exact .inl (hu.symm.trans (mine_of_email hclear hmem (of_decide_eq_true he)))
  | created email passwordHash roles c hk hc hu =>
    rcases Pool.mem_seen_step_ok hp hc with hc | ⟨rfl, rfl, -, -⟩
    · exact hq.own j v hj (.created email passwordHash roles c hk hc hu)
    · obtain ⟨hregisters, hk', hnone⟩ := ha haddressed
      exact absurd hnone (hq.taken i email hj hregisters hk')
  | byRefreshToken raw t hk ht hu =>
    rcases Pool.mem_seen_step_ok hp ht with ht | ⟨rfl, rfl, hreply, -⟩
    · exact hq.own j v hj (.byRefreshToken raw t hk ht hu)
    · obtain ⟨hclear, -⟩ := hC.of_mine hp hj hk (decide_eq_true rfl)
      obtain ⟨hmem, hh⟩ := Table.find?_mem (Except.ok.inj hreply)
      exact .inl (hu.symm.trans (mine_of_refreshToken hclear hmem (of_decide_eq_true hh)))
  | byResetToken raw t hk ht hu =>
    rcases Pool.mem_seen_step_ok hp ht with ht | ⟨rfl, rfl, hreply, -⟩
    · exact hq.own j v hj (.byResetToken raw t hk ht hu)
    · obtain ⟨hclear, -⟩ := hC.of_mine hp hj hk (decide_eq_true rfl)
      obtain ⟨hmem, hh⟩ := Table.find?_mem (Except.ok.inj hreply)
      exact .inl (hu.symm.trans (mine_of_resetToken hclear hmem (of_decide_eq_true hh)))

theorem parted_other {j : ι} {v : Nat} (hj : mine j = false)
    (hv : Reaches ((req j).request env) ((q.step (World.machine env).refusable (.run i)).seen j) v) :
    v ≠ u ∨ ((req j).request env).key? = some (.user v) := by
  cases hv with
  | named hk => exact .inr hk
  | byEmail email c hk hc hu =>
    rcases Pool.mem_seen_step_ok hp hc with hc | ⟨rfl, rfl, hreply, -⟩
    · exact hq.other j v hj (.byEmail email c hk hc hu)
    · obtain ⟨hnot, -⟩ := hC.of_others hp hj hk (decide_eq_true rfl)
      obtain ⟨hmem, he⟩ := Table.find?_mem (Except.ok.inj hreply)
      refine .inl fun hvu => ?_
      have howner := List.any_eq_false.mp hnot c hmem
      simp [hu, hvu, of_decide_eq_true he] at howner
  | created email passwordHash roles c hk hc hu =>
    rcases Pool.mem_seen_step_ok hp hc with hc | ⟨rfl, rfl, hreply, -⟩
    · exact hq.other j v hj (.created email passwordHash roles c hk hc hu)
    · have hlt := hq.registered
      have hid : c.id = q.world.supply := by
        rcases World.exec_createCredential env q.world email passwordHash roles with
          ⟨e, he⟩ | ⟨table, he, -⟩
        · have hexec : (World.exec env (.createCredential email passwordHash roles) q.world).1 =
              .ok c := hreply
          rw [he] at hexec
          cases hexec
        · have hexec : (World.exec env (.createCredential email passwordHash roles) q.world).1 =
              .ok c := hreply
          rw [he] at hexec
          cases hexec
          rfl
      left
      omega
  | byRefreshToken raw t hk ht hu =>
    rcases Pool.mem_seen_step_ok hp ht with ht | ⟨rfl, rfl, hreply, -⟩
    · exact hq.other j v hj (.byRefreshToken raw t hk ht hu)
    · obtain ⟨hnot, -⟩ := hC.of_others hp hj hk (decide_eq_true rfl)
      obtain ⟨hmem, hh⟩ := Table.find?_mem (Except.ok.inj hreply)
      refine .inl fun hvu => ?_
      have howner := List.any_eq_false.mp hnot t hmem
      simp [hu, hvu, of_decide_eq_true hh] at howner
  | byResetToken raw t hk ht hu =>
    rcases Pool.mem_seen_step_ok hp ht with ht | ⟨rfl, rfl, hreply, -⟩
    · exact hq.other j v hj (.byResetToken raw t hk ht hu)
    · obtain ⟨hnot, -⟩ := hC.of_others hp hj hk (decide_eq_true rfl)
      obtain ⟨hmem, hh⟩ := Table.find?_mem (Except.ok.inj hreply)
      refine .inl fun hvu => ?_
      have howner := List.any_eq_false.mp hnot t hmem
      simp [hu, hvu, of_decide_eq_true hh] at howner

theorem parted_taken {j : ι} {email : String} (hj : mine j = true)
    (hregisters : ((req j).request env).registers = true)
    (hk : ((req j).request env).key? = some (.email email)) :
    ⟨.findCredentialByEmail email, .ok none⟩ ∉
      (q.step (World.machine env).refusable (.run i)).seen j := by
  intro hx
  rcases Pool.mem_seen_step_ok hp hx with hx | ⟨rfl, rfl, hreply, -⟩
  · exact hq.taken j email hj hregisters hk hx
  · obtain ⟨-, -, hown⟩ := hC.of_mine hp hj hk (decide_eq_true rfl)
    obtain ⟨c, hc, hp⟩ := List.any_eq_true.mp (hown hregisters)
    have hnone := Table.find?_none (Except.ok.inj hreply) c hc
    simp only [Bool.and_eq_true] at hp
    rw [hp.2] at hnone
    cases hnone

theorem parted_step (ha : ((req i).request env).addressed = true →
      ((req i).request env).Addresses (q.seen i) st.1)
    (hmine : ∀ j, mine j = true → ((req j).request env).addressed = true) :
    Parted env u mine req (q.step (World.machine env).refusable (.run i)) := by
  refine ⟨?_, fun j v hj hv => parted_own hq hC hp ha hj (hmine j hj) hv,
    fun j v hj hv => parted_other hq hC hp hj hv,
    fun j email hj hregisters hk => parted_taken hq hC hp hj hregisters hk⟩
  rw [Pool.world_step hp]
  exact exec_refusable_keeps (I := fun w => u < w.supply) hq.registered
    (Nat.lt_of_lt_of_le hq.registered (World.exec_supply env st.1 q.world))

end Step

/-- A raw token in hand has been drawn in the run, and no reset token has its digest. -/
structure Handed (w : World) (q : Pool sig.refusable World ι fun _ => Response) : Prop where
  later : w.supply ≤ q.world.supply
  drawn : ∀ i raw, inHand q i = some raw → w.supply ≤ raw
  unused : ∀ i raw, inHand q i = some raw →
    ∀ t ∈ q.world.passwordResetTokens.rows, t.tokenHash.preimage ≠ raw

theorem handed_step (hI : Handed w q) (hF : Fresh q) (hp : q.prog i = .call st k)
    (ha : tokenDraw.allowed (inHand q i) st.1) :
    Handed w (q.step (World.machine env).refusable (.run i)) := by
  constructor
  · rw [Pool.world_step hp]
    exact exec_refusable_keeps (I := fun v => w.supply ≤ v.supply) hI.later
      (Nat.le_trans hI.later (World.exec_supply env st.1 q.world))
  · intro j raw hraw
    rcases inHand_step hF hp ha hraw with ⟨hj, -⟩ | ⟨rfl, -, -⟩
    · exact hI.drawn j raw hj
    · exact hI.later
  · intro j raw hraw
    have hold : ∀ t ∈ q.world.passwordResetTokens.rows, t.tokenHash.preimage ≠ raw := by
      intro t ht
      rcases inHand_step hF hp ha hraw with ⟨hj, -⟩ | ⟨rfl, -, -⟩
      · exact hI.unused j raw hj t ht
      · exact Nat.ne_of_lt (hF.drawn.reset_hash_lt t ht)
    rw [Pool.world_step hp]
    refine exec_refusable_keeps
      (I := fun w => ∀ t ∈ w.passwordResetTokens.rows, t.tokenHash.preimage ≠ raw) hold fun t' ht' => ?_
    rcases World.exec_resetTokens ht' with ⟨t, ht, hsame, -⟩ | ⟨v, hash, e, hs, rfl, -⟩
    · rw [hsame.2.2.1]
      exact hold t ht
    · rcases inHand_step hF hp ha hraw with ⟨-, hne⟩ | ⟨-, -, rfl⟩
      · rintro rfl
        exact hne v (by rw [hs]; rfl)
      · cases hs

theorem handed_reach {acts : ι → Activity}
    (hr : Reach (World.machine env).refusable C (answering env acts w) q) (h : Drawn w) :
    Handed w q := by
  refine hr.invariant_steps (I := Handed w) ?_ (fun q n _ ih _ => ?_) fun q i st k hq ih _ hp => ?_
  · refine ⟨Nat.le_refl _, ?_, ?_⟩ <;> simp [inHand, Pool.phase, answering, Pool.start]
  · exact ⟨ih.later, ih.drawn, ih.unused⟩
  · exact handed_step ih (fresh_reach hq h) hp (inHand_allowed hq hp)

/-- The supply and the clock that a step of the run meets, in the world of the remainder. -/
def World.carry (run rest : World) : World := { rest with supply := run.supply, now := run.now }

/-- The run, and the world of its remainder. -/
structure Beside (env : Env) (u : Nat) (w : World) (mine : ι → Bool) (req : ι → HttpRequest)
    (q : Pool sig.refusable World ι fun _ => Response) (v : World) : Prop where
  parted : Parted env u mine req q
  own : q.world.own u = v.own u
  roles : q.world.roles = v.roles
  supply : v.supply ≤ q.world.supply
  drawn : Drawn v
  /-- Whoever else is in the remainder was there at the start. -/
  foreign : ∀ key, v.foreign env u key = true → w.foreign env u key = true

theorem drawn_later {supply : Nat} {now : Int} (h : Drawn w) (hs : w.supply ≤ supply) :
    Drawn { w with supply := supply, now := now } :=
  ⟨fun t ht => Nat.lt_of_lt_of_le (h.id_lt t ht) hs, fun t ht => Nat.lt_of_lt_of_le (h.hash_lt t ht) hs,
    h.owner, fun t ht => Nat.lt_of_lt_of_le (h.reset_id_lt t ht) hs,
    fun t ht => Nat.lt_of_lt_of_le (h.reset_hash_lt t ht) hs⟩

/-- Keys that somebody else answers to, in the run or at its start. -/
def Foreign (env : Env) (u : Nat) (w : World) (q : Pool sig.refusable World ι fun _ => Response)
    (key : Key) : Prop :=
  q.world.foreign env u key = true ∨ w.foreign env u key = true

theorem Beside.twins {v : World} (h : Beside env u w mine req q v) (hdrawn : Drawn q.world) :
    Twins env u (Foreign env u w q) q.world (q.world.carry v) :=
  ⟨h.own, h.roles, rfl, rfl, hdrawn, drawn_later h.drawn h.supply, fun _ => .inl,
    fun key hk => .inr (h.foreign key hk)⟩

theorem addressed_or_validates (env : Env) (x : HttpRequest) :
    (x.request env).addressed = true ∨ (x.request env).validates = true := by
  obtain ⟨headers, ip, route⟩ := x
  cases route
  case validateToken | introspect => exact .inr rfl
  all_goals exact .inl rfl

section Unwind

variable {v : World}
  (hr : Reach (World.machine env).refusable (Apart env u w mine req) (requesting env req w) q)
  (hw : Drawn w) (h : Beside env u w mine req q v) (hC : Apart env u w mine req q (.run i))
  (hp : q.prog i = .call st k)
include hr hw h hC hp

/-- What another request does to the user's rows. -/
theorem own_ignores (hi : mine i = false) : (World.exec env st.1 q.world).2.own u = q.world.own u := by
  rcases addressed_or_validates env (req i) with haddressed | hvalidates
  · have hother : ∀ v, Reaches ((req i).request env) (q.seen i) v → v ≠ u := by
      intro v hv
      rcases h.parted.other i v hi hv with hne | hk
      · exact hne
      · obtain ⟨-, hne⟩ := hC.of_others hp hi hk rfl
        rintro rfl
        exact hne rfl
    have hrecalled := recalled_reach hr hw
    refine own_addressed (addressing hr hp haddressed) h.parted.registered hother ?_ ?_ ?_
    · intro id hk hasks t ht hid hu
      obtain ⟨hnot, -⟩ := hC.of_others hp hi hk hasks
      have howner := List.any_eq_false.mp hnot t ht
      simp [hu, hid] at howner
    · intro t ht
      cases ht with
      | found raw hk ht =>
        have huser := hother t.userId (.byRefreshToken raw t hk ht rfl)
        intro t' ht' hid
        rw [(hrecalled.found i _ t ht).2 t' ht' hid]
        exact huser
      | oldest v' now hv ht =>
        obtain ⟨huser, hstable⟩ := hrecalled.oldest i v' now t ht
        intro t' ht' hid
        rw [hstable.2 t' ht' hid, huser]
        exact hother v' hv
      | stored data hv ht =>
        obtain ⟨huser, hstable⟩ := hrecalled.stored i data t ht
        intro t' ht' hid
        rw [hstable.2 t' ht' hid, huser]
        exact hother _ hv
    · rintro id ⟨raw, t, hk, ht, rfl⟩ t' ht' hid
      rw [(hrecalled.resets i _ t ht).2 t' ht' hid]
      exact hother t.userId (.byResetToken raw t hk ht rfl)
  · have huses : (q.prog i).Uses fun s : Stmt × Option Exn =>
        ∀ v : World, (World.exec env s.1 v).2 = v :=
      hr.uses (uses_submit (S := sig) (reads_validates hvalidates))
    rw [hp] at huses
    rw [huses.1]

/-- A step of another request. -/
theorem beside_ignores (hi : mine i = false)
    (hmine : ∀ j, mine j = true → ((req j).request env).addressed = true) :
    Beside env u w mine req (q.step (World.machine env).refusable (.run i)) v := by
  have hafter : ((World.machine env).refusable.exec st q.world).2.own u = q.world.own u ∧
      ((World.machine env).refusable.exec st q.world).2.roles = q.world.roles ∧
      q.world.supply ≤ ((World.machine env).refusable.exec st q.world).2.supply :=
    exec_refusable_keeps (I := fun x : World => x.own u = q.world.own u ∧
      x.roles = q.world.roles ∧ q.world.supply ≤ x.supply) ⟨rfl, rfl, Nat.le_refl _⟩
      ⟨own_ignores hr hw h hC hp hi, World.exec_roles env st.1 q.world,
        World.exec_supply env st.1 q.world⟩
  obtain ⟨hown, hroles, hsupply⟩ := hafter
  refine ⟨parted_step h.parted hC hp (addressing hr hp) hmine, ?_, ?_, ?_, h.drawn, h.foreign⟩
  · rw [Pool.world_step hp, hown, h.own]
  · rw [Pool.world_step hp, hroles, h.roles]
  · rw [Pool.world_step hp]
    exact Nat.le_trans h.supply hsupply

omit hC in
/-- What a request is about to insert is new, in the run and in the remainder. -/
theorem unused_inserts {tokenHash : TokenHash} {v' : Nat} (hs : st.1.inserts? = some (tokenHash, v')) :
    Unused tokenHash q.world ∧ Unused tokenHash (q.world.carry v) := by
  have hF := fresh_reach hr hw
  have hI := handed_reach hr hw
  obtain ⟨raw, hraw, rfl⟩ := Option.map_eq_some_iff.mp (inHand_allowed hr hp _ _ hs)
  have hne : ∀ hash : TokenHash, hash.preimage ≠ raw → hash ≠ hashToken raw := by
    rintro hash hne rfl
    exact hne rfl
  have hown := h.own
  have hstart := hI.drawn i raw hraw
  refine ⟨⟨hF.hand_lt i raw hraw, fun t ht => hne _ (hF.unused i raw hraw t ht),
    fun t ht => hne _ (hI.unused i raw hraw t ht)⟩, hF.hand_lt i raw hraw, fun t ht => ?_, fun t ht => ?_⟩
  · by_cases hu : t.userId = u
    · have hmem : t ∈ (v.own u).refreshTokens := mem_own_refreshTokens.mpr ⟨ht, hu⟩
      rw [← hown] at hmem
      exact hne _ (hF.unused i raw hraw t (mem_own_refreshTokens.mp hmem).1)
    · intro hash
      have hforeign : v.foreign env u (.refreshToken raw) = true :=
        List.any_eq_true.mpr ⟨t, ht, by simp [hu, hash]⟩
      obtain ⟨t₀, ht₀, howner⟩ := List.any_eq_true.mp (h.foreign _ hforeign)
      simp only [Bool.and_eq_true, decide_eq_true_eq] at howner
      have hlt := hw.hash_lt t₀ ht₀
      rw [howner.2] at hlt
      exact absurd hlt (Nat.not_lt.mpr hstart)
  · by_cases hu : t.userId = u
    · have hmem : t ∈ (v.own u).passwordResetTokens := mem_own_resetTokens.mpr ⟨ht, hu⟩
      rw [← hown] at hmem
      exact hne _ (hI.unused i raw hraw t (mem_own_resetTokens.mp hmem).1)
    · intro hash
      have hforeign : v.foreign env u (.resetToken raw) = true :=
        List.any_eq_true.mpr ⟨t, ht, by simp [hu, hash]⟩
      obtain ⟨t₀, ht₀, howner⟩ := List.any_eq_true.mp (h.foreign _ hforeign)
      simp only [Bool.and_eq_true, decide_eq_true_eq] at howner
      have hlt := hw.reset_hash_lt t₀ ht₀
      rw [howner.2] at hlt
      exact absurd hlt (Nat.not_lt.mpr hstart)

/-- A statement of the group, in the world of the run and in that of the remainder. -/
theorem twins_group (hi : mine i = true)
    (hmine : ∀ j, mine j = true → ((req j).request env).addressed = true) :
    ((World.exec env st.1 q.world).1 = (World.exec env st.1 (q.world.carry v)).1 ∧
      Twins env u (Foreign env u w q) (World.exec env st.1 q.world).2
        (World.exec env st.1 (q.world.carry v)).2) ∧
      ∀ key, (World.exec env st.1 (q.world.carry v)).2.foreign env u key = true →
        (q.world.carry v).foreign env u key = true := by
  have htwins := h.twins (fresh_reach hr hw).drawn
  have ha := addressing hr hp (hmine i hi)
  have hclear : ∀ key, ((req i).request env).key? = some key → st.1.asks key = true →
      ¬ Foreign env u w q key := by
    intro key hk hasks
    obtain ⟨hnow, hstart, -⟩ := hC.of_mine hp hi hk hasks
    rintro (hf | hf)
    · rw [hnow] at hf
      cases hf
    · rw [hstart] at hf
      cases hf
  have hreach : ∀ v, Reaches ((req i).request env) (q.seen i) v → ¬ Foreign env u w q (.user v) := by
    intro v hv
    rcases h.parted.own i v hi hv with rfl | hk
    · simp [Foreign]
    · exact hclear _ hk rfl
  have hcreate : ∀ email hash roles, st.1 ≠ .createCredential email hash roles := by
    intro email hash roles hst
    rw [hst] at ha
    obtain ⟨hregisters, hk, hnone⟩ := ha
    exact h.parted.taken i email hi hregisters hk hnone
  refine ⟨twins_addressed htwins ha hreach hclear hcreate fun tokenHash v' hinsert => ?_,
    fun key hk => foreign_addressed htwins ha hreach hcreate hk⟩
  exact unused_inserts hr hw h hp hinsert

end Unwind

/-- The run of all requests and the remainder keep beside each other. -/
theorem unwinding_beside (hw : Drawn w)
    (hmine : ∀ j, mine j = true → ((req j).request env).addressed = true) :
    Unwinding (World.machine env).refusable World.carry mine (Apart env u w mine req)
      (requesting env req w) (Beside env u w mine req) := by
  constructor
  · intro q v n _ h
    exact ⟨⟨h.parted.registered, h.parted.own, h.parted.other, h.parted.taken⟩, h.own, h.roles, h.supply,
      h.drawn, h.foreign⟩
  · intro q v i st k hr h hC hi hp
    exact beside_ignores hr hw h hC hp hi hmine
  · intro q v i st k hr h hC hi hp
    obtain ⟨⟨hreply, -⟩, -⟩ := twins_group hr hw h hC hp hi hmine
    obtain ⟨s, refused⟩ := st
    cases refused with
    | none => exact hreply
    | some e => rfl
  · intro q v i st k hr h hC hi hp
    obtain ⟨⟨-, htwins⟩, hforeign⟩ := twins_group hr hw h hC hp hi hmine
    have hparted := parted_step h.parted hC hp (addressing hr hp) hmine
    obtain ⟨s, refused⟩ := st
    cases refused with
    | none =>
      have hworld : (q.step (World.machine env).refusable (.run i)).world =
          (World.exec env s q.world).2 := Pool.world_step hp
      refine ⟨hparted, ?_, ?_, ?_, htwins.drawn', fun key hk => h.foreign key (hforeign key hk)⟩
      · rw [hworld]
        exact htwins.own
      · rw [hworld]
        exact htwins.roles
      · rw [hworld]
        exact htwins.supply.ge
    | some e =>
      have hworld : (q.step (World.machine env).refusable (.run i)).world = q.world :=
        Pool.world_step hp
      refine ⟨hparted, ?_, ?_, ?_, drawn_later h.drawn h.supply, h.foreign⟩
      · rw [hworld]
        exact h.own
      · rw [hworld]
        exact h.roles
      · rw [hworld]
        exact Nat.le_refl _

theorem beside_start (hw : Drawn w) (hu : u < w.supply) :
    Beside env u w mine req (requesting env req w) w := by
  have hnamed : ∀ i v, Reaches ((req i).request env) ((requesting env req w).seen i) v →
      ((req i).request env).key? = some (.user v) := by
    intro i v hv
    cases hv with
    | named hk => exact hk
    | byEmail email c hk hc => cases hc
    | created email hash roles c hk hc => cases hc
    | byRefreshToken raw t hk ht => cases ht
    | byResetToken raw t hk ht => cases ht
  refine ⟨⟨hu, fun i v _ hv => .inr (hnamed i v hv), fun i v _ hv => .inr (hnamed i v hv),
    fun i email _ _ _ hx => ?_⟩, rfl, rfl, Nat.le_refl _, hw, fun key hk => hk⟩
  cases hx

theorem Attained.credential_id_lt (h : Attained env w) : ∀ c ∈ w.credentials.rows, c.id < w.supply := by
  obtain ⟨roles, supply, now, κ, _, acts, q, hr, rfl⟩ := h
  refine hr.invariant_steps (I := fun q => ∀ c ∈ q.world.credentials.rows, c.id < q.world.supply) ?_
    (fun q n _ ih _ => ?_) fun q i st k _ ih _ hp => ?_
  · simp [answering, Pool.start, World.initial]
  · exact ih
  · rw [Pool.world_step hp]
    exact exec_refusable_keeps (I := fun w => ∀ c ∈ w.credentials.rows, c.id < w.supply) ih
      fun c hc => exec_credential_id hc ih

/-- In any interleaving of requests that go by keys of their own, the requests of one user end, and
leave the user's rows, as they do without the others. -/
theorem interleaved_users_do_not_interfere (env : Env) (w : World) (u : Nat) (req : ι → HttpRequest)
    (mine : ι → Bool) (ls : List (Label ι)) (hw : Attained env w) (hu : w.hasUser u = true)
    (hmine : ∀ i, mine i = true → ((req i).request env).validates = false)
    (hapart : Transition.Along (fun q l => q.step (World.machine env).refusable l)
      (Apart env u w mine req) (requesting env req w) ls) :
    let run := (requesting env req w).runs (World.machine env).refusable ls
    let rest := (requesting env req w).alone (World.machine env).refusable World.carry mine
      (requesting env req w) ls
    (∀ i, mine i = true → rest.result? i = run.result? i) ∧ rest.world.own u = run.world.own u := by
  intro run rest
  obtain ⟨c, hc, hid⟩ := List.any_eq_true.mp hu
  have hlt := hw.credential_id_lt c hc
  rw [of_decide_eq_true hid] at hlt
  have haddressed : ∀ i, mine i = true → ((req i).request env).addressed = true := by
    intro i hi
    rcases addressed_or_validates env (req i) with h | h
    · exact h
    · rw [hmine i hi] at h
      cases h
  have halike : Pool.Alike mine (Beside env u w mine req) run rest :=
    (unwinding_beside hw.drawn haddressed).alone .refl
      ⟨fun _ _ => rfl, beside_start hw.drawn hlt⟩ hapart
  refine ⟨fun i hi => ?_, halike.world.own.symm⟩
  unfold Pool.result?
  rw [halike.prog i hi]

/-- The registered user logs in and rotates the first session, while somebody else registers. -/
theorem interleaved_users_do_not_interfere_two :
    let w := ((answering Env.plain (fun _ : Unit => .http (registration none))
      (World.initial .empty 0 0)).runs (World.machine Env.plain).refusable
        (List.replicate 13 (.run ()))).world
    let headers : Headers := ⟨none, none, none, none, .token .malformed⟩
    let req : Option Bool → HttpRequest
      | none => ⟨headers, none, .login "a@x" "p"⟩
      | some true => ⟨headers, none, .refreshToken 3⟩
      | some false => ⟨headers, none, .register "b@x" "q"⟩
    let mine : Option Bool → Bool := fun i => i ≠ some false
    let ls := (List.replicate 16 [.run none, .run (some false), .tick 1, .run (some true)]).flatten
    let run := (requesting Env.plain req w).runs (World.machine Env.plain).refusable ls
    let rest := (requesting Env.plain req w).alone (World.machine Env.plain).refusable World.carry mine
      (requesting Env.plain req w) ls
    (run.world.own 1).refreshTokens.length = 3 ∧ run.world.credentials.rows.length = 2 ∧
      rest.world.credentials.rows.length = 1 ∧
      (∀ i, mine i = true → rest.result? i = run.result? i) ∧ rest.world.own 1 = run.world.own 1 := by
  intro w headers req mine ls run rest
  have hw : Attained Env.plain w := by
    refine ⟨.empty, 0, 0, Unit, inferInstance, fun _ => .http (registration none), _, ?_, rfl⟩
    exact Reach.of_checked (by decide +kernel)
  have hresult := interleaved_users_do_not_interfere Env.plain w 1 req mine ls hw (by decide +kernel)
    (fun i _ => by rcases i with _ | _ | _ <;> rfl) (by decide +kernel)
  exact ⟨by decide +kernel, by decide +kernel, by decide +kernel, hresult⟩

end Interleaved

end Auth
