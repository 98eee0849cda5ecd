import AuthService.Preservation
import Mathlib.Logic.Relation

/-!
# AuthService.Reuse

Reuse detection in `refreshTokens`, over runs of whole requests.

* `Linked`  — rotation links: only a revoked token has one, and it leads to a token of the same user.
* `Sealed`  — a set of token ids that is closed under rotation links and has no active member; no
  request ever opens it again.
* `theft_containment` — a token presented twice has its whole rotation family sealed.
* `Explained`, `no_false_alarm` — every revocation is accounted for, so the alarm is only raised by a
  token that was presented before or that something other than its rotation has revoked.
-/

namespace Auth

open Relational Resumption Prog

variable {env : Env} {w : World} {raw : Nat}

/-! ## Rotation links -/

/-- Ids come from the supply; a link is set on revoked tokens only, and leads to the same user. -/
structure Linked (w : World) : Prop where
  id_lt : ∀ t ∈ w.refreshTokens.rows, t.id < w.supply
  revoked : ∀ t ∈ w.refreshTokens.rows, ∀ j, t.replacedByTokenId = some j → t.revoked = true
  target_lt : ∀ t ∈ w.refreshTokens.rows, ∀ j, t.replacedByTokenId = some j → j < w.supply
  target_user : ∀ t ∈ w.refreshTokens.rows, ∀ t' ∈ w.refreshTokens.rows,
    t.replacedByTokenId = some t'.id → t'.userId = t.userId

/-- Every statement but `setReplacedBy` leaves the links as they are. -/
theorem linked_exec (env : Env) {s : Stmt} (hs : ∀ i j, s ≠ .setReplacedBy i j) (h : Linked w) :
    Linked (World.exec env s w).2 := by
  have hle := World.exec_supply env s w
  have hlink : ∀ t : RefreshToken, (s.onRefreshToken t).replacedByTokenId = t.replacedByTokenId :=
    fun t => Stmt.onRefreshToken_link fun j => hs t.id j
  constructor
  · intro t' ht'
    rcases World.exec_source ht' with ⟨t, ht, rfl⟩ | ⟨data, rfl, rfl, hsupply, -⟩
    · have := h.id_lt t ht
      rw [(s.evolves_onRefreshToken t).id_eq]
      omega
    · rw [hsupply]
      exact Nat.lt_succ_self _
  · intro t' ht' j hj
    rcases World.exec_source ht' with ⟨t, ht, rfl⟩ | ⟨data, rfl, rfl, -⟩
    · exact (s.evolves_onRefreshToken t).revoked (h.revoked t ht j ((hlink t).symm.trans hj))
    · cases hj
  · intro t' ht' j hj
    rcases World.exec_source ht' with ⟨t, ht, rfl⟩ | ⟨data, rfl, rfl, -⟩
    · have := h.target_lt t ht j ((hlink t).symm.trans hj)
      omega
    · cases hj
  · intro t' ht' u' hu' hj
    rcases World.exec_source ht' with ⟨t, ht, rfl⟩ | ⟨data, rfl, rfl, -⟩
    · rw [hlink] at hj
      rcases World.exec_source hu' with ⟨u, hu, rfl⟩ | ⟨data, rfl, rfl, -⟩
      · rw [(s.evolves_onRefreshToken u).id_eq] at hj
        rw [(s.evolves_onRefreshToken u).userId_eq, (s.evolves_onRefreshToken t).userId_eq]
        exact h.target_user t ht u hu hj
      · -- the new row's id was not given out when the link was set
        exact absurd (h.target_lt t ht _ hj) (Nat.lt_irrefl _)
    · cases hj

/-- `setReplacedBy` writes the link of one row. -/
theorem exec_setReplacedBy_row {i j : Nat} {t' : RefreshToken}
    (ht' : t' ∈ (World.exec env (.setReplacedBy i j) w).2.refreshTokens.rows) :
    ∃ t ∈ w.refreshTokens.rows, t.Evolves t' ∧
      (t'.replacedByTokenId = t.replacedByTokenId ∨ t.id = i ∧ t'.replacedByTokenId = some j) := by
  obtain ⟨t, ht, rfl⟩ := Table.mem_updateWhere.mp ht'
  refine ⟨t, ht, RefreshToken.evolves_patchIf (fun t => t.evolves_setReplacedBy _) _ t, ?_⟩
  unfold Table.patchIf
  by_cases hid : t.id = i
  · rw [if_pos (decide_eq_true hid)]
    exact .inr ⟨hid, rfl⟩
  · rw [if_neg (by simpa using hid)]
    exact .inl rfl

/-- Linking a revoked row to a row of the same user. -/
theorem linked_setReplacedBy {i : Nat} {r : RefreshToken} (hr : r ∈ w.refreshTokens.rows)
    (hi : ∀ t ∈ w.refreshTokens.rows, t.id = i → t.revoked = true ∧ t.userId = r.userId)
    (h : Linked w) : Linked (World.exec env (.setReplacedBy i r.id) w).2 := by
  constructor
  · intro t' ht'
    obtain ⟨t, ht, hev, -⟩ := exec_setReplacedBy_row ht'
    rw [hev.id_eq]
    exact h.id_lt t ht
  · intro t' ht' j hj
    obtain ⟨t, ht, hev, hlink | ⟨hid, -⟩⟩ := exec_setReplacedBy_row ht'
    · exact hev.revoked (h.revoked t ht j (hlink.symm.trans hj))
    · exact hev.revoked (hi t ht hid).1
  · intro t' ht' j hj
    obtain ⟨t, ht, -, hlink | ⟨-, hlink⟩⟩ := exec_setReplacedBy_row ht'
    · exact h.target_lt t ht j (hlink.symm.trans hj)
    · cases hlink.symm.trans hj
      exact h.id_lt r hr
  · intro t' ht' u' hu' hj
    obtain ⟨u, hu, hevu, -⟩ := exec_setReplacedBy_row hu'
    obtain ⟨t, ht, hev, hlink | ⟨hid, hlink⟩⟩ := exec_setReplacedBy_row ht'
    · rw [hevu.userId_eq, hev.userId_eq]
      refine h.target_user t ht u hu ?_
      rw [← hlink, hj, hevu.id_eq]
    · have hur : u = r := by
        refine Table.eq_of_key hu hr ?_
        have := hj.symm.trans hlink
        rw [hevu.id_eq] at this
        exact Option.some.inj this
      rw [hevu.userId_eq, hev.userId_eq, hur, (hi t ht hid).2]

/-- Just before a rotation sets its link: the row `r` is new, and the row with id `i` is spent. -/
structure Linkable (w : World) (i : Nat) (r : RefreshToken) : Prop where
  inserted : r ∈ w.refreshTokens.rows
  issuedAt_eq : r.issuedAt = w.now
  unlinked : ∀ t ∈ w.refreshTokens.rows, t.replacedByTokenId ≠ some r.id
  spent : ∀ t ∈ w.refreshTokens.rows, t.id = i → t.revoked = true ∧ t.userId = r.userId ∧ i < r.id

/-- The state after the insert of a rotation, where `w₁` is the state after the revocation. -/
theorem linkable_of_insert {w₁ w₂ : World} {t : RefreshToken} {data : NewRefreshToken}
    (hL : Linked w₁) (ht : t.id < w₁.supply)
    (hspent : ∀ t' ∈ w₁.refreshTokens.rows, t'.id = t.id → t'.revoked = true ∧ t'.userId = t.userId)
    (huser : data.userId = t.userId) (hissued : data.issuedAt = w₁.now)
    (hexec : World.exec env (.createRefreshToken data) { w₁ with supply := w₁.supply + 1 } =
      (.ok (World.newRefreshToken (w₁.supply + 1) data), w₂))
    (hmem : World.newRefreshToken (w₁.supply + 1) data ∈ w₂.refreshTokens.rows) :
    Linkable w₂ t.id (World.newRefreshToken (w₁.supply + 1) data) := by
  have hw₂ : w₂ = (World.exec env (.createRefreshToken data)
      { w₁ with supply := w₁.supply + 1 }).2 := by rw [hexec]
  have hsource : ∀ t' ∈ w₂.refreshTokens.rows,
      t' ∈ w₁.refreshTokens.rows ∨ t' = World.newRefreshToken (w₁.supply + 1) data := by
    rw [hw₂]
    intro t' ht'
    rcases World.exec_source ht' with ⟨t₀, ht₀, hsame⟩ | ⟨data', hs, hnew, -⟩
    · exact .inl (hsame ▸ ht₀)
    · cases hs
      exact .inr hnew
  refine ⟨hmem, ?_, fun t' ht' hlink => ?_, fun t' ht' hid => ?_⟩
  · rw [hw₂, World.exec_now]
    exact hissued
  · rcases hsource t' ht' with ht' | rfl
    · have hlt := hL.target_lt t' ht' _ hlink
      have hid : (World.newRefreshToken (w₁.supply + 1) data).id = w₁.supply + 1 := rfl
      omega
    · cases hlink
  · have hnew : (World.newRefreshToken (w₁.supply + 1) data).id = w₁.supply + 1 := rfl
    rcases hsource t' ht' with ht' | rfl
    · obtain ⟨hrev, hu⟩ := hspent t' ht' hid
      refine ⟨hrev, hu.trans huser.symm, ?_⟩
      omega
    · omega

/-- What a property needs to survive a rotation. -/
theorem rotate_keeps {I : World → Prop} {t : RefreshToken} {ipAddress userAgent : Option String}
    (hplain : ∀ s w, s.plain = true → I w → I (World.exec env s w).2)
    (hcreate : ∀ data w, data.tokenHash.preimage < w.supply → data.issuedAt = w.now → I w →
      I (World.exec env (.createRefreshToken data) w).2)
    (hlink : ∀ i r w, Linkable w i r → I w → I (World.exec env (.setReplacedBy i r.id) w).2)
    (hL : Linked w) (ht : t ∈ w.refreshTokens.rows) (h : I w) :
    I ((TokenService.rotate env t ipAddress userAgent).run (World.machine env) w).2 := by
  obtain ⟨w₁, hw₁, hcases⟩ := run_rotate env t ipAddress userAgent w
  have h₁ : I { w₁ with supply := w₁.supply + 1 } := by
    rw [hw₁]
    exact hplain .uuidv4 _ rfl (hplain _ w rfl h)
  rcases hcases with ⟨_, e, -, -, -, hrun⟩ | ⟨data, w₂, result, huser, hissued, hhash, hexec, hmem, -, hrun⟩
  · rw [hrun]
    exact h₁
  · rw [hrun]
    have h₂ : I w₂ := by
      have hnew := hcreate data { w₁ with supply := w₁.supply + 1 }
        (by rw [hhash]; exact Nat.lt_succ_self _) hissued h₁
      rwa [hexec] at hnew
    have hL₁ : Linked w₁ := by
      rw [hw₁]
      exact linked_exec env (by simp) hL
    have hlt : t.id < w₁.supply := by
      rw [hw₁]
      exact Nat.lt_of_lt_of_le (hL.id_lt t ht) (World.exec_supply env _ w)
    refine hplain _ _ rfl (hlink t.id _ w₂ (linkable_of_insert hL₁ hlt ?_ huser hissued hexec hmem) h₂)
    -- the revocation has reached the row with the old token's id, and it is still the user's
    rw [hw₁]
    intro t' ht' hid
    refine ⟨World.exec_revokeToken ht' hid, ?_⟩
    rcases World.exec_source ht' with ⟨t₀, ht₀, rfl⟩ | ⟨data', hs, -⟩
    · have hev := (Stmt.revokeToken t.id "rotated" w.now).evolves_onRefreshToken t₀
      rw [hev.userId_eq, Table.eq_of_key ht₀ ht (hev.id_eq.symm.trans hid)]
    · cases hs

theorem not_setReplacedBy_of_plain {s : Stmt} (hs : s.plain = true) (i j : Nat) :
    s ≠ .setReplacedBy i j := by
  rintro rfl
  cases hs

/-- Links are set by rotations alone. -/
theorem keeping_linked (env : Env) : Keeping env Linked where
  exec _ _ hs h := linked_exec env (not_setReplacedBy_of_plain hs) h
  createCredential _ _ _ _ _ h := linked_exec env (by simp) h
  createRefreshToken _ _ _ _ _ h := linked_exec env (by simp) h
  rotate _ _ ht _ _ h := rotate_keeps
    (fun _ _ hs h => linked_exec env (not_setReplacedBy_of_plain hs) h)
    (fun _ _ _ _ h => linked_exec env (by simp) h)
    (fun _ _ _ hlink h => linked_setReplacedBy hlink.inserted
      (fun t ht hid => ⟨(hlink.spent t ht hid).1, (hlink.spent t ht hid).2.1⟩) h) h ht h
  createPasswordResetToken _ _ _ _ _ h := linked_exec env (by simp) h
  pass _ _ h := ⟨h.id_lt, h.revoked, h.target_lt, h.target_user⟩

theorem linked_serve (r : Request) (h : Linked w) : Linked (serve env r w).2 :=
  (keeping_linked env).serve r h

theorem linked_act (a : Action) (h : Linked w) : Linked (act env w a) := (keeping_linked env).act a h

theorem linked_initial (roles : Table Role) (supply : Nat) (now : Int) :
    Linked (World.initial roles supply now) := by
  constructor <;> simp [World.initial]

theorem Reachable.linked (h : Reachable env w) : Linked w :=
  h.keeps (keeping_linked env) linked_initial

/-! ## Sealed sets of tokens -/

/-- The tokens with ids in `F` are revoked or expired, and their links stay in `F`. -/
structure Sealed (w : World) (F : Nat → Prop) : Prop where
  old : ∀ i, F i → i < w.supply
  dead : ∀ t ∈ w.refreshTokens.rows, F t.id → t.revoked = true ∨ t.expiresAt < w.now
  closed : ∀ t ∈ w.refreshTokens.rows, F t.id → ∀ j, t.replacedByTokenId = some j → F j

variable {F : Nat → Prop}

/-- No statement opens a sealed set, as long as it links no member. -/
theorem sealed_exec {s : Stmt} (hs : ∀ i j, s = .setReplacedBy i j → ¬ F i) (h : Sealed w F) :
    Sealed (World.exec env s w).2 F := by
  have hle := World.exec_supply env s w
  constructor
  · intro i hi
    have := h.old i hi
    omega
  · intro t' ht' hF
    rcases World.exec_source ht' with ⟨t, ht, rfl⟩ | ⟨data, rfl, rfl, -⟩
    · have hev := s.evolves_onRefreshToken t
      rw [hev.id_eq] at hF
      rw [hev.expiresAt_eq, World.exec_now]
      exact (h.dead t ht hF).imp_left hev.revoked
    · exact absurd (h.old _ hF) (Nat.lt_irrefl _)
  · intro t' ht' hF j hj
    rcases World.exec_source ht' with ⟨t, ht, rfl⟩ | ⟨data, rfl, rfl, -⟩
    · rw [(s.evolves_onRefreshToken t).id_eq] at hF
      refine h.closed t ht hF j ?_
      rw [← hj]
      exact (Stmt.onRefreshToken_link fun j hset => hs t.id j hset hF).symm
    · cases hj

/-- A rotation links the token it found, which is no member: members are dead. -/
theorem keeping_sealed (env : Env) (F : Nat → Prop) : Keeping env fun w => Sealed w F where
  exec s _ hs h := sealed_exec (fun i j heq => absurd heq (not_setReplacedBy_of_plain hs i j)) h
  createCredential _ _ _ _ _ h := sealed_exec (by simp) h
  createRefreshToken _ _ _ _ _ h := sealed_exec (by simp) h
  rotate t w ht hrev hexp h := by
    refine run_invariant (I := fun w => Sealed w F) (uses_rotate t none none)
      (fun s w hs hw => sealed_exec ?_ hw) h
    rintro i j rfl hF
    obtain rfl : i = t.id := hs
    rcases h.dead t ht hF with hdead | hdead
    · rw [hrev] at hdead
      cases hdead
    · exact hexp hdead
  createPasswordResetToken _ _ _ _ _ h := sealed_exec (by simp) h
  pass w n h := by
    refine ⟨h.old, fun t ht hF => (h.dead t ht hF).imp_right fun hlt => ?_, h.closed⟩
    have : t.expiresAt < w.now + n := by omega
    exact this

theorem sealed_serve (r : Request) (h : Sealed w F) : Sealed (serve env r w).2 F :=
  (keeping_sealed env F).serve r h

theorem sealed_act (a : Action) (h : Sealed w F) : Sealed (act env w a) F :=
  (keeping_sealed env F).act a h

theorem sealed_runs {as : List Action} (h : Sealed w F) : Sealed (runs env w as) F :=
  (keeping_sealed env F).runs as h

/-- What sealing is for: from a member, the rotation links lead to inactive tokens only. -/
theorem inactive_of_sealed (h : Sealed w F) {t t' : RefreshToken} (ht : t ∈ w.refreshTokens.rows)
    (hF : F t.id)
    (hreach : Relation.ReflTransGen (RefreshToken.ReplacedBy w.refreshTokens) t t') :
    t'.active w.now = false := by
  have hmem : t' ∈ w.refreshTokens.rows ∧ F t'.id := by
    induction hreach with
    | refl => exact ⟨ht, hF⟩
    | tail _ hstep ih =>
      obtain ⟨hb, hc, hlink⟩ := hstep
      exact ⟨hc, h.closed _ hb ih.2 _ hlink⟩
  rcases h.dead t' hmem.1 hmem.2 with hrev | hexp
  · exact RefreshToken.not_active_of_revoked hrev
  · exact RefreshToken.not_active_of_expired (by omega)

/-! ## Containment -/

/-- The rows with the id of `t`, if any, are `t` some updates later and revoked. -/
structure Spent (w : World) (t : RefreshToken) : Prop where
  old : t.id < w.supply
  spent : ∀ t' ∈ w.refreshTokens.rows, t'.id = t.id → t'.tokenHash = t.tokenHash ∧ t'.revoked = true

variable {t : RefreshToken}

theorem spent_exec (env : Env) {s : Stmt} (h : Spent w t) : Spent (World.exec env s w).2 t := by
  refine ⟨Nat.lt_of_lt_of_le h.old (World.exec_supply env s w), fun t' ht' hid => ?_⟩
  rcases World.exec_source ht' with ⟨t₀, ht₀, rfl⟩ | ⟨data, rfl, rfl, -⟩
  · have hev := s.evolves_onRefreshToken t₀
    obtain ⟨hhash, hrev⟩ := h.spent t₀ ht₀ (hev.id_eq.symm.trans hid)
    exact ⟨hev.tokenHash_eq.trans hhash, hev.revoked hrev⟩
  · have hold := h.old
    have hnew : w.supply = t.id := hid
    omega

theorem spent_runs {as : List Action} (h : Spent w t) : Spent (runs env w as) t := by
  refine runs_invariant (I := fun w => Spent w t) (P := fun _ => True) (fun w a hw _ => ?_)
    (fun _ _ => trivial) h
  cases a with
  | request r => exact serve_invariant (I := fun w => Spent w t) (fun s w _ hw => spent_exec env hw) hw
  | pass n => exact ⟨hw.old, hw.spent⟩

theorem spent_supply {n : Nat} (hn : w.supply ≤ n) (h : Spent w t) :
    Spent { w with supply := n } t := ⟨Nat.lt_of_lt_of_le h.old hn, h.spent⟩

theorem spent_rotate {ipAddress userAgent : Option String} (hL : Linked w)
    (ht : t ∈ w.refreshTokens.rows) :
    Spent ((TokenService.rotate env t ipAddress userAgent).run (World.machine env) w).2 t := by
  obtain ⟨w₁, hw₁, hcases⟩ := run_rotate env t ipAddress userAgent w
  have h₁ : Spent w₁ t := by
    subst hw₁
    refine ⟨hL.id_lt t ht, fun t' ht' hid => ⟨?_, World.exec_revokeToken ht' hid⟩⟩
    have hkeeps := World.exec_keeps env (s := .revokeToken t.id "rotated" w.now) rfl ht
    have hev := (Stmt.revokeToken t.id "rotated" w.now).evolves_onRefreshToken t
    rw [Table.eq_of_key ht' hkeeps (hid.trans hev.id_eq.symm)]
    exact hev.tokenHash_eq
  have h₁' := spent_supply (Nat.le_succ _) h₁
  rcases hcases with ⟨_, e, -, -, -, hrun⟩ | ⟨data, w₂, result, -, -, -, hexec, -, -, hrun⟩
  · rw [hrun]
    exact h₁'
  · rw [hrun]
    have h₂ := spent_exec env (s := .createRefreshToken data) h₁'
    rw [hexec] at h₂
    exact spent_exec env (spent_exec env h₂)

/-- The alarm seals every token of the user. -/
theorem sealed_alarm (env : Env) (hL : Linked w) (ht : t ∈ w.refreshTokens.rows) (hh : t.tokenHash = hashToken raw)
    (hrev : t.revoked = true) : ∃ F : Nat → Prop, F t.id ∧ Sealed (serve env (.refreshToken raw) w).2 F := by
  have hL' : Linked (serve env (.refreshToken raw) w).2 := linked_serve _ hL
  rw [serve_refreshToken_error (run_refreshTokens_revoked (presented_of_mem ht hh) hrev)] at hL' ⊢
  have hkeeps := World.exec_keeps env (s := .revokeAllByUserId t.userId "token_reuse_detected" w.now)
    rfl ht
  have hev := (Stmt.revokeAllByUserId t.userId "token_reuse_detected" w.now).evolves_onRefreshToken t
  refine ⟨fun i => i < w.supply ∧ ∀ t' ∈ (World.exec env (.revokeAllByUserId t.userId
    "token_reuse_detected" w.now) w).2.refreshTokens.rows, t'.id = i → t'.userId = t.userId, ?_, ?_⟩
  · refine ⟨hL.id_lt t ht, fun t' ht' hid => ?_⟩
    rw [Table.eq_of_key ht' hkeeps (hid.trans hev.id_eq.symm)]
    exact hev.userId_eq
  · constructor
    · exact fun i hi => hi.1
    · intro t' ht' hF
      have hrow : t' ∈ (World.exec env (.revokeAllByUserId t.userId "token_reuse_detected" w.now)
        w).2.refreshTokens.rows := ht'
      exact .inl (World.exec_revokeAllByUserId hrow (hF.2 t' ht' rfl))
    · intro t' ht' hF j hj
      refine ⟨hL'.target_lt t' ht' j hj, fun u hu hid => ?_⟩
      subst hid
      exact (hL'.target_user t' ht' u hu hj).trans (hF.2 t' ht' rfl)

/-- The first presentation of a token spends it, or finds it dead with everything it leads to. -/
theorem refresh_first (env : Env) (hL : Linked w) (ht : t ∈ w.refreshTokens.rows)
    (hh : t.tokenHash = hashToken raw) :
    (∃ F : Nat → Prop, F t.id ∧ Sealed (serve env (.refreshToken raw) w).2 F) ∨
      Spent (serve env (.refreshToken raw) w).2 t := by
  have hfound := presented_of_mem ht hh
  cases hrev : t.revoked with
  | true => exact .inl (sealed_alarm env hL ht hh hrev)
  | false =>
    by_cases hexp : t.expiresAt < w.now
    · -- expired and never rotated: the token is its whole family
      rw [serve_refreshToken_error (run_refreshTokens_expired hfound hrev hexp)]
      refine .inl ⟨fun i => i = t.id, rfl, ?_, ?_, ?_⟩
      · rintro i rfl
        exact hL.id_lt t ht
      · intro t' ht' hid
        rw [Table.eq_of_key ht' ht hid]
        exact .inr hexp
      · intro t' ht' hid j hj
        rw [Table.eq_of_key ht' ht hid] at hj
        rw [hL.revoked t ht j hj] at hrev
        cases hrev
    · refine .inr (serve_refreshToken_invariant (I := fun w => Spent w t)
        (fun s w _ _ hw => spent_exec env hw) ?_)
      rw [run_refreshTokens_rotates hfound hrev hexp]
      exact spent_rotate hL ht

/-- The second presentation raises the alarm, unless the token's row is gone. -/
theorem refresh_spent (env : Env) (hL : Linked w) (h : Spent w t) (hh : t.tokenHash = hashToken raw) :
    ∃ F : Nat → Prop, F t.id ∧ Sealed (serve env (.refreshToken raw) w).2 F := by
  by_cases hrow : ∃ t' ∈ w.refreshTokens.rows, t'.id = t.id
  · obtain ⟨t', ht', hid⟩ := hrow
    obtain ⟨hhash, hrev⟩ := h.spent t' ht' hid
    obtain ⟨F, hF, hseal⟩ := sealed_alarm env hL ht' (hhash.trans hh) hrev
    exact ⟨F, hid ▸ hF, hseal⟩
  · have hgone : Sealed w fun i => i = t.id := by
      constructor
      · rintro i rfl
        exact h.old
      · exact fun t' ht' hid => absurd ⟨t', ht', hid⟩ hrow
      · exact fun t' ht' hid => absurd ⟨t', ht', hid⟩ hrow
    exact ⟨fun i => i = t.id, rfl, sealed_serve _ hgone⟩

/-- Any run, any token of it: once the token has been presented twice, it and every token that it
leads to through `replacedByTokenId` are inactive for good. -/
theorem theft_containment (env : Env) (roles : Table Role) (supply : Nat) (now : Int)
    (as bs cs : List Action) (t : RefreshToken) (raw : Nat)
    (ht : t ∈ (runs env (World.initial roles supply now) as).refreshTokens.rows)
    (hh : t.tokenHash = hashToken raw) :
    let w := runs env (World.initial roles supply now)
      (as ++ .request (.refreshToken raw) :: (bs ++ .request (.refreshToken raw) :: cs))
    ∀ r ∈ w.refreshTokens.rows, r.id = t.id →
      ∀ r', Relation.ReflTransGen (RefreshToken.ReplacedBy w.refreshTokens) r r' →
        r'.active w.now = false := by
  intro w r hr hid r' hreach
  have hreachable : Reachable env (runs env (World.initial roles supply now) as) := ⟨_, _, _, _, rfl⟩
  have hsealed : ∃ F : Nat → Prop, F t.id ∧ Sealed w F := by
    simp only [w, runs_append, runs_cons]
    generalize runs env (World.initial roles supply now) as = w₁ at ht hreachable
    rcases refresh_first env hreachable.linked ht hh with ⟨F, hF, hseal⟩ | hspent
    · exact ⟨F, hF, sealed_runs (sealed_act _ (sealed_runs hseal))⟩
    · have hL : Linked (runs env (serve env (.refreshToken raw) w₁).2 bs) :=
        ((hreachable.after [.request (.refreshToken raw)]).after bs).linked
      obtain ⟨F, hF, hseal⟩ := refresh_spent env hL (spent_runs hspent) hh
      exact ⟨F, hF, sealed_runs hseal⟩
  obtain ⟨F, hF, hseal⟩ := hsealed
  exact inactive_of_sealed hseal hr (hid ▸ hF) hreach

/-- The registered user's token is presented twice. -/
def stolen : World :=
  runs Env.plain (World.initial .empty 0 0) ([.request (.register "a@x" "p" none none)] ++
    .request (.refreshToken 3) :: ([] ++ .request (.refreshToken 3) :: []))

theorem theft_containment_registered :
    ∃ r r', RefreshToken.ReplacedBy stolen.refreshTokens r r' ∧ r'.active stolen.now = false := by
  let issued : RefreshToken :=
    ⟨4, 1, ⟨3⟩, 0, 604800000, false, none, none, some "|", none, none, none, none⟩
  let r : RefreshToken := { issued with
    revoked := true, revokedAt := some 0, revocationReason := some "rotated",
    replacedByTokenId := some 6 }
  let r' : RefreshToken :=
    ⟨6, 1, ⟨5⟩, 0, 604800000, true, some 0, some "token_reuse_detected", some "|", none, none, some 0,
      none⟩
  have hlink : RefreshToken.ReplacedBy stolen.refreshTokens r r' :=
    ⟨by decide +kernel, by decide +kernel, rfl⟩
  exact ⟨r, r', hlink, theft_containment Env.plain .empty 0 0 _ _ _ issued 3 (by decide +kernel) rfl
    r hlink.1 rfl r' (.single hlink)⟩

/-! ## No false alarm -/

/-- What the reason of a revocation says: the alarm has not fired, and a token is rotated only after
it has been presented. -/
structure RefreshToken.Explained (P : List Nat) (t : RefreshToken) : Prop where
  some_of_revoked : t.revoked = true → ∃ reason, t.revocationReason = some reason
  not_alarm : t.revocationReason ≠ some "token_reuse_detected"
  presented : t.revocationReason = some "rotated" → t.tokenHash.preimage ∈ P

/-- Statements that keep the row `t` explained. -/
def Stmt.Explains (P : List Nat) (t : RefreshToken) : Stmt → Prop
  | .revokeToken id reason _ =>
    reason ≠ "token_reuse_detected" ∧ (reason = "rotated" → t.id = id → t.tokenHash.preimage ∈ P)
  | .revokeAllByUserId _ reason _ => reason ≠ "token_reuse_detected" ∧ reason ≠ "rotated"
  | _ => True

variable {P : List Nat}

theorem explained_onRefreshToken {s : Stmt} (hs : s.Explains P t) (h : t.Explained P) :
    (s.onRefreshToken t).Explained P := by
  cases s
  case revokeToken id reason at' =>
    simp only [Stmt.onRefreshToken, Stmt.tokenUpdate, Table.patchIf]
    split
    · rename_i hid
      refine ⟨fun _ => ⟨reason, rfl⟩, fun h => hs.1 (Option.some.inj h), fun h => ?_⟩
      exact hs.2 (Option.some.inj h) (of_decide_eq_true hid)
    · exact h
  case revokeAllByUserId u reason at' =>
    simp only [Stmt.onRefreshToken, Stmt.tokenUpdate, Table.patchIf]
    split
    · refine ⟨fun _ => ⟨reason, rfl⟩, fun h => hs.1 (Option.some.inj h), fun h => ?_⟩
      exact absurd (Option.some.inj h) hs.2
    · exact h
  case setReplacedBy | updateLastUsed =>
    simp only [Stmt.onRefreshToken, Stmt.tokenUpdate, Table.patchIf]
    split
    · exact ⟨h.some_of_revoked, h.not_alarm, h.presented⟩
    · exact h
  all_goals exact h

theorem explained_exec {s : Stmt} (hs : ∀ t ∈ w.refreshTokens.rows, s.Explains P t)
    (h : ∀ t ∈ w.refreshTokens.rows, t.Explained P) :
    ∀ t ∈ (World.exec env s w).2.refreshTokens.rows, t.Explained P := by
  intro t' ht'
  rcases World.exec_source ht' with ⟨t, ht, rfl⟩ | ⟨data, rfl, rfl, -⟩
  · exact explained_onRefreshToken (hs t ht) (h t ht)
  · constructor
    · intro hrev
      cases hrev
    · intro hreason
      cases hreason
    · intro hreason
      cases hreason

/-- A revocation endpoint is called with a reason that the service writes itself. -/
def Request.reservedReason : Request → Bool
  | .revokeToken _ (some reason) => reason = "token_reuse_detected" || reason = "rotated"
  | .revokeAllTokens _ (some reason) => reason = "token_reuse_detected" || reason = "rotated"
  | _ => false

theorem prefixed_ne {p x y : String} (h : ¬ p.toList <+: y.toList) : p ++ x ≠ y := by
  rintro rfl
  exact h ⟨x.toList, by simp⟩

/-- Nothing but a refresh revokes for rotation or theft. -/
theorem explains_of_footprint {r : Request} (hr : ∀ raw, r ≠ .refreshToken raw)
    (hreason : r.reservedReason = false) {s : Stmt} (hs : r.footprint s) (t : RefreshToken) :
    s.Explains P t := by
  have hone : ∀ {id : Nat} {reason x : String} {at' : Int}, reason = x →
      x ≠ "token_reuse_detected" → x ≠ "rotated" → (Stmt.revokeToken id reason at').Explains P t := by
    rintro id reason x at' rfl htheft hrot
    exact ⟨htheft, fun h => absurd h hrot⟩
  have hall : ∀ {id : Nat} {reason x : String} {at' : Int}, reason = x →
      x ≠ "token_reuse_detected" → x ≠ "rotated" →
        (Stmt.revokeAllByUserId id reason at').Explains P t := by
    rintro id reason x at' rfl htheft hrot
    exact ⟨htheft, hrot⟩
  cases s
  case revokeToken id reason at' =>
    cases r
    case refreshToken raw => exact absurd rfl (hr raw)
    case register =>
      obtain ⟨a, ha⟩ := hs
      exact hone ha (by decide) (by decide)
    case login =>
      obtain ⟨a, ha⟩ := hs
      exact hone ha (by decide) (by decide)
    case logout => exact hone hs (by decide) (by decide)
    case revokeSession => exact hone hs.2 (by decide) (by decide)
    all_goals cases hs
  case revokeAllByUserId id reason at' =>
    cases r
    case refreshToken raw => exact absurd rfl (hr raw)
    case register =>
      obtain ⟨a, ha⟩ := hs
      cases ha
    case login =>
      obtain ⟨a, ha⟩ := hs
      exact hall ha.2 (by decide) (by decide)
    case resetPassword => exact hall hs (by decide) (by decide)
    case lockAccount => exact hall hs.2 (prefixed_ne (by decide)) (prefixed_ne (by decide))
    case banUser => exact hall hs.2 (prefixed_ne (by decide)) (prefixed_ne (by decide))
    case assignRole => exact hall hs.2 (by decide) (by decide)
    case revokeRole => exact hall hs.2 (by decide) (by decide)
    case revokeToken u why =>
      cases why with
      | none => exact hall hs.2 (by decide) (by decide)
      | some why =>
        obtain ⟨htheft, hrot⟩ := Bool.or_eq_false_iff.mp hreason
        exact hall hs.2 (of_decide_eq_false htheft) (of_decide_eq_false hrot)
    case revokeAllTokens u why =>
      cases why with
      | none => exact hall hs.2 (by decide) (by decide)
      | some why =>
        obtain ⟨htheft, hrot⟩ := Bool.or_eq_false_iff.mp hreason
        exact hall hs.2 (of_decide_eq_false htheft) (of_decide_eq_false hrot)
    all_goals cases hs
  all_goals trivial

/-! ### A rotation -/

/-- `t` is still the row of the raw token, and every revocation is explained. -/
structure Rotating (P : List Nat) (t : RefreshToken) (raw : Nat) (w : World) : Prop where
  old : t.id < w.supply
  row : ∀ t' ∈ w.refreshTokens.rows, t'.id = t.id → t'.tokenHash = hashToken raw
  explained : ∀ t' ∈ w.refreshTokens.rows, t'.Explained (raw :: P)

theorem rotating_exec {s : Stmt} (hs : rotateFootprint t s ∨ s.writesRefreshTokens = false)
    (h : Rotating P t raw w) : Rotating P t raw (World.exec env s w).2 := by
  refine ⟨Nat.lt_of_lt_of_le h.old (World.exec_supply env s w), ?_, ?_⟩
  · intro t' ht' hid
    rcases World.exec_source ht' with ⟨t₀, ht₀, rfl⟩ | ⟨data, rfl, rfl, -⟩
    · have hev := s.evolves_onRefreshToken t₀
      exact hev.tokenHash_eq.trans (h.row t₀ ht₀ (hev.id_eq.symm.trans hid))
    · have hold := h.old
      have hnew : w.supply = t.id := hid
      omega
  · refine explained_exec (fun t' ht' => ?_) h.explained
    cases s
    case revokeToken id reason at' =>
      rcases hs with ⟨rfl, rfl⟩ | hs
      · refine ⟨by decide, fun _ hid => ?_⟩
        rw [h.row t' ht' hid]
        exact List.mem_cons_self
      · cases hs
    case revokeAllByUserId => rcases hs with hs | hs <;> cases hs
    all_goals trivial

theorem RefreshToken.Explained.mono {Q : List Nat} (h : t.Explained P) (hPQ : P ⊆ Q) :
    t.Explained Q := ⟨h.some_of_revoked, h.not_alarm, fun hr => hPQ (h.presented hr)⟩

/-- A rotation fails only where the world does, never with the alarm. -/
theorem rotate_raises (env : Env) (t : RefreshToken) (ipAddress userAgent : Option String) :
    (TokenService.rotate env t ipAddress userAgent).Raises
      fun e : Exn => e ≠ .error ErrorMessages.AUTH_TOKEN_REUSE_DETECTED := by
  unfold TokenService.rotate TokenService.generateRefreshToken RefreshTokenRepository.create
  refine raises_bind (raises_perform_bind fun _ => raises_perform _) fun _ => ?_
  refine raises_bind (raises_perform_bind fun _ => raises_perform_bind fun _ => ?_) fun pair => ?_
  · exact raises_bind (raises_perform_bind fun _ => raises_perform _) fun _ => trivial
  · refine raises_perform_bind fun _ => ?_
    exact raises_bind (raises_perform_bind fun _ => raises_perform _) fun _ => trivial

theorem not_alarm_of_failure (s : Stmt) (w : World) (e : Exn) (h : (World.exec env s w).1 = .error e) :
    e ≠ .error ErrorMessages.AUTH_TOKEN_REUSE_DETECTED := by
  rcases World.exec_failure env s w h with rfl | rfl | rfl | rfl
  all_goals decide

theorem issueAccessToken_raises (result : RefreshResult) :
    (AuthController.issueAccessToken result).Raises
      fun e : Exn => e ≠ .error ErrorMessages.AUTH_TOKEN_REUSE_DETECTED := by
  refine raises_perform_bind fun credential? => ?_
  cases credential? with
  | none =>
    show Exn.error _ ≠ _
    decide
  | some c => exact raises_perform_bind fun _ => trivial

theorem serve_rotates_not_alarm (env : Env) (hfound : w.presented raw = some t)
    (hrev : t.revoked = false) (hexp : ¬ t.expiresAt < w.now) :
    (serve env (.refreshToken raw) w).1 ≠ .error (.error ErrorMessages.AUTH_TOKEN_REUSE_DETECTED) := by
  intro heq
  rcases hserve : serve env (.refreshToken raw) w with ⟨r, w'⟩
  rw [hserve] at heq
  obtain rfl : r = _ := heq
  rw [serve_refreshToken_rotates hfound hrev hexp] at hserve
  have hraises := raises_bind (raises_bind (rotate_raises env t none none)
    fun result => issueAccessToken_raises result) fun a => raises_ret (S := sig) (Response.auth a)
  exact of_run_error hraises not_alarm_of_failure hserve rfl

/-- One refresh of a token that was not presented before, and that nothing but a rotation or the alarm
has revoked. -/
theorem refresh_explained (env : Env) (hL : Linked w)
    (h : ∀ t ∈ w.refreshTokens.rows, t.Explained P) (hraw : raw ∉ P)
    (hown : ∀ t, w.presented raw = some t → ∀ reason, t.revocationReason = some reason →
      reason = "rotated" ∨ reason = "token_reuse_detected") :
    (serve env (.refreshToken raw) w).1 ≠ .error (.error ErrorMessages.AUTH_TOKEN_REUSE_DETECTED) ∧
      ∀ t ∈ (serve env (.refreshToken raw) w).2.refreshTokens.rows, t.Explained (raw :: P) := by
  have hmono : ∀ t ∈ w.refreshTokens.rows, t.Explained (raw :: P) := fun t ht =>
    (h t ht).mono (List.subset_cons_self raw P)
  cases hfound : w.presented raw with
  | none =>
    rw [serve_refreshToken_error (run_refreshTokens_unknown hfound)]
    exact ⟨by simp [ErrorMessages.AUTH_REFRESH_TOKEN_INVALID, ErrorMessages.AUTH_TOKEN_REUSE_DETECTED],
      hmono⟩
  | some t =>
    obtain ⟨ht, hh⟩ := presented_mem hfound
    have hrev : t.revoked = false := by
      cases hrev : t.revoked with
      | false => rfl
      | true =>
        obtain ⟨reason, hreason⟩ := (h t ht).some_of_revoked hrev
        rcases hown t hfound reason hreason with rfl | rfl
        · have hmem := (h t ht).presented hreason
          rw [hh] at hmem
          exact absurd hmem hraw
        · exact absurd hreason (h t ht).not_alarm
    by_cases hexp : t.expiresAt < w.now
    · rw [serve_refreshToken_error (run_refreshTokens_expired hfound hrev hexp)]
      exact ⟨by simp [ErrorMessages.AUTH_REFRESH_TOKEN_INVALID,
        ErrorMessages.AUTH_TOKEN_REUSE_DETECTED], hmono⟩
    · refine ⟨serve_rotates_not_alarm env hfound hrev hexp, ?_⟩
      have hstart : Rotating P t raw w := by
        refine ⟨hL.id_lt t ht, fun t' ht' hid => ?_, hmono⟩
        rw [Table.eq_of_key ht' ht hid]
        exact hh
      have hend : Rotating P t raw (serve env (.refreshToken raw) w).2 := by
        refine serve_refreshToken_invariant (fun s w _ hs hw => rotating_exec (.inr hs) hw) ?_
        rw [run_refreshTokens_rotates hfound hrev hexp]
        exact run_invariant (I := Rotating P t raw) (uses_rotate t none none)
          (fun s w hs hw => rotating_exec (.inl hs) hw) hstart
      exact hend.explained

/-! ### Runs -/

def Action.presents : Action → Option Nat
  | .request (.refreshToken raw) => some raw
  | _ => none

def Action.reservedReason : Action → Bool
  | .request r => r.reservedReason
  | .pass _ => false

/-- A token that is presented was revoked, if at all, by a rotation or by the alarm: not by a logout,
an eviction, or a revocation of its session or of all tokens of its user. -/
def PresentsOwn (w : World) (a : Action) : Prop :=
  ∀ raw t, a = .request (.refreshToken raw) → w.presented raw = some t →
    ∀ reason, t.revocationReason = some reason →
      reason = "rotated" ∨ reason = "token_reuse_detected"

/-- The action raises no alarm, and no session bears its mark. -/
def Quiet (env : Env) (w : World) (a : Action) : Prop :=
  (∀ raw, a = .request (.refreshToken raw) →
    (serve env (.refreshToken raw) w).1 ≠ .error (.error ErrorMessages.AUTH_TOKEN_REUSE_DETECTED)) ∧
  ∀ t ∈ (act env w a).refreshTokens.rows, t.revocationReason ≠ some "token_reuse_detected"

theorem explained_act (env : Env) {a : Action} (ha : a.presents = none) (hreason : a.reservedReason = false)
    (h : ∀ t ∈ w.refreshTokens.rows, t.Explained P) :
    ∀ t ∈ (act env w a).refreshTokens.rows, t.Explained P := by
  cases a with
  | pass n => exact h
  | request r =>
    have hr : ∀ raw, r ≠ .refreshToken raw := by
      rintro raw rfl
      cases ha
    exact serve_invariant (I := fun w => ∀ t ∈ w.refreshTokens.rows, t.Explained P)
      (fun s w hs hw => explained_exec (fun t _ => explains_of_footprint hr hreason hs t) hw) h

theorem along_quiet {as : List Action} (hL : Linked w)
    (h : ∀ t ∈ w.refreshTokens.rows, t.Explained P)
    (hreason : ∀ a ∈ as, a.reservedReason = false) (honce : (as.filterMap Action.presents).Nodup)
    (hnew : ∀ raw ∈ as.filterMap Action.presents, raw ∉ P)
    (hown : Along env PresentsOwn w as) : Along env (Quiet env) w as := by
  induction as generalizing w P with
  | nil => trivial
  | cons a as ih =>
    obtain ⟨hreason_a, hreason_as⟩ := List.forall_mem_cons.mp hreason
    cases ha : a.presents with
    | none =>
      have hstep := explained_act env ha hreason_a h
      rw [List.filterMap_cons_none ha] at honce hnew
      refine ⟨⟨?_, fun t ht => (hstep t ht).not_alarm⟩,
        ih (linked_act a hL) hstep hreason_as honce hnew hown.2⟩
      rintro raw rfl
      cases ha
    | some raw =>
      obtain rfl : a = .request (.refreshToken raw) := by
        cases a with
        | pass n => cases ha
        | request r => cases r <;> cases ha; rfl
      rw [List.filterMap_cons_some ha] at honce hnew
      obtain ⟨hfresh, honce⟩ := List.nodup_cons.mp honce
      obtain ⟨hraw, hnew⟩ := List.forall_mem_cons.mp hnew
      obtain ⟨hok, hstep⟩ := refresh_explained env hL h hraw fun t ht => hown.1 raw t rfl ht
      refine ⟨⟨?_, fun t ht => (hstep t ht).not_alarm⟩,
        ih (linked_act _ hL) hstep hreason_as honce ?_ hown.2⟩
      · rintro raw' heq
        cases heq
        exact hok
      · intro raw' hraw' hmem
        rcases List.mem_cons.mp hmem with rfl | hmem
        · exact hfresh hraw'
        · exact hnew raw' hraw' hmem

/-- Every token is presented at most once, and not after anything but its rotation has revoked it: no
alarm, and no session is revoked for reuse. -/
theorem no_false_alarm (env : Env) (roles : Table Role) (supply : Nat) (now : Int)
    (as : List Action) (hreason : ∀ a ∈ as, a.reservedReason = false)
    (honce : (as.filterMap Action.presents).Nodup)
    (hown : Along env PresentsOwn (World.initial roles supply now) as) :
    Along env (Quiet env) (World.initial roles supply now) as :=
  along_quiet (P := []) (linked_initial roles supply now) (by simp [World.initial]) hreason honce
    (by simp) hown

/-- Two rotations in a row. -/
theorem no_false_alarm_chain :
    Along Env.plain (Quiet Env.plain) (World.initial .empty 0 0)
      [.request (.register "a@x" "p" none none), .request (.refreshToken 3),
        .request (.refreshToken 5)] := by
  have hunmarked : ∀ {w : World} {raw raw' : Nat} {t : RefreshToken} {reason : String},
      (w.presented raw).bind (·.revocationReason) = none →
      Action.request (.refreshToken raw) = .request (.refreshToken raw') →
      w.presented raw' = some t → t.revocationReason = some reason →
        reason = "rotated" ∨ reason = "token_reuse_detected" := by
    rintro w raw raw' t reason hnone heq hfound hreason
    cases heq
    rw [hfound, Option.bind_some, hreason] at hnone
    cases hnone
  refine no_false_alarm Env.plain .empty 0 0 _ (by decide) (by decide)
    ⟨?_, fun raw t heq hf r => hunmarked (by decide +kernel) heq hf,
      fun raw t heq hf r => hunmarked (by decide +kernel) heq hf, trivial⟩
  rintro raw t heq
  cases heq

def Action.logsOut : Action → Bool
  | .request (.logout _ _ _ _) => true
  | _ => false

/-- Presenting each token at most once and none after its logout is not enough: five more logins evict
the first session, and when its token is presented the alarm goes off. -/
theorem evicted_token_raises_alarm :
    ¬ ∀ as : List Action, (as.filterMap Action.presents).Nodup → (∀ a ∈ as, a.logsOut = false) →
      Along Env.plain (Quiet Env.plain) (World.initial .empty 0 0) as := by
  intro h
  obtain ⟨-, -, -, -, -, -, -, ⟨hquiet, -⟩, -⟩ :=
    h (.request (.register "a@x" "p" none none) :: .pass 1000 ::
      (.replicate 5 (.request (.login "a@x" "p" none none)) ++ [.request (.refreshToken 3)]))
      (by decide) (by decide)
  exact hquiet 3 rfl (by decide +kernel)

/-- A lock that an administrator has lifted again leaves the session's token revoked. -/
example :
    (serve Env.plain (.refreshToken 3) (runs Env.plain registered
      [.request (.lockAccount 1 "review" none none), .request (.unlockAccount 1 none)])).1 =
        .error (.error ErrorMessages.AUTH_TOKEN_REUSE_DETECTED) := by rfl

end Auth
