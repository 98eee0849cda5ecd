import AuthService.Accounts
import AuthService.Eviction

/-!
# AuthService.MaxSessions

`SessionService.enforceMaxSessions` without interruption, over any table.

* `OldestEvicted` — what a number of evictions at one instant leaves: the victims were sessions of the
  user, each as old as any that is left, and every other row is what it was.
* `run_evictions`        — the loop, by induction on its passes.
* `max_sessions_enforced` — the whole method.
-/

namespace Auth

open Relational Resumption Prog

variable {env : Env} {w : World} {u : Nat}

/-- The rows with an id among `victims` have been evicted. -/
structure OldestEvicted (w : World) (u : Nat) (victims : List Nat) (w' : World) : Prop where
  world : w' = { w with
    refreshTokens := w.refreshTokens.updateWhere (fun t => decide (t.id ∈ victims))
      (RefreshToken.revoke "max_sessions_exceeded" w.now) }
  active : ∀ t ∈ w.refreshTokens.rows, t.id ∈ victims → t.userId = u ∧ t.active w.now = true
  oldest : ∀ t ∈ w.refreshTokens.rows, t.id ∈ victims →
    ∀ t' ∈ w'.refreshTokens.rows, t'.userId = u → t'.active w.now = true → t.issuedAt ≤ t'.issuedAt

theorem not_active_revoke (t : RefreshToken) (reason : String) (revokedAt at' : Int) :
    ((RefreshToken.revoke reason revokedAt).apply t).active at' = false := rfl

theorem oldestEvicted_none (w : World) (u : Nat) : OldestEvicted w u [] w := by
  refine ⟨?_, ?_, ?_⟩
  · rw [Table.updateWhere_none (by simp)]
  · intro t _ ht
    simp at ht
  · intro t _ ht
    simp at ht

/-- The world after the eviction of `t`. -/
def World.evict (w : World) (t : RefreshToken) : World :=
  w.updateRefreshTokens (fun t' => t'.id = t.id) (RefreshToken.revoke "max_sessions_exceeded" w.now)

theorem mem_evict {t t' : RefreshToken} (h : t' ∈ w.refreshTokens.rows) (hne : t'.id ≠ t.id) :
    t' ∈ (w.evict t).refreshTokens.rows := by
  refine Table.mem_updateWhere.mpr ⟨t', h, ?_⟩
  simp [Table.patchIf, hne]

/-- One session less. -/
theorem sessions_evict_eq {t : RefreshToken} (ht : t ∈ w.refreshTokens.rows)
    (hs : t.sessionOf u w.now none = true) :
    (w.evict t).sessions u w.now none + 1 = w.sessions u w.now none := by
  have hcount : (w.evict t).sessions u w.now none =
      w.refreshTokens.count fun t' => t'.sessionOf u w.now none && decide (t'.id ≠ t.id) := by
    refine Table.count_updateWhere ?_
    intro a _
    by_cases hid : a.id = t.id
    · simp [Table.patchIf, hid, RefreshToken.sessionOf, not_active_revoke]
    · simp [Table.patchIf, hid]
  rw [hcount]
  exact Table.count_without_eq ht hs

/-- A pass of the loop: the oldest session goes. -/
theorem run_evictOldest (env : Env) (h : 0 < w.sessions u w.now none) :
    ∃ t ∈ w.refreshTokens.rows, t.sessionOf u w.now none = true ∧
      (∀ t' ∈ w.refreshTokens.rows, t'.userId = u → t'.active w.now = true →
        t.issuedAt ≤ t'.issuedAt) ∧
      (SessionService.evictOldest u).run (World.machine env) w = (.ok (), w.evict t) := by
  cases hpick : env.oldest.pick (w.refreshTokens.select fun t => t.userId = u && t.active w.now) with
  | none =>
    have hzero := congrArg List.length (env.oldest.pick_none hpick)
    rw [World.select_active_eq] at hzero
    simp at hzero
    omega
  | some t =>
    obtain ⟨hmem, hactive⟩ := List.mem_filter.mp (env.oldest.pick_mem hpick)
    refine ⟨t, hmem, by simpa [RefreshToken.sessionOf] using hactive, ?_, ?_⟩
    · intro t' ht' hu ha
      refine env.oldest.pick_le hpick t' ?_
      exact List.mem_filter.mpr ⟨ht', by simp [hu, ha]⟩
    · have hexec : World.exec env (.findOldestActiveByUserId u w.now) w = (.ok (some t), w) := by
        simp only [World.exec, hpick]
      unfold SessionService.evictOldest RefreshTokenRepository.findOldestActiveByUserId
      simp only [bind_eq, bind_assoc]
      rw [run_newDate_bind, run_bind_ok _ ((run_perform _ _ w).trans hexec)]
      unfold RefreshTokenRepository.revokeToken
      simp only [bind_eq]
      rw [run_newDate_bind]
      rfl

/-- The evictions after the first one, and the first one. -/
theorem oldestEvicted_cons {t : RefreshToken} {victims : List Nat} {w' : World}
    (hs : t.sessionOf u w.now none = true)
    (ht : t ∈ w.refreshTokens.rows)
    (holdest : ∀ t' ∈ w.refreshTokens.rows, t'.userId = u → t'.active w.now = true →
      t.issuedAt ≤ t'.issuedAt)
    (h : OldestEvicted (w.evict t) u victims w') : OldestEvicted w u (t.id :: victims) w' := by
  have hworld : w' = { w with
      refreshTokens := w.refreshTokens.updateWhere (fun a => decide (a.id ∈ t.id :: victims))
        (RefreshToken.revoke "max_sessions_exceeded" w.now) } := by
    have hrows : (w.refreshTokens.updateWhere (fun a => decide (a.id = t.id))
        (RefreshToken.revoke "max_sessions_exceeded" w.now)).updateWhere
          (fun a => decide (a.id ∈ victims)) (RefreshToken.revoke "max_sessions_exceeded" w.now) =
        w.refreshTokens.updateWhere (fun a => decide (a.id ∈ t.id :: victims))
          (RefreshToken.revoke "max_sessions_exceeded" w.now) := by
      rw [Table.updateWhere_updateWhere (fun _ => rfl) fun _ => rfl]
      simp
    rw [h.world, ← hrows]
    rfl
  have hleft : ∀ t' ∈ w'.refreshTokens.rows, t'.active w.now = true → t' ∈ w.refreshTokens.rows := by
    intro t' ht' ha
    rw [hworld] at ht'
    obtain ⟨a, hmem, rfl⟩ := Table.mem_updateWhere.mp ht'
    by_cases hid : a.id ∈ t.id :: victims
    · simp only [Table.patchIf, decide_eq_true hid, if_true, not_active_revoke] at ha
      cases ha
    · simp only [Table.patchIf, decide_eq_false hid]
      exact hmem
  refine ⟨hworld, ?_, ?_⟩
  · intro a ha hid
    by_cases hat : a.id = t.id
    · rw [Table.eq_of_key ha ht hat]
      simpa [RefreshToken.sessionOf] using hs
    · exact h.active a (mem_evict ha hat) (by simpa [hat] using hid)
  · intro a ha hid t' ht' hu hactive
    by_cases hat : a.id = t.id
    · rw [Table.eq_of_key ha ht hat]
      exact holdest t' (hleft t' ht' hactive) hu hactive
    · exact h.oldest a (mem_evict ha hat) (by simpa [hat] using hid) t' ht' hu hactive

/-- The loop, by induction on the passes left: each takes the oldest session of those that are left. -/
theorem run_evictions (env : Env) (n : Nat) (h : n ≤ w.sessions u w.now none) :
    ∃ victims w', (repeatN (SessionService.evictOldest u) n).run (World.machine env) w = (.ok (), w') ∧
      OldestEvicted w u victims w' ∧ w'.sessions u w.now none + n = w.sessions u w.now none := by
  induction n generalizing w with
  | zero => exact ⟨[], w, rfl, oldestEvicted_none w u, rfl⟩
  | succ n ih =>
    obtain ⟨t, ht, hs, holdest, hrun⟩ := run_evictOldest env (w := w) (u := u) (by omega)
    have hless := sessions_evict_eq ht hs
    have hn : n ≤ (w.evict t).sessions u (w.evict t).now none := by
      show n ≤ (w.evict t).sessions u w.now none
      omega
    obtain ⟨victims, w', hrest, hevicted, hcount⟩ := ih hn
    refine ⟨t.id :: victims, w', ?_, oldestEvicted_cons hs ht holdest hevicted, ?_⟩
    · rw [repeatN, run_bind_ok _ hrun]
      exact hrest
    · have hcount' : w'.sessions u w.now none + n = (w.evict t).sessions u w.now none := hcount
      omega

/-- `enforceMaxSessions` leaves as many sessions as there may be, or all of them, and takes away
the oldest. -/
theorem max_sessions_enforced (env : Env) (w : World) (u : Nat) :
    ∃ victims w', (SessionService.enforceMaxSessions env u).run (World.machine env) w = (.ok (), w') ∧
      w'.sessions u w.now none = min (w.sessions u w.now none) env.maxSessions ∧
      OldestEvicted w u victims w' := by
  have hcount : World.exec env (.countActiveByUserId u w.now) w =
      (.ok (w.sessions u w.now none), w) := by
    simp only [World.exec, World.select_active_eq]
  unfold SessionService.enforceMaxSessions RefreshTokenRepository.countActiveByUserId
  simp only [bind_eq, bind_assoc]
  rw [run_newDate_bind, run_bind_ok _ ((run_perform _ _ w).trans hcount)]
  split
  · rename_i hle
    refine ⟨[], w, rfl, ?_, oldestEvicted_none w u⟩
    omega
  · rename_i hgt
    obtain ⟨victims, w', hrun, hevicted, hleft⟩ :=
      run_evictions env (w.sessions u w.now none - env.maxSessions) (Nat.sub_le _ _)
    refine ⟨victims, w', hrun, ?_, hevicted⟩
    omega

end Auth
