import AuthService.Failures
import AuthService.RoleChanges
import Mathlib.Algebra.GroupWithZero.Nat

/-!
# AuthService.Retries

A role change that fails half-way and is repeated until it succeeds.

* `FailedCall`  — the failures of one call, and the time that passes after it.
* `Failing`     — every attempt ends in an error.
* `Early`       — an attempt fails before the roles are written.
* `role_change_retried_iff` — the call that succeeds at last leaves what one call would leave iff all
  attempts before it failed early.

A change that finds the roles already written has nothing to do: it revokes no session and publishes
no event, though the attempt that wrote the roles did neither.
-/

namespace Auth

open Relational Resumption Prog

variable {env : Env} {w w' : World} {u : Nat} {change : RoleChange} {new : List String}
  {fault : Stmt → Option (Fault Exn)}

structure FailedCall where
  fault : Stmt → Option (Fault Exn)
  pause : Nat

/-- The world after one attempt and the pause after it. -/
def afterFailure (env : Env) (p : AuthProg Unit) (w : World) (a : FailedCall) : World :=
  act env (p.run ((World.machine env).withFaults a.fault) w).2 (.pass a.pause)

def afterFailures (env : Env) (p : AuthProg Unit) (w : World) (as : List FailedCall) : World :=
  as.foldl (afterFailure env p) w

def elapsed (as : List FailedCall) : Nat := (as.map (·.pause)).sum

/-- Every attempt ends in an error. Only the clock cannot fail. -/
def Failing (env : Env) (p : AuthProg Unit) : World → List FailedCall → Prop
  | _, [] => True
  | w, a :: as =>
    (∀ s : Stmt, s.inProcess = true → a.fault s = none) ∧
      (∃ e, (p.run ((World.machine env).withFaults a.fault) w).1 = .error e) ∧
      Failing env p (afterFailure env p w a) as

namespace RoleChange

/-- The array that an uninterrupted call writes, if it writes. -/
def due (change : RoleChange) (v : Option (List String) × Table Role) : Option (List String) :=
  v.1.bind fun roles => if change.known v.2 then change.wanted roles else none

def event (u : Nat) (timestamp : Int) : RoleChange → DomainEvent
  | .assign role assignedBy => .roleAssigned u role assignedBy timestamp
  | .revoke role revokedBy => .roleRevoked u role revokedBy timestamp

/-- The part of a call that writes. -/
def write (u : Nat) (new : List String) (change : RoleChange) : AuthProg Unit :=
  (query (.updateRoles u new)).bind fun _ => newDate.bind fun revokedAt =>
    (query (.revokeAllByUserId u "role_changed" revokedAt)).bind fun _ =>
      newDate.bind fun timestamp => EventService.safePublish (change.event u timestamp)

/-- A lookup of the call fails. -/
def ReadFails (u : Nat) (fault : Stmt → Option (Fault Exn)) (change : RoleChange) : Prop :=
  fault (.findCredentialById u) ≠ none ∨
    ∃ role assignedBy, change = .assign role assignedBy ∧ fault (.findRoleByName role) ≠ none

end RoleChange

/-- The attempt fails before the roles are written. -/
def Early (u : Nat) (change : RoleChange) (w : World) (fault : Stmt → Option (Fault Exn)) : Prop :=
  ∀ new, change.due (w.roleView u) = some new →
    change.ReadFails u fault ∨ ∃ e, fault (.updateRoles u new) = some (.rejected e)

/-! ## One attempt -/

section Write

variable (env) (change)

theorem assignRole_eq (u : Nat) (role assignedBy : String) :
    RoleService.assignRole u role assignedBy =
      (query (.findCredentialById u)).bind fun user? => user?.elim
        (.throw (.error ErrorMessages.AUTH_USER_NOT_FOUND)) fun user =>
          (query (.findRoleByName role)).bind fun roleEntity => roleEntity.elim
            (.throw (.error ("Role '" ++ role ++ "' does not exist"))) fun _ =>
              if user.roles.contains role then .ret ()
              else (RoleChange.assign role assignedBy).write u (user.roles ++ [role]) := by
  unfold RoleService.assignRole UserCredentialRepository.findById RoleRepository.findByName
    RoleChange.write TokenService.revokeAllUserTokens RefreshTokenRepository.revokeAllByUserId
    UserCredentialRepository.updateRoles EventService.publishRoleAssigned
  simp only [bind_eq, pure_eq, bind_assoc, ret_bind]
  congr 1
  funext user?
  cases user? with
  | none => rfl
  | some user =>
    simp only [Option.elim_some]
    congr 1
    funext roleEntity
    cases roleEntity <;> rfl

theorem revokeRole_eq (u : Nat) (role revokedBy : String) :
    RoleService.revokeRole u role revokedBy =
      (query (.findCredentialById u)).bind fun user? => user?.elim
        (.throw (.error ErrorMessages.AUTH_USER_NOT_FOUND)) fun user =>
          if user.roles.contains role then
            (RoleChange.revoke role revokedBy).write u (user.roles.filter (· ≠ role))
          else .ret () := by
  unfold RoleService.revokeRole UserCredentialRepository.findById
    RoleChange.write TokenService.revokeAllUserTokens RefreshTokenRepository.revokeAllByUserId
    UserCredentialRepository.updateRoles EventService.publishRoleRevoked
  simp only [bind_eq, pure_eq, bind_assoc, ret_bind]
  congr 1
  funext user?
  cases user? <;> rfl

end Write

theorem due_of_missing (hc : w.account u = none) : change.due (w.roleView u) = none := by
  simp [RoleChange.due, World.roleView, World.rolesOf, hc]

theorem due_of_account {c : UserCredential} (hc : w.account u = some c) :
    change.due (w.roleView u) = if change.known w.roles then change.wanted c.roles else none := by
  simp [RoleChange.due, World.roleView, World.rolesOf, hc]

/-- A call whose lookups succeed and that has something to write goes on to write it; any other call
leaves the world as it is. -/
theorem run_call_cases (env : Env) (u : Nat) (change : RoleChange)
    (fault : Stmt → Option (Fault Exn)) (w : World) :
    ((change.call u).run ((World.machine env).withFaults fault) w).2 = w ∧
        (change.due (w.roleView u) = none ∨ change.ReadFails u fault) ∨
      ∃ new, change.due (w.roleView u) = some new ∧ ¬ change.ReadFails u fault ∧
        (change.call u).run ((World.machine env).withFaults fault) w =
          (change.write u new).run ((World.machine env).withFaults fault) w := by
  have hread : World.exec env (.findCredentialById u) w = (.ok (w.account u), w) := rfl
  cases change with
  | assign role assignedBy =>
    show ((RoleService.assignRole u role assignedBy).run _ w).2 = w ∧ _ ∨ _
    rw [RoleChange.call, assignRole_eq]
    rcases run_read_bind (S := sig) (M := World.machine env) fault hread with
      ⟨hspared, hrun⟩ | ⟨hfault, e, hrun⟩
    · rw [hrun]
      cases hc : w.account u with
      | none => exact .inl ⟨rfl, .inl (due_of_missing hc)⟩
      | some c =>
        have hfind : World.exec env (.findRoleByName role) w =
            (.ok (w.roles.find? fun r => r.name = role), w) := rfl
        rw [Option.elim_some]
        rcases run_read_bind (S := sig) (M := World.machine env) fault hfind with
          ⟨hspared', hrun'⟩ | ⟨hfault', e, hrun'⟩
        · rw [hrun', due_of_account hc]
          cases hr : w.roles.find? fun r => r.name = role with
          | none => exact .inl ⟨rfl, .inl (by simp [RoleChange.known, hr])⟩
          | some r =>
            have hknown : (RoleChange.assign role assignedBy).known w.roles = true := by
              simp [RoleChange.known, hr]
            rw [if_pos hknown, Option.elim_some]
            by_cases hrole : c.roles.contains role = true
            · refine .inl ⟨?_, .inl (if_pos hrole)⟩
              rw [if_pos hrole]
              rfl
            · refine .inr ⟨c.roles ++ [role], if_neg hrole, ?_, ?_⟩
              · rintro (h | ⟨role', assignedBy', heq, h⟩)
                · exact h hspared
                · cases heq
                  exact h hspared'
              · rw [if_neg hrole]
        · rw [hrun']
          exact .inl ⟨rfl, .inr (.inr ⟨role, assignedBy, rfl, hfault'⟩)⟩
    · rw [hrun]
      exact .inl ⟨rfl, .inr (.inl hfault)⟩
  | revoke role revokedBy =>
    show ((RoleService.revokeRole u role revokedBy).run _ w).2 = w ∧ _ ∨ _
    rw [RoleChange.call, revokeRole_eq]
    rcases run_read_bind (S := sig) (M := World.machine env) fault hread with
      ⟨hspared, hrun⟩ | ⟨hfault, e, hrun⟩
    · rw [hrun]
      cases hc : w.account u with
      | none => exact .inl ⟨rfl, .inl (due_of_missing hc)⟩
      | some c =>
        have hknown : (RoleChange.revoke role revokedBy).known w.roles = true := rfl
        rw [Option.elim_some, due_of_account hc, if_pos hknown]
        by_cases hrole : c.roles.contains role = true
        · refine .inr ⟨c.roles.filter (· ≠ role), if_pos hrole, ?_, ?_⟩
          · rintro (h | ⟨role', assignedBy', heq, h⟩)
            · exact h hspared
            · cases heq
          · rw [if_pos hrole]
        · refine .inl ⟨?_, .inl (if_neg hrole)⟩
          rw [if_neg hrole]
          rfl
    · rw [hrun]
      exact .inl ⟨rfl, .inr (.inl hfault)⟩

/-! ### Written too early -/

/-- The roles are as the call wants them, and nothing has been published since `w`. -/
structure Overtaken (u : Nat) (change : RoleChange) (w w' : World) : Prop where
  idle : change.due (w'.roleView u) = none
  silent : w'.published = w.published

theorem RoleChange.wanted_idem {roles : List String} (h : change.wanted roles = some new) :
    change.wanted new = none := by
  cases change with
  | assign role assignedBy =>
    simp only [RoleChange.wanted] at h
    split at h
    · cases h
    · obtain rfl := Option.some.inj h
      simp [RoleChange.wanted]
  | revoke role revokedBy =>
    simp only [RoleChange.wanted] at h
    split at h
    · obtain rfl := Option.some.inj h
      simp [RoleChange.wanted]
    · cases h

theorem overtaken_updateRoles (env : Env) (hdue : change.due (w.roleView u) = some new) :
    Overtaken u change w (World.exec env (.updateRoles u new) w).2 := by
  refine ⟨?_, rfl⟩
  obtain ⟨roles, hroles, hwanted⟩ := Option.bind_eq_some_iff.mp hdue
  split at hwanted
  · have hview : (World.exec env (.updateRoles u new) w).2.roleView u = (some new, w.roles) := by
      have hroles' : w.rolesOf u = some roles := hroles
      unfold World.roleView
      rw [World.rolesOf_updateRoles, World.exec_roles, hroles']
      rfl
    rw [hview]
    show (if _ then change.wanted new else none) = none
    rw [RoleChange.wanted_idem hwanted]
    exact ite_self none
  · cases hwanted

theorem overtaken_revokeAll (env : Env) (h : Overtaken u change w w') (reason : String)
    (revokedAt : Int) :
    Overtaken u change w (World.exec env (.revokeAllByUserId u reason revokedAt) w').2 :=
  ⟨by rw [World.roleView_exec env rfl]; exact h.idle, h.silent⟩

/-- A write that fails: it was rejected, or the roles are written and nothing is published. -/
theorem overtaken_write (hlocal : ∀ s : Stmt, s.inProcess = true → fault s = none)
    (hdue : change.due (w.roleView u) = some new) {e : Exn}
    (hfailed : ((change.write u new).run ((World.machine env).withFaults fault) w).1 = .error e) :
    (∃ e, fault (.updateRoles u new) = some (.rejected e)) ∧
        ((change.write u new).run ((World.machine env).withFaults fault) w).2 = w ∨
      (∀ e, fault (.updateRoles u new) ≠ some (.rejected e)) ∧
        Overtaken u change w
          ((change.write u new).run ((World.machine env).withFaults fault) w).2 := by
  have hwritten := overtaken_updateRoles env hdue
  unfold RoleChange.write at hfailed ⊢
  cases hupdate : fault (.updateRoles u new) with
  | some f =>
    cases f with
    | rejected e' =>
      rw [run_perform_bind_error (exec_rejected hupdate w)]
      exact .inl ⟨⟨e', rfl⟩, rfl⟩
    | replyLost e' =>
      rw [run_perform_bind_error (exec_replyLost hupdate w)]
      exact .inr ⟨nofun, hwritten⟩
  | none =>
    refine .inr ⟨nofun, ?_⟩
    rw [run_spared_bind (S := sig) (M := World.machine env) hupdate rfl,
      run_faulty_newDate hlocal] at hfailed ⊢
    let w₁ := (World.exec env (.updateRoles u new) w).2
    have hrevoked := overtaken_revokeAll env hwritten "role_changed" w₁.now
    show Overtaken u change w (Prod.snd (Prog.run _ _ w₁))
    cases hrevoke : fault (.revokeAllByUserId u "role_changed" w₁.now) with
    | some f =>
      cases f with
      | rejected e' =>
        rw [run_perform_bind_error (exec_rejected hrevoke w₁)]
        exact hwritten
      | replyLost e' =>
        rw [run_perform_bind_error (exec_replyLost hrevoke w₁)]
        exact hrevoked
    | none =>
      -- a failure to publish is swallowed: the call would have returned
      exfalso
      change (Prog.run _ (Prog.bind (query (.revokeAllByUserId u "role_changed" w₁.now)) _) w₁).1 =
        .error e at hfailed
      rw [run_spared_bind (S := sig) (M := World.machine env) (w := w₁) hrevoke rfl,
        run_faulty_newDate hlocal] at hfailed
      unfold EventService.safePublish at hfailed
      rw [pure_eq, run_tryCatch_ret] at hfailed
      cases hfailed

/-- The write of a call that is spared publishes its event. -/
theorem published_write (env : Env) (u : Nat) (new : List String) (change : RoleChange)
    (w : World) : ((change.write u new).run (World.machine env) w).2.published =
      w.published ++ [change.event u w.now] := rfl

/-- A failed attempt either comes to nothing, or has written the roles and published nothing. -/
theorem failed_call_cases (hlocal : ∀ s : Stmt, s.inProcess = true → fault s = none) {e : Exn}
    (hfailed : ((change.call u).run ((World.machine env).withFaults fault) w).1 = .error e) :
    Early u change w fault ∧
        ((change.call u).run ((World.machine env).withFaults fault) w).2 = w ∨
      ¬ Early u change w fault ∧
        Overtaken u change w ((change.call u).run ((World.machine env).withFaults fault) w).2 := by
  rcases run_call_cases env u change fault w with ⟨hsame, hidle⟩ | ⟨new, hdue, hread, hrun⟩
  · refine .inl ⟨fun new hdue => ?_, hsame⟩
    rcases hidle with hnone | hread
    · rw [hnone] at hdue
      cases hdue
    · exact .inl hread
  · rw [hrun] at hfailed ⊢
    rcases overtaken_write hlocal hdue hfailed with ⟨hrejected, hsame⟩ | ⟨hwritten, hovertaken⟩
    · refine .inl ⟨fun new' hdue' => .inr ?_, hsame⟩
      obtain rfl : new = new' := Option.some.inj (hdue.symm.trans hdue')
      exact hrejected
    · refine .inr ⟨fun hearly => ?_, hovertaken⟩
      rcases hearly new hdue with h | ⟨e', h⟩
      · exact hread h
      · exact hwritten e' h

/-! ## All attempts -/

theorem overtaken_failures (as : List FailedCall) (hfail : Failing env (change.call u) w' as)
    (h : Overtaken u change w w') :
    Overtaken u change w (afterFailures env (change.call u) w' as) := by
  induction as generalizing w' with
  | nil => exact h
  | cons a as ih =>
    refine ih hfail.2.2 ?_
    rcases run_call_cases env u change a.fault w' with ⟨hsame, -⟩ | ⟨new, hdue, -, -⟩
    · refine ⟨?_, ?_⟩
      · show change.due (World.roleView u (Prod.snd (Prog.run _ _ w'))) = none
        rw [hsame]
        exact h.idle
      · show (Prod.snd (Prog.run _ _ w')).published = w.published
        rw [hsame]
        exact h.silent
    · rw [h.idle] at hdue
      cases hdue

/-- Failures that all come early leave no trace; otherwise the first that does not decides. -/
theorem failures_cases (as : List FailedCall) (hfail : Failing env (change.call u) w as) :
    (∀ a ∈ as, Early u change w a.fault) ∧
        afterFailures env (change.call u) w as = act env w (.pass (elapsed as)) ∨
      (∃ a ∈ as, ¬ Early u change w a.fault) ∧
        Overtaken u change w (afterFailures env (change.call u) w as) := by
  induction as generalizing w with
  | nil =>
    refine .inl ⟨nofun, ?_⟩
    show w = { w with now := w.now + 0 }
    rw [Int.add_zero]
  | cons a as ih =>
    obtain ⟨hlocal, ⟨e, hfailed⟩, hrest⟩ := hfail
    rcases failed_call_cases hlocal hfailed with ⟨hearly, hsame⟩ | ⟨hlate, hovertaken⟩
    · have hafter : afterFailure env (change.call u) w a = act env w (.pass a.pause) :=
        congrArg (fun w => act env w (.pass a.pause)) hsame
      rw [hafter] at hrest
      show (∀ b ∈ a :: as, _) ∧ afterFailures env _ (afterFailure env _ w a) as = _ ∨
        _ ∧ Overtaken u change w (afterFailures env _ (afterFailure env _ w a) as)
      rw [hafter]
      rcases ih hrest with ⟨hall, heq⟩ | ⟨⟨b, hb, hlate⟩, hovertaken⟩
      · refine .inl ⟨List.forall_mem_cons.mpr ⟨hearly, hall⟩, heq.trans ?_⟩
        show { w with now := w.now + (a.pause : Int) + (elapsed as : Int) } =
          { w with now := w.now + (elapsed (a :: as) : Int) }
        have hsum : elapsed (a :: as) = a.pause + elapsed as := rfl
        rw [hsum, Int.natCast_add, Int.add_assoc]
      · exact .inr ⟨⟨b, List.mem_cons_of_mem a hb, hlate⟩, hovertaken.idle, hovertaken.silent⟩
    · refine .inr ⟨⟨a, List.mem_cons_self, hlate⟩, ?_⟩
      exact overtaken_failures as hrest ⟨hovertaken.idle, hovertaken.silent⟩

/-- Failed attempts of a role change, and then one that is spared: the world is the one that a single
call leaves at that time iff every failed attempt failed before it wrote the roles. -/
theorem role_change_retried_iff (env : Env) (u : Nat) (change : RoleChange) (w : World)
    (as : List FailedCall) (hfail : Failing env (change.call u) w as) :
    ((change.call u).run (World.machine env) (afterFailures env (change.call u) w as)).2 =
        ((change.call u).run (World.machine env) (act env w (.pass (elapsed as)))).2 ↔
      ∀ a ∈ as, Early u change w a.fault := by
  rcases failures_cases as hfail with ⟨hall, heq⟩ | ⟨⟨a, ha, hlate⟩, hovertaken⟩
  · rw [heq]
    exact iff_of_true rfl hall
  · refine iff_of_false ?_ fun hall => hlate (hall a ha)
    intro heq
    let later := act env w (.pass (elapsed as))
    let retried := afterFailures env (change.call u) w as
    have hretried : ((change.call u).run (World.machine env) retried).2 = retried := by
      rcases run_call_cases env u change (fun _ => none) retried with ⟨hsame, -⟩ | ⟨new, hdue, -, -⟩
      · exact hsame
      · rw [hovertaken.idle] at hdue
        cases hdue
    rcases run_call_cases env u change (fun _ => none) later with ⟨-, hidle⟩ | ⟨new, -, -, hrun⟩
    · rcases hidle with hnone | hread
      · refine hlate fun new hdue => ?_
        have hnone' : change.due (w.roleView u) = none := hnone
        rw [hnone'] at hdue
        cases hdue
      · rcases hread with h | ⟨_, _, _, h⟩ <;> exact absurd rfl h
    · rw [withFaults_none] at hrun
      have hlength := congrArg (fun w : World => w.published.length) heq
      simp only at hlength
      rw [hretried, hrun, published_write, hovertaken.silent] at hlength
      have hsame : later.published = w.published := rfl
      simp [hsame] at hlength

/-- The connection is lost before the sessions are revoked. -/
def lostAfterRoles : FailedCall where
  fault
    | .revokeAllByUserId _ _ _ => some (.rejected connectionLost)
    | _ => none
  pause := 1000

/-- The connection is lost before the roles are written. -/
def lostBeforeRoles : FailedCall where
  fault
    | .updateRoles _ _ => some (.rejected connectionLost)
    | _ => none
  pause := 1000

def promotion : RoleChange := .assign "ADMIN" "root"

theorem role_change_retried_early :
    ((promotion.call 1).run (World.machine Env.plain)
        (afterFailures Env.plain (promotion.call 1) adminRegistered [lostBeforeRoles])).2 =
      ((promotion.call 1).run (World.machine Env.plain)
        (act Env.plain adminRegistered (.pass 1000))).2 :=
  (role_change_retried_iff Env.plain 1 promotion adminRegistered [lostBeforeRoles]
    ⟨fun s hs => (by cases s <;> first | rfl | cases hs), ⟨connectionLost, rfl⟩, trivial⟩).mpr
    fun a ha _ _ => .inr ⟨connectionLost, by rw [List.mem_singleton.mp ha]; rfl⟩

/-- After the retry the promoted user still has the sessions from before. -/
theorem role_change_retry_swallowed :
    ¬ ∀ (w : World), Reachable Env.plain w →
        ∀ (u : Nat) (change : RoleChange) (as : List FailedCall),
        Failing Env.plain (change.call u) w as →
      ((change.call u).run (World.machine Env.plain)
          (afterFailures Env.plain (change.call u) w as)).2 =
        ((change.call u).run (World.machine Env.plain)
          (act Env.plain w (.pass (elapsed as)))).2 := by
  intro h
  have hsame := h adminRegistered ⟨_, _, _, _, rfl⟩ 1 promotion [lostAfterRoles]
    ⟨fun s hs => (by cases s <;> first | rfl | cases hs), ⟨connectionLost, rfl⟩, trivial⟩
  have hrevoked := congrArg (fun w : World => w.refreshTokens.rows.map (·.revoked)) hsame
  revert hrevoked
  decide +kernel

end Auth
