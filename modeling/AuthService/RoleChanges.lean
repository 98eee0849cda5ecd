import AuthService.Footprint
import AuthService.Resumption.Serial

/-!
# AuthService.RoleChanges

Any number of `assignRole` and `revokeRole` calls on one user beside each other.

* `RoleChange`      — one such call; `wanted` is the array that it writes over the one it has read.
* `RolePhase`       — where a call stands: it reads the roles, checks that the role exists, writes.
* `Unraced`         — the steps that do no harm: a call overwrites the roles that it has read.
* `role_changes_serialisable` — in runs of such steps the calls amount to the same calls one after
  another. `role_changes_lost` is a run that loses an assignment.
-/

namespace Auth

open Relational Resumption Prog

inductive RoleChange where
  | assign (role assignedBy : String)
  | revoke (role revokedBy : String)
  deriving DecidableEq

namespace RoleChange

def call (u : Nat) : RoleChange → AuthProg Unit
  | .assign role assignedBy => RoleService.assignRole u role assignedBy
  | .revoke role revokedBy => RoleService.revokeRole u role revokedBy

/-- The array to be written, unless the call has nothing to do. -/
def wanted (roles : List String) : RoleChange → Option (List String)
  | .assign role _ => if roles.contains role then none else some (roles ++ [role])
  | .revoke role _ => if roles.contains role then some (roles.filter (· ≠ role)) else none

/-- A role is assigned only if it exists; any role is revoked. -/
def known (table : Table Role) : RoleChange → Bool
  | .assign role _ => (table.find? fun r => r.name = role).isSome
  | .revoke _ _ => true

/-- What an uninterrupted call makes of the roles of its user. -/
def effect (change : RoleChange) (v : Option (List String) × Table Role) :
    Option (List String) × Table Role :=
  (v.1.map fun roles => if change.known v.2 then (change.wanted roles).getD roles else roles, v.2)

end RoleChange

namespace World

def rolesOf (w : World) (u : Nat) : Option (List String) := (w.account u).map (·.roles)

def roleSet (w : World) (u : Nat) : Option (Finset String) := (w.rolesOf u).map List.toFinset

/-- What a role change reads and writes of the world. -/
def roleView (u : Nat) (w : World) : Option (List String) × Table Role := (w.rolesOf u, w.roles)

variable {env : Env} {w : World} {u : Nat}

theorem roleView_exec (env : Env) {s : Stmt} (hs : s.writesCredentials = false) (w : World) :
    (exec env s w).2.roleView u = w.roleView u := by
  unfold roleView rolesOf account
  rw [exec_credentials env s w hs, exec_roles]

theorem rolesOf_updateRoles (env : Env) (w : World) (roles : List String) :
    (exec env (.updateRoles u roles) w).2.rolesOf u = (w.rolesOf u).map fun _ => roles := by
  unfold rolesOf
  rw [account_exec rfl]
  cases hc : w.account u with
  | none => rfl
  | some c =>
    have hid := account_id hc
    simp [Stmt.onCredential, Stmt.credentialUpdate, UserCredential.setRoles, hid]

end World

/-! ## Where a call stands -/

/-- The argument is the array that the call has read. -/
inductive RolePhase where
  | start
  | read (roles : List String)
  | writing (roles : List String)
  | settled
  deriving DecidableEq

namespace RolePhase

/-- The phase after the user's row has been read. -/
def afterRead (change : RoleChange) (roles : List String) : RolePhase :=
  if (change.wanted roles).isNone then .settled
  else match change with
    | .assign _ _ => .read roles
    | .revoke _ _ => .writing roles

def next (change : RoleChange) : RolePhase → (s : Stmt) → Except Exn s.Reply → RolePhase
  | .start, .findCredentialById _, .ok (some c) => afterRead change c.roles
  | .start, .findCredentialById _, .ok none => .settled
  | .read roles, .findRoleByName _, .ok (some _) => .writing roles
  | .read _, .findRoleByName _, .ok none => .settled
  | .writing _, .updateRoles _ _, .ok _ => .settled
  | φ, _, .ok _ => φ
  | _, _, .error _ => .settled

def allowed (u : Nat) (change : RoleChange) : RolePhase → Stmt → Prop
  | .start, s => s = .findCredentialById u
  | .read _, s => ∃ role assignedBy, change = .assign role assignedBy ∧ s = .findRoleByName role
  | .writing roles, s => ∃ new, change.wanted roles = some new ∧ s = .updateRoles u new
  | .settled, s => s.writesCredentials = false

def monitor (u : Nat) (change : RoleChange) : Monitor sig RolePhase :=
  ⟨next change, allowed u change⟩

variable {u : Nat} {change : RoleChange} {α : Type}

def final (φ : RolePhase) (_ : Except Exn α) : Prop := φ = .settled

variable (u change) in
theorem next_settled (s : Stmt) (reply : Except Exn s.Reply) :
    (monitor u change).next .settled s reply = .settled := by
  cases reply with
  | error e => cases s <;> rfl
  | ok a => cases s <;> rfl

theorem next_error (φ : RolePhase) (s : Stmt) (e : Exn) :
    (monitor u change).next φ s (.error e) = .settled := by
  cases φ <;> cases s <;> rfl

theorem conforms_settled {p : AuthProg α}
    (hp : p.Uses fun s : Stmt => s.writesCredentials = false) :
    (monitor u change).Conforms final .settled p :=
  Monitor.conforms_of_uses hp (fun _ hs => hs) (fun s reply _ => next_settled u change s reply) fun _ => rfl

/-- After the write: the sign-out and the event. -/
theorem conforms_written {event : Int → DomainEvent} {new roles : List String}
    (hnew : change.wanted roles = some new) :
    (monitor u change).Conforms final (.writing roles)
      ((query (.updateRoles u new)).bind fun _ =>
        (TokenService.revokeAllUserTokens u "role_changed").bind fun _ =>
          newDate.bind fun timestamp => EventService.safePublish (event timestamp)) := by
  refine Monitor.conforms_perform_bind ⟨new, hnew, rfl⟩ (fun _ => ?_) fun e => next_error _ _ e
  refine conforms_settled ?_
  refine uses_bind ?_ fun _ => uses_publish rfl fun _ => rfl
  exact uses_bind (uses_perform_bind rfl fun _ => (uses_perform _).mpr rfl) fun _ => trivial

theorem conforms_assignRole (role assignedBy : String) :
    (monitor u (.assign role assignedBy)).Conforms final .start
      (RoleService.assignRole u role assignedBy) := by
  unfold RoleService.assignRole UserCredentialRepository.findById RoleRepository.findByName
  simp only [bind_eq]
  refine Monitor.conforms_perform_bind rfl (fun user? => ?_) fun e => next_error _ _ e
  cases user? with
  | none => rfl
  | some c =>
    show (monitor u (.assign role assignedBy)).Conforms final (afterRead _ c.roles) _
    by_cases hrole : c.roles.contains role = true
    · have hphase : afterRead (.assign role assignedBy) c.roles = .settled := by
        unfold afterRead RoleChange.wanted
        simp only [if_pos hrole]
        rfl
      rw [hphase]
      refine conforms_settled (uses_perform_bind rfl fun entity? => ?_)
      cases entity? with
      | none => trivial
      | some entity =>
        simp only [if_pos hrole]
        trivial
    · have hwanted : (RoleChange.assign role assignedBy).wanted c.roles =
          some (c.roles ++ [role]) := if_neg hrole
      have hphase : afterRead (.assign role assignedBy) c.roles = .read c.roles := by
        unfold afterRead
        rw [hwanted]
        rfl
      rw [hphase]
      refine Monitor.conforms_perform_bind ⟨role, assignedBy, rfl, rfl⟩ (fun entity? => ?_)
        fun e => next_error _ _ e
      cases entity? with
      | none => rfl
      | some entity =>
        simp only [if_neg hrole]
        exact conforms_written hwanted

theorem conforms_revokeRole (role revokedBy : String) :
    (monitor u (.revoke role revokedBy)).Conforms final .start
      (RoleService.revokeRole u role revokedBy) := by
  unfold RoleService.revokeRole UserCredentialRepository.findById
  simp only [bind_eq]
  refine Monitor.conforms_perform_bind rfl (fun user? => ?_) fun e => next_error _ _ e
  cases user? with
  | none => rfl
  | some c =>
    show (monitor u (.revoke role revokedBy)).Conforms final (afterRead _ c.roles) _
    by_cases hrole : c.roles.contains role = true
    · have hwanted : (RoleChange.revoke role revokedBy).wanted c.roles =
          some (c.roles.filter (· ≠ role)) := if_pos hrole
      have hphase : afterRead (.revoke role revokedBy) c.roles = .writing c.roles := by
        unfold afterRead
        rw [hwanted]
        rfl
      rw [hphase]
      simp only [if_pos hrole]
      exact conforms_written hwanted
    · have hphase : afterRead (.revoke role revokedBy) c.roles = .settled := by
        unfold afterRead RoleChange.wanted
        simp only [if_neg hrole]
        rfl
      rw [hphase]
      simp only [if_neg hrole]
      rfl

theorem conforms_call (change : RoleChange) :
    (monitor u change).Conforms final .start (change.call u) := by
  cases change with
  | assign role assignedBy => exact conforms_assignRole role assignedBy
  | revoke role revokedBy => exact conforms_revokeRole role revokedBy

/-! ## What a step does -/

variable {env : Env} {w : World} {s : Stmt} {φ : RolePhase}

/-- What a call that has come to its write knows of the table of roles. -/
def Grounded (change : RoleChange) (table : Table Role) (φ : RolePhase) : Prop :=
  ∀ roles, φ = .writing roles → change.known table = true

/-- The roles to be overwritten are those that the call has read. -/
def Current (u : Nat) (φ : RolePhase) (w : World) : Prop :=
  ∀ roles, φ = .writing roles → w.rolesOf u = some roles

instance : Decidable (Current u φ w) :=
  match φ with
  | .start => isTrue nofun
  | .read _ => isTrue nofun
  | .writing roles => decidable_of_iff (w.rolesOf u = some roles)
      ⟨fun h _ heq => RolePhase.writing.inj heq ▸ h, fun h => h roles rfl⟩
  | .settled => isTrue nofun

theorem wanted_of_afterRead {roles : List String} (h : afterRead change roles = .settled) :
    change.wanted roles = none := by
  unfold afterRead at h
  split at h
  · rename_i hnone
    exact Option.isNone_iff_eq_none.mp hnone
  · cases change <;> cases h

theorem known_of_afterRead {roles roles' : List String}
    (h : afterRead change roles = .writing roles') (table : Table Role) :
    change.known table = true := by
  unfold afterRead at h
  split at h
  · cases h
  · cases change with
    | assign role assignedBy => cases h
    | revoke role revokedBy => rfl

theorem effect_of_unwanted {v : Option (List String) × Table Role}
    (h : ∀ roles, v.1 = some roles → change.wanted roles = none ∨ change.known v.2 = false) :
    change.effect v = v := by
  obtain ⟨roles?, table⟩ := v
  cases roles? with
  | none => rfl
  | some roles =>
    unfold RoleChange.effect
    simp only [Option.map_some]
    rcases h roles rfl with h | h
    · simp [h]
    · simp only at h
      simp [h]

section Replies

variable (env : Env) (change : RoleChange)

theorem next_unregistered (h : w.account u = none) :
    next change .start (.findCredentialById u) (World.exec env (.findCredentialById u) w).1 =
      .settled := by
  show next change .start (.findCredentialById u) (.ok (w.account u)) = .settled
  rw [h]
  rfl

theorem next_registered {c : UserCredential} (h : w.account u = some c) :
    next change .start (.findCredentialById u) (World.exec env (.findCredentialById u) w).1 =
      afterRead change c.roles := by
  show next change .start (.findCredentialById u) (.ok (w.account u)) = afterRead change c.roles
  rw [h]
  rfl

variable {role : String}

theorem next_unknown_role (roles : List String)
    (h : w.roles.find? (fun r => r.name = role) = none) :
    next change (.read roles) (.findRoleByName role) (World.exec env (.findRoleByName role) w).1 =
      .settled := by
  show next change (.read roles) (.findRoleByName role)
    (.ok (w.roles.find? fun r => r.name = role)) = .settled
  rw [h]
  rfl

theorem next_known_role {r : Role} (roles : List String)
    (h : w.roles.find? (fun r => r.name = role) = some r) :
    next change (.read roles) (.findRoleByName role) (World.exec env (.findRoleByName role) w).1 =
      .writing roles := by
  show next change (.read roles) (.findRoleByName role)
    (.ok (w.roles.find? fun r => r.name = role)) = .writing roles
  rw [h]
  rfl

end Replies

variable (env) in
/-- A statement of a call either leaves the roles as they are and the call settled or not as it was,
or settles the call with all of its effect. -/
theorem settle (ha : allowed u change φ s) (hG : Grounded change w.roles φ) (hC : Current u φ w) :
    (next change φ s (World.exec env s w).1 = .settled ↔ φ = .settled) ∧
        (World.exec env s w).2.roleView u = w.roleView u ∨
      φ ≠ .settled ∧ next change φ s (World.exec env s w).1 = .settled ∧
        (World.exec env s w).2.roleView u = change.effect (w.roleView u) := by
  cases φ with
  | start =>
    cases ha
    cases hc : w.account u with
    | none =>
      have hnone : ∀ roles, (w.roleView u).1 ≠ some roles := by
        simp [World.roleView, World.rolesOf, hc]
      exact .inr ⟨nofun, next_unregistered env change hc,
        (effect_of_unwanted fun roles hroles => (hnone roles hroles).elim).symm⟩
    | some c =>
      rw [next_registered env change hc]
      by_cases hsettled : afterRead change c.roles = .settled
      · refine .inr ⟨nofun, hsettled, (effect_of_unwanted fun roles hroles => .inl ?_).symm⟩
        have hroles' : (w.roleView u).1 = some c.roles := by
          simp [World.roleView, World.rolesOf, hc]
        have heq : c.roles = roles := Option.some.inj (hroles'.symm.trans hroles)
        exact heq ▸ wanted_of_afterRead hsettled
      · exact .inl ⟨⟨fun h => (hsettled h).elim, nofun⟩, rfl⟩
  | read roles =>
    obtain ⟨role, assignedBy, rfl, rfl⟩ := ha
    cases hr : w.roles.find? fun r => r.name = role with
    | none =>
      have hunknown : (RoleChange.assign role assignedBy).known w.roles = false := by
        simp [RoleChange.known, hr]
      exact .inr ⟨nofun, next_unknown_role env _ roles hr,
        (effect_of_unwanted fun _ _ => .inr hunknown).symm⟩
    | some r =>
      rw [next_known_role env _ roles hr]
      exact .inl ⟨⟨nofun, nofun⟩, rfl⟩
  | writing roles =>
    obtain ⟨new, hnew, rfl⟩ := ha
    refine .inr ⟨nofun, rfl, ?_⟩
    have hroles := World.rolesOf_updateRoles (u := u) env w new
    unfold World.roleView RoleChange.effect
    rw [hroles, hC roles rfl, World.exec_roles]
    simp [hG roles rfl, hnew]
  | settled =>
    have hnext := next_settled u change s (World.exec env s w).1
    exact .inl ⟨⟨fun _ => rfl, fun _ => hnext⟩, World.roleView_exec env ha w⟩

theorem grounded_next (ha : allowed u change φ s) (hG : Grounded change w.roles φ) :
    Grounded change (World.exec env s w).2.roles (next change φ s (World.exec env s w).1) := by
  rw [World.exec_roles]
  intro roles hnext
  cases φ with
  | start =>
    cases ha
    cases hc : w.account u with
    | none =>
      rw [next_unregistered env change hc] at hnext
      cases hnext
    | some c =>
      rw [next_registered env change hc] at hnext
      exact known_of_afterRead hnext _
  | read roles' =>
    obtain ⟨role, assignedBy, rfl, rfl⟩ := ha
    cases hr : w.roles.find? fun r => r.name = role with
    | none =>
      rw [next_unknown_role env _ roles' hr] at hnext
      cases hnext
    | some r => simp [RoleChange.known, hr]
  | writing roles' =>
    obtain ⟨new, -, rfl⟩ := ha
    cases hnext
  | settled =>
    have hsettled := next_settled u change s (World.exec env s w).1
    exact nomatch hsettled.symm.trans hnext

/-- The roles that a call has read and not written over yet. -/
def held : RolePhase → Option (List String)
  | .read roles => some roles
  | .writing roles => some roles
  | _ => none

theorem held_afterRead {roles roles' : List String}
    (h : held (afterRead change roles) = some roles') : roles' = roles := by
  unfold afterRead at h
  split at h
  · cases h
  · cases change <;> exact (Option.some.inj h).symm

/-- A call alone keeps the roles that it has read, until it writes. -/
theorem held_next (ha : allowed u change φ s)
    (hh : ∀ roles, held φ = some roles → w.rolesOf u = some roles) {roles : List String}
    (hheld : held (next change φ s (World.exec env s w).1) = some roles) :
    (World.exec env s w).2.rolesOf u = some roles := by
  cases φ with
  | start =>
    cases ha
    cases hc : w.account u with
    | none =>
      rw [next_unregistered env change hc] at hheld
      cases hheld
    | some c =>
      rw [next_registered env change hc] at hheld
      have hroles : w.rolesOf u = some c.roles := by simp [World.rolesOf, hc]
      rw [held_afterRead hheld]
      exact hroles
  | read roles' =>
    obtain ⟨role, assignedBy, rfl, rfl⟩ := ha
    cases hr : w.roles.find? fun r => r.name = role with
    | none =>
      rw [next_unknown_role env _ roles' hr] at hheld
      cases hheld
    | some r =>
      rw [next_known_role env _ roles' hr] at hheld
      cases hheld
      exact hh roles rfl
  | writing roles' =>
    obtain ⟨new, -, rfl⟩ := ha
    cases hheld
  | settled =>
    have hsettled : next change .settled s (World.exec env s w).1 = .settled :=
      next_settled u change s _
    rw [hsettled] at hheld
    cases hheld

end RolePhase

/-- A call that is not interrupted has its effect. -/
theorem RoleChange.run_call (env : Env) (u : Nat) (change : RoleChange) (w : World) :
    ((change.call u).run (World.machine env) w).2.roleView u = change.effect (w.roleView u) := by
  let J (φ : RolePhase) (w' : World) : Prop :=
    (∀ roles, φ.held = some roles → w'.rolesOf u = some roles) ∧
      RolePhase.Grounded change w'.roles φ ∧
      w'.roleView u = if φ = .settled then change.effect (w.roleView u) else w.roleView u
  have hstep : ∀ φ s w', J φ w' → (RolePhase.monitor u change).allowed φ s →
      J ((RolePhase.monitor u change).next φ s ((World.machine env).exec s w').1)
        ((World.machine env).exec s w').2 := by
    rintro φ s w' ⟨hheld, hG, hview⟩ ha
    have hC : RolePhase.Current u φ w' := fun roles hφ => hheld roles (by rw [hφ]; rfl)
    refine ⟨fun roles => RolePhase.held_next ha hheld, RolePhase.grounded_next ha hG, ?_⟩
    rcases RolePhase.settle env ha hG hC with ⟨hsame, hv⟩ | ⟨hφ, hφ', hv⟩
    · refine hv.trans (hview.trans ?_)
      by_cases hφ : φ = .settled
      · rw [if_pos hφ]
        exact (if_pos (hsame.mpr hφ)).symm
      · rw [if_neg hφ]
        exact (if_neg fun h => hφ (hsame.mp h)).symm
    · refine hv.trans ?_
      rw [hview, if_neg hφ]
      exact (if_pos hφ').symm
  obtain ⟨φ, hsettled, -, -, hview⟩ := (RolePhase.conforms_call (u := u) change).run hstep
    ⟨nofun, nofun, rfl⟩
  exact hview.trans (if_pos hsettled)

/-! ## Calls beside each other -/

section Concurrent

variable {ι : Type} [DecidableEq ι] {u : Nat}

/-- The role changes `ch`, one in each thread, from `w` on. -/
def changing (u : Nat) (ch : ι → RoleChange) (w : World) : Pool sig World ι fun _ => Unit :=
  .start w fun i => (ch i).call u

abbrev RolePool (ι : Type) := Pool sig World ι fun _ => Unit

def rolePhase (u : Nat) (ch : ι → RoleChange) (q : RolePool ι) (i : ι) : RolePhase :=
  q.phase (fun i => RolePhase.monitor u (ch i)) (fun _ => .start) i

/-- A call writes only if the user's roles are still those that it has read. -/
def Unraced (u : Nat) (ch : ι → RoleChange) (q : RolePool ι) : Label ι → Prop
  | .run i => RolePhase.Current u (rolePhase u ch q i) q.world
  | .tick _ => True

instance (ch : ι → RoleChange) (q : RolePool ι) (l : Label ι) :
    Decidable (Unraced u ch q l) :=
  match l with
  | .run i => inferInstanceAs (Decidable (RolePhase.Current u (rolePhase u ch q i) q.world))
  | .tick _ => isTrue trivial

/-- The role set in `w'` is the one that the calls leave, one after another, in some order. -/
def Serialisable (env : Env) (u : Nat) (ch : ι → RoleChange) (w w' : World) : Prop :=
  ∃ order : List ι, order.Nodup ∧ (∀ i, i ∈ order) ∧
    w'.roleSet u =
      (order.foldl (fun w i => (((ch i).call u).run (World.machine env) w).2) w).roleSet u

variable {env : Env} {ch : ι → RoleChange} {w : World} {q : RolePool ι}

theorem conforms_changing (i : ι) :
    (RolePhase.monitor u (ch i)).Conforms RolePhase.final
      (rolePhase u ch (changing u ch w) i) ((changing u ch w).prog i) :=
  RolePhase.conforms_call (ch i)

theorem grounded_changing
    (hr : Reach (World.machine env) (Unraced u ch) (changing u ch w) q) (i : ι) :
    RolePhase.Grounded (ch i) q.world.roles (rolePhase u ch q i) := by
  have hconf : ∀ i, (RolePhase.monitor u (ch i)).Conforms RolePhase.final
      ((changing u ch w).phase (fun i => RolePhase.monitor u (ch i)) (fun _ => .start) i)
      ((changing u ch w).prog i) := fun i => conforms_changing i
  refine hr.invariant_of_conforms (M := World.machine env)
    (I := fun q => ∀ i, RolePhase.Grounded (ch i) q.world.roles (rolePhase u ch q i))
    hconf (fun i => nofun) (fun q n hI _ => hI) ?_ i
  intro q i s k hI _ hp ha j
  have hworld := Pool.world_step (M := World.machine env) hp
  by_cases hj : j = i
  · subst hj
    have hphase : rolePhase u ch (q.step (World.machine env) (.run j)) j =
        (rolePhase u ch q j).next (ch j) s (World.exec env s q.world).1 := phase_step_self hp
    rw [hphase, hworld]
    exact RolePhase.grounded_next ha (hI j)
  · have hphase : rolePhase u ch (q.step (World.machine env) (.run i)) j = rolePhase u ch q j :=
      phase_step_other hj
    rw [hphase, hworld]
    show RolePhase.Grounded (ch j) (World.exec env s q.world).2.roles _
    rw [World.exec_roles]
    exact hI j

/-- Where every call writes over the roles that it has read, the calls are as good as serial. -/
theorem role_changes_serialisable
    (hr : Reach (World.machine env) (Unraced u ch) (changing u ch w) q)
    (hdone : ∀ i, (q.result? i).isSome = true) : Serialisable env u ch w q.world := by
  have hsettles : ∀ (q : RolePool ι) i s k,
      Reach (World.machine env) (Unraced u ch) (changing u ch w) q → Unraced u ch q (.run i) →
      q.prog i = .call s k → Settles (World.roleView u) (fun i => (ch i).effect)
        (fun q i => rolePhase u ch q i = .settled) i q (q.step (World.machine env) (.run i)) := by
    intro q i s k hq hC hp
    have hconf : (RolePhase.monitor u (ch i)).Conforms RolePhase.final
        (q.phase (fun i => RolePhase.monitor u (ch i)) (fun _ => .start) i) (q.prog i) :=
      conforms_reach (m := fun i => RolePhase.monitor u (ch i)) (F := fun _ => RolePhase.final) hq
        (conforms_changing i)
    rw [hp] at hconf
    refine ⟨fun j hj => ?_, ?_⟩
    · have hphase : rolePhase u ch (q.step (World.machine env) (.run i)) j = rolePhase u ch q j :=
        phase_step_other hj
      rw [hphase]
    · have hphase : rolePhase u ch (q.step (World.machine env) (.run i)) i =
          (rolePhase u ch q i).next (ch i) s (World.exec env s q.world).1 := phase_step_self hp
      rw [hphase, Pool.world_step hp]
      exact RolePhase.settle env hconf.1 (grounded_changing hq i) hC
  obtain ⟨order, hnodup, hmem, hview⟩ :=
    hr.serial (fun i => nofun) (fun q n => ⟨fun i => Iff.rfl, rfl⟩) hsettles
  refine ⟨order, hnodup, fun i => ?_, ?_⟩
  · obtain ⟨r, hres⟩ := Option.isSome_iff_exists.mp (hdone i)
    have hfinal : RolePhase.final (rolePhase u ch q i) r :=
      final_of_result (m := fun i => RolePhase.monitor u (ch i)) (F := fun _ => RolePhase.final) hr
        (conforms_changing i) hres
    exact (hmem i).mpr hfinal
  · have hcall : ∀ i w, World.roleView u (((ch i).call u).run (World.machine env) w).2 =
        (ch i).effect (w.roleView u) := fun i w => RoleChange.run_call env u (ch i) w
    have hserial := foldl_run hcall order w
    have hroles := congrArg Prod.fst (hview.trans hserial.symm)
    exact congrArg (Option.map List.toFinset) hroles

/-! ## A lost update -/

/-- The registered user, with the role `ADMIN` in the database. -/
def adminRegistered : World :=
  runs Env.plain (World.initial adminRole 0 0) [.request (.register "a@x" "p" none none)]

/-- `ADMIN` is assigned while `USER` is revoked. -/
def promoteAndDemote : Fin 2 → RoleChange
  | 0 => .assign "ADMIN" "root"
  | 1 => .revoke "USER" "root"

/-- Both calls read the user's row first. -/
def bothRead : List (Label (Fin 2)) :=
  (List.finRange 2).map .run ++ (List.finRange 2).flatMap fun i => List.replicate 6 (.run i)

theorem role_changes_lost :
    ¬ ∀ (w : World), Reachable Env.plain w →
        ∀ (u : Nat) (ch : Fin 2 → RoleChange) (q : RolePool (Fin 2)),
      Reach (World.machine Env.plain) (fun _ _ => True) (changing u ch w) q →
      (∀ i, (q.result? i).isSome = true) → Serialisable Env.plain u ch w q.world := by
  intro h
  let q := (changing 1 promoteAndDemote adminRegistered).runs (World.machine Env.plain) bothRead
  have hr : Reach (World.machine Env.plain) (fun _ _ => True)
      (changing 1 promoteAndDemote adminRegistered) q := Reach.of_checked (by decide +kernel)
  obtain ⟨order, hnodup, hall, hroles⟩ :=
    h adminRegistered ⟨_, _, _, _, rfl⟩ 1 promoteAndDemote q hr (by decide +kernel)
  have hlost : q.world.roleSet 1 = some ∅ := by decide +kernel
  have hperm : order.Perm [0, 1] :=
    (List.perm_ext_iff_of_nodup hnodup (by decide)).mpr fun i =>
      ⟨fun _ => (by decide : ∀ i : Fin 2, i ∈ [0, 1]) i, fun _ => hall i⟩
  obtain ⟨i, j, rfl⟩ := List.length_eq_two.mp hperm.length_eq
  have hij : i ≠ j := by simpa using hnodup
  have hserial : ∀ i j : Fin 2, i ≠ j →
      ([i, j].foldl (fun w i => (((promoteAndDemote i).call 1).run (World.machine Env.plain) w).2)
        adminRegistered).roleSet 1 = some {"ADMIN"} := by
    decide +kernel
  have heq := hroles.trans (hserial i j hij)
  revert heq
  decide

/-- One call after the other. -/
def oneByOne : List (Label (Fin 2)) := List.replicate 7 (.run 0) ++ List.replicate 7 (.run 1)

def changedInTurn : RolePool (Fin 2) :=
  (changing 1 promoteAndDemote adminRegistered).runs (World.machine Env.plain) oneByOne

theorem role_changes_in_turn :
    Serialisable Env.plain 1 promoteAndDemote adminRegistered changedInTurn.world := by
  have hr : Reach (World.machine Env.plain) (Unraced 1 promoteAndDemote)
      (changing 1 promoteAndDemote adminRegistered) changedInTurn :=
    Reach.of_checked (by decide +kernel)
  exact role_changes_serialisable hr (by decide +kernel)

end Concurrent

end Auth
