import AuthService.Warrants

/-!
# AuthService.RoleProvenance

Role lists in any interleaving of requests and jobs: a concurrent change may be lost, but what is
stored stays well formed, and nobody holds a role that was not given to them.

* `RolesOf`  — a role list of a user: no role twice, each known to the service, and each had by the user
  before the run, assigned to the user in it, or the role of every new account.
* `RoleProvenance` — the invariant; `roles_have_provenance` — stored lists and signed tokens.
-/

namespace Auth

open Relational Resumption Prog

variable {env : Env} {ι : Type} [DecidableEq ι] {acts : ι → Activity} {w : World}
  {C : Pool sig.refusable World ι (fun _ => Response) → Label ι → Prop}
  {q : Pool sig.refusable World ι fun _ => Response} {i : ι} {s : sig.refusable.Stmt}
  {k : Except Exn (sig.refusable.Reply s) → Prog sig.refusable Response}

/-- The role of every new account, or a row of `roles`. -/
def World.knowsRole (w : World) (role : String) : Prop :=
  role = "USER" ∨ ∃ r ∈ w.roles.rows, r.name = role

/-- How a user comes by a role. -/
def Granted (env : Env) (acts : ι → Activity) (w : World) (u : Nat) (role : String) : Prop :=
  (∃ c ∈ w.credentials.rows, c.id = u ∧ role ∈ c.roles) ∨
    (∃ i assignedBy, (acts i).Serves env (.assignRole u role assignedBy)) ∨ role = "USER"

structure RolesOf (env : Env) (acts : ι → Activity) (w : World) (u : Nat) (roles : List String) :
    Prop where
  nodup : roles.Nodup
  known : ∀ role ∈ roles, w.knowsRole role
  granted : ∀ role ∈ roles, Granted env acts w u role

structure RoleProvenance (env : Env) (acts : ι → Activity) (w : World)
    (q : Pool sig.refusable World ι fun _ => Response) : Prop where
  roles : q.world.roles = w.roles
  rows : ∀ c ∈ q.world.credentials.rows, RolesOf env acts w c.id c.roles
  signed : ∀ p ∈ q.world.signed, p ∈ w.signed ∨ RolesOf env acts w p.sub p.roles
  /-- What the requests have in memory. -/
  known : ∀ i c, Knows (q.seen i) c → RolesOf env acts w c.id c.roles
  account : ∀ i v c, ⟨.findCredentialById v, .ok (some c)⟩ ∈ q.seen i → c.id = v
  entity : ∀ i role r, ⟨.findRoleByName role, .ok (some r)⟩ ∈ q.seen i →
    r ∈ w.roles.rows ∧ r.name = role

omit [DecidableEq ι] in
/-- The roles of a new account. -/
theorem rolesOf_user (env : Env) (acts : ι → Activity) (w : World) (u : Nat) :
    RolesOf env acts w u ["USER"] := by
  refine ⟨List.nodup_singleton _, fun role hrole => ?_, fun role hrole => ?_⟩
  · exact .inl (List.mem_singleton.mp hrole)
  · exact .inr (.inr (List.mem_singleton.mp hrole))

/-- A change of the row that was read keeps its list well formed. -/
theorem RoleProvenance.edited {r : Request} {u : Nat} {roles : List String}
    (hq : RoleProvenance env acts w q) (hserves : (acts i).Serves env r)
    (h : Edits r (q.seen i) u roles) : RolesOf env acts w u roles := by
  obtain ⟨c, hc, hchange⟩ := h
  have hold := hq.known i c (.byId u hc)
  rw [hq.account i u c hc] at hold
  rcases hchange with ⟨role, assignedBy, entity, rfl, hentity, hnew, rfl⟩ | ⟨role, revokedBy, -, rfl⟩
  · obtain ⟨hmem, hname⟩ := hq.entity i role entity hentity
    refine ⟨?_, fun role' hrole' => ?_, fun role' hrole' => ?_⟩
    · refine List.nodup_append.mpr ⟨hold.nodup, List.nodup_singleton role, ?_⟩
      intro a ha b hb hab
      rw [List.mem_singleton.mp hb] at hab
      exact hnew (hab ▸ ha)
    · rcases List.mem_append.mp hrole' with hrole' | hrole'
      · exact hold.known role' hrole'
      · rw [List.mem_singleton.mp hrole']
        exact .inr ⟨entity, hmem, hname⟩
    · rcases List.mem_append.mp hrole' with hrole' | hrole'
      · exact hold.granted role' hrole'
      · rw [List.mem_singleton.mp hrole']
        exact .inr (.inl ⟨i, assignedBy, hserves⟩)
  · refine ⟨hold.nodup.filter _, fun role' hrole' => ?_, fun role' hrole' => ?_⟩
    · exact hold.known role' (List.mem_filter.mp hrole').1
    · exact hold.granted role' (List.mem_filter.mp hrole').1

/-- Only `updateRoles` writes the roles of a row. -/
theorem roles_onCredential (s : Stmt) (c : UserCredential) :
    (s.onCredential c).roles = c.roles ∨
      ∃ roles, s = .updateRoles c.id roles ∧ (s.onCredential c).roles = roles := by
  cases s
  case updateRoles id roles =>
    by_cases hid : c.id = id
    · subst hid
      exact .inr ⟨roles, rfl, by simp [Stmt.onCredential, Stmt.credentialUpdate,
        UserCredential.setRoles]⟩
    · exact .inl (by simp [Stmt.onCredential, Stmt.credentialUpdate, hid])
  all_goals
    left
    simp only [Stmt.onCredential, Stmt.credentialUpdate] <;> split <;> rfl

theorem RoleProvenance.row {r : Request} {s : Stmt} {c : UserCredential}
    (hq : RoleProvenance env acts w q) (hserves : (acts i).Serves env r)
    (hwarrants : r.Warrants (q.seen i) s) (hc : c ∈ (World.exec env s q.world).2.credentials.rows) :
    RolesOf env acts w c.id c.roles := by
  rcases World.exec_credentialSource hc with ⟨c₀, hc₀, rfl⟩ | ⟨email, hash, roles, rfl, rfl⟩
  · rw [Stmt.onCredential_id]
    rcases roles_onCredential s c₀ with hsame | ⟨roles, rfl, hnew⟩
    · rw [hsame]
      exact hq.rows c₀ hc₀
    · rw [hnew]
      exact hq.edited hserves hwarrants
  · obtain ⟨-, rfl⟩ := hwarrants
    exact rolesOf_user env acts w _

/-- What a request comes to know by a statement is a row of the world after it. -/
theorem knows_step (hp : q.prog i = .call s k) {j : ι} {c : UserCredential}
    (hc : Knows ((q.step (World.machine env).refusable (.run i)).seen j) c) :
    Knows (q.seen j) c ∨ c ∈ (World.exec env s.1 q.world).2.credentials.rows := by
  cases hc with
  | created email hash roles hc =>
    rcases Pool.mem_seen_step hp hc with hc | ⟨hs, hreply | ⟨e, he⟩⟩
    · exact .inl (.created email hash roles hc)
    · rcases World.exec_createCredential env q.world email hash roles with ⟨e, he⟩ | ⟨table, he, hrows⟩
      · simp only [World.machine, he] at hreply
        cases hreply
      · simp only [World.machine, he] at hreply
        rw [← hs, he, hrows, Except.ok.inj hreply]
        exact .inr (by simp)
    · cases he
  | byEmail email hc =>
    rcases Pool.mem_seen_step hp hc with hc | ⟨hs, hreply | ⟨e, he⟩⟩
    · exact .inl (.byEmail email hc)
    · rw [← hs]
      exact .inr (Table.find?_mem (Except.ok.inj hreply).symm).1
    · cases he
  | byId id hc =>
    rcases Pool.mem_seen_step hp hc with hc | ⟨hs, hreply | ⟨e, he⟩⟩
    · exact .inl (.byId id hc)
    · rw [← hs]
      exact .inr (Table.find?_mem (Except.ok.inj hreply).symm).1
    · cases he

/-- A signed token's roles are those of a row that its request knows. -/
theorem RoleProvenance.claimed {r : Request} {s : Stmt} {p : JwtPayload}
    (hq : RoleProvenance env acts w q) (hwarrants : r.Warrants (q.seen i) s)
    (hp : p ∈ (World.exec env s q.world).2.signed) :
    p ∈ w.signed ∨ RolesOf env acts w p.sub p.roles := by
  cases s
  case signAccessToken sub email roles tokenType =>
    obtain ⟨-, c, hc, rfl, -, rfl⟩ := hwarrants
    simp only [World.exec] at hp
    split at hp
    · exact hq.signed p hp
    · rcases List.mem_cons.mp hp with rfl | hp
      · exact .inr (hq.known i c hc)
      · exact hq.signed p hp
  all_goals
    rw [exec_signed rfl] at hp
    exact hq.signed p hp

theorem roleProvenance_step (hq : RoleProvenance env acts w q) (hp : q.prog i = .call s k)
    (hw : ∃ r, (acts i).Serves env r ∧ r.Warrants (q.seen i) s.1) :
    RoleProvenance env acts w (q.step (World.machine env).refusable (.run i)) := by
  obtain ⟨r, hserves, hwarrants⟩ := hw
  have hworld := Pool.world_step (M := (World.machine env).refusable) hp
  refine ⟨?_, fun c hc => ?_, fun p hmem => ?_, fun j c hc => ?_, fun j v c hc => ?_,
    fun j role entity hentity => ?_⟩
  · rw [hworld]
    exact exec_refusable_keeps (I := fun v : World => v.roles = w.roles) hq.roles
      ((World.exec_roles env s.1 q.world).trans hq.roles)
  · rw [hworld] at hc
    revert c
    exact exec_refusable_keeps
      (I := fun v : World => ∀ c ∈ v.credentials.rows, RolesOf env acts w c.id c.roles) hq.rows
      fun c hc => hq.row hserves hwarrants hc
  · rw [hworld] at hmem
    revert p
    exact exec_refusable_keeps
      (I := fun v : World => ∀ p ∈ v.signed, p ∈ w.signed ∨ RolesOf env acts w p.sub p.roles) hq.signed
      fun p hmem => hq.claimed hwarrants hmem
  · rcases knows_step hp hc with hc | hc
    · exact hq.known j c hc
    · exact hq.row hserves hwarrants hc
  · rcases Pool.mem_seen_step hp hc with hc | ⟨-, hreply | ⟨e, he⟩⟩
    · exact hq.account j v c hc
    · exact World.account_id (Except.ok.inj hreply).symm
    · cases he
  · rcases Pool.mem_seen_step hp hentity with hentity | ⟨-, hreply | ⟨e, he⟩⟩
    · exact hq.entity j role entity hentity
    · obtain ⟨hmem, hname⟩ := Table.find?_mem (Except.ok.inj hreply).symm
      rw [hq.roles] at hmem
      exact ⟨hmem, by simpa using hname⟩
    · cases he

/-- Whatever the interleaving, no role list holds a role twice, an unknown role, or a role that the user
did not have, was not assigned and is not that of every account; neither does an access token. -/
theorem roles_have_provenance
    (hw : ∀ c ∈ w.credentials.rows, c.roles.Nodup ∧ ∀ role ∈ c.roles, w.knowsRole role)
    (hr : Reach (World.machine env).refusable C (answering env acts w) q) :
    (∀ c ∈ q.world.credentials.rows, RolesOf env acts w c.id c.roles) ∧
      ∀ p ∈ q.world.signed, p ∈ w.signed ∨ RolesOf env acts w p.sub p.roles := by
  have hq : RoleProvenance env acts w q := by
    refine hr.invariant_steps (I := RoleProvenance env acts w) ?_ (fun q n _ ih _ => ?_)
      fun q i s k hq ih _ hp => roleProvenance_step ih hp (warranted hq hp)
    · refine ⟨rfl, fun c hc => ?_, fun p hp => .inl hp, fun i c hc => ?_, fun i v c hc => ?_,
        fun i role r hr => ?_⟩
      · obtain ⟨hnodup, hknown⟩ := hw c hc
        exact ⟨hnodup, hknown, fun role hrole => .inl ⟨c, hc, rfl, hrole⟩⟩
      · cases hc with
        | created email hash roles hc => cases hc
        | byEmail email hc => cases hc
        | byId id hc => cases hc
      · cases hc
      · cases hr
    · exact ⟨ih.roles, ih.rows, ih.signed, ih.known, ih.account, ih.entity⟩
  exact ⟨hq.rows, hq.signed⟩

/-- Two requests assign the same role to a new account at the same time. -/
theorem roles_have_provenance_twice :
    let headers : Headers := ⟨none, some "ADMIN", some "root", none, .token .malformed⟩
    let acts : Option Bool → Activity := fun i =>
      if i.isSome then .http ⟨headers, none, .assignRole 1 .admin⟩ else .http (registration none)
    let q := (answering Env.plain acts (World.initial adminRole 0 0)).runs
      (World.machine Env.plain).refusable
        (List.replicate 4 (.run none) ++ [.run (some false), .run (some true), .run (some false),
          .run (some true), .run (some false), .run (some true)])
    q.world.credentials.rows.map (·.roles) = [["USER", "ADMIN"]] ∧
      ∀ c ∈ q.world.credentials.rows,
        RolesOf Env.plain acts (World.initial adminRole 0 0) c.id c.roles := by
  intro headers acts q
  have hr : Reach (World.machine Env.plain).refusable (fun _ _ => True)
      (answering Env.plain acts (World.initial adminRole 0 0)) q := Reach.of_checked (by decide +kernel)
  refine ⟨by decide +kernel, (roles_have_provenance (fun c hc => ?_) hr).1⟩
  cases hc

end Auth
