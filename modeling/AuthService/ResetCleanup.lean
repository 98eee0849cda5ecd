import AuthService.Isolation
import AuthService.Resumption.Lockstep

/-!
# AuthService.ResetCleanup

The cleanup of `password_reset_tokens` beside any requests and jobs, statement by statement: two runs
of one schedule, in the second of which some threads with that job never run.

* `PasswordResetToken.spent` — the rows that no reset accepts any more.
* `Swept`     — a world, and what the job has left of it.
* `Rejected`  — what is left of a reset that has found a spent row; `Tolerant` — a program that a
  missing row leads to the same end.
* `Trails`    — a thread beside its counterpart, which may have a clock to read before it gives up.
* `reset_cleanup_unobservable` — the two runs answer alike, but for the text about a used token.
-/

namespace Auth

open Relational Resumption Prog

/-- A reset turns the row down. -/
def PasswordResetToken.spent (t : PasswordResetToken) (now : Int) : Bool :=
  t.expiresAt < now || t.used

theorem spent_mono {t : PasswordResetToken} {now later : Int} (hle : now ≤ later)
    (h : t.spent now = true) : t.spent later = true := by
  simp only [PasswordResetToken.spent, Bool.or_eq_true, decide_eq_true_eq] at h ⊢
  rcases h with h | h
  · exact .inl (Int.lt_of_lt_of_le h hle)
  · exact .inr h

/-- The world `w` is `v` without some spent rows of `password_reset_tokens`. -/
structure Swept (w v : World) : Prop where
  rest : w = { v with passwordResetTokens := w.passwordResetTokens }
  rows : ∃ gone : List Nat,
    w.passwordResetTokens.rows = v.passwordResetTokens.rows.filter (fun t => !gone.contains t.id) ∧
      (∀ t ∈ v.passwordResetTokens.rows, t.id ∈ gone → t.spent v.now = true) ∧
      ∀ id ∈ gone, id < v.supply

variable {env : Env} {w v : World} {s : Stmt}

namespace Swept

theorem refl (w : World) : Swept w w := by
  refine ⟨rfl, [], ?_, ?_, ?_⟩
  · simp
  · intro t _ ht
    cases ht
  · intro id hid
    cases hid

theorem now_eq (h : Swept w v) : w.now = v.now := by rw [h.rest]

theorem later (n : Nat) (h : Swept w v) :
    Swept { w with now := w.now + n } { v with now := v.now + n } := by
  obtain ⟨gone, hrows, hspent, hlt⟩ := h.rows
  refine ⟨?_, gone, hrows, ?_, hlt⟩
  · conv_lhs => rw [h.rest]
  · intro t ht hid
    refine spent_mono ?_ (hspent t ht hid)
    show v.now ≤ v.now + n
    omega

theorem mem (h : Swept w v) {t : PasswordResetToken} (ht : t ∈ w.passwordResetTokens.rows) :
    t ∈ v.passwordResetTokens.rows := by
  obtain ⟨gone, hrows, -, -⟩ := h.rows
  rw [hrows] at ht
  exact (List.mem_filter.mp ht).1

/-- A row that is gone is spent. -/
theorem spent_of_gone (h : Swept w v) {t : PasswordResetToken}
    (ht : t ∈ v.passwordResetTokens.rows) (hgone : t ∉ w.passwordResetTokens.rows) :
    t.spent v.now = true := by
  obtain ⟨gone, hrows, hspent, -⟩ := h.rows
  rw [hrows, List.mem_filter] at hgone
  refine hspent t ht ?_
  by_contra hid
  exact hgone ⟨ht, by simp [hid]⟩

end Swept

/-! ## Statements -/

/-- A statement that looks at no reset token does the same whatever reset tokens there are. -/
theorem exec_withResets (env : Env) (hwrites : s.writesResetTokens = false)
    (hfind : ∀ hash, s ≠ .findResetTokenByHash hash) (table : Table PasswordResetToken) (v : World) :
    World.exec env s { v with passwordResetTokens := table } =
      ((World.exec env s v).1, { (World.exec env s v).2 with passwordResetTokens := table }) := by
  cases s
  case findResetTokenByHash hash => exact absurd rfl (hfind hash)
  case createPasswordResetToken | markAsUsed | deleteExpiredOrUsed | deleteResetTokensByUserId
      | deleteCredential => cases hwrites
  case hashPassword | signAccessToken | createCredential => simp only [World.exec]; split <;> rfl
  case createRefreshToken data =>
    have huser : ({ v with passwordResetTokens := table } : World).hasUser data.userId =
        v.hasUser data.userId := rfl
    by_cases hu : v.hasUser data.userId = true
    · cases hi : v.refreshTokens.insert? (World.newRefreshToken v.supply data) with
      | none => simp only [World.exec, huser, hu, hi, if_true]
      | some table' => simp only [World.exec, huser, hu, hi, if_true]
    · simp only [World.exec, huser, if_neg hu]
  all_goals rfl

theorem swept_exec_other (env : Env) (hwrites : s.writesResetTokens = false)
    (hfind : ∀ hash, s ≠ .findResetTokenByHash hash) (h : Swept w v) :
    (World.exec env s w).1 = (World.exec env s v).1 ∧
      Swept (World.exec env s w).2 (World.exec env s v).2 := by
  obtain ⟨gone, hrows, hspent, hlt⟩ := h.rows
  have hexec := exec_withResets env hwrites hfind w.passwordResetTokens v
  have hsame : (World.exec env s v).2.passwordResetTokens = v.passwordResetTokens :=
    World.exec_passwordResetTokens env s v hwrites
  rw [← h.rest] at hexec
  rw [hexec]
  refine ⟨rfl, rfl, gone, ?_, ?_, ?_⟩
  · rw [hsame]
    exact hrows
  · rw [hsame, World.exec_now]
    exact hspent
  · intro id hid
    exact Nat.lt_of_lt_of_le (hlt id hid) (World.exec_supply env s v)

/-- A `DELETE` that both worlds execute. -/
theorem swept_delete (v' : World) (table : Table PasswordResetToken) {p : PasswordResetToken → Bool}
    (h : Swept w v) (hrest : w.passwordResetTokens.rows.filter (fun t => !p t) = table.rows)
    (hv : v'.passwordResetTokens.rows = v.passwordResetTokens.rows.filter (fun t => !p t))
    (hnow : v'.now = v.now) (hsupply : v'.supply = v.supply) :
    Swept { v' with passwordResetTokens := table } v' := by
  obtain ⟨gone, hrows, hspent, hlt⟩ := h.rows
  refine ⟨rfl, gone, ?_, ?_, ?_⟩
  · rw [hv, ← hrest, hrows, List.filter_filter, List.filter_filter]
    exact List.filter_congr fun t _ => Bool.and_comm _ _
  · intro t ht hid
    rw [hv] at ht
    rw [hnow]
    exact hspent t (List.mem_filter.mp ht).1 hid
  · rw [hsupply]
    exact hlt

theorem swept_markAsUsed (env : Env) (id : Nat) (usedAt : Int) (h : Swept w v) :
    Swept (World.exec env (.markAsUsed id usedAt) w).2 (World.exec env (.markAsUsed id usedAt) v).2 := by
  obtain ⟨gone, hrows, hspent, hlt⟩ := h.rows
  refine ⟨?_, gone, ?_, ?_, hlt⟩
  · conv_lhs => rw [h.rest]
    rfl
  · show w.passwordResetTokens.rows.map _ = (v.passwordResetTokens.rows.map _).filter _
    rw [hrows, List.filter_map]
    congr 1
    apply List.filter_congr
    intro t _
    have hid : (Table.patchIf (fun t : PasswordResetToken => t.id = id)
        (PasswordResetToken.markUsed usedAt) t).id = t.id := Table.key_patchIf _ _ t
    simp [hid]
  · intro t' ht' hid
    obtain ⟨t, ht, rfl⟩ := Table.mem_updateWhere.mp ht'
    have hkey : (Table.patchIf (fun t : PasswordResetToken => t.id = id)
        (PasswordResetToken.markUsed usedAt) t).id = t.id := Table.key_patchIf _ _ t
    rw [hkey] at hid
    have hold := hspent t ht hid
    unfold Table.patchIf
    split
    · simp [PasswordResetToken.spent, PasswordResetToken.markUsed]
    · exact hold

/-- An `INSERT` with a new id and a new digest. -/
theorem swept_create (env : Env) {u : Nat} {hash : TokenHash} {e : Int}
    (hid : ∀ t ∈ v.passwordResetTokens.rows, t.id < v.supply)
    (hnew : ∀ t ∈ v.passwordResetTokens.rows, t.tokenHash ≠ hash) (h : Swept w v) :
    (World.exec env (.createPasswordResetToken u hash e) w).1 =
        (World.exec env (.createPasswordResetToken u hash e) v).1 ∧
      Swept (World.exec env (.createPasswordResetToken u hash e) w).2
        (World.exec env (.createPasswordResetToken u hash e) v).2 := by
  obtain ⟨gone, hrows, hspent, hlt⟩ := h.rows
  have hsupply : w.supply = v.supply := by rw [h.rest]
  have huser : w.hasUser u = v.hasUser u := by rw [h.rest]; rfl
  by_cases hu : v.hasUser u = true
  · obtain ⟨table, hinsert, hexec⟩ := World.exec_createPasswordResetToken_new env hash e hid hnew hu
    obtain ⟨table', hinsert', hexec'⟩ := World.exec_createPasswordResetToken_new env hash e
      (fun t ht => by rw [hsupply]; exact hid t (h.mem ht)) (fun t ht => hnew t (h.mem ht))
      (huser.trans hu)
    have hnotgone : v.supply ∉ gone := fun hmem => Nat.lt_irrefl _ (hlt _ hmem)
    rw [hexec, hexec', hsupply]
    refine ⟨rfl, ?_, gone, ?_, ?_, ?_⟩
    · conv_lhs => rw [h.rest]
    · rw [Table.rows_insert? hinsert, Table.rows_insert? hinsert', List.filter_append, hrows, hsupply]
      simp [hnotgone]
    · intro t ht hmem
      rcases (Table.mem_insert? hinsert).mp ht with ht | rfl
      · exact hspent t ht hmem
      · exact absurd hmem hnotgone
    · intro id hmem
      exact Nat.lt_succ_of_lt (hlt id hmem)
  · have hfails : ∀ x : World, ¬ x.hasUser u = true →
        World.exec env (.createPasswordResetToken u hash e) x = (.error .foreignKeyViolation, x) := by
      intro x hx
      simp only [World.exec, if_neg hx]
    rw [hfails v hu, hfails w (by rw [huser]; exact hu)]
    exact ⟨rfl, h⟩

/-- Every statement but the lookup: the worlds stay related, and only the job's count may differ. -/
theorem swept_exec (env : Env) (hfind : ∀ hash, s ≠ .findResetTokenByHash hash)
    (hid : ∀ t ∈ v.passwordResetTokens.rows, t.id < v.supply)
    (hnew : ∀ u hash e, s = .createPasswordResetToken u hash e →
      ∀ t ∈ v.passwordResetTokens.rows, t.tokenHash ≠ hash) (h : Swept w v) :
    ((World.exec env s w).1 = (World.exec env s v).1 ∨ ∃ now, s = .deleteExpiredOrUsed now) ∧
      Swept (World.exec env s w).2 (World.exec env s v).2 := by
  by_cases hwrites : s.writesResetTokens = true
  · cases s
    case createPasswordResetToken u hash e =>
      obtain ⟨hreply, hswept⟩ := swept_create env hid (hnew u hash e rfl) h
      exact ⟨.inl hreply, hswept⟩
    case markAsUsed id usedAt => exact ⟨.inl rfl, swept_markAsUsed env id usedAt h⟩
    case deleteExpiredOrUsed now =>
      refine ⟨.inr ⟨now, rfl⟩, ?_⟩
      have hswept := swept_delete (World.exec env (.deleteExpiredOrUsed now) v).2
        (w.passwordResetTokens.deleteWhere fun t => t.expiresAt < now || t.used) h rfl rfl rfl rfl
      have hw : (World.exec env (.deleteExpiredOrUsed now) w).2 =
          { w with passwordResetTokens :=
              w.passwordResetTokens.deleteWhere fun t => t.expiresAt < now || t.used } := rfl
      rw [hw, h.rest]
      exact hswept
    case deleteResetTokensByUserId u =>
      refine ⟨.inl rfl, ?_⟩
      have hswept := swept_delete (World.exec env (.deleteResetTokensByUserId u) v).2
        (w.passwordResetTokens.deleteWhere fun t => t.userId = u) h rfl rfl rfl rfl
      have hw : (World.exec env (.deleteResetTokensByUserId u) w).2 =
          { w with passwordResetTokens :=
              w.passwordResetTokens.deleteWhere fun t => t.userId = u } := rfl
      rw [hw, h.rest]
      exact hswept
    case deleteCredential u =>
      have hswept := swept_delete (World.exec env (.deleteCredential u) v).2
        (w.passwordResetTokens.deleteWhere fun t => t.userId = u) h rfl rfl rfl rfl
      rw [h.rest]
      exact ⟨.inl rfl, hswept⟩
    all_goals cases hwrites
  · obtain ⟨hreply, hswept⟩ := swept_exec_other env (by simpa using hwrites) hfind h
    exact ⟨.inl hreply, hswept⟩

/-- The lookup finds the same row, or it misses a spent one. -/
theorem swept_find (h : Swept w v) (hash : TokenHash) :
    w.passwordResetTokens.find? (fun t => t.tokenHash = hash) =
        v.passwordResetTokens.find? (fun t => t.tokenHash = hash) ∨
      w.passwordResetTokens.find? (fun t => t.tokenHash = hash) = none ∧
        ∃ t, v.passwordResetTokens.find? (fun t => t.tokenHash = hash) = some t ∧
          t.spent v.now = true := by
  cases hv : v.passwordResetTokens.find? (fun t => t.tokenHash = hash) with
  | none =>
    refine .inl ?_
    cases hw : w.passwordResetTokens.find? (fun t => t.tokenHash = hash) with
    | none => rfl
    | some t =>
      obtain ⟨ht, hp⟩ := Table.find?_mem hw
      rw [Table.find?_none hv t (h.mem ht)] at hp
      cases hp
  | some t =>
    obtain ⟨ht, hp⟩ := Table.find?_mem hv
    by_cases hmem : t ∈ w.passwordResetTokens.rows
    · refine .inl (Table.find?_unique hmem hp fun t' ht' hp' => ?_)
      refine Table.eq_of_uniq (h.mem ht') ht ?_
      exact (of_decide_eq_true hp').trans (of_decide_eq_true hp).symm
    · refine .inr ⟨?_, t, rfl, h.spent_of_gone ht hmem⟩
      cases hw : w.passwordResetTokens.find? (fun t => t.tokenHash = hash) with
      | none => rfl
      | some t' =>
        obtain ⟨ht', hp'⟩ := Table.find?_mem hw
        have heq : t' = t := Table.eq_of_uniq (h.mem ht') ht
          ((of_decide_eq_true hp').trans (of_decide_eq_true hp).symm)
        rw [heq] at ht'
        exact absurd ht' hmem

/-- The job alone: what it deletes is spent. -/
theorem swept_job {now : Int} (env : Env) (hid : ∀ t ∈ v.passwordResetTokens.rows, t.id < v.supply)
    (hle : now ≤ w.now) (h : Swept w v) : Swept (World.exec env (.deleteExpiredOrUsed now) w).2 v := by
  obtain ⟨gone, hrows, hspent, hlt⟩ := h.rows
  let swept := (v.passwordResetTokens.rows.filter (PasswordResetToken.spent · now)).map (·.id)
  have hswept : ∀ t ∈ v.passwordResetTokens.rows, t.id ∈ swept ↔ t.spent now = true := by
    intro t ht
    constructor
    · intro hmem
      obtain ⟨t', ht', hid'⟩ := List.mem_map.mp hmem
      obtain ⟨ht', hsp⟩ := List.mem_filter.mp ht'
      rwa [Table.eq_of_key ht' ht hid'] at hsp
    · intro hsp
      exact List.mem_map.mpr ⟨t, List.mem_filter.mpr ⟨ht, hsp⟩, rfl⟩
  refine ⟨?_, gone ++ swept, ?_, ?_, ?_⟩
  · conv_lhs => rw [h.rest]
    rfl
  · show w.passwordResetTokens.rows.filter _ = _
    rw [hrows, List.filter_filter]
    apply List.filter_congr
    intro t ht
    by_cases hsp : t.spent now = true
    · have hmem := (hswept t ht).mpr hsp
      unfold PasswordResetToken.spent at hsp
      simp [hmem, hsp]
    · have hmem : t.id ∉ swept := fun hmem => hsp ((hswept t ht).mp hmem)
      unfold PasswordResetToken.spent at hsp
      simp [hmem, hsp]
  · intro t ht hmem
    rcases List.mem_append.mp hmem with hmem | hmem
    · exact hspent t ht hmem
    · exact spent_mono (h.now_eq ▸ hle) ((hswept t ht).mp hmem)
  · intro id hmem
    rcases List.mem_append.mp hmem with hmem | hmem
    · exact hlt id hmem
    · obtain ⟨t, ht, rfl⟩ := List.mem_map.mp hmem
      exact hid t (List.mem_filter.mp ht).1

/-! ## Programs -/

/-- A program that gives up; before it says so it may read the clock, at `now` or later. -/
inductive Rejected (now : Int) : Prog sig.refusable Response → Prop where
  | used : Rejected now (.throw (.badRequest ErrorMessages.AUTH_PASSWORD_RESET_USED))
  | invalid : Rejected now (.throw (.badRequest ErrorMessages.AUTH_PASSWORD_RESET_INVALID))
  | expiring (k : Except Exn Int → Prog sig.refusable Response)
      (hk : ∀ later, now ≤ later →
        k (.ok later) = .throw (.badRequest ErrorMessages.AUTH_PASSWORD_RESET_INVALID)) :
      Rejected now (.call (.newDate, none) k)

theorem Rejected.later {now later : Int} {p : Prog sig.refusable Response} (h : Rejected now p)
    (hle : now ≤ later) : Rejected later p := by
  cases h with
  | used => exact .used
  | invalid => exact .invalid
  | expiring k hk => exact .expiring k fun t ht => hk t (Int.le_trans hle ht)

/-- The rest of a program does not go by what the job may change: without the row that a lookup has
found spent it gives up at once, and it does not go by the number of rows deleted. -/
def Stmt.Tolerant : (s : Stmt) → (Except Exn s.Reply → Prog sig.refusable Response) → Prop
  | .findResetTokenByHash _, k =>
    k (.ok none) = .throw (.badRequest ErrorMessages.AUTH_PASSWORD_RESET_INVALID) ∧
      ∀ t now, t.spent now = true → Rejected now (k (.ok (some t)))
  | .deleteExpiredOrUsed _, k => ∀ n n', k (.ok n) = k (.ok n')
  | _, _ => True

def Tolerant : Prog sig.refusable Response → Prop
  | .ret _ => True
  | .throw _ => True
  | .call s k => s.1.Tolerant k ∧ ∀ r, Tolerant (k r)

/-- The statement neither looks a reset token up nor counts spent ones. -/
def Stmt.ignoresResets : Stmt → Bool
  | .findResetTokenByHash _ => false
  | .deleteExpiredOrUsed _ => false
  | _ => true

theorem tolerant_of_uses {refuse : Stmt → Option Exn} {p : AuthProg Response}
    (hp : p.Uses fun s : Stmt => s.ignoresResets = true) : Tolerant (p.submit refuse) := by
  induction p with
  | ret a => trivial
  | throw e => trivial
  | call s k ih =>
    refine ⟨?_, fun r => ih r (hp.2 r)⟩
    obtain ⟨hs, -⟩ := hp
    cases s
    case findResetTokenByHash | deleteExpiredOrUsed => cases hs
    all_goals trivial

theorem ignores_redeem (t : PasswordResetToken) (newPassword : String) (ipAddress : Option String) :
    (AuthService.redeem t newPassword ipAddress).Uses fun s : Stmt => s.ignoresResets = true := by
  unfold AuthService.redeem CredentialService.updatePassword
  simp only [bind_eq, Prog.bind_assoc]
  refine uses_perform_bind rfl fun hash => ?_
  refine uses_bind (uses_perform_bind rfl fun _ => (uses_perform _).mpr rfl) fun _ => ?_
  refine uses_bind (uses_perform_bind rfl fun _ => (uses_perform _).mpr rfl) fun _ => ?_
  refine uses_perform_bind rfl fun _ => ?_
  refine uses_bind (uses_revokeAllUserTokens rfl fun _ => rfl) fun _ => ?_
  refine uses_bind (uses_publish rfl fun _ => rfl) fun _ => ?_
  exact (uses_perform _).mpr rfl

/-- `resetPassword` after its lookup, as the route runs it. -/
def resetFound (newPassword : String) (ipAddress : Option String) (t : PasswordResetToken) :
    AuthProg Response :=
  let found : AuthProg Unit :=
    if t.used then Prog.throw (.badRequest ErrorMessages.AUTH_PASSWORD_RESET_USED)
    else do
      let now ← newDate
      if t.expiresAt < now then Prog.throw (.badRequest ErrorMessages.AUTH_PASSWORD_RESET_INVALID)
      else AuthService.redeem t newPassword ipAddress
  found.bind fun _ => .ret .done

theorem rejected_resetFound (newPassword : String) (ipAddress : Option String)
    {t : PasswordResetToken} {now : Int} (hspent : t.spent now = true) :
    Rejected now ((resetFound newPassword ipAddress t).submit fun _ => none) := by
  unfold resetFound
  cases hused : t.used with
  | true => exact .used
  | false =>
    refine .expiring _ fun later hle => ?_
    have hexpired : t.expiresAt < later := by
      simp only [PasswordResetToken.spent, hused, Bool.or_false, decide_eq_true_eq] at hspent
      omega
    simp [hexpired]

theorem ignores_resetFound (newPassword : String) (ipAddress : Option String)
    (t : PasswordResetToken) :
    (resetFound newPassword ipAddress t).Uses fun s : Stmt => s.ignoresResets = true := by
  unfold resetFound
  refine uses_bind ?_ fun _ => trivial
  split
  · trivial
  · refine uses_perform_bind rfl fun now => ?_
    split
    · trivial
    · exact ignores_redeem t newPassword ipAddress

/-- A reset that finds a spent row ends as one that finds none, but for the text. -/
theorem tolerant_resetPassword (env : Env) (raw : Nat) (newPassword : String)
    (ipAddress : Option String) :
    Tolerant ((handle env (.resetPassword raw newPassword ipAddress)).submit fun _ => none) := by
  refine ⟨⟨rfl, fun t now hspent => rejected_resetFound newPassword ipAddress hspent⟩, fun r => ?_⟩
  cases r with
  | error e => trivial
  | ok t? =>
    cases t? with
    | none => trivial
    | some t =>
      exact tolerant_of_uses (p := resetFound newPassword ipAddress t)
        (ignores_resetFound newPassword ipAddress t)

/-- The count of deleted rows is only logged. -/
theorem tolerant_cleanup (env : Env) :
    Tolerant ((handle env .cleanupPasswordResets).submit fun _ => none) := by
  refine ⟨trivial, fun r => ?_⟩
  cases r with
  | error e => trivial
  | ok now =>
    refine ⟨fun n n' => rfl, fun r => ?_⟩
    cases r <;> trivial

theorem ignores_job {j : Job} (hj : j ≠ .cleanupPasswordResets) :
    (handle env j.request).Uses fun s : Stmt => s.ignoresResets = true := by
  cases j with
  | cleanupPasswordResets => exact absurd rfl hj
  | cleanupRefreshTokens =>
    refine uses_bind (uses_tryCatch ?_ fun _ => trivial) fun _ => trivial
    exact uses_bind (uses_perform_bind rfl fun _ => (uses_perform _).mpr rfl) fun _ => trivial
  | unlockExpiredLockouts =>
    refine uses_bind (uses_tryCatch ?_ fun _ => trivial) fun _ => trivial
    refine uses_bind (uses_perform_bind rfl fun now => (uses_perform _).mpr rfl) fun accounts => ?_
    exact uses_forEach fun c _ => uses_tryCatch ((uses_perform _).mpr rfl) fun _ => trivial

/-- Only `resetPassword` looks a reset token up. -/
theorem ignores_handle {r : Request} (hr : r.addressed = true ∨ r.validates = true)
    (hreset : ∀ raw newPassword ipAddress, r ≠ .resetPassword raw newPassword ipAddress) :
    (handle env r).Uses fun s : Stmt => s.ignoresResets = true := by
  rcases hr with haddressed | hvalidates
  · refine (uses_of_justified (addresses_handle env haddressed)).mono fun s ⟨h, hs⟩ => ?_
    cases s
    case findResetTokenByHash hash =>
      obtain ⟨raw, -, hk⟩ := hs
      cases r
      case resetPassword => exact absurd rfl (hreset _ _ _)
      case revokeToken u reason => cases u <;> cases hk
      all_goals cases hk
    case deleteExpiredOrUsed => exact hs.elim
    all_goals rfl
  · cases r
    case validateToken token =>
      exact uses_bind (uses_validateToken_of token rfl (fun _ => rfl) fun _ => rfl) fun _ => trivial
    case introspect token =>
      exact uses_bind (uses_introspect_of token rfl fun _ => rfl) fun _ => trivial
    all_goals cases hvalidates

theorem tolerant_program (env : Env) (a : Activity) : Tolerant (a.program env) := by
  cases a with
  | pass n => trivial
  | job j =>
    by_cases hj : j = .cleanupPasswordResets
    · rw [hj]
      exact tolerant_cleanup env
    · exact tolerant_of_uses (ignores_job hj)
  | http x =>
    by_cases hreset : ∃ raw newPassword, x.route = .resetPassword raw newPassword
    · obtain ⟨raw, newPassword, hroute⟩ := hreset
      have hrefusal : x.refusal env = fun _ => none := by
        funext s
        unfold HttpRequest.refusal
        rw [hroute]
        rfl
      have hrequest : x.request env = .resetPassword raw newPassword none := by
        unfold HttpRequest.request
        rw [hroute]
      show Tolerant ((handle env (x.request env)).submit (x.refusal env))
      rw [hrefusal, hrequest]
      exact tolerant_resetPassword env raw newPassword none
    · refine tolerant_of_uses (ignores_handle (addressed_or_validates env x) ?_)
      intro raw newPassword ipAddress hrequest
      unfold HttpRequest.request at hrequest
      cases hroute : x.route
      case resetPassword => exact hreset ⟨_, _, hroute⟩
      all_goals
        rw [hroute] at hrequest
        cases hrequest

/-! ## Two runs of one schedule -/

section Interleaved

variable {ι : Type} [DecidableEq ι] {acts : ι → Activity} {still : ι → Bool}
  {C : Pool sig.refusable World ι (fun _ => Response) → Label ι → Prop}
  {q q' : Pool sig.refusable World ι fun _ => Response} {i : ι} {st : sig.refusable.Stmt}
  {k : Except Exn (sig.refusable.Reply st) → Prog sig.refusable Response}

/-- The statements of the job. -/
def Sweeps (h : List (Exchange sig)) (s : Stmt) : Prop :=
  s = .newDate ∨ ∃ now, s = .deleteExpiredOrUsed now ∧ ⟨.newDate, .ok now⟩ ∈ h

theorem sweeps_cleanup (env : Env) : (handle env .cleanupPasswordResets).Justified Sweeps [] := by
  refine ⟨.inl rfl, fun r => ?_⟩
  cases r with
  | error e => trivial
  | ok now =>
    refine ⟨.inr ⟨now, rfl, List.mem_cons_self⟩, fun r => ?_⟩
    cases r <;> trivial

theorem sweeps_reach (hr : Reach (World.machine env).refusable C (answering env acts w) q)
    (hjob : acts i = .job .cleanupPasswordResets) (hp : q.prog i = .call st k) :
    Sweeps (q.seen i) st.1 := by
  refine hr.justified_seen
    (J := fun i h s => acts i = .job .cleanupPasswordResets → Sweeps h s) rfl (fun i => ?_) hp hjob
  by_cases hjob : acts i = .job .cleanupPasswordResets
  · have hprog : (answering env acts w).prog i =
        (handle env .cleanupPasswordResets).submit fun _ => none := by
      show (acts i).program env = _
      rw [hjob]
      rfl
    rw [hprog]
    exact (justified_submit (sweeps_cleanup env)).mono fun h s hs _ => hs
  · exact justified_of_forall _ fun _ _ h => absurd h hjob

/-- A thread beside its counterpart in the run where the rows are still there. -/
inductive Trails (now : Int) : Prog sig.refusable Response → Prog sig.refusable Response → Prop where
  | same (p : Prog sig.refusable Response) (hp : Tolerant p) : Trails now p p
  | rejected (p : Prog sig.refusable Response) (hp : Rejected now p) :
      Trails now (.throw (.badRequest ErrorMessages.AUTH_PASSWORD_RESET_INVALID)) p

theorem Trails.later {now later : Int} {p p' : Prog sig.refusable Response} (h : Trails now p p')
    (hle : now ≤ later) : Trails later p p' := by
  cases h with
  | same p hp => exact .same p hp
  | rejected p hp => exact .rejected p' (hp.later hle)

/-- One statement of two threads that stand alike. -/
theorem trails_call (env : Env) {s : sig.refusable.Stmt}
    {k : Except Exn (sig.refusable.Reply s) → Prog sig.refusable Response}
    (htol : Tolerant (.call s k)) (hid : ∀ t ∈ v.passwordResetTokens.rows, t.id < v.supply)
    (hnew : ∀ u hash e, s.1 = .createPasswordResetToken u hash e →
      ∀ t ∈ v.passwordResetTokens.rows, t.tokenHash ≠ hash) (h : Swept w v) :
    Swept ((World.machine env).refusable.exec s w).2 ((World.machine env).refusable.exec s v).2 ∧
      Trails w.now (k ((World.machine env).refusable.exec s w).1)
        (k ((World.machine env).refusable.exec s v).1) := by
  obtain ⟨hs, hk⟩ := htol
  obtain ⟨s, refused⟩ := s
  cases refused with
  | some e => exact ⟨h, .same _ (hk _)⟩
  | none =>
    by_cases hfind : ∃ hash, s = .findResetTokenByHash hash
    · obtain ⟨hash, rfl⟩ := hfind
      refine ⟨h, ?_⟩
      show Trails w.now (k (.ok (w.passwordResetTokens.find? _))) (k (.ok (v.passwordResetTokens.find? _)))
      rcases swept_find h hash with hsame | ⟨hmiss, t, hfound, hspent⟩
      · rw [hsame]
        exact .same _ (hk _)
      · obtain ⟨hgone, hrejects⟩ := hs
        rw [hmiss, hfound, hgone]
        exact .rejected _ (hrejects t w.now (h.now_eq ▸ hspent))
    · have hexec := swept_exec env (fun hash heq => hfind ⟨hash, heq⟩) hid hnew h
      obtain ⟨hreply, hswept⟩ := hexec
      refine ⟨hswept, ?_⟩
      show Trails w.now (k (World.exec env s w).1) (k (World.exec env s v).1)
      rcases hreply with hreply | ⟨now, rfl⟩
      · rw [hreply]
        exact .same _ (hk _)
      · have hcount : k (World.exec env (.deleteExpiredOrUsed now) w).1 =
            k (World.exec env (.deleteExpiredOrUsed now) v).1 := hs _ _
        rw [hcount]
        exact .same _ (hk _)

/-- The two runs keep abreast. -/
theorem lockstep_swept (env : Env) (hw : Drawn w)
    (hjobs : ∀ i, still i = true → acts i = .job .cleanupPasswordResets) :
    Lockstep (World.machine env).refusable (World.machine env).refusable (fun _ _ => True)
      (answering env acts w) (answering env acts w) still Swept fun _ v => Trails v.now := by
  constructor
  case tick => exact fun n w w' h => h.later n
  case waits =>
    intro i n v a a' h
    refine h.later ?_
    show v.now ≤ v.now + n
    omega
  case keeps =>
    intro i s v a a' h
    refine h.later (Int.le_of_eq ?_)
    exact (exec_refusable_keeps (I := fun x => x.now = v.now) rfl (World.exec_now env s.1 v)).symm
  case idles =>
    intro q q' i s k hq hq' _ hi hp h
    refine exec_refusable_keeps (I := fun v => Swept v q'.world) h ?_
    rcases sweeps_reach hq (hjobs i hi) hp with hs | ⟨now, hs, hread⟩
    · rw [hs]
      exact h
    · rw [hs]
      exact swept_job env (fresh_reach hq' hw).drawn.reset_id_lt (read_le_now hq hread) h
  case moves =>
    intro q q' i hq hq' _ _ h htrails
    generalize hp : q.prog i = p at htrails
    generalize hp' : q'.prog i = p' at htrails
    cases htrails with
    | same p htol =>
      cases p with
      | ret a => exact ⟨h, .same _ htol⟩
      | throw e => exact ⟨h, .same _ htol⟩
      | call s k =>
        have hfresh := fresh_reach hq' hw
        have hmoves := trails_call env htol hfresh.drawn.reset_id_lt ?_ h
        · refine ⟨hmoves.1, hmoves.2.later (Int.le_of_eq ?_)⟩
          exact (exec_refusable_keeps (I := fun x => x.now = q.world.now) rfl
            (World.exec_now env s.1 q.world)).symm
        · intro u hash e hs t ht hhash
          have hallowed := inHand_allowed hq' hp' hash u (by rw [hs]; rfl)
          obtain ⟨raw, hraw, heq⟩ := Option.map_eq_some_iff.mp hallowed
          refine (handed_reach hq' hw).unused i raw hraw t ht ?_
          rw [hhash, ← heq]
          rfl
    | rejected p hrejected =>
      cases hrejected with
      | used => exact ⟨h, .rejected _ .used⟩
      | invalid => exact ⟨h, .rejected _ .invalid⟩
      | expiring k hk =>
        refine ⟨h, .rejected _ ?_⟩
        show Rejected _ (k (.ok q'.world.now))
        rw [hk q'.world.now (Int.le_of_eq h.now_eq)]
        exact .invalid

/-- The results of a thread in the two runs: `r'` where the rows are still there. -/
structure SameAnswer (r r' : Option (Except Exn Response)) : Prop where
  given : ∀ a, r' = some a → r = some a ∨
    a = .error (.badRequest ErrorMessages.AUTH_PASSWORD_RESET_USED) ∧
      r = some (.error (.badRequest ErrorMessages.AUTH_PASSWORD_RESET_INVALID))
  kept : ∀ a, r = some a →
    r' = some a ∨ a = .error (.badRequest ErrorMessages.AUTH_PASSWORD_RESET_INVALID)

omit [DecidableEq ι] in
theorem sameAnswer_of_trails {now : Int} (h : Trails now (q.prog i) (q'.prog i)) :
    SameAnswer (q.result? i) (q'.result? i) := by
  unfold Pool.result?
  generalize q.prog i = p at h
  generalize q'.prog i = p' at h
  cases h with
  | same p hp => exact ⟨fun a ha => .inl ha, fun a ha => .inl ha⟩
  | rejected p hp =>
    cases hp with
    | used =>
      refine ⟨fun a ha => ?_, fun a ha => ?_⟩
      · cases ha
        exact .inr ⟨rfl, rfl⟩
      · cases ha
        exact .inr rfl
    | invalid => exact ⟨fun a ha => .inl ha, fun a ha => .inl ha⟩
    | expiring k hk =>
      refine ⟨fun a ha => ?_, fun a ha => ?_⟩
      · cases ha
      · cases ha
        exact .inr rfl

/-- Whichever runs of the cleanup job a schedule leaves out, every other request and job ends as it
did, but that a reset with a used token may be told that the token is invalid; and the worlds differ in
reset tokens that no reset accepts any more. -/
theorem reset_cleanup_unobservable (env : Env) (w : World) (acts : ι → Activity) (still : ι → Bool)
    (ls : List (Label ι)) (hw : Attained env w)
    (hjobs : ∀ i, still i = true → acts i = .job .cleanupPasswordResets) :
    let run := (answering env acts w).runs (World.machine env).refusable ls
    let rest := (answering env acts w).runs (World.machine env).refusable
      (ls.filter (Label.moves still))
    (∀ i, still i = false → SameAnswer (run.result? i) (rest.result? i)) ∧
      run.world = { rest.world with passwordResetTokens := run.world.passwordResetTokens } ∧
      (∀ t ∈ run.world.passwordResetTokens.rows, t ∈ rest.world.passwordResetTokens.rows) ∧
      ∀ t ∈ rest.world.passwordResetTokens.rows, t ∉ run.world.passwordResetTokens.rows →
        t.spent rest.world.now = true := by
  intro run rest
  have habreast := (lockstep_swept env hw.drawn hjobs).runs .refl .refl
    ⟨.refl w, fun i _ => .same _ (tolerant_program env (acts i))⟩ (Pool.meets_true _ _ ls)
  refine ⟨fun i hi => sameAnswer_of_trails (habreast.prog i hi), habreast.world.rest, ?_, ?_⟩
  · exact fun t ht => habreast.world.mem ht
  · exact fun t ht hgone => habreast.world.spent_of_gone ht hgone

/-- The job comes between the two halves of a reset; a second reset with the same token is told apart. -/
theorem reset_cleanup_unobservable_used :
    let headers : Headers := ⟨none, none, none, none, .token .malformed⟩
    let acts : Option (Bool × Bool) → Activity
      | none => .http (registration none)
      | some (false, false) => .http ⟨headers, none, .forgotPassword "a@x"⟩
      | some (true, false) => .job .cleanupPasswordResets
      | some (_, true) => .http ⟨headers, none, .resetPassword 5 "q"⟩
    let still : Option (Bool × Bool) → Bool := fun i => i = some (true, false)
    let ls : List (Label (Option (Bool × Bool))) :=
      List.replicate 13 (.run none) ++ List.replicate 8 (.run (some (false, false))) ++
        List.replicate 7 (.run (some (false, true))) ++ List.replicate 2 (.run (some (true, false))) ++
        List.replicate 2 (.run (some (true, true)))
    let w := World.initial .empty 0 0
    let run := (answering Env.plain acts w).runs (World.machine Env.plain).refusable ls
    let rest := (answering Env.plain acts w).runs (World.machine Env.plain).refusable
      (ls.filter (Label.moves still))
    run.result? (some (true, true)) =
        some (.error (.badRequest ErrorMessages.AUTH_PASSWORD_RESET_INVALID)) ∧
      rest.result? (some (true, true)) =
        some (.error (.badRequest ErrorMessages.AUTH_PASSWORD_RESET_USED)) ∧
      rest.world.passwordResetTokens.rows.length = 1 ∧ run.world.passwordResetTokens.rows = [] ∧
      ∀ i, still i = false → SameAnswer (run.result? i) (rest.result? i) := by
  intro headers acts still ls w run rest
  have hresult := reset_cleanup_unobservable Env.plain w acts still ls attained_initial ?_
  · exact ⟨by decide +kernel, by decide +kernel, by decide +kernel, by decide +kernel, hresult.1⟩
  · intro i hi
    obtain rfl : i = some (true, false) := of_decide_eq_true hi
    rfl

end Interleaved

end Auth
