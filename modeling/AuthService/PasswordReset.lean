import AuthService.Integrity

/-!
# AuthService.PasswordReset

Password resets over runs of whole requests.

* `serve_resetPassword_refused`, `serve_resetPassword_redeems`, `serve_forgotPassword` — what the two
  requests do, by the row they find.
* `ResetRequest`, `trackResets` — the history: which raw token each user was sent last and has not
  used since.
* `ResetsExact` — the table holds the rows of that history, less the deleted and the expired ones.
* `resetPassword_exact` — a reset succeeds exactly by the history, and what it changes.
-/

namespace Auth

open Relational Resumption Prog

variable {env : Env} {w : World} {raw : Nat} {t : PasswordResetToken}

/-! ## One reset -/

/-- The row that `findByTokenHash` returns for a raw reset token. -/
def World.presentedReset (w : World) (raw : Nat) : Option PasswordResetToken :=
  w.passwordResetTokens.find? fun t => t.tokenHash = hashToken raw

theorem presentedReset_mem (h : w.presentedReset raw = some t) :
    t ∈ w.passwordResetTokens.rows ∧ t.tokenHash = hashToken raw := by
  obtain ⟨hmem, hp⟩ := Table.find?_mem h
  exact ⟨hmem, of_decide_eq_true hp⟩

theorem presentedReset_of_mem (ht : t ∈ w.passwordResetTokens.rows)
    (hh : t.tokenHash = hashToken raw) : w.presentedReset raw = some t := by
  unfold World.presentedReset
  rw [← hh]
  exact Table.find?_uniq ht

section Reset

variable {newPassword : String} {ipAddress : Option String}

theorem run_findResetToken_bind {α : Type} (f : Option PasswordResetToken → AuthProg α) :
    ((PasswordResetTokenRepository.findByTokenHash (hashToken raw)).bind f).run (World.machine env) w =
      (f (w.presentedReset raw)).run (World.machine env) w :=
  run_perform_bind (S := sig) (World.machine env) (s := .findResetTokenByHash (hashToken raw))
    (a := w.presentedReset raw) rfl

/-- No row, or a row that is used or expired: nothing changes. -/
theorem serve_resetPassword_refused (env : Env) (newPassword : String) (ipAddress : Option String)
    (h : ∀ t, w.presentedReset raw = some t → t.used = true ∨ t.expiresAt < w.now) :
    ∃ e, serve env (.resetPassword raw newPassword ipAddress) w = (.error e, w) := by
  suffices hrun : ∃ e, (AuthService.resetPassword raw newPassword ipAddress).run
      (World.machine env) w = (.error e, w) by
    obtain ⟨e, hrun⟩ := hrun
    exact ⟨e, run_bind_error _ hrun⟩
  unfold AuthService.resetPassword
  simp only [bind_eq]
  rw [run_findResetToken_bind]
  cases hfound : w.presentedReset raw with
  | none => exact ⟨_, rfl⟩
  | some t =>
    cases hused : t.used with
    | true => simp only [hused, if_true]; exact ⟨_, rfl⟩
    | false =>
      have hexp : t.expiresAt < w.now := by simpa [hused] using h t hfound
      simp only [hused, Bool.false_eq_true, if_false]
      rw [run_newDate_bind, if_pos hexp]
      exact ⟨_, rfl⟩

/-- The three tables after the row `t` has been redeemed for a password with the hash `hash`. -/
structure Redeemed (w : World) (t : PasswordResetToken) (hash : String) (w' : World) : Prop where
  credentials : w'.credentials =
    w.credentials.updateWhere (fun c => c.id = t.userId) (UserCredential.setPassword hash w.now)
  passwordResetTokens : w'.passwordResetTokens =
    (w.passwordResetTokens.updateWhere (fun r => r.id = t.id)
      (PasswordResetToken.markUsed w.now)).deleteWhere fun r => r.userId = t.userId
  refreshTokens : w'.refreshTokens =
    w.refreshTokens.updateWhere (fun s => s.userId = t.userId && !s.revoked)
      (RefreshToken.revoke "password_reset" w.now)
  supply : w'.supply = w.supply + 1
  now : w'.now = w.now

theorem serve_resetPassword_redeems {hash : String} (hfound : w.presentedReset raw = some t)
    (hused : t.used = false) (hexp : ¬ t.expiresAt < w.now)
    (hhash : env.hashPassword newPassword w.supply = some hash) :
    ∃ w', serve env (.resetPassword raw newPassword ipAddress) w = (.ok .done, w') ∧
      Redeemed w t hash w' := by
  suffices hrun : ∃ w', (AuthService.resetPassword raw newPassword ipAddress).run
      (World.machine env) w = (.ok (), w') ∧ Redeemed w t hash w' by
    obtain ⟨w', hrun, hredeemed⟩ := hrun
    exact ⟨w', run_bind_ok _ hrun, hredeemed⟩
  unfold AuthService.resetPassword
  simp only [bind_eq]
  rw [run_findResetToken_bind, hfound]
  simp only [hused, Bool.false_eq_true, if_false]
  rw [run_newDate_bind, if_neg hexp]
  unfold AuthService.redeem CredentialService.updatePassword
  simp only [bind_eq, bind_assoc]
  rw [run_hashPassword_bind, hhash]
  exact ⟨_, rfl, rfl, rfl, rfl, rfl, rfl⟩

/-- A hash that fails leaves everything as it was. -/
theorem serve_resetPassword_unhashed (ipAddress : Option String) (hfound : w.presentedReset raw = some t)
    (hused : t.used = false) (hexp : ¬ t.expiresAt < w.now)
    (hhash : env.hashPassword newPassword w.supply = none) :
    ∃ e, serve env (.resetPassword raw newPassword ipAddress) w = (.error e, w) := by
  refine ⟨.error "hashing failed", run_bind_error _ ?_⟩
  unfold AuthService.resetPassword
  simp only [bind_eq]
  rw [run_findResetToken_bind, hfound]
  simp only [hused, Bool.false_eq_true, if_false]
  rw [run_newDate_bind, if_neg hexp]
  unfold AuthService.redeem CredentialService.updatePassword
  simp only [bind_eq, bind_assoc]
  rw [run_hashPassword_bind, hhash]

/-- A reset fails and changes nothing, or redeems an unused row that has not expired. -/
theorem serve_resetPassword_cases (env : Env) (w : World) (raw : Nat) (newPassword : String)
    (ipAddress : Option String) :
    (∃ e, serve env (.resetPassword raw newPassword ipAddress) w = (.error e, w) ∧
      ((env.hashPassword newPassword w.supply).isSome = true →
        ∀ t, w.presentedReset raw = some t → t.used = true ∨ t.expiresAt < w.now)) ∨
    ∃ t hash w', w.presentedReset raw = some t ∧ ¬ t.expiresAt < w.now ∧
      env.hashPassword newPassword w.supply = some hash ∧
      serve env (.resetPassword raw newPassword ipAddress) w = (.ok .done, w') ∧ Redeemed w t hash w' := by
  by_cases hrefused : ∀ t, w.presentedReset raw = some t → t.used = true ∨ t.expiresAt < w.now
  · obtain ⟨e, hserve⟩ := serve_resetPassword_refused env newPassword ipAddress hrefused
    exact .inl ⟨e, hserve, fun _ => hrefused⟩
  · obtain ⟨t, hfound, hused, hexp⟩ : ∃ t, w.presentedReset raw = some t ∧ t.used = false ∧
        ¬ t.expiresAt < w.now := by
      simpa using hrefused
    cases hhash : env.hashPassword newPassword w.supply with
    | none =>
      obtain ⟨e, hserve⟩ := serve_resetPassword_unhashed ipAddress hfound hused hexp hhash
      exact .inl ⟨e, hserve, fun h => (by cases h)⟩
    | some hash =>
      obtain ⟨w', hserve, hredeemed⟩ := serve_resetPassword_redeems hfound hused hexp hhash
      exact .inr ⟨t, hash, w', hfound, hexp, rfl, hserve, hredeemed⟩

end Reset

/-! ## One request for a reset -/

/-- The row that `forgotPassword` inserts for the account `c`. -/
def requestedReset (env : Env) (w : World) (c : UserCredential) : PasswordResetToken :=
  ⟨w.supply + 1, c.id, hashToken w.supply,
    env.zone.setMinutesPlus w.now env.passwordResetExpiryMinutes, false, none⟩

/-- The world after `forgotPassword` for the account `c`. -/
structure ResetSent (env : Env) (w : World) (c : UserCredential) (w' : World) : Prop where
  credentials : w'.credentials = w.credentials
  passwordResetTokens : w'.passwordResetTokens.rows =
    (w.passwordResetTokens.rows.filter fun t => !decide (t.userId = c.id)) ++ [requestedReset env w c]
  published : w'.published = w.published ++
    [.passwordResetRequested c.id c.email w.supply (requestedReset env w c).expiresAt w.now]
  supply : w'.supply = w.supply + 2
  now : w'.now = w.now

theorem serve_forgotPassword_unknown {email : String} (ipAddress : Option String)
    (hc : w.byEmail env email = none) : serve env (.forgotPassword email ipAddress) w = (.ok .done, w) := by
  refine run_bind_ok _ (a := ()) ?_
  unfold AuthService.forgotPassword
  simp only [bind_eq]
  rw [run_findByEmail_bind, hc]
  rfl

theorem serve_forgotPassword {email : String} {c : UserCredential} (ipAddress : Option String)
    (h : Integrity env w) (hc : w.byEmail env email = some c) :
    ∃ w', serve env (.forgotPassword email ipAddress) w = (.ok .done, w') ∧ ResetSent env w c w' := by
  suffices hrun : ∃ w', (AuthService.forgotPassword env email ipAddress).run (World.machine env) w =
      (.ok (), w') ∧ ResetSent env w c w' by
    obtain ⟨w', hrun, hsent⟩ := hrun
    exact ⟨w', run_bind_ok _ hrun, hsent⟩
  unfold AuthService.forgotPassword
  simp only [bind_eq]
  rw [run_findByEmail_bind, hc]
  let w₁ : World := { w with
    supply := w.supply + 1
    passwordResetTokens := w.passwordResetTokens.deleteWhere fun t => t.userId = c.id }
  have hu₁ : w₁.hasUser c.id = true := World.hasUser_iff.mpr ⟨c, World.account_of_byEmail hc⟩
  -- the digest and the id are new, and the account is there: the insert goes through
  obtain ⟨table, hinsert, hexec⟩ := World.exec_createPasswordResetToken_new env (w := w₁)
    (hashToken w.supply) (requestedReset env w c).expiresAt
    (fun t ht => Nat.lt_succ_of_lt (h.reset_id_lt t (Table.mem_deleteWhere.mp ht).1))
    (fun t ht heq => Nat.ne_of_lt (h.reset_hash_lt t (Table.mem_deleteWhere.mp ht).1)
      (congrArg TokenHash.preimage heq)) hu₁
  have hrun := run_bind_ok (World.machine env) (p := query (.createPasswordResetToken c.id
    (hashToken w.supply) (requestedReset env w c).expiresAt)) (f := fun _ =>
      (EventService.publishPasswordResetRequested c.id c.email w.supply
        (requestedReset env w c).expiresAt).bind fun _ =>
          AuditLogRepository.create
            { eventType := "PASSWORD_RESET_REQUESTED", userId := some c.id, email := some c.email,
              ipAddress, userAgent := none, outcome := .success, metadata := none })
    ((run_perform (S := sig) _ _ w₁).trans hexec)
  exact ⟨_, hrun, rfl, Table.rows_insert? hinsert, rfl, rfl, rfl⟩

/-! ## The history of resets -/

/-- What `forgotPassword` has sent a user. -/
structure ResetRequest where
  raw : Nat
  expiresAt : Int
  deriving DecidableEq

/-- The requests that wait for each user: a request that goes out replaces the earlier one, and a
reset that succeeds uses the request up that its token came with. -/
def trackResets (env : Env) (w : World) (a : Action) (h : Nat → Option ResetRequest) :
    Nat → Option ResetRequest :=
  match a with
  | .request (.forgotPassword _ _) =>
    match (act env w a).published.drop w.published.length with
    | [.passwordResetRequested u _ raw expiresAt _] => Function.update h u (some ⟨raw, expiresAt⟩)
    | _ => h
  | .request (.resetPassword raw newPassword ipAddress) =>
    match (serve env (.resetPassword raw newPassword ipAddress) w).1 with
    | .ok _ => fun u => if (h u).any (·.raw = raw) then none else h u
    | .error _ => h
  | _ => h

/-- The table against the history `h`. -/
structure ResetsExact (w : World) (h : Nat → Option ResetRequest) : Prop where
  unused : ∀ t ∈ w.passwordResetTokens.rows, t.used = false
  waiting : ∀ t ∈ w.passwordResetTokens.rows,
    h t.userId = some ⟨t.tokenHash.preimage, t.expiresAt⟩
  stored : ∀ u r, h u = some r → (∃ c, w.account u = some c) →
    (∃ t ∈ w.passwordResetTokens.rows, t.userId = u) ∨ r.expiresAt < w.now
  user_lt : ∀ u r, h u = some r → u < w.supply
  raw_lt : ∀ u r, h u = some r → r.raw < w.supply
  raw_inj : ∀ u u' r r', h u = some r → h u' = some r' → r.raw = r'.raw → u = u'

variable {h : Nat → Option ResetRequest}

/-- A statement on other tables. Ids of new accounts have no history. -/
theorem resetsExact_exec {s : Stmt} (hs : s.writesResetTokens = false) (hR : ResetsExact w h) :
    ResetsExact (World.exec env s w).2 h := by
  have hrows := World.exec_passwordResetTokens env s w hs
  have hle := World.exec_supply env s w
  constructor
  case unused => rw [hrows]; exact hR.unused
  case waiting => rw [hrows]; exact hR.waiting
  case stored =>
    intro u r hu hc
    rw [hrows, World.exec_now]
    refine hR.stored u r hu ?_
    cases hbefore : w.account u with
    | some c => exact ⟨c, rfl⟩
    | none =>
      rcases World.account_none_exec env s hbefore with hnone | ⟨_, _, _, -, hfresh, -⟩
      · obtain ⟨c, hc⟩ := hc
        rw [hnone] at hc
        cases hc
      · have := hR.user_lt u r hu
        omega
  case user_lt => exact fun u r hu => Nat.lt_of_lt_of_le (hR.user_lt u r hu) hle
  case raw_lt => exact fun u r hu => Nat.lt_of_lt_of_le (hR.raw_lt u r hu) hle
  case raw_inj => exact hR.raw_inj

theorem resetsExact_deleteCredential {id : Nat} (hR : ResetsExact w h) :
    ResetsExact (World.exec env (.deleteCredential id) w).2 h := by
  constructor
  case unused => exact fun t ht => hR.unused t (Table.mem_deleteWhere.mp ht).1
  case waiting => exact fun t ht => hR.waiting t (Table.mem_deleteWhere.mp ht).1
  case stored =>
    intro u r hu ⟨c, hc⟩
    have hne : u ≠ id := by
      rintro rfl
      obtain ⟨hmem, hid⟩ := Table.find?_mem hc
      have hgone := (Table.mem_deleteWhere.mp hmem).2
      simp_all
    rw [World.account_deleteCredential hne] at hc
    refine (hR.stored u r hu ⟨c, hc⟩).imp_left ?_
    rintro ⟨t, ht, rfl⟩
    exact ⟨t, Table.mem_deleteWhere.mpr ⟨ht, by simpa using hne⟩, rfl⟩
  case user_lt => exact hR.user_lt
  case raw_lt => exact hR.raw_lt
  case raw_inj => exact hR.raw_inj

/-- The cleanup job deletes what has expired. -/
theorem resetsExact_cleanup (env : Env) (hR : ResetsExact w h) :
    ResetsExact (World.exec env (.deleteExpiredOrUsed w.now) w).2 h := by
  constructor
  case unused => exact fun t ht => hR.unused t (Table.mem_deleteWhere.mp ht).1
  case waiting => exact fun t ht => hR.waiting t (Table.mem_deleteWhere.mp ht).1
  case stored =>
    intro u r hu hc
    rcases hR.stored u r hu hc with ⟨t, ht, rfl⟩ | hexp
    · by_cases hexp : t.expiresAt < w.now
      · have hw := hR.waiting t ht
        rw [hu] at hw
        cases hw
        exact .inr hexp
      · exact .inl ⟨t, Table.mem_deleteWhere.mpr ⟨ht, by simp [hexp, hR.unused t ht]⟩, rfl⟩
    · exact .inr hexp
  case user_lt => exact hR.user_lt
  case raw_lt => exact hR.raw_lt
  case raw_inj => exact hR.raw_inj

theorem ResetSent.mem_reset {c : UserCredential} {w' : World} (hsent : ResetSent env w c w')
    (ht : t ∈ w'.passwordResetTokens.rows) :
    (t ∈ w.passwordResetTokens.rows ∧ t.userId ≠ c.id) ∨ t = requestedReset env w c := by
  rw [hsent.passwordResetTokens] at ht
  rcases List.mem_append.mp ht with ht | ht
  · exact .inl (by simpa using List.mem_filter.mp ht)
  · exact .inr (List.mem_singleton.mp ht)

/-- What waits after a request has gone out: the new request, or another user's. -/
theorem update_eq_some {k u : Nat} {new r : ResetRequest}
    (hu : Function.update h k (some new) u = some r) : (u = k ∧ r = new) ∨ (u ≠ k ∧ h u = some r) := by
  by_cases hk : u = k
  · subst hk
    rw [Function.update_self] at hu
    exact .inl ⟨rfl, (Option.some.inj hu).symm⟩
  · rw [Function.update_of_ne hk] at hu
    exact .inr ⟨hk, hu⟩

/-- A new request replaces the user's earlier one, in the table and in the history. -/
theorem resetsExact_sent {c : UserCredential} {w' : World} (hid_lt : c.id < w.supply)
    (hsent : ResetSent env w c w') (hR : ResetsExact w h) :
    ResetsExact w'
      (Function.update h c.id (some ⟨w.supply, (requestedReset env w c).expiresAt⟩)) := by
  have hsupply := hsent.supply
  constructor
  case unused =>
    intro t ht
    rcases hsent.mem_reset ht with ⟨ht, -⟩ | rfl
    · exact hR.unused t ht
    · rfl
  case waiting =>
    intro t ht
    rcases hsent.mem_reset ht with ⟨ht, hid⟩ | rfl
    · rw [Function.update_of_ne hid]
      exact hR.waiting t ht
    · exact Function.update_self _ _ _
  case stored =>
    intro u r hu hacc
    rw [hsent.now, hsent.passwordResetTokens]
    rcases update_eq_some hu with ⟨rfl, -⟩ | ⟨hid, hu⟩
    · exact .inl ⟨_, List.mem_append_right _ List.mem_cons_self, rfl⟩
    · have hacc : ∃ c, w.account u = some c := by
        simpa only [World.account, hsent.credentials] using hacc
      refine (hR.stored u r hu hacc).imp_left ?_
      rintro ⟨t, ht, rfl⟩
      exact ⟨t, List.mem_append_left _ (List.mem_filter.mpr ⟨ht, by simpa using hid⟩), rfl⟩
  case user_lt =>
    intro u r hu
    rcases update_eq_some hu with ⟨rfl, -⟩ | ⟨-, hu⟩
    · omega
    · have := hR.user_lt u r hu
      omega
  case raw_lt =>
    intro u r hu
    rcases update_eq_some hu with ⟨-, rfl⟩ | ⟨-, hu⟩
    · show w.supply < w'.supply
      omega
    · have := hR.raw_lt u r hu
      omega
  case raw_inj =>
    intro u u' r r' hu hu' heq
    rcases update_eq_some hu with ⟨rfl, rfl⟩ | ⟨-, hu⟩
    · rcases update_eq_some hu' with ⟨rfl, rfl⟩ | ⟨-, hu'⟩
      · rfl
      · exact absurd heq.symm (Nat.ne_of_lt (hR.raw_lt u' r' hu'))
    · rcases update_eq_some hu' with ⟨rfl, rfl⟩ | ⟨-, hu'⟩
      · exact absurd heq (Nat.ne_of_lt (hR.raw_lt u r hu))
      · exact hR.raw_inj u u' r r' hu hu' heq

section Redeemed

variable {hash : String} {w' : World}

/-- Only the user of the row waits with its raw token. -/
theorem ResetsExact.used_iff (hR : ResetsExact w h) (ht : t ∈ w.passwordResetTokens.rows)
    (hh : t.tokenHash = hashToken raw) (u : Nat) :
    (h u).any (·.raw = raw) = true ↔ u = t.userId := by
  have hpending := hR.waiting t ht
  have hraw : t.tokenHash.preimage = raw := by rw [hh]; rfl
  constructor
  · intro hany
    cases hu : h u with
    | none => rw [hu] at hany; cases hany
    | some r =>
      rw [hu] at hany
      exact hR.raw_inj u _ r _ hu hpending ((of_decide_eq_true hany).trans hraw.symm)
  · rintro rfl
    rw [hpending]
    simpa using hraw

theorem ResetsExact.redeemed_eq_some (hR : ResetsExact w h) (ht : t ∈ w.passwordResetTokens.rows)
    (hh : t.tokenHash = hashToken raw) {u : Nat} {r : ResetRequest}
    (hu : (if (h u).any (·.raw = raw) then none else h u) = some r) : u ≠ t.userId ∧ h u = some r := by
  by_cases hany : (h u).any (·.raw = raw) = true
  · rw [if_pos hany] at hu
    cases hu
  · rw [if_neg hany] at hu
    exact ⟨fun heq => hany ((hR.used_iff ht hh u).mpr heq), hu⟩

/-- The rows that a redeemed row leaves are the other users', unchanged. -/
theorem Redeemed.mem_reset (hredeemed : Redeemed w t hash w') (ht : t ∈ w.passwordResetTokens.rows)
    {r : PasswordResetToken} :
    r ∈ w'.passwordResetTokens.rows ↔ r ∈ w.passwordResetTokens.rows ∧ r.userId ≠ t.userId := by
  rw [hredeemed.passwordResetTokens]
  constructor
  · intro hr
    obtain ⟨hmem, hu⟩ := Table.mem_deleteWhere.mp hr
    obtain ⟨r₀, hr₀, rfl⟩ := Table.mem_updateWhere.mp hmem
    unfold Table.patchIf at hu ⊢
    by_cases hid : r₀.id = t.id
    · have hrt : r₀ = t := Table.eq_of_key hr₀ ht hid
      subst hrt
      simp [PasswordResetToken.markUsed] at hu
    · rw [if_neg (by simpa using hid)] at hu ⊢
      exact ⟨hr₀, of_decide_eq_false hu⟩
  · rintro ⟨hr, hne⟩
    refine Table.mem_deleteWhere.mpr ⟨Table.mem_updateWhere.mpr ⟨r, hr, if_neg ?_⟩, by simpa using hne⟩
    intro hid
    rw [Table.eq_of_key hr ht (of_decide_eq_true hid)] at hne
    exact hne rfl

/-- A new password keeps every account. -/
theorem Redeemed.account (hredeemed : Redeemed w t hash w') {u : Nat}
    (hacc : ∃ c, w'.account u = some c) : ∃ c, w.account u = some c := by
  obtain ⟨c, hc⟩ := hacc
  rw [World.account, hredeemed.credentials] at hc
  obtain ⟨hmem, hid⟩ := Table.find?_mem hc
  obtain ⟨c₀, hc₀, rfl⟩ := Table.mem_updateWhere.mp hmem
  refine ⟨c₀, World.account_of_mem hc₀ ?_⟩
  rw [← of_decide_eq_true hid]
  exact (Table.key_patchIf _ _ c₀).symm

/-- A redeemed row goes with all rows of its user. -/
theorem resetsExact_redeemed (hfound : w.presentedReset raw = some t)
    (hredeemed : Redeemed w t hash w') (hR : ResetsExact w h) :
    ResetsExact w' fun u => if (h u).any (·.raw = raw) then none else h u := by
  obtain ⟨ht, hh⟩ := presentedReset_mem hfound
  have hle : w.supply ≤ w'.supply := by
    rw [hredeemed.supply]
    exact Nat.le_succ _
  constructor
  case unused => exact fun r hr => hR.unused r ((hredeemed.mem_reset ht).mp hr).1
  case waiting =>
    intro r hr
    obtain ⟨hmem, hne⟩ := (hredeemed.mem_reset ht).mp hr
    rw [if_neg (fun hany => hne ((hR.used_iff ht hh _).mp hany))]
    exact hR.waiting r hmem
  case stored =>
    intro u r hu hacc
    obtain ⟨hne, hu⟩ := hR.redeemed_eq_some ht hh hu
    rw [hredeemed.now]
    refine (hR.stored u r hu (hredeemed.account hacc)).imp_left ?_
    rintro ⟨s, hs, rfl⟩
    exact ⟨s, (hredeemed.mem_reset ht).mpr ⟨hs, hne⟩, rfl⟩
  case user_lt =>
    exact fun u r hu => Nat.lt_of_lt_of_le (hR.user_lt u r (hR.redeemed_eq_some ht hh hu).2) hle
  case raw_lt =>
    exact fun u r hu => Nat.lt_of_lt_of_le (hR.raw_lt u r (hR.redeemed_eq_some ht hh hu).2) hle
  case raw_inj =>
    intro u u' r r' hu hu'
    exact hR.raw_inj u u' r r' (hR.redeemed_eq_some ht hh hu).2 (hR.redeemed_eq_some ht hh hu').2

end Redeemed

/-- Every action keeps the table in step with the history. -/
theorem resetsExact_act (a : Action) (hI : Integrity env w) (hR : ResetsExact w h) :
    ResetsExact (act env w a) (trackResets env w a h) := by
  cases a with
  | pass n =>
    refine ⟨hR.unused, hR.waiting, fun u r hu hc => (hR.stored u r hu hc).imp_right fun hexp => ?_,
      hR.user_lt, hR.raw_lt, hR.raw_inj⟩
    show r.expiresAt < w.now + n
    omega
  | request r =>
    cases r
    case forgotPassword email ipAddress =>
      cases hc : w.byEmail env email with
      | none =>
        have hserve := serve_forgotPassword_unknown ipAddress hc
        simp only [trackResets, act, hserve, List.drop_length]
        exact hR
      | some c =>
        obtain ⟨w', hserve, hsent⟩ := serve_forgotPassword ipAddress hI hc
        simp only [trackResets, act, hserve, hsent.published, List.drop_left]
        exact resetsExact_sent (hI.credential_id_lt c (Table.find?_mem hc).1) hsent hR
    case resetPassword raw newPassword ipAddress =>
      rcases serve_resetPassword_cases env w raw newPassword ipAddress with
        ⟨e, hserve, -⟩ | ⟨t, hash, w', hfound, -, -, hserve, hredeemed⟩
      · simp only [trackResets, act, hserve]
        exact hR
      · simp only [trackResets, act, hserve]
        exact resetsExact_redeemed hfound hredeemed hR
    case deleteCredentials u =>
      refine serve_invariant (I := fun w => ResetsExact w h) (fun s w hf hw => ?_) hR
      cases s
      case deleteCredential => exact resetsExact_deleteCredential hw
      all_goals exact resetsExact_exec (by first | rfl | cases hf) hw
    case cleanupPasswordResets => exact resetsExact_cleanup env hR
    all_goals
      exact serve_invariant (I := fun w => ResetsExact w h)
        (fun s w hf hw => resetsExact_exec (not_writesResetTokens rfl hf) hw) hR

/-! ## Exactness -/

/-- The history of requests that no reset has used up. -/
def pendingResets (env : Env) (w : World) (as : List Action) : Nat → Option ResetRequest :=
  record env (trackResets env) w (fun _ => none) as

/-- One reset against the history `h`: when it succeeds, and what it changes. -/
structure ResetExact (env : Env) (w : World) (h : Nat → Option ResetRequest) (raw : Nat)
    (newPassword : String) (response : Except Exn Response) (w' : World) : Prop where
  succeeds_iff : response = .ok .done ↔ ∃ u r, (∃ c, w.account u = some c) ∧ h u = some r ∧
    r.raw = raw ∧ w.now ≤ r.expiresAt
  password_set : response = .ok .done → ∀ u r, h u = some r → r.raw = raw →
    ∃ c salt, w'.account u = some c ∧ env.hashPassword newPassword salt = some c.passwordHash
  resets_gone : response = .ok .done → ∀ u r, h u = some r → r.raw = raw →
    ∀ t ∈ w'.passwordResetTokens.rows, t.userId ≠ u
  sessions_revoked : response = .ok .done → ∀ u r, h u = some r → r.raw = raw →
    ∀ t ∈ w'.refreshTokens.rows, t.userId = u → t.revoked = true
  unchanged : response ≠ .ok .done → w'.credentials = w.credentials ∧
    w'.passwordResetTokens = w.passwordResetTokens ∧ w'.refreshTokens = w.refreshTokens

/-- A reset that fails: no request is waiting with its token, and in time. -/
theorem resetExact_refused {newPassword : String} {e : Exn} (hR : ResetsExact w h)
    (hrefused : ∀ t, w.presentedReset raw = some t → t.used = true ∨ t.expiresAt < w.now) :
    ResetExact env w h raw newPassword (.error e) w := by
  refine ⟨⟨fun h => (by cases h), ?_⟩, fun h => (by cases h), fun h => (by cases h),
    fun h => (by cases h), fun _ => ⟨rfl, rfl, rfl⟩⟩
  rintro ⟨u, r, hacc, hu, rfl, hle⟩
  -- the row of the waiting request would be there, and good
  rcases hR.stored u r hu hacc with ⟨t, ht, rfl⟩ | hexp
  · have hwait := hR.waiting t ht
    rw [hu] at hwait
    cases hwait
    rcases hrefused t (presentedReset_of_mem ht rfl) with hused | hexp
    · rw [hR.unused t ht] at hused
      cases hused
    · exact absurd hexp (Int.not_lt.mpr hle)
  · exact absurd hexp (Int.not_lt.mpr hle)

/-- A reset that succeeds: the request of the row that it redeems is the one that is waiting. -/
theorem resetExact_redeemed {newPassword hash : String} {w' : World} (hI : Integrity env w)
    (hR : ResetsExact w h) (hfound : w.presentedReset raw = some t) (hexp : ¬ t.expiresAt < w.now)
    (hhash : env.hashPassword newPassword w.supply = some hash) (hredeemed : Redeemed w t hash w') :
    ResetExact env w h raw newPassword (.ok .done) w' := by
  obtain ⟨ht, hh⟩ := presentedReset_mem hfound
  have hwait := hR.waiting t ht
  have hraw : t.tokenHash.preimage = raw := by rw [hh]; rfl
  have huser : ∀ u r, h u = some r → r.raw = raw → u = t.userId := fun u r hu hr =>
    hR.raw_inj u _ r _ hu hwait (hr.trans hraw.symm)
  refine ⟨⟨fun _ => ?_, fun _ => rfl⟩, ?_, ?_, ?_, fun hne => absurd rfl hne⟩
  · exact ⟨t.userId, _, hI.reset_owner t ht, hwait, hraw, by show w.now ≤ t.expiresAt; omega⟩
  · intro _ u r hu hr
    obtain rfl := huser u r hu hr
    obtain ⟨c, hc⟩ := hI.reset_owner t ht
    refine ⟨(UserCredential.setPassword hash w.now).apply c, w.supply,
      World.account_of_mem ?_ ?_, hhash⟩
    · rw [hredeemed.credentials]
      exact Table.mem_updateWhere.mpr ⟨c, (Table.find?_mem hc).1, if_pos (Table.find?_mem hc).2⟩
    · show c.id = t.userId
      exact World.account_id hc
  · intro _ u r hu hr s hs
    obtain rfl := huser u r hu hr
    exact ((hredeemed.mem_reset ht).mp hs).2
  · intro _ u r hu hr s hs hsu
    obtain rfl := huser u r hu hr
    rw [hredeemed.refreshTokens] at hs
    have hs' : s ∈ (World.exec env (.revokeAllByUserId t.userId "password_reset" w.now)
      w).2.refreshTokens.rows := hs
    exact World.exec_revokeAllByUserId hs' hsu

/-- In every run, a reset whose new password can be hashed succeeds exactly if its token is the one
that waits for a user who still exists, and has not expired. -/
theorem resetPassword_exact (env : Env) (roles : Table Role) (supply : Nat) (now : Int)
    (as : List Action) (raw : Nat) (newPassword : String) (ipAddress : Option String)
    (hhash : ∀ salt, (env.hashPassword newPassword salt).isSome = true) :
    let w := runs env (World.initial roles supply now) as
    ResetExact env w (pendingResets env (World.initial roles supply now) as) raw newPassword
      (serve env (.resetPassword raw newPassword ipAddress) w).1
      (serve env (.resetPassword raw newPassword ipAddress) w).2 := by
  intro w
  obtain ⟨hI, hR⟩ : Integrity env w ∧
      ResetsExact w (pendingResets env (World.initial roles supply now) as) := by
    refine record_invariant (I := fun w h => Integrity env w ∧ ResetsExact w h)
      (fun w h a hw => ⟨(keeping_integrity env).act a hw.1, resetsExact_act a hw.1 hw.2⟩)
      ⟨integrity_initial roles supply now, ?_⟩ as
    constructor <;> simp [World.initial]
  generalize pendingResets env (World.initial roles supply now) as = h at hR
  clear_value w
  rcases serve_resetPassword_cases env w raw newPassword ipAddress with
    ⟨e, hserve, hrefused⟩ | ⟨t, hash, w', hfound, hexp, hhash, hserve, hredeemed⟩
  · rw [hserve]
    exact resetExact_refused hR (hrefused (hhash w.supply))
  · rw [hserve]
    exact resetExact_redeemed hI hR hfound hexp hhash hredeemed

/-- The registered user asks for a reset. -/
def resetAsked : List Action :=
  [.request (.register "a@x" "p" none none), .request (.forgotPassword "a@x" none)]

theorem resetPassword_exact_asked :
    (serve Env.plain (.resetPassword 5 "q" none)
        (runs Env.plain (World.initial .empty 0 0) resetAsked)).1 = .ok .done ∧
      ResetExact Env.plain (runs Env.plain (World.initial .empty 0 0) resetAsked)
        (pendingResets Env.plain (World.initial .empty 0 0) resetAsked) 5 "q"
        (serve Env.plain (.resetPassword 5 "q" none)
          (runs Env.plain (World.initial .empty 0 0) resetAsked)).1
        (serve Env.plain (.resetPassword 5 "q" none)
          (runs Env.plain (World.initial .empty 0 0) resetAsked)).2 :=
  ⟨by decide +kernel, resetPassword_exact Env.plain .empty 0 0 resetAsked 5 "q" none fun _ => rfl⟩

end Auth
