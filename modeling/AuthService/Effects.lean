import AuthService.Services

/-!
# AuthService.Effects

What one statement can do to `refresh_tokens` and to `user_credentials`, said once for all proofs.

* `writesRefreshTokens`, `writesCredentials`, `writesResetTokens` — the statements that touch a table;
  every other one leaves it as it is.
* `RefreshToken.Evolves` — a row after some updates: its identity is kept and `revoked` only rises.
* `Stmt.onRefreshToken` — what a statement makes of one row; `exec_keeps` and `exec_source` say that
  a table is its rows under this, less the deleted and with the inserted ones.
* `exec_evolves`, `exec_origin` — forwards, a row evolves unless it is deleted; backwards, a row
  evolved from an earlier one or was just inserted.
-/

namespace Auth

open Relational Resumption

namespace Stmt

def writesRefreshTokens : Stmt → Bool
  | .createRefreshToken _ => true
  | .revokeToken _ _ _ => true
  | .revokeAllByUserId _ _ _ => true
  | .setReplacedBy _ _ => true
  | .updateLastUsed _ _ => true
  | .deleteExpiredAndRevoked _ => true
  | .deleteCredential _ => true
  | _ => false

def deletesRefreshTokens : Stmt → Bool
  | .deleteExpiredAndRevoked _ => true
  | .deleteCredential _ => true
  | _ => false

def writesCredentials : Stmt → Bool
  | .createCredential _ _ _ => true
  | .updateStatus _ _ => true
  | .incrementFailedAttempts _ => true
  | .resetFailedAttempts _ => true
  | .lockAccount _ _ => true
  | .unlockAccount _ => true
  | .updateLastLogin _ _ _ => true
  | .updatePassword _ _ _ => true
  | .updateRoles _ _ => true
  | .deleteCredential _ => true
  | _ => false

def writesResetTokens : Stmt → Bool
  | .createPasswordResetToken _ _ _ => true
  | .markAsUsed _ _ => true
  | .deleteExpiredOrUsed _ => true
  | .deleteResetTokensByUserId _ => true
  | .deleteCredential _ => true
  | _ => false

end Stmt

namespace World

variable (env : Env) (s : Stmt) (w : World)

-- every lemma of this section unfolds `exec` at one statement
attribute [local simp] exec

theorem exec_refreshTokens (h : s.writesRefreshTokens = false) :
    (exec env s w).2.refreshTokens = w.refreshTokens := by
  cases s
  case createRefreshToken | revokeToken | revokeAllByUserId | setReplacedBy | updateLastUsed
      | deleteExpiredAndRevoked | deleteCredential => cases h
  case hashPassword | signAccessToken | createCredential => simp only [exec]; split <;> rfl
  case createPasswordResetToken =>
    simp only [exec]
    split
    · split <;> rfl
    · rfl
  all_goals rfl

theorem exec_credentials (h : s.writesCredentials = false) :
    (exec env s w).2.credentials = w.credentials := by
  cases s
  case createCredential | updateStatus | incrementFailedAttempts | resetFailedAttempts | lockAccount
      | unlockAccount | updateLastLogin | updatePassword | updateRoles | deleteCredential => cases h
  case hashPassword | signAccessToken => simp only [exec]; split <;> rfl
  case createPasswordResetToken | createRefreshToken =>
    simp only [exec]
    split
    · split <;> rfl
    · rfl
  all_goals rfl

theorem exec_now : (exec env s w).2.now = w.now := by
  cases s
  case hashPassword | signAccessToken | createCredential => simp only [exec]; split <;> rfl
  case createPasswordResetToken | createRefreshToken =>
    simp only [exec]
    split
    · split <;> rfl
    · rfl
  all_goals rfl

/-- No statement writes the roles. -/
theorem exec_roles : (exec env s w).2.roles = w.roles := by
  cases s
  case hashPassword password => simp only [exec]; split <;> rfl
  case signAccessToken sub email roles tokenType => simp only [exec]; split <;> rfl
  case createCredential email passwordHash roles => simp only [exec]; split <;> rfl
  case createRefreshToken data => simp only [exec]; split <;> (try split) <;> rfl
  case createPasswordResetToken userId tokenHash expiresAt =>
    simp only [exec]; split <;> (try split) <;> rfl
  all_goals rfl

/-- The failures of the world: constraints, and the two libraries that can throw. -/
theorem exec_failure {e : Exn} (h : (exec env s w).1 = .error e) :
    e = .uniqueViolation ∨ e = .foreignKeyViolation ∨ e = .error "hashing failed" ∨
      e = .error "expiresIn is not a timespan" := by
  cases s
  case hashPassword | signAccessToken | createCredential =>
    simp only [exec] at h
    split at h <;> cases h
    simp
  case createPasswordResetToken | createRefreshToken =>
    simp only [exec] at h
    split at h
    · split at h <;> cases h
      simp
    · cases h
      simp
  all_goals cases h

theorem exec_supply : w.supply ≤ (exec env s w).2.supply := by
  cases s
  case hashPassword | signAccessToken | createCredential =>
    simp only [exec]
    split
    · simp
    · simp
  case createPasswordResetToken | createRefreshToken =>
    simp only [exec]
    split
    · split
      · simp
      · simp
    · simp
  case uuidv4 => exact Nat.le_succ _
  all_goals exact Nat.le_refl _

end World

/-! ## Rows of `refresh_tokens` -/

/-- `t'` is the row `t` some updates later. -/
structure RefreshToken.Evolves (t t' : RefreshToken) : Prop where
  id_eq : t'.id = t.id
  userId_eq : t'.userId = t.userId
  tokenHash_eq : t'.tokenHash = t.tokenHash
  issuedAt_eq : t'.issuedAt = t.issuedAt
  expiresAt_eq : t'.expiresAt = t.expiresAt
  revoked : t.revoked = true → t'.revoked = true

namespace RefreshToken

theorem Evolves.refl (t : RefreshToken) : t.Evolves t := ⟨rfl, rfl, rfl, rfl, rfl, fun h => h⟩

theorem Evolves.trans {t t' t'' : RefreshToken} (h : t.Evolves t') (h' : t'.Evolves t'') :
    t.Evolves t'' :=
  ⟨h'.id_eq.trans h.id_eq, h'.userId_eq.trans h.userId_eq, h'.tokenHash_eq.trans h.tokenHash_eq,
    h'.issuedAt_eq.trans h.issuedAt_eq, h'.expiresAt_eq.trans h.expiresAt_eq,
    fun hrev => h'.revoked (h.revoked hrev)⟩

theorem evolves_revoke (t : RefreshToken) (reason : String) (revokedAt : Int) :
    t.Evolves ((revoke reason revokedAt).apply t) := ⟨rfl, rfl, rfl, rfl, rfl, fun _ => rfl⟩

theorem evolves_setReplacedBy (t : RefreshToken) (replacedByTokenId : Nat) :
    t.Evolves ((setReplacedBy replacedByTokenId).apply t) := ⟨rfl, rfl, rfl, rfl, rfl, fun h => h⟩

theorem evolves_setLastUsed (t : RefreshToken) (lastUsedAt : Int) :
    t.Evolves ((setLastUsed lastUsedAt).apply t) := ⟨rfl, rfl, rfl, rfl, rfl, fun h => h⟩

theorem evolves_patchIf {f : Patch RefreshToken} (hf : ∀ t : RefreshToken, t.Evolves (f.apply t))
    (p : RefreshToken → Bool) (t : RefreshToken) : t.Evolves (Table.patchIf p f t) := by
  unfold Table.patchIf
  split
  · exact hf t
  · exact .refl t

end RefreshToken

namespace Stmt

/-- The `WHERE` and the `SET` clause of an `UPDATE refresh_tokens`. -/
def tokenUpdate : Stmt → Option ((RefreshToken → Bool) × Patch RefreshToken)
  | .revokeToken id reason revokedAt => some (fun t => t.id = id, RefreshToken.revoke reason revokedAt)
  | .revokeAllByUserId userId reason revokedAt =>
    some (fun t => t.userId = userId && !t.revoked, RefreshToken.revoke reason revokedAt)
  | .setReplacedBy id replacedByTokenId =>
    some (fun t => t.id = id, RefreshToken.setReplacedBy replacedByTokenId)
  | .updateLastUsed id lastUsedAt => some (fun t => t.id = id, RefreshToken.setLastUsed lastUsedAt)
  | _ => none

/-- What a statement makes of one row that it does not delete. -/
def onRefreshToken (s : Stmt) (t : RefreshToken) : RefreshToken :=
  match s.tokenUpdate with
  | some (p, f) => Table.patchIf p f t
  | none => t

theorem evolves_onRefreshToken (s : Stmt) (t : RefreshToken) : t.Evolves (s.onRefreshToken t) := by
  unfold onRefreshToken
  split
  · rename_i p f hs
    refine RefreshToken.evolves_patchIf (fun t => ?_) p t
    cases s
    case revokeToken | revokeAllByUserId => cases hs; exact t.evolves_revoke _ _
    case setReplacedBy => cases hs; exact t.evolves_setReplacedBy _
    case updateLastUsed => cases hs; exact t.evolves_setLastUsed _
    all_goals cases hs
  · exact .refl t

/-- Only `setReplacedBy` on a row writes its link. -/
theorem onRefreshToken_link {s : Stmt} {t : RefreshToken} (h : ∀ j, s ≠ .setReplacedBy t.id j) :
    (s.onRefreshToken t).replacedByTokenId = t.replacedByTokenId := by
  cases s
  case setReplacedBy id j =>
    have hne : t.id ≠ id := by
      rintro rfl
      exact h j rfl
    simp [onRefreshToken, tokenUpdate, Table.patchIf, hne]
  case revokeToken | revokeAllByUserId | updateLastUsed =>
    simp only [onRefreshToken, tokenUpdate, Table.patchIf]
    split
    · rfl
    · rfl
  all_goals rfl

end Stmt

/-- `t'` is the token that `t` was rotated into. -/
def RefreshToken.ReplacedBy (table : Table RefreshToken) (t t' : RefreshToken) : Prop :=
  t ∈ table.rows ∧ t' ∈ table.rows ∧ t.replacedByTokenId = some t'.id

namespace World

variable {env : Env} {w : World}

/-- The `INSERT` of a refresh token: the new row, or a constraint violation and no change. -/
theorem exec_createRefreshToken (env : Env) (w : World) (data : NewRefreshToken) :
    (∃ e, exec env (.createRefreshToken data) w = (.error e, w)) ∨
    ∃ table, exec env (.createRefreshToken data) w =
        (.ok (newRefreshToken w.supply data),
          { w with refreshTokens := table, supply := w.supply + 1 }) ∧
      table.rows = w.refreshTokens.rows ++ [newRefreshToken w.supply data] ∧
      w.hasUser data.userId = true := by
  by_cases hu : w.hasUser data.userId = true
  · cases hi : w.refreshTokens.insert? (newRefreshToken w.supply data) with
    | none => exact .inl ⟨_, by simp only [exec, hu, hi, if_true]; rfl⟩
    | some table =>
      exact .inr ⟨table, by simp only [exec, hu, hi, if_true], Table.rows_insert? hi, hu⟩
  · exact .inl ⟨_, by simp only [exec, hu]; rfl⟩

/-- A refresh token with a new id and a new digest, for an account, violates no constraint. -/
theorem exec_createRefreshToken_new (env : Env) {data : NewRefreshToken}
    (hid : ∀ t ∈ w.refreshTokens.rows, t.id < w.supply)
    (hnew : ∀ t ∈ w.refreshTokens.rows, t.tokenHash ≠ data.tokenHash)
    (hu : w.hasUser data.userId = true) :
    ∃ table, w.refreshTokens.insert? (newRefreshToken w.supply data) = some table ∧
      exec env (.createRefreshToken data) w = (.ok (newRefreshToken w.supply data),
        { w with refreshTokens := table, supply := w.supply + 1 }) := by
  obtain ⟨table, hinsert⟩ := Table.insert?_of_fresh (t := w.refreshTokens)
    (a := newRefreshToken w.supply data) (fun t ht => Nat.ne_of_lt (hid t ht)) hnew
  exact ⟨table, hinsert, by simp only [exec, hu, if_true, hinsert]⟩

/-- Forwards: a row that is not deleted goes through the statement's update. -/
theorem exec_keeps (env : Env) {s : Stmt} (hs : s.deletesRefreshTokens = false) {t : RefreshToken}
    (ht : t ∈ w.refreshTokens.rows) :
    s.onRefreshToken t ∈ (exec env s w).2.refreshTokens.rows := by
  by_cases hw : s.writesRefreshTokens = true
  · cases s
    case createRefreshToken data =>
      rcases exec_createRefreshToken env w data with ⟨e, he⟩ | ⟨table, he, hrows, -⟩
      · rw [he]
        exact ht
      · rw [he, hrows]
        exact List.mem_append_left _ ht
    case revokeToken | revokeAllByUserId | setReplacedBy | updateLastUsed =>
      exact Table.mem_updateWhere.mpr ⟨t, ht, rfl⟩
    case deleteExpiredAndRevoked | deleteCredential => cases hs
    all_goals cases hw
  · have hsame : s.onRefreshToken t = t := by
      cases s <;> first | rfl | exact absurd rfl hw
    rw [hsame, exec_refreshTokens env s w (by simpa using hw)]
    exact ht

/-- Backwards: a row went through the statement's update, or the statement inserted it. -/
theorem exec_source {s : Stmt} {t' : RefreshToken}
    (ht : t' ∈ (exec env s w).2.refreshTokens.rows) :
    (∃ t ∈ w.refreshTokens.rows, t' = s.onRefreshToken t) ∨
      ∃ data, s = .createRefreshToken data ∧ t' = newRefreshToken w.supply data ∧
        (exec env s w).2.supply = w.supply + 1 ∧ w.hasUser data.userId = true := by
  by_cases hw : s.writesRefreshTokens = true
  · cases s
    case createRefreshToken data =>
      rcases exec_createRefreshToken env w data with ⟨e, he⟩ | ⟨table, he, hrows, hu⟩
      · rw [he] at ht
        exact .inl ⟨t', ht, rfl⟩
      · rw [he, hrows] at ht
        rcases List.mem_append.mp ht with ht | ht
        · exact .inl ⟨t', ht, rfl⟩
        · exact .inr ⟨data, rfl, List.mem_singleton.mp ht, by rw [he], hu⟩
    case revokeToken | revokeAllByUserId | setReplacedBy | updateLastUsed =>
      obtain ⟨t, hmem, htt⟩ := Table.mem_updateWhere.mp ht
      exact .inl ⟨t, hmem, htt.symm⟩
    case deleteExpiredAndRevoked | deleteCredential =>
      exact .inl ⟨t', (Table.mem_deleteWhere.mp ht).1, rfl⟩
    all_goals cases hw
  · have hsame : s.onRefreshToken t' = t' := by
      cases s <;> first | rfl | exact absurd rfl hw
    rw [exec_refreshTokens env s w (by simpa using hw)] at ht
    exact .inl ⟨t', ht, hsame.symm⟩

theorem exec_evolves (env : Env) {s : Stmt} (hs : s.deletesRefreshTokens = false) {t : RefreshToken}
    (ht : t ∈ w.refreshTokens.rows) :
    ∃ t' ∈ (exec env s w).2.refreshTokens.rows, t.Evolves t' :=
  ⟨_, exec_keeps env hs ht, s.evolves_onRefreshToken t⟩

theorem exec_origin {s : Stmt} {t' : RefreshToken}
    (ht : t' ∈ (exec env s w).2.refreshTokens.rows) :
    (∃ t ∈ w.refreshTokens.rows, t.Evolves t') ∨
      ∃ data, s = .createRefreshToken data ∧ t' = newRefreshToken w.supply data := by
  rcases exec_source ht with ⟨t, hmem, rfl⟩ | ⟨data, hs, hnew, -⟩
  · exact .inl ⟨t, hmem, s.evolves_onRefreshToken t⟩
  · exact .inr ⟨data, hs, hnew⟩

/-- After `revokeToken(id)` the row with that id is revoked. -/
theorem exec_revokeToken {id : Nat} {reason : String} {revokedAt : Int} {t : RefreshToken}
    (ht : t ∈ (exec env (.revokeToken id reason revokedAt) w).2.refreshTokens.rows)
    (hid : t.id = id) : t.revoked = true := by
  obtain ⟨t₀, -, rfl⟩ := Table.mem_updateWhere.mp ht
  have hid₀ : t₀.id = id := (RefreshToken.evolves_patchIf
    (fun t => t.evolves_revoke reason revokedAt) _ t₀).id_eq.symm.trans hid
  simp only [Table.patchIf, hid₀, decide_true, if_true]
  rfl

/-- After `revokeAllByUserId(userId)` every row of that user is revoked. -/
theorem exec_revokeAllByUserId {userId : Nat} {reason : String} {revokedAt : Int}
    {t : RefreshToken}
    (ht : t ∈ (exec env (.revokeAllByUserId userId reason revokedAt) w).2.refreshTokens.rows)
    (hu : t.userId = userId) : t.revoked = true := by
  obtain ⟨t₀, -, rfl⟩ := Table.mem_updateWhere.mp ht
  have hu₀ : t₀.userId = userId := (RefreshToken.evolves_patchIf
    (fun t => t.evolves_revoke reason revokedAt) _ t₀).userId_eq.symm.trans hu
  by_cases hrev : t₀.revoked = true
  · exact (RefreshToken.evolves_patchIf (fun t => t.evolves_revoke reason revokedAt) _ t₀).revoked
      hrev
  · simp only [Table.patchIf, hu₀, hrev, decide_true, Bool.not_false, Bool.and_self, if_true]
    rfl

/-- No session of the user is left to be revoked. -/
def signedOut (w : World) (u : Nat) : Prop :=
  ∀ t ∈ w.refreshTokens.rows, t.userId = u → t.revoked = true

theorem signedOut_revokeAll (env : Env) (w : World) (u : Nat) (reason : String) (revokedAt : Int) :
    (exec env (.revokeAllByUserId u reason revokedAt) w).2.signedOut u := by
  intro t ht hu
  exact exec_revokeAllByUserId ht hu

end World

/-! ## Rows of `user_credentials` -/

namespace Stmt

/-- The row and the `SET` clause of an `UPDATE user_credentials`. -/
def credentialUpdate : Stmt → Option (Nat × Patch UserCredential)
  | .updateStatus id status => some (id, UserCredential.setStatus status)
  | .incrementFailedAttempts id => some (id, UserCredential.incrementFailedAttempts)
  | .resetFailedAttempts id => some (id, UserCredential.resetFailedAttempts)
  | .lockAccount id lockedUntil => some (id, UserCredential.lock lockedUntil)
  | .unlockAccount id => some (id, UserCredential.unlock)
  | .updateLastLogin id ip lastLoginAt => some (id, UserCredential.setLastLogin ip lastLoginAt)
  | .updatePassword id passwordHash passwordChangedAt =>
    some (id, UserCredential.setPassword passwordHash passwordChangedAt)
  | .updateRoles id roles => some (id, UserCredential.setRoles roles)
  | _ => none

/-- What a statement makes of one row. -/
def onCredential (s : Stmt) (c : UserCredential) : UserCredential :=
  match s.credentialUpdate with
  | some (id, f) => if c.id = id then f.apply c else c
  | none => c

/-- Statements that add or remove accounts. -/
def changesAccounts : Stmt → Bool
  | .createCredential _ _ _ => true
  | .deleteCredential _ => true
  | _ => false

@[simp] theorem onCredential_id (s : Stmt) (c : UserCredential) : (s.onCredential c).id = c.id := by
  cases s <;> simp only [onCredential, credentialUpdate]
  all_goals split <;> rfl

@[simp] theorem onCredential_email (s : Stmt) (c : UserCredential) :
    (s.onCredential c).email = c.email := by
  cases s <;> simp only [onCredential, credentialUpdate]
  all_goals split <;> rfl

/-- A row is touched by updates of its own id only. -/
theorem onCredential_other {s : Stmt} {c : UserCredential}
    (h : ∀ f, s.credentialUpdate ≠ some (c.id, f)) : s.onCredential c = c := by
  unfold onCredential
  split
  · rename_i id f hs
    by_cases hid : c.id = id
    · exact absurd (hid ▸ hs) (h f)
    · rw [if_neg hid]
  · rfl

end Stmt

namespace World

def account (w : World) (u : Nat) : Option UserCredential :=
  w.credentials.find? fun c => c.id = u

def byEmail (env : Env) (w : World) (email : String) : Option UserCredential :=
  w.credentials.find? fun c => env.sqlLower c.email = env.sqlLower email

variable {env : Env} {w : World} {s : Stmt} {u : Nat}

theorem account_id {c : UserCredential} (h : w.account u = some c) : c.id = u := by
  simpa using (Table.find?_mem h).2

theorem account_of_mem {c : UserCredential} (hc : c ∈ w.credentials.rows) (hid : c.id = u) :
    w.account u = some c := by
  subst hid
  exact Table.find?_key hc

theorem account_of_byEmail {email : String} {c : UserCredential}
    (h : w.byEmail env email = some c) : w.account c.id = some c :=
  account_of_mem (Table.find?_mem h).1 rfl

/-- Every statement but an insert or a delete maps the rows of `user_credentials`. -/
theorem exec_credentialRows (h : s.changesAccounts = false) :
    (exec env s w).2.credentials.rows = w.credentials.rows.map s.onCredential := by
  by_cases hw : s.writesCredentials = true
  · cases s
    case createCredential | deleteCredential => cases h
    case updateStatus | incrementFailedAttempts | resetFailedAttempts | lockAccount | unlockAccount
        | updateLastLogin | updatePassword | updateRoles =>
      simp only [exec, updateCredential, Table.rows_updateWhere]
      refine List.map_congr_left fun c _ => ?_
      simp only [Table.patchIf, Stmt.onCredential, Stmt.credentialUpdate, decide_eq_true_eq]
    all_goals cases hw
  · have hid : s.onCredential = id := by
      funext c
      cases s <;> first | rfl | (exact absurd rfl hw)
    rw [exec_credentials env s w (by simpa using hw), hid, List.map_id]

/-- The `INSERT` of an account: the new row, or a constraint violation and no change. -/
theorem exec_createCredential (env : Env) (w : World) (email passwordHash : String)
    (roles : List String) :
    (∃ e, exec env (.createCredential email passwordHash roles) w = (.error e, w)) ∨
    ∃ table, exec env (.createCredential email passwordHash roles) w =
        (.ok (newCredential w.supply email passwordHash roles),
          { w with credentials := table, supply := w.supply + 1 }) ∧
      table.rows = w.credentials.rows ++ [newCredential w.supply email passwordHash roles] := by
  cases hi : w.credentials.insert? (newCredential w.supply email passwordHash roles) with
  | none => exact .inl ⟨_, by simp only [exec, hi]; rfl⟩
  | some table => exact .inr ⟨table, by simp only [exec, hi], Table.rows_insert? hi⟩

/-- Backwards: a row went through the statement's update, or the statement inserted it. -/
theorem exec_credentialSource {c : UserCredential} (hc : c ∈ (exec env s w).2.credentials.rows) :
    (∃ c₀ ∈ w.credentials.rows, c = s.onCredential c₀) ∨
      ∃ email passwordHash roles, s = .createCredential email passwordHash roles ∧
        c = newCredential w.supply email passwordHash roles := by
  by_cases hch : s.changesAccounts = true
  · cases s
    case createCredential email passwordHash roles =>
      rcases exec_createCredential env w email passwordHash roles with ⟨e, he⟩ | ⟨table, he, hrows⟩
      · rw [he] at hc
        exact .inl ⟨c, hc, rfl⟩
      · rw [he, hrows] at hc
        rcases List.mem_append.mp hc with hc | hc
        · exact .inl ⟨c, hc, rfl⟩
        · exact .inr ⟨email, passwordHash, roles, rfl, List.mem_singleton.mp hc⟩
    case deleteCredential id => exact .inl ⟨c, (Table.mem_deleteWhere.mp hc).1, rfl⟩
    all_goals cases hch
  · rw [exec_credentialRows (by simpa using hch)] at hc
    obtain ⟨c₀, hc₀, rfl⟩ := List.mem_map.mp hc
    exact .inl ⟨c₀, hc₀, rfl⟩

theorem find?_exec (h : s.changesAccounts = false) {p : UserCredential → Bool}
    (hp : ∀ c, p (s.onCredential c) = p c) :
    (exec env s w).2.credentials.find? p = (w.credentials.find? p).map s.onCredential := by
  have hcomp : p ∘ s.onCredential = p := funext hp
  simp only [Table.find?, exec_credentialRows h, List.find?_map, hcomp]

theorem account_exec (h : s.changesAccounts = false) :
    (exec env s w).2.account u = (w.account u).map s.onCredential :=
  find?_exec h fun c => by simp

theorem byEmail_exec (h : s.changesAccounts = false) (email : String) :
    (exec env s w).2.byEmail env email = (w.byEmail env email).map s.onCredential :=
  find?_exec h fun c => by simp

/-- An insert keeps every account there is. -/
theorem account_createCredential {email passwordHash : String} {roles : List String}
    {c : UserCredential} (h : w.account u = some c) :
    (exec env (.createCredential email passwordHash roles) w).2.account u = some c := by
  simp only [exec]
  split
  · rename_i t ht
    exact Table.find?_insert? ht h
  · exact h

/-- An account that is not there appears by an insert only, under the next id of the supply. -/
theorem account_none_exec (env : Env) (s : Stmt) (h : w.account u = none) :
    (exec env s w).2.account u = none ∨
      ∃ email passwordHash roles, s = .createCredential email passwordHash roles ∧ w.supply = u ∧
        (exec env s w).2.account u = some (newCredential u email passwordHash roles) := by
  have hnone : w.credentials.rows.find? (fun c => decide (c.id = u)) = none := h
  by_cases hch : s.changesAccounts = true
  · cases s
    case createCredential email passwordHash roles =>
      simp only [exec]
      split
      · rename_i t ht
        simp only [account, Table.find?, Table.rows_insert? ht, List.find?_append, hnone]
        by_cases hid : w.supply = u
        · exact .inr ⟨_, _, _, rfl, hid, by simp [newCredential, hid]⟩
        · exact .inl (by simp [newCredential, hid])
      · exact .inl h
    case deleteCredential id =>
      refine .inl (List.find?_eq_none.mpr fun c hc => ?_)
      have hall := Table.find?_none h c (Table.mem_deleteWhere.mp hc).1
      simpa using hall
    all_goals cases hch
  · refine .inl ?_
    rw [account_exec (by simpa using hch), h]
    rfl

theorem account_deleteCredential {id : Nat} (hid : u ≠ id) :
    (exec env (.deleteCredential id) w).2.account u = w.account u := by
  simp only [exec, account, Table.find?, Table.rows_deleteWhere, List.find?_filter]
  congr 1
  funext c
  by_cases hc : c.id = u
  · simp [hc, hid]
  · simp [hc]

theorem account_deleted (env : Env) (w : World) (u : Nat) :
    (exec env (.deleteCredential u) w).2.account u = none := by
  refine List.find?_eq_none.mpr fun c hc => ?_
  simpa using (Table.mem_deleteWhere.mp hc).2

theorem hasUser_iff : w.hasUser u = true ↔ ∃ c, w.account u = some c := by
  simp only [hasUser, account, Table.find?, List.any_eq_true, ← Option.isSome_iff_exists,
    List.find?_isSome]

/-- An account stays until it is deleted. -/
theorem account_kept (env : Env) (hs : s ≠ .deleteCredential u) (h : ∃ c, w.account u = some c) :
    ∃ c, (exec env s w).2.account u = some c := by
  obtain ⟨c, hc⟩ := h
  by_cases hch : s.changesAccounts = true
  · cases s
    case createCredential => exact ⟨c, account_createCredential hc⟩
    case deleteCredential id =>
      refine ⟨c, (account_deleteCredential ?_).trans hc⟩
      rintro rfl
      exact hs rfl
    all_goals cases hch
  · exact ⟨s.onCredential c, by rw [account_exec (by simpa using hch), hc]; rfl⟩

/-- Deleting a user cascades to the sessions. -/
theorem exec_cascade {t : RefreshToken} (ht : t ∈ (exec env s w).2.refreshTokens.rows) :
    s ≠ .deleteCredential t.userId := by
  rintro rfl
  simpa using (Table.mem_deleteWhere.mp ht).2

/-! ## Rows of `password_reset_tokens` -/

/-- The row `t'` is `t` up to its `used` columns, and used if `t` is. -/
def SameReset (t t' : PasswordResetToken) : Prop :=
  t'.id = t.id ∧ t'.userId = t.userId ∧ t'.tokenHash = t.tokenHash ∧ t'.expiresAt = t.expiresAt ∧
    (t.used = true → t'.used = true)

/-- The `INSERT` of a reset token: the new row, or a constraint violation and no change. -/
theorem exec_createPasswordResetToken (env : Env) (w : World) (userId : Nat) (tokenHash : TokenHash)
    (expiresAt : Int) :
    (∃ e, exec env (.createPasswordResetToken userId tokenHash expiresAt) w = (.error e, w)) ∨
    ∃ table, exec env (.createPasswordResetToken userId tokenHash expiresAt) w =
        (.ok ⟨w.supply, userId, tokenHash, expiresAt, false, none⟩,
          { w with passwordResetTokens := table, supply := w.supply + 1 }) ∧
      table.rows = w.passwordResetTokens.rows ++
        [⟨w.supply, userId, tokenHash, expiresAt, false, none⟩] ∧
      w.hasUser userId = true := by
  by_cases hu : w.hasUser userId = true
  · cases hi : w.passwordResetTokens.insert? ⟨w.supply, userId, tokenHash, expiresAt, false, none⟩ with
    | none => exact .inl ⟨_, by simp only [exec, hu, hi, if_true]; rfl⟩
    | some table =>
      exact .inr ⟨table, by simp only [exec, hu, hi, if_true], Table.rows_insert? hi, hu⟩
  · exact .inl ⟨_, by simp only [exec, hu]; rfl⟩

theorem exec_createPasswordResetToken_new (env : Env) {userId : Nat} (tokenHash : TokenHash)
    (expiresAt : Int) (hid : ∀ t ∈ w.passwordResetTokens.rows, t.id < w.supply)
    (hnew : ∀ t ∈ w.passwordResetTokens.rows, t.tokenHash ≠ tokenHash)
    (hu : w.hasUser userId = true) :
    ∃ table, w.passwordResetTokens.insert?
        ⟨w.supply, userId, tokenHash, expiresAt, false, none⟩ = some table ∧
      exec env (.createPasswordResetToken userId tokenHash expiresAt) w =
        (.ok ⟨w.supply, userId, tokenHash, expiresAt, false, none⟩,
          { w with passwordResetTokens := table, supply := w.supply + 1 }) := by
  obtain ⟨table, hinsert⟩ := Table.insert?_of_fresh (t := w.passwordResetTokens)
    (a := ⟨w.supply, userId, tokenHash, expiresAt, false, none⟩)
    (fun t ht => Nat.ne_of_lt (hid t ht)) hnew
  exact ⟨table, hinsert, by simp only [exec, hu, if_true, hinsert]⟩

theorem exec_passwordResetTokens (env : Env) (s : Stmt) (w : World) (h : s.writesResetTokens = false) :
    (exec env s w).2.passwordResetTokens = w.passwordResetTokens := by
  cases s
  case createPasswordResetToken | markAsUsed | deleteExpiredOrUsed | deleteResetTokensByUserId
      | deleteCredential => cases h
  case hashPassword | signAccessToken | createCredential => simp only [exec]; split <;> rfl
  case createRefreshToken data =>
    rcases exec_createRefreshToken env w data with ⟨e, he⟩ | ⟨table, he, -, -⟩ <;> rw [he]
  all_goals rfl

/-- A row of `password_reset_tokens` was there before, up to its `used` columns, or is new. -/
theorem exec_resetTokens {t' : PasswordResetToken}
    (ht : t' ∈ (exec env s w).2.passwordResetTokens.rows) :
    (∃ t ∈ w.passwordResetTokens.rows, SameReset t t' ∧ s ≠ .deleteCredential t.userId) ∨
      ∃ userId tokenHash expiresAt, s = .createPasswordResetToken userId tokenHash expiresAt ∧
        t' = ⟨w.supply, userId, tokenHash, expiresAt, false, none⟩ ∧
        (exec env s w).2.supply = w.supply + 1 ∧ w.hasUser userId = true := by
  by_cases hw : s.writesResetTokens = true
  · cases s
    case createPasswordResetToken userId tokenHash expiresAt =>
      rcases exec_createPasswordResetToken env w userId tokenHash expiresAt with
        ⟨e, he⟩ | ⟨table, he, hrows, hu⟩
      · rw [he] at ht
        exact .inl ⟨t', ht, ⟨rfl, rfl, rfl, rfl, id⟩, by simp⟩
      · rw [he, hrows] at ht
        rcases List.mem_append.mp ht with ht | ht
        · exact .inl ⟨t', ht, ⟨rfl, rfl, rfl, rfl, id⟩, by simp⟩
        · exact .inr ⟨_, _, _, rfl, List.mem_singleton.mp ht, by rw [he], hu⟩
    case markAsUsed tokenId usedAt =>
      obtain ⟨t, hmem, rfl⟩ := Table.mem_updateWhere.mp ht
      refine .inl ⟨t, hmem, ?_, by simp⟩
      unfold Table.patchIf
      split
      · exact ⟨rfl, rfl, rfl, rfl, fun _ => rfl⟩
      · exact ⟨rfl, rfl, rfl, rfl, id⟩
    case deleteExpiredOrUsed | deleteResetTokensByUserId =>
      exact .inl ⟨t', (Table.mem_deleteWhere.mp ht).1, ⟨rfl, rfl, rfl, rfl, id⟩, by simp⟩
    case deleteCredential userId =>
      obtain ⟨hmem, hu⟩ := Table.mem_deleteWhere.mp ht
      refine .inl ⟨t', hmem, ⟨rfl, rfl, rfl, rfl, id⟩, ?_⟩
      rintro heq
      cases heq
      simp at hu
    all_goals cases hw
  · have hsame := exec_passwordResetTokens env s w (by simpa using hw)
    rw [hsame] at ht
    refine .inl ⟨t', ht, ⟨rfl, rfl, rfl, rfl, id⟩, ?_⟩
    rintro rfl
    exact hw rfl

end World
end Auth
