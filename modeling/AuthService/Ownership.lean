import AuthService.Footprint
import AuthService.Resumption.Simulation

/-!
# AuthService.Ownership

The rows of one user, among those of all others.

* `World.own`      — the credential, the refresh tokens and the reset tokens of a user.
* `Stmt.Bypasses u`  — statements that name another user, or nobody: they leave the rows of `u` alone
  (`own_exec`).
* `Key`, `World.owns` — what a request is addressed with, and whose it is.
* `Twins`          — two worlds with the same rows of `u`, in which no row of anybody else answers to
  the key of the request.
* `Stmt.Confined`  — statements that twins cannot tell apart (`relates_confined`).
-/

namespace Auth

open Relational Resumption Prog

variable {env : Env} {w w' : World} {u : Nat} {s : Stmt}

structure Own where
  credentials : List UserCredential
  refreshTokens : List RefreshToken
  passwordResetTokens : List PasswordResetToken
  deriving DecidableEq

/-- The rows of `u`. -/
def World.own (u : Nat) (w : World) : Own where
  credentials := w.credentials.select fun c => c.id = u
  refreshTokens := w.refreshTokens.select fun t => t.userId = u
  passwordResetTokens := w.passwordResetTokens.select fun t => t.userId = u

theorem mem_own_refreshTokens {t : RefreshToken} :
    t ∈ (w.own u).refreshTokens ↔ t ∈ w.refreshTokens.rows ∧ t.userId = u := by
  simp [World.own, Table.select]

theorem mem_own_credentials {c : UserCredential} :
    c ∈ (w.own u).credentials ↔ c ∈ w.credentials.rows ∧ c.id = u := by
  simp [World.own, Table.select]

/-! ## Statements about others -/

/-- The user whose rows a statement names. -/
def Stmt.subject? : Stmt → Option Nat
  | .updateStatus id _ => some id
  | .incrementFailedAttempts id => some id
  | .resetFailedAttempts id => some id
  | .lockAccount id _ => some id
  | .unlockAccount id => some id
  | .updateLastLogin id _ _ => some id
  | .updatePassword id _ _ => some id
  | .updateRoles id _ => some id
  | .deleteCredential id => some id
  | .createRefreshToken data => some data.userId
  | .revokeAllByUserId userId _ _ => some userId
  | .createPasswordResetToken userId _ _ => some userId
  | .deleteResetTokensByUserId userId => some userId
  | _ => none

/-- Statements that write token rows by their own id, or sweep a table. -/
def Stmt.byRow : Stmt → Bool
  | .revokeToken _ _ _ => true
  | .setReplacedBy _ _ => true
  | .updateLastUsed _ _ => true
  | .markAsUsed _ _ => true
  | .deleteExpiredAndRevoked _ => true
  | .deleteExpiredOrUsed _ => true
  | _ => false

def Stmt.Bypasses (u : Nat) (s : Stmt) : Prop := s.byRow = false ∧ s.subject? ≠ some u

theorem map_patchIf_of_none {α κ υ : Type} [Row α κ υ] {q : α → Bool} {f : Patch α} {l : List α}
    (h : ∀ a ∈ l, q a = false) : l.map (Table.patchIf q f) = l := by
  refine (List.map_congr_left fun a ha => ?_).trans (List.map_id l)
  simp [Table.patchIf, h a ha]

theorem own_updateCredential (id : Nat) (f : Patch UserCredential) :
    (w.updateCredential id f).own u = { w.own u with
      credentials := (w.own u).credentials.map (Table.patchIf (fun c => c.id = id) f) } := by
  have hkey : ∀ c : UserCredential, (f.apply c).id = c.id := f.key_eq
  have hrows : (w.updateCredential id f).credentials.select (fun c => decide (c.id = u)) =
      (w.own u).credentials.map (Table.patchIf (fun c => c.id = id) f) :=
    Table.select_updateWhere fun c => by rw [hkey]
  unfold World.own
  rw [hrows]
  rfl

theorem own_updateRefreshTokens (q : RefreshToken → Bool) {f : Patch RefreshToken}
    (hf : ∀ t, (f.apply t).userId = t.userId) :
    (w.updateRefreshTokens q f).own u = { w.own u with
      refreshTokens := (w.own u).refreshTokens.map (Table.patchIf q f) } := by
  have hrows : (w.updateRefreshTokens q f).refreshTokens.select (fun t => decide (t.userId = u)) =
      (w.own u).refreshTokens.map (Table.patchIf q f) :=
    Table.select_updateWhere fun t => by rw [hf]
  unfold World.own
  rw [hrows]
  rfl

/-- An update of another user's credential. -/
theorem own_updateCredential_other {id : Nat} {f : Patch UserCredential} (h : id ≠ u) :
    (w.updateCredential id f).own u = w.own u := by
  have hsame : (w.own u).credentials.map (Table.patchIf (fun c => c.id = id) f) =
      (w.own u).credentials := by
    refine map_patchIf_of_none fun c hc => ?_
    simp [(mem_own_credentials.mp hc).2, Ne.symm h]
  rw [own_updateCredential, hsame]

/-- An update of tokens that are not the user's. -/
theorem own_updateRefreshTokens_other {q : RefreshToken → Bool} {f : Patch RefreshToken}
    (hf : ∀ t, (f.apply t).userId = t.userId)
    (h : ∀ t ∈ w.refreshTokens.rows, q t = true → t.userId ≠ u) :
    (w.updateRefreshTokens q f).own u = w.own u := by
  have hsame : (w.own u).refreshTokens.map (Table.patchIf q f) = (w.own u).refreshTokens := by
    refine map_patchIf_of_none fun t ht => ?_
    obtain ⟨hmem, huser⟩ := mem_own_refreshTokens.mp ht
    cases hq : q t with
    | false => rfl
    | true => exact absurd huser (h t hmem hq)
  rw [own_updateRefreshTokens q hf, hsame]

theorem own_exec (env : Env) (hs : s.Bypasses u) (hu : u < w.supply) :
    (World.exec env s w).2.own u = w.own u := by
  obtain ⟨hrow, hsubject⟩ := hs
  cases s
  case revokeToken | setReplacedBy | updateLastUsed | markAsUsed | deleteExpiredAndRevoked
      | deleteExpiredOrUsed => cases hrow
  case updateStatus id _ => exact own_updateCredential_other fun h => hsubject (congrArg some h)
  case incrementFailedAttempts id => exact own_updateCredential_other fun h => hsubject (congrArg some h)
  case resetFailedAttempts id => exact own_updateCredential_other fun h => hsubject (congrArg some h)
  case lockAccount id _ => exact own_updateCredential_other fun h => hsubject (congrArg some h)
  case unlockAccount id => exact own_updateCredential_other fun h => hsubject (congrArg some h)
  case updateLastLogin id _ _ => exact own_updateCredential_other fun h => hsubject (congrArg some h)
  case updatePassword id _ _ => exact own_updateCredential_other fun h => hsubject (congrArg some h)
  case updateRoles id _ => exact own_updateCredential_other fun h => hsubject (congrArg some h)
  case revokeAllByUserId id reason at' =>
    refine own_updateRefreshTokens_other (fun _ => rfl) fun t _ hq hu => hsubject ?_
    simp only [Bool.and_eq_true, decide_eq_true_eq] at hq
    exact congrArg some (hq.1.symm.trans hu)
  case createCredential email passwordHash roles =>
    simp only [World.exec]
    split
    · rename_i table hinsert
      have hne : ¬ w.supply = u := by omega
      simp [World.own, Table.select_insert? hinsert, World.newCredential, hne]
    · rfl
  case createRefreshToken data =>
    have hne : ¬ data.userId = u := fun h => hsubject (congrArg some h)
    simp only [World.exec]
    split
    · split
      · rename_i table hinsert
        simp [World.own, Table.select_insert? hinsert, World.newRefreshToken, hne]
      · rfl
    · rfl
  case createPasswordResetToken userId tokenHash expiresAt =>
    have hne : ¬ userId = u := fun h => hsubject (congrArg some h)
    simp only [World.exec]
    split
    · split
      · rename_i table hinsert
        simp [World.own, Table.select_insert? hinsert, hne]
      · rfl
    · rfl
  case deleteCredential id =>
    have hne : ¬ u = id := fun h => hsubject (congrArg some h.symm)
    simp only [World.exec, World.own, Table.select_deleteWhere, Own.mk.injEq]
    refine ⟨List.filter_eq_self.mpr fun c hc => ?_, List.filter_eq_self.mpr fun t ht => ?_,
      List.filter_eq_self.mpr fun t ht => ?_⟩
    · simp [of_decide_eq_true (List.mem_filter.mp hc).2, hne]
    · simp [of_decide_eq_true (List.mem_filter.mp ht).2, hne]
    · simp [of_decide_eq_true (List.mem_filter.mp ht).2, hne]
  case deleteResetTokensByUserId id =>
    have hne : ¬ u = id := fun h => hsubject (congrArg some h.symm)
    simp only [World.exec, World.own, Table.select_deleteWhere, Own.mk.injEq, true_and]
    refine List.filter_eq_self.mpr fun t ht => ?_
    simp [of_decide_eq_true (List.mem_filter.mp ht).2, hne]
  case hashPassword | signAccessToken =>
    simp only [World.exec]
    split <;> rfl
  all_goals rfl

/-! ## Keys -/

/-- What a request is addressed with. -/
inductive Key where
  | email (email : String)
  | refreshToken (raw : Nat)
  | resetToken (raw : Nat)
  | session (id : Nat)
  | user (id : Nat)
  deriving DecidableEq

def Request.key? : Request → Option Key
  | .register email _ _ _ => some (.email email)
  | .login email _ _ _ => some (.email email)
  | .forgotPassword email _ => some (.email email)
  | .refreshToken raw => some (.refreshToken raw)
  | .logout _ raw _ _ => some (.refreshToken raw)
  | .resetPassword raw _ _ => some (.resetToken raw)
  | .revokeSession id => some (.session id)
  | .lockAccount id _ _ _ => some (.user id)
  | .unlockAccount id _ => some (.user id)
  | .banUser id _ _ => some (.user id)
  | .deleteCredentials id => some (.user id)
  | .assignRole id _ _ => some (.user id)
  | .revokeRole id _ _ => some (.user id)
  | .getUserRoles id => some (.user id)
  | .revokeToken id _ => id.map .user
  | .revokeAllTokens id _ => some (.user id)
  | .getActiveSessions id => some (.user id)
  | .validateToken _ => none
  | .introspect _ => none
  | .getAllRoles => none
  | .unlockExpiredLockouts => none
  | .cleanupRefreshTokens => none
  | .cleanupPasswordResets => none

/-- Some user of whom `p` is true answers to the key. -/
def World.owns (env : Env) (w : World) (p : Nat → Bool) : Key → Bool
  | .email email =>
    w.credentials.rows.any fun c => p c.id && env.sqlLower c.email = env.sqlLower email
  | .refreshToken raw => w.refreshTokens.rows.any fun t => p t.userId && t.tokenHash = hashToken raw
  | .resetToken raw =>
    w.passwordResetTokens.rows.any fun t => p t.userId && t.tokenHash = hashToken raw
  | .session id => w.refreshTokens.rows.any fun t => p t.userId && t.id = id
  | .user id => w.credentials.rows.any fun c => p c.id && c.id = id

/-- A statement that inserts nothing gives nobody a key. -/
theorem owns_exec {p : Nat → Bool} {k : Key} (hinsert : s.plain = true ∨ ∃ i j, s = .setReplacedBy i j)
    (h : (World.exec env s w).2.owns env p k = true) : w.owns env p k = true := by
  have hcredential : ∀ c' ∈ (World.exec env s w).2.credentials.rows,
      ∃ c ∈ w.credentials.rows, c'.id = c.id ∧ c'.email = c.email := by
    intro c' hc'
    by_cases hch : s.changesAccounts = true
    · cases s
      case createCredential => rcases hinsert with hplain | ⟨i, j, heq⟩ <;> contradiction
      case deleteCredential => exact ⟨c', (Table.mem_deleteWhere.mp hc').1, rfl, rfl⟩
      all_goals cases hch
    · rw [World.exec_credentialRows (by simpa using hch)] at hc'
      obtain ⟨c, hc, rfl⟩ := List.mem_map.mp hc'
      exact ⟨c, hc, s.onCredential_id c, s.onCredential_email c⟩
  have htoken : ∀ t' ∈ (World.exec env s w).2.refreshTokens.rows,
      ∃ t ∈ w.refreshTokens.rows, t.Evolves t' := by
    intro t' ht'
    rcases World.exec_source ht' with ⟨t, ht, rfl⟩ | ⟨data, rfl, -⟩
    · exact ⟨t, ht, s.evolves_onRefreshToken t⟩
    · rcases hinsert with hplain | ⟨i, j, heq⟩ <;> contradiction
  have hreset : ∀ t' ∈ (World.exec env s w).2.passwordResetTokens.rows,
      ∃ t ∈ w.passwordResetTokens.rows, World.SameReset t t' := by
    intro t' ht'
    rcases World.exec_resetTokens ht' with ⟨t, ht, hsame, -⟩ | ⟨_, _, _, rfl, -⟩
    · exact ⟨t, ht, hsame⟩
    · rcases hinsert with hplain | ⟨i, j, heq⟩ <;> contradiction
  cases k
  case email email =>
    obtain ⟨c', hc', hp⟩ := List.any_eq_true.mp h
    obtain ⟨c, hc, hid, hemail⟩ := hcredential c' hc'
    rw [hid, hemail] at hp
    exact List.any_eq_true.mpr ⟨c, hc, hp⟩
  case user id =>
    obtain ⟨c', hc', hp⟩ := List.any_eq_true.mp h
    obtain ⟨c, hc, hid, -⟩ := hcredential c' hc'
    rw [hid] at hp
    exact List.any_eq_true.mpr ⟨c, hc, hp⟩
  case refreshToken raw =>
    obtain ⟨t', ht', hp⟩ := List.any_eq_true.mp h
    obtain ⟨t, ht, hev⟩ := htoken t' ht'
    rw [hev.userId_eq, hev.tokenHash_eq] at hp
    exact List.any_eq_true.mpr ⟨t, ht, hp⟩
  case session id =>
    obtain ⟨t', ht', hp⟩ := List.any_eq_true.mp h
    obtain ⟨t, ht, hev⟩ := htoken t' ht'
    rw [hev.userId_eq, hev.id_eq] at hp
    exact List.any_eq_true.mpr ⟨t, ht, hp⟩
  case resetToken raw =>
    obtain ⟨t', ht', hp⟩ := List.any_eq_true.mp h
    obtain ⟨t, ht, -, huser, hhash, -⟩ := hreset t' ht'
    rw [huser, hhash] at hp
    exact List.any_eq_true.mpr ⟨t, ht, hp⟩

/-- Somebody else answers to the key. -/
def World.foreign (env : Env) (u : Nat) (w : World) (k : Key) : Bool :=
  w.owns env (fun v => decide (v ≠ u)) k

section Foreign

/-- Where no row of somebody else's satisfies `p`, a row that does is the user's. -/
theorem owner_of_any_foreign {α : Type} {rows : List α} (owner : α → Nat) (p : α → Bool)
    (h : (rows.any fun a => decide (owner a ≠ u) && p a) = false) {a : α} (ha : a ∈ rows)
    (hp : p a = true) : owner a = u := by
  by_contra hne
  have hfound := List.any_eq_false.mp h a ha
  simp [hne, hp] at hfound

theorem mine_of_email {email : String} (h : w.foreign env u (.email email) = false)
    {c : UserCredential} (hc : c ∈ w.credentials.rows)
    (he : env.sqlLower c.email = env.sqlLower email) : c.id = u :=
  owner_of_any_foreign UserCredential.id
    (fun c => decide (env.sqlLower c.email = env.sqlLower email)) h hc (decide_eq_true he)

theorem mine_of_user {id : Nat} (h : w.foreign env u (.user id) = false) {c : UserCredential}
    (hc : c ∈ w.credentials.rows) (hid : c.id = id) : c.id = u :=
  owner_of_any_foreign UserCredential.id (fun c => decide (c.id = id)) h hc (decide_eq_true hid)

theorem mine_of_refreshToken {raw : Nat} (h : w.foreign env u (.refreshToken raw) = false)
    {t : RefreshToken} (ht : t ∈ w.refreshTokens.rows) (hh : t.tokenHash = hashToken raw) :
    t.userId = u :=
  owner_of_any_foreign RefreshToken.userId (fun t => decide (t.tokenHash = hashToken raw)) h ht
    (decide_eq_true hh)

theorem mine_of_resetToken {raw : Nat} (h : w.foreign env u (.resetToken raw) = false)
    {t : PasswordResetToken} (ht : t ∈ w.passwordResetTokens.rows)
    (hh : t.tokenHash = hashToken raw) : t.userId = u :=
  owner_of_any_foreign PasswordResetToken.userId (fun t => decide (t.tokenHash = hashToken raw)) h ht
    (decide_eq_true hh)

end Foreign

/-! ## Two worlds with the same rows of the user -/

/-- Ids and digests of tokens have been drawn from the supply, and every session is a user's. -/
structure Drawn (w : World) : Prop where
  id_lt : ∀ t ∈ w.refreshTokens.rows, t.id < w.supply
  hash_lt : ∀ t ∈ w.refreshTokens.rows, t.tokenHash.preimage < w.supply
  owner : ∀ t ∈ w.refreshTokens.rows, ∃ c, w.account t.userId = some c
  reset_id_lt : ∀ t ∈ w.passwordResetTokens.rows, t.id < w.supply
  reset_hash_lt : ∀ t ∈ w.passwordResetTokens.rows, t.tokenHash.preimage < w.supply

theorem drawn_exec (env : Env)
    (hnew : ∀ data, s = .createRefreshToken data → data.tokenHash.preimage < w.supply)
    (hnewReset : ∀ userId tokenHash expiresAt,
      s = .createPasswordResetToken userId tokenHash expiresAt → tokenHash.preimage < w.supply)
    (h : Drawn w) : Drawn (World.exec env s w).2 := by
  have hle := World.exec_supply env s w
  constructor
  · intro t' ht'
    rcases World.exec_source ht' with ⟨t, ht, rfl⟩ | ⟨data, rfl, rfl, hsupply, -⟩
    · have hlt := h.id_lt t ht
      rw [(s.evolves_onRefreshToken t).id_eq]
      omega
    · rw [hsupply]
      exact Nat.lt_succ_self _
  · intro t' ht'
    rcases World.exec_source ht' with ⟨t, ht, rfl⟩ | ⟨data, rfl, rfl, -⟩
    · have hlt := h.hash_lt t ht
      rw [(s.evolves_onRefreshToken t).tokenHash_eq]
      omega
    · exact Nat.lt_of_lt_of_le (hnew data rfl) hle
  · intro t' ht'
    have hcascade := World.exec_cascade ht'
    rcases World.exec_source ht' with ⟨t, ht, rfl⟩ | ⟨data, rfl, rfl, -, huser⟩
    · rw [(s.evolves_onRefreshToken t).userId_eq] at hcascade ⊢
      exact World.account_kept env hcascade (h.owner t ht)
    · exact World.account_kept env hcascade (World.hasUser_iff.mp huser)
  · intro t' ht'
    rcases World.exec_resetTokens ht' with ⟨t, ht, hsame, -⟩ | ⟨_, _, _, rfl, rfl, hsupply, -⟩
    · have hlt := h.reset_id_lt t ht
      rw [hsame.1]
      omega
    · rw [hsupply]
      exact Nat.lt_succ_self _
  · intro t' ht'
    rcases World.exec_resetTokens ht' with ⟨t, ht, hsame, -⟩ | ⟨_, hash, _, rfl, rfl, -⟩
    · have hlt := h.reset_hash_lt t ht
      rw [hsame.2.2.1]
      omega
    · exact Nat.lt_of_lt_of_le (hnewReset _ hash _ rfl) hle

/-- The same rows of `u`, the same supply and clock; and nobody else answers to a key outside `F`. -/
structure Twins (env : Env) (u : Nat) (F : Key → Prop) (w w' : World) : Prop where
  own : w.own u = w'.own u
  roles : w.roles = w'.roles
  supply : w.supply = w'.supply
  now : w.now = w'.now
  drawn : Drawn w
  drawn' : Drawn w'
  foreign : ∀ k, w.foreign env u k = true → F k
  foreign' : ∀ k, w'.foreign env u k = true → F k

namespace Twins

variable {F : Key → Prop}

theorem clear (h : Twins env u F w w') {k : Key} (hk : ¬ F k) :
    w.foreign env u k = false ∧ w'.foreign env u k = false :=
  ⟨Bool.eq_false_iff.mpr fun hw => hk (h.foreign k hw),
    Bool.eq_false_iff.mpr fun hw => hk (h.foreign' k hw)⟩

theorem find_credential (h : Twins env u F w w') {q : UserCredential → Bool}
    (hq : ∀ c ∈ w.credentials.rows, q c = true → c.id = u)
    (hq' : ∀ c ∈ w'.credentials.rows, q c = true → c.id = u) :
    w.credentials.find? q = w'.credentials.find? q :=
  Table.find?_of_select (congrArg Own.credentials h.own)
    (fun c hc hqc => decide_eq_true (hq c hc hqc)) fun c hc hqc => decide_eq_true (hq' c hc hqc)

theorem find_refreshToken (h : Twins env u F w w') {q : RefreshToken → Bool}
    (hq : ∀ t ∈ w.refreshTokens.rows, q t = true → t.userId = u)
    (hq' : ∀ t ∈ w'.refreshTokens.rows, q t = true → t.userId = u) :
    w.refreshTokens.find? q = w'.refreshTokens.find? q :=
  Table.find?_of_select (congrArg Own.refreshTokens h.own)
    (fun t ht hqt => decide_eq_true (hq t ht hqt)) fun t ht hqt => decide_eq_true (hq' t ht hqt)

theorem find_resetToken (h : Twins env u F w w') {q : PasswordResetToken → Bool}
    (hq : ∀ t ∈ w.passwordResetTokens.rows, q t = true → t.userId = u)
    (hq' : ∀ t ∈ w'.passwordResetTokens.rows, q t = true → t.userId = u) :
    w.passwordResetTokens.find? q = w'.passwordResetTokens.find? q :=
  Table.find?_of_select (congrArg Own.passwordResetTokens h.own)
    (fun t ht hqt => decide_eq_true (hq t ht hqt)) fun t ht hqt => decide_eq_true (hq' t ht hqt)

theorem select_refreshTokens (h : Twins env u F w w') {q : RefreshToken → Bool}
    (hq : ∀ t ∈ w.refreshTokens.rows, q t = true → t.userId = u)
    (hq' : ∀ t ∈ w'.refreshTokens.rows, q t = true → t.userId = u) :
    w.refreshTokens.select q = w'.refreshTokens.select q :=
  Table.select_of_select (congrArg Own.refreshTokens h.own)
    (fun t ht hqt => decide_eq_true (hq t ht hqt)) fun t ht hqt => decide_eq_true (hq' t ht hqt)

theorem account (h : Twins env u F w w') {id : Nat} (hid : ¬ F (.user id)) :
    w.account id = w'.account id :=
  h.find_credential (fun _ hc hq => mine_of_user (h.clear hid).1 hc (of_decide_eq_true hq))
    fun _ hc hq => mine_of_user (h.clear hid).2 hc (of_decide_eq_true hq)

theorem byEmail (h : Twins env u F w w') {email : String} (hk : ¬ F (.email email)) :
    w.byEmail env email = w'.byEmail env email :=
  h.find_credential (fun _ hc hq => mine_of_email (h.clear hk).1 hc (of_decide_eq_true hq))
    fun _ hc hq => mine_of_email (h.clear hk).2 hc (of_decide_eq_true hq)

theorem hasUser (h : Twins env u F w w') {id : Nat} (hid : ¬ F (.user id)) :
    w.hasUser id = w'.hasUser id := by
  rw [Bool.eq_iff_iff, World.hasUser_iff, World.hasUser_iff, h.account hid]

end Twins

/-- A session of somebody who answers to no foreign key is the user's. -/
theorem mine_of_session {id : Nat} (hdrawn : Drawn w) (h : w.foreign env u (.user id) = false)
    {t : RefreshToken} (ht : t ∈ w.refreshTokens.rows) (hid : t.userId = id) : t.userId = u := by
  obtain ⟨c, hc⟩ := hdrawn.owner t ht
  have hcid := World.account_id hc
  rw [← hcid]
  exact mine_of_user h (Table.find?_mem hc).1 (hcid.trans hid)

/-! ## Statements that twins answer alike -/

/-- Statements that read no row but the user's, insert none and sweep no table. -/
def Stmt.Confined (F : Key → Prop) : Stmt → Prop
  | .findCredentialById id => ¬ F (.user id)
  | .findCredentialByEmail email => ¬ F (.email email)
  | .createCredential _ _ _ => False
  | .incrementFailedAttempts id => ¬ F (.user id)
  | .deleteCredential id => ¬ F (.user id)
  | .findLockedAccountsToUnlock _ => False
  | .createRefreshToken _ => False
  | .findRefreshTokenByHash tokenHash => ¬ F (.refreshToken tokenHash.preimage)
  | .findActiveByUserId userId _ => ¬ F (.user userId)
  | .revokeAllByUserId userId _ _ => ¬ F (.user userId)
  | .countActiveByUserId userId _ => ¬ F (.user userId)
  | .findOldestActiveByUserId userId _ => ¬ F (.user userId)
  | .deleteExpiredAndRevoked _ => False
  | .createPasswordResetToken _ _ _ => False
  | .findResetTokenByHash tokenHash => ¬ F (.resetToken tokenHash.preimage)
  | .deleteExpiredOrUsed _ => False
  | .existsBlacklist _ => False
  | _ => True

namespace Twins

variable {F : Key → Prop}

theorem select_user (h : Twins env u F w w') {id : Nat} (hid : ¬ F (.user id))
    {q : RefreshToken → Bool} (hq : ∀ t, q t = true → t.userId = id) :
    w.refreshTokens.select q = w'.refreshTokens.select q :=
  h.select_refreshTokens (fun t ht hqt => mine_of_session h.drawn (h.clear hid).1 ht (hq t hqt))
    fun t ht hqt => mine_of_session h.drawn' (h.clear hid).2 ht (hq t hqt)

/-- The replies. -/
theorem reply (h : Twins env u F w w') (hs : s.Confined F) :
    (World.exec env s w).1 = (World.exec env s w').1 := by
  cases s
  case newDate => exact congrArg Except.ok h.now
  case uuidv4 => exact congrArg Except.ok h.supply
  case hashPassword password =>
    simp only [World.exec, h.supply]
    split <;> rfl
  case signAccessToken sub email roles tokenType =>
    simp only [World.exec, h.supply, h.now]
    split <;> rfl
  case findCredentialById id => exact congrArg Except.ok (h.account hs)
  case findCredentialByEmail email => exact congrArg Except.ok (h.byEmail hs)
  case incrementFailedAttempts id =>
    have hfind : ∀ v : World, (v.updateCredential id
        UserCredential.incrementFailedAttempts).account id =
          (v.account id).map fun c => UserCredential.incrementFailedAttempts.apply c := by
      intro v
      have hexec : (World.exec env (.incrementFailedAttempts id) v).2.account id =
          (v.account id).map (Stmt.incrementFailedAttempts id).onCredential :=
        World.account_exec rfl
      refine hexec.trans ?_
      cases hc : v.account id with
      | none => rfl
      | some c => simp [Stmt.onCredential, Stmt.credentialUpdate, World.account_id hc]
    show Except.ok (((w.updateCredential id UserCredential.incrementFailedAttempts).account
      id).map _) = Except.ok (((w'.updateCredential id
        UserCredential.incrementFailedAttempts).account id).map _)
    rw [hfind, hfind, h.account hs]
  case deleteCredential id => exact congrArg Except.ok (h.hasUser hs)
  case findRefreshTokenByHash tokenHash =>
    refine congrArg Except.ok (h.find_refreshToken (fun t ht hq => ?_) fun t ht hq => ?_)
    · exact mine_of_refreshToken (h.clear hs).1 ht (of_decide_eq_true hq)
    · exact mine_of_refreshToken (h.clear hs).2 ht (of_decide_eq_true hq)
  case findResetTokenByHash tokenHash =>
    refine congrArg Except.ok (h.find_resetToken (fun t ht hq => ?_) fun t ht hq => ?_)
    · exact mine_of_resetToken (h.clear hs).1 ht (of_decide_eq_true hq)
    · exact mine_of_resetToken (h.clear hs).2 ht (of_decide_eq_true hq)
  case findActiveByUserId userId now =>
    refine congrArg Except.ok (h.select_user hs fun t hq => ?_)
    exact of_decide_eq_true (Bool.and_eq_true_iff.mp hq).1
  case countActiveByUserId userId now =>
    refine congrArg (fun ts : List RefreshToken => Except.ok ts.length)
      (h.select_user hs fun t hq => ?_)
    exact of_decide_eq_true (Bool.and_eq_true_iff.mp hq).1
  case findOldestActiveByUserId userId now =>
    refine congrArg (fun ts => Except.ok (env.oldest.pick ts)) (h.select_user hs fun t hq => ?_)
    exact of_decide_eq_true (Bool.and_eq_true_iff.mp hq).1
  case revokeAllByUserId userId reason at' =>
    refine congrArg (fun ts : List RefreshToken => Except.ok ts.length)
      (h.select_user hs fun t hq => ?_)
    exact of_decide_eq_true (Bool.and_eq_true_iff.mp hq).1
  case findAllRoles => exact congrArg (fun roles => Except.ok roles.rows) h.roles
  case findRoleByName name =>
    exact congrArg (fun roles : Table Role => Except.ok (roles.find? fun r => r.name = name)) h.roles
  case createCredential | findLockedAccountsToUnlock | createRefreshToken
      | deleteExpiredAndRevoked | createPasswordResetToken | deleteExpiredOrUsed
      | existsBlacklist => exact hs.elim
  all_goals rfl

/-- The rows of the user after a statement that inserts nothing depend on those before alone. -/
theorem own_after (h : w.own u = w'.own u) (hs : s.plain = true ∨ ∃ i j, s = .setReplacedBy i j) :
    (World.exec env s w).2.own u = (World.exec env s w').2.own u := by
  have hcredentials := congrArg Own.credentials h
  have htokens := congrArg Own.refreshTokens h
  have hresets := congrArg Own.passwordResetTokens h
  cases s
  case createCredential | createRefreshToken | createPasswordResetToken =>
    rcases hs with hs | ⟨i, j, hs⟩ <;> cases hs
  case updateStatus | incrementFailedAttempts | resetFailedAttempts | lockAccount | unlockAccount
      | updateLastLogin | updatePassword | updateRoles =>
    simp only [World.exec]
    rw [own_updateCredential, own_updateCredential, h]
  case revokeToken | revokeAllByUserId | setReplacedBy | updateLastUsed =>
    simp only [World.exec]
    rw [own_updateRefreshTokens _ fun _ => rfl, own_updateRefreshTokens _ fun _ => rfl, h]
  case deleteCredential | deleteExpiredAndRevoked | deleteExpiredOrUsed
      | deleteResetTokensByUserId =>
    simp only [World.own] at hcredentials htokens hresets
    simp only [World.exec, World.own, Table.select_deleteWhere, hcredentials, htokens, hresets]
  case markAsUsed id at' =>
    simp only [World.own] at hcredentials htokens hresets
    have hrows : ∀ v : World, (v.passwordResetTokens.updateWhere (fun t => decide (t.id = id))
        (PasswordResetToken.markUsed at')).select (fun t => decide (t.userId = u)) =
          (v.passwordResetTokens.select fun t => decide (t.userId = u)).map
            (Table.patchIf (fun t => decide (t.id = id)) (PasswordResetToken.markUsed at')) :=
      fun v => Table.select_updateWhere fun t => rfl
    simp only [World.exec, World.own, hrows, hcredentials, htokens, hresets]
  case hashPassword =>
    simp only [World.exec]
    split <;> split <;> exact h
  case signAccessToken =>
    simp only [World.exec]
    split <;> exact h
  all_goals exact h

theorem supply_after (h : w.supply = w'.supply)
    (hs : s.plain = true ∨ ∃ i j, s = .setReplacedBy i j) :
    (World.exec env s w).2.supply = (World.exec env s w').2.supply := by
  cases s
  case createCredential | createRefreshToken | createPasswordResetToken =>
    rcases hs with hs | ⟨i, j, hs⟩ <;> cases hs
  case uuidv4 => exact congrArg (· + 1) h
  case hashPassword password =>
    simp only [World.exec, h]
    split
    · rfl
    · exact h
  case signAccessToken =>
    simp only [World.exec]
    split
    · exact h
    · exact congrArg (· + 1) h
  all_goals exact h

theorem plain_of_confined (hs : s.Confined F) : s.plain = true ∨ ∃ i j, s = .setReplacedBy i j := by
  cases s
  case createCredential | createRefreshToken | createPasswordResetToken => exact hs.elim
  case setReplacedBy i j => exact .inr ⟨i, j, rfl⟩
  all_goals exact .inl rfl

/-- The worlds after a statement that inserts nothing. -/
theorem after (h : Twins env u F w w') (hs : s.plain = true ∨ ∃ i j, s = .setReplacedBy i j) :
    Twins env u F (World.exec env s w).2 (World.exec env s w').2 := by
  have hnew : ∀ data, s ≠ .createRefreshToken data := by
    rintro data rfl
    rcases hs with hs | ⟨i, j, hs⟩ <;> cases hs
  have hnewReset : ∀ userId hash e, s ≠ .createPasswordResetToken userId hash e := by
    rintro userId hash e rfl
    rcases hs with hs | ⟨i, j, hs⟩ <;> cases hs
  have hdrawn : ∀ {v : World}, Drawn v → Drawn (World.exec env s v).2 := fun hv =>
    drawn_exec env (fun data heq => absurd heq (hnew data))
      (fun userId hash e heq => absurd heq (hnewReset userId hash e)) hv
  exact ⟨own_after h.own hs, by rw [World.exec_roles, World.exec_roles, h.roles],
    supply_after h.supply hs, by rw [World.exec_now, World.exec_now, h.now], hdrawn h.drawn,
    hdrawn h.drawn', fun k hk => h.foreign k (owns_exec hs hk),
    fun k hk => h.foreign' k (owns_exec hs hk)⟩

end Twins

theorem relates_confined {F : Key → Prop} (hs : s.Confined F) :
    (World.machine env).Relates (Twins env u F) s := fun _ _ h =>
  ⟨h.reply hs, h.after (Twins.plain_of_confined hs)⟩

end Auth
