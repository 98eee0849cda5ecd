import AuthService.AccessTokens
import AuthService.Resumption.Fault
import AuthService.Resumption.Simulation
import Mathlib.Data.List.Forall2

/-!
# AuthService.UnlockJob

The unlock job beside the lazy unlock of `login` and `validateToken`: two runs that differ in job runs
only, each of which may fail at any of its writes.

* `LockState.Matches` — two lock states that no later request tells apart: the same status, with the
  counter where an ACTIVE row carries it on and the expiry where a LOCKED row is still judged by it;
  or a lock that has run out, and what the job makes of it.
* `UpToExpiry`        — two worlds that differ in matching lock states only.
* `exec_upToExpiry`   — every statement that reads no account keeps worlds related, and replies alike.
* `serve_upToExpiry`  — so does every request.
* `Step`, `answers`   — runs with extra job runs at any points, under any plans of faults.
* `job_unobservable`  — leaving the extra job runs out changes no answer, event or audit row.
-/

namespace Auth

open Relational Resumption Prog

variable {env : Env} {w w' : World} {now : Int} {sync : Nat → Prop}

/-! ## Matching lock states -/

/-- Under `sync` the counters agree whatever the status, and no lock has been overtaken by the job. -/
inductive LockState.Matches (now : Int) (sync : Prop) (l l' : LockState) : Prop where
  | same (status : l'.status = l.status)
      (counter : sync ∨ l.status = .active → l'.failedLoginAttempts = l.failedLoginAttempts)
      (expiry : l.status = .locked → l'.lockedUntil = l.lockedUntil)
  | overtaken (free : ¬ sync) (expired : l.expired now = true) (status : l'.status = .active)
      (counter : l'.failedLoginAttempts = 0)

namespace LockState

variable {l l' : LockState} {s : Prop}

theorem Matches.refl (now : Int) (s : Prop) (l : LockState) : l.Matches now s l :=
  .same rfl (fun _ => rfl) fun _ => rfl

theorem Matches.unsync (h : l.Matches now s l') : l.Matches now False l' := by
  cases h with
  | same status counter expiry => exact .same status (fun hc => counter (.inr (hc.resolve_left id))) expiry
  | overtaken free expired status counter => exact .overtaken id expired status counter

theorem expired_mono {later : Int} (h : l.expired now = true) (hle : now ≤ later) :
    l.expired later = true := by
  unfold expired at h ⊢
  cases hl : l.lockedUntil with
  | none => simp [hl] at h
  | some t =>
    simp only [hl, Option.any_some, Bool.and_eq_true, decide_eq_true_eq] at h ⊢
    exact ⟨h.1, by omega⟩

theorem expired_of_ranOut (h : l.ranOut now = true) : l.expired now = true := by
  unfold ranOut at h
  unfold expired
  cases hl : l.lockedUntil with
  | none => simp [hl] at h
  | some t =>
    simp only [hl, Option.any_some, Bool.and_eq_true, decide_eq_true_eq] at h ⊢
    exact ⟨h.1, by omega⟩

theorem Matches.later {later : Int} (h : l.Matches now s l') (hle : now ≤ later) :
    l.Matches later s l' := by
  cases h with
  | same status counter expiry => exact .same status counter expiry
  | overtaken free expired status counter =>
    exact .overtaken free (expired_mono expired hle) status counter

/-- The status checks of `login` decide alike, by the login's own comparison. -/
theorem Matches.refusal (h : l.Matches now s l') : l'.refusal now = l.refusal now := by
  cases h with
  | same status counter expiry =>
    unfold LockState.refusal
    rw [status]
    cases hs : l.status with
    | locked => rw [expiry hs]
    | active | banned | deleted => rfl
  | overtaken free expired status counter =>
    simp only [LockState.expired, Bool.and_eq_true, decide_eq_true_eq] at expired
    simp [LockState.refusal, status, expired.1, expired.2]

/-- So do those of `validateToken`. -/
theorem Matches.rejection (h : l.Matches now s l') : l'.rejection now = l.rejection now := by
  cases h with
  | same status counter expiry =>
    unfold LockState.rejection
    rw [status]
    cases hs : l.status with
    | locked => rw [expiry hs]
    | active | banned | deleted => rfl
  | overtaken free expired status counter =>
    simp only [LockState.expired, Bool.and_eq_true, decide_eq_true_eq] at expired
    simp [LockState.rejection, status, expired.1, expired.2]

end LockState

/-- The row `c` with the lock state `l`. -/
def UserCredential.withLock (c : UserCredential) (l : LockState) : UserCredential :=
  { c with
    status := l.status, failedLoginAttempts := l.failedLoginAttempts, lockedUntil := l.lockedUntil }

/-- Two rows of the same account, up to a matching lock state. -/
def SameAccount (now : Int) (sync : Nat → Prop) (c c' : UserCredential) : Prop :=
  ∃ l', c' = c.withLock l' ∧ c.lockState.Matches now (sync c.id) l'

theorem SameAccount.refl (now : Int) (sync : Nat → Prop) (c : UserCredential) :
    SameAccount now sync c c := ⟨c.lockState, rfl, .refl now _ _⟩

theorem SameAccount.id_eq {c c' : UserCredential} (h : SameAccount now sync c c') : c'.id = c.id := by
  obtain ⟨l', rfl, -⟩ := h
  rfl

/-- Two worlds that differ in the lock states of some accounts only. -/
structure UpToExpiry (sync : Nat → Prop) (w w' : World) : Prop where
  rest : w' = { w with credentials := w'.credentials }
  rows : List.Forall₂ (SameAccount w.now sync) w.credentials.rows w'.credentials.rows

namespace UpToExpiry

theorem refl (sync : Nat → Prop) (w : World) : UpToExpiry sync w w :=
  ⟨rfl, List.forall₂_same.mpr fun c _ => .refl w.now sync c⟩

theorem now_eq (h : UpToExpiry sync w w') : w'.now = w.now := by rw [h.rest]

theorem later (n : Nat) (h : UpToExpiry sync w w') :
    UpToExpiry sync { w with now := w.now + n } { w' with now := w'.now + n } := by
  constructor
  · rw [h.rest]
  · refine h.rows.imp fun c c' hc => ?_
    obtain ⟨l', hl', hm⟩ := hc
    exact ⟨l', hl', hm.later (by simp only; omega)⟩

end UpToExpiry

/-- A lookup that the differences do not touch finds the same account in both tables. -/
theorem find?_sameAccount {p : UserCredential → Bool} {cs cs' : List UserCredential}
    (h : List.Forall₂ (SameAccount now sync) cs cs') (hp : ∀ c l, p (c.withLock l) = p c) :
    (cs.find? p = none ∧ cs'.find? p = none) ∨
      ∃ c l', cs.find? p = some c ∧ cs'.find? p = some (c.withLock l') ∧
        c.lockState.Matches now (sync c.id) l' := by
  induction h with
  | nil => exact .inl ⟨rfl, rfl⟩
  | @cons c c' cs cs' hc _ ih =>
    obtain ⟨l', rfl, hm⟩ := hc
    by_cases hpc : p c = true
    · exact .inr ⟨c, l', by simp [hpc], by simp [hp, hpc], hm⟩
    · simpa [hp, hpc] using ih

theorem UpToExpiry.account (h : UpToExpiry sync w w') (u : Nat) :
    (w.account u = none ∧ w'.account u = none) ∨
      ∃ c l', w.account u = some c ∧ w'.account u = some (c.withLock l') ∧
        c.lockState.Matches w.now (sync c.id) l' :=
  find?_sameAccount h.rows fun _ _ => rfl

theorem UpToExpiry.byEmail (h : UpToExpiry sync w w') (env : Env) (email : String) :
    (w.byEmail env email = none ∧ w'.byEmail env email = none) ∨
      ∃ c l', w.byEmail env email = some c ∧ w'.byEmail env email = some (c.withLock l') ∧
        c.lockState.Matches w.now (sync c.id) l' :=
  find?_sameAccount h.rows fun _ _ => rfl

/-! ## One statement -/

/-- Statements that read no account, and count no failure on a row that may lag behind. -/
def steady (sync : Nat → Prop) : Stmt → Prop
  | .incrementFailedAttempts id => sync id
  | .updateStatus _ status => status = .banned
  | s => s.readsAccount = false

theorem steady_of_blind {s : Stmt} (h : s.blind = true) : steady sync s := by
  cases s <;> first | rfl | cases h

/-- What an `UPDATE user_credentials` makes of the lock state, on rows that may differ in it. -/
structure Shifts (f : Patch UserCredential) (g : LockState → LockState) : Prop where
  withLock : ∀ c l, f.apply (c.withLock l) = (f.apply c).withLock (g l)
  lockState : ∀ c, (f.apply c).lockState = g c.lockState
  id_eq : ∀ c, (f.apply c).id = c.id

theorem UpToExpiry.update {id : Nat} {f : Patch UserCredential} {g : LockState → LockState}
    (h : UpToExpiry sync w w') (hf : Shifts f g)
    (hg : ∀ l l', l.Matches w.now (sync id) l' → (g l).Matches w.now (sync id) (g l')) :
    UpToExpiry sync (w.updateCredential id f) (w'.updateCredential id f) := by
  constructor
  · rw [h.rest]
    rfl
  · show List.Forall₂ _ (w.credentials.rows.map _) (w'.credentials.rows.map _)
    rw [List.forall₂_map_left_iff, List.forall₂_map_right_iff]
    refine h.rows.imp fun c c' hc => ?_
    obtain ⟨l', rfl, hm⟩ := hc
    by_cases hid : c.id = id
    · subst hid
      refine ⟨g l', ?_, ?_⟩
      · simp only [Table.patchIf, decide_true, if_true, UserCredential.withLock]
        exact hf.withLock c l'
      · simp only [Table.patchIf, decide_true, if_true, hf.id_eq, hf.lockState]
        exact hg _ _ hm
    · refine ⟨l', ?_, ?_⟩
      · simp [Table.patchIf, hid, UserCredential.withLock]
      · simp only [Table.patchIf, hid, decide_false, Bool.false_eq_true, if_false]
        exact hm

theorem UpToExpiry.hasUser (h : UpToExpiry sync w w') (u : Nat) : w'.hasUser u = w.hasUser u := by
  rw [Bool.eq_iff_iff, World.hasUser_iff, World.hasUser_iff]
  rcases h.account u with ⟨hnone, hnone'⟩ | ⟨c, l', hsome, hsome', -⟩
  · simp [hnone, hnone']
  · simp [hsome, hsome']

theorem UpToExpiry.delete (env : Env) (h : UpToExpiry sync w w') (u : Nat) :
    (World.exec env (.deleteCredential u) w).1 = (World.exec env (.deleteCredential u) w').1 ∧
      UpToExpiry sync (World.exec env (.deleteCredential u) w).2
        (World.exec env (.deleteCredential u) w').2 := by
  refine ⟨?_, ?_, ?_⟩
  · simp only [World.exec, h.hasUser]
  · rw [h.rest]
    rfl
  · show List.Forall₂ _ (w.credentials.rows.filter _) (w'.credentials.rows.filter _)
    refine List.rel_filter (fun c c' hc => ?_) h.rows
    simp [hc.id_eq]

theorem map_sameAccount {γ : Type} {f : UserCredential → γ} {cs cs' : List UserCredential}
    (h : List.Forall₂ (SameAccount now sync) cs cs') (hf : ∀ c l, f (c.withLock l) = f c) :
    cs'.map f = cs.map f := by
  induction h with
  | nil => rfl
  | cons hc _ ih =>
    obtain ⟨l', rfl, -⟩ := hc
    rw [List.map_cons, List.map_cons, hf, ih]

theorem UpToExpiry.insert (env : Env) (h : UpToExpiry sync w w') (email passwordHash : String)
    (roles : List String) :
    (World.exec env (.createCredential email passwordHash roles) w).1 =
        (World.exec env (.createCredential email passwordHash roles) w').1 ∧
      UpToExpiry sync (World.exec env (.createCredential email passwordHash roles) w).2
        (World.exec env (.createCredential email passwordHash roles) w').2 := by
  have hsupply : w'.supply = w.supply := by rw [h.rest]
  have hkeys : w'.credentials.rows.map Row.key = w.credentials.rows.map Row.key :=
    map_sameAccount h.rows fun _ _ => rfl
  have huniqs : w'.credentials.rows.map Row.uniq = w.credentials.rows.map Row.uniq :=
    map_sameAccount h.rows fun _ _ => rfl
  have hiff : w'.credentials.insert? (World.newCredential w.supply email passwordHash roles) = none ↔
      w.credentials.insert? (World.newCredential w.supply email passwordHash roles) = none := by
    rw [Table.insert?_eq_none, Table.insert?_eq_none, hkeys, huniqs]
  simp only [World.exec, hsupply]
  cases hi : w.credentials.insert? (World.newCredential w.supply email passwordHash roles) with
  | none =>
    rw [hiff.mpr hi]
    exact ⟨rfl, h⟩
  | some t =>
    cases hi' : w'.credentials.insert? (World.newCredential w.supply email passwordHash roles) with
    | none => rw [hiff.mp hi'] at hi; cases hi
    | some t' =>
      refine ⟨rfl, ?_, ?_⟩
      · rw [h.rest]
      · rw [Table.rows_insert? hi, Table.rows_insert? hi']
        exact List.rel_append h.rows (.cons (.refl _ _ _) .nil)

/-- A statement that does not write `user_credentials`, and on which the rows there have no bearing. -/
theorem UpToExpiry.frame {s : Stmt} (env : Env) (h : UpToExpiry sync w w') (hw : s.writesCredentials = false)
    (hexec : World.exec env s w' =
      ((World.exec env s w).1, { (World.exec env s w).2 with credentials := w'.credentials })) :
    (World.exec env s w).1 = (World.exec env s w').1 ∧
      UpToExpiry sync (World.exec env s w).2 (World.exec env s w').2 := by
  rw [hexec]
  refine ⟨rfl, rfl, ?_⟩
  rw [World.exec_now, World.exec_credentials env s w hw]
  exact h.rows

theorem shifts_setStatus (status : UserStatus) :
    Shifts (UserCredential.setStatus status) fun l => { l with status } :=
  ⟨fun _ _ => rfl, fun _ => rfl, fun _ => rfl⟩

theorem shifts_increment : Shifts UserCredential.incrementFailedAttempts fun l =>
    { l with failedLoginAttempts := l.failedLoginAttempts + 1 } :=
  ⟨fun _ _ => rfl, fun _ => rfl, fun _ => rfl⟩

theorem shifts_reset : Shifts UserCredential.resetFailedAttempts fun l =>
    { l with failedLoginAttempts := 0 } :=
  ⟨fun _ _ => rfl, fun _ => rfl, fun _ => rfl⟩

theorem shifts_lock (lockedUntil : Option Int) :
    Shifts (UserCredential.lock lockedUntil) fun l => { l with status := .locked, lockedUntil } :=
  ⟨fun _ _ => rfl, fun _ => rfl, fun _ => rfl⟩

theorem shifts_unlock : Shifts UserCredential.unlock fun _ => ⟨.active, 0, none⟩ :=
  ⟨fun _ _ => rfl, fun _ => rfl, fun _ => rfl⟩

namespace LockState.Matches

variable {l l' : LockState} {s : Prop}

/-- A ban or a new lock takes the place of whatever the job made of the old one. -/
theorem overwritten (h : l.Matches now s l') {status : UserStatus} (hs : status ≠ .active)
    {expiry expiry' : Option Int} (he : status = .locked → expiry' = expiry) :
    LockState.Matches now s ⟨status, l.failedLoginAttempts, expiry⟩
      ⟨status, l'.failedLoginAttempts, expiry'⟩ := by
  refine .same rfl (fun hc => ?_) he
  have hsync : s := hc.resolve_right hs
  cases h with
  | same _ counter _ => exact counter (.inl hsync)
  | overtaken free _ _ _ => exact absurd hsync free

theorem reset (h : l.Matches now s l') :
    LockState.Matches now s { l with failedLoginAttempts := 0 }
      { l' with failedLoginAttempts := 0 } := by
  cases h with
  | same status _ expiry => exact .same status (fun _ => rfl) expiry
  | overtaken free expired status _ => exact .overtaken free expired status rfl

theorem counted (h : l.Matches now s l') (hs : s) :
    LockState.Matches now s { l with failedLoginAttempts := l.failedLoginAttempts + 1 }
      { l' with failedLoginAttempts := l'.failedLoginAttempts + 1 } := by
  cases h with
  | same status counter expiry =>
    exact .same status (fun _ => congrArg (· + 1) (counter (.inl hs))) expiry
  | overtaken free _ _ _ => exact absurd hs free

theorem counter (h : l.Matches now s l') (hs : s) :
    l'.failedLoginAttempts = l.failedLoginAttempts := by
  cases h with
  | same _ counter _ => exact counter (.inl hs)
  | overtaken free _ _ _ => exact absurd hs free

end LockState.Matches

theorem UpToExpiry.increment {id : Nat} (env : Env) (h : UpToExpiry sync w w') (hs : sync id) :
    (World.exec env (.incrementFailedAttempts id) w).1 =
        (World.exec env (.incrementFailedAttempts id) w').1 ∧
      UpToExpiry sync (World.exec env (.incrementFailedAttempts id) w).2
        (World.exec env (.incrementFailedAttempts id) w').2 := by
  have hnext : UpToExpiry sync (World.exec env (.incrementFailedAttempts id) w).2
      (World.exec env (.incrementFailedAttempts id) w').2 :=
    h.update shifts_increment fun l l' hm => hm.counted hs
  refine ⟨?_, hnext⟩
  -- the reply is read off the row after the increment, whose counters agree
  show Except.ok (((World.exec env (.incrementFailedAttempts id) w).2.account id).map _) =
    Except.ok (((World.exec env (.incrementFailedAttempts id) w').2.account id).map _)
  rcases hnext.account id with ⟨hnone, hnone'⟩ | ⟨c, l', hsome, hsome', hm⟩
  · rw [hnone, hnone']
  · have hid := World.account_id hsome
    rw [hsome, hsome', Option.map_some, Option.map_some]
    exact congrArg (fun n => Except.ok (some n)) (hm.counter (hid ▸ hs)).symm

/-- Every steady statement replies alike in two related worlds and leaves them related. -/
theorem exec_upToExpiry {s : Stmt} (hs : steady sync s) :
    (World.machine env).Relates (UpToExpiry sync) s := by
  intro w w' h
  have hupdate : ∀ {id f g}, Shifts f g →
      (∀ l l', l.Matches w.now (sync id) l' → (g l).Matches w.now (sync id) (g l')) →
      UpToExpiry sync (w.updateCredential id f) (w'.updateCredential id f) := h.update
  cases s
  case findCredentialById | findCredentialByEmail | findLockedAccountsToUnlock => cases hs
  case createCredential email passwordHash roles => exact h.insert env email passwordHash roles
  case deleteCredential u => exact h.delete env u
  case incrementFailedAttempts id => exact h.increment env hs
  case updateStatus id status =>
    obtain rfl : status = .banned := hs
    exact ⟨rfl, hupdate (shifts_setStatus _) fun l l' hm => hm.overwritten (by simp) (by simp)⟩
  case resetFailedAttempts id => exact ⟨rfl, hupdate shifts_reset fun l l' hm => hm.reset⟩
  case lockAccount id lockedUntil =>
    exact ⟨rfl, hupdate (shifts_lock _) fun l l' hm => hm.overwritten (by simp) fun _ => rfl⟩
  case unlockAccount id => exact ⟨rfl, hupdate shifts_unlock fun l l' _ => .refl _ _ _⟩
  case updateLastLogin | updatePassword | updateRoles =>
    exact ⟨rfl, hupdate (g := id) ⟨fun _ _ => rfl, fun _ => rfl, fun _ => rfl⟩ fun _ _ hm => hm⟩
  case createRefreshToken | createPasswordResetToken =>
    refine h.frame env rfl ?_
    have hu := fun u => h.hasUser u
    rw [h.rest] at hu ⊢
    simp only [World.exec, hu]
    split
    · split <;> rfl
    · rfl
  case hashPassword | signAccessToken =>
    refine h.frame env rfl ?_
    rw [h.rest]
    simp only [World.exec]
    split <;> rfl
  all_goals exact h.frame env rfl (by rw [h.rest]; rfl)

/-! ## From rows to accounts and back -/

/-- Two tables of the same accounts. -/
def SameShape (w w' : World) : Prop :=
  List.Forall₂ (fun c c' : UserCredential => ∃ l', c' = c.withLock l') w.credentials.rows
    w'.credentials.rows

theorem UpToExpiry.shape (h : UpToExpiry sync w w') : SameShape w w' :=
  h.rows.imp fun _ _ ⟨l', hl', _⟩ => ⟨l', hl'⟩

theorem UpToExpiry.lockState (h : UpToExpiry sync w w') {u : Nat} {l : LockState}
    (hl : w.lockState u = some l) :
    ∃ l', w'.lockState u = some l' ∧ l.Matches w.now (sync u) l' := by
  obtain ⟨c, hc, rfl⟩ := Option.map_eq_some_iff.mp hl
  rcases h.account u with ⟨hnone, -⟩ | ⟨c₀, l', hsome, hsome', hm⟩
  · rw [hnone] at hc
    cases hc
  · obtain rfl : c₀ = c := Option.some.inj (hsome.symm.trans hc)
    obtain rfl := World.account_id hc
    exact ⟨l', by rw [World.lockState, hsome']; rfl, hm⟩

theorem UpToExpiry.lockState_source (h : UpToExpiry sync w w') {u : Nat} {l' : LockState}
    (hl' : w'.lockState u = some l') :
    ∃ l, w.lockState u = some l ∧ l.Matches w.now (sync u) l' := by
  rcases h.account u with ⟨-, hnone'⟩ | ⟨c, l₀, hsome, hsome', hm⟩
  · rw [World.lockState, hnone'] at hl'
    cases hl'
  · obtain rfl := World.account_id hsome
    rw [World.lockState, hsome'] at hl'
    cases hl'
    exact ⟨c.lockState, by rw [World.lockState, hsome]; rfl, hm⟩

/-- Related account by account is related row by row. -/
theorem UpToExpiry.of_lockStates (hrest : w' = { w with credentials := w'.credentials })
    (hshape : SameShape w w')
    (hlock : ∀ u l l', w.lockState u = some l → w'.lockState u = some l' →
      l.Matches w.now (sync u) l') : UpToExpiry sync w w' := by
  refine ⟨hrest, ?_⟩
  have hleft := (List.forall₂_and_left _ _).mpr
    ⟨fun c (hc : c ∈ w.credentials.rows) => hc, hshape⟩
  have hboth := (List.forall₂_and_left _ _).mpr
    ⟨fun c (hc : c ∈ w'.credentials.rows) => hc, hleft.flip⟩
  refine hboth.flip.imp fun c c' hc => ?_
  obtain ⟨hmem', hmem, l', rfl⟩ := hc
  refine ⟨l', rfl, hlock c.id _ _ ?_ ?_⟩
  · rw [World.lockState, World.account_of_mem hmem rfl]
    rfl
  · have hid : (c.withLock l').id = c.id := rfl
    rw [World.lockState, World.account_of_mem hmem' hid]
    rfl

/-- Once both lock states of an account agree, its counter may be read. -/
theorem UpToExpiry.synced {u : Nat} {l l' : LockState} (h : UpToExpiry (fun _ => False) w w')
    (hl : w.lockState u = some l) (hl' : w'.lockState u = some l') (hs : l'.status = l.status)
    (hn : l'.failedLoginAttempts = l.failedLoginAttempts) : UpToExpiry (· = u) w w' := by
  refine .of_lockStates h.rest h.shape fun v m m' hm hm' => ?_
  obtain ⟨m₀, hm₀, hmatch⟩ := h.lockState hm
  obtain rfl : m₀ = m' := Option.some.inj (hm₀.symm.trans hm')
  cases hmatch with
  | same status counter expiry =>
    refine .same status (fun hc => ?_) expiry
    rcases hc with rfl | hc
    · rw [Option.some.inj (hm.symm.trans hl), Option.some.inj (hm'.symm.trans hl')]
      exact hn
    · exact counter (.inr hc)
  | overtaken free expired status counter =>
    refine .overtaken ?_ expired status counter
    rintro rfl
    obtain rfl := Option.some.inj (hm.symm.trans hl)
    obtain rfl := Option.some.inj (hm'.symm.trans hl')
    simp [LockState.expired, ← hs, status] at expired

theorem UpToExpiry.unsync (h : UpToExpiry sync w w') : UpToExpiry (fun _ => False) w w' :=
  ⟨h.rest, h.rows.imp fun _ _ ⟨l', hl', hm⟩ => ⟨l', hl', hm.unsync⟩⟩

/-- What an `UPDATE` that leaves every other column alone makes of all lock states. -/
theorem lockState_unlock (env : Env) (w : World) (id u : Nat) :
    (World.exec env (.unlockAccount id) w).2.lockState u =
      (w.lockState u).map fun l => if u = id then ⟨.active, 0, none⟩ else l := by
  rw [World.lockState, World.account_exec rfl, World.lockState, Option.map_map, Option.map_map]
  cases hc : w.account u with
  | none => rfl
  | some c =>
    obtain rfl := World.account_id hc
    by_cases hid : c.id = id
    · simp only [Option.map_some, Function.comp, Stmt.onCredential, Stmt.credentialUpdate, hid,
        if_true]
      rfl
    · simp only [Option.map_some, Function.comp, Stmt.onCredential, Stmt.credentialUpdate, hid,
        if_false]

/-- The lazy unlock of a row that the job has unlocked already in the other run. -/
theorem UpToExpiry.unlock_left {u : Nat} {l' : LockState} (env : Env)
    (h : UpToExpiry (fun _ => False) w w') (hl' : w'.lockState u = some l')
    (hs : l'.status = .active) (hn : l'.failedLoginAttempts = 0) :
    UpToExpiry (fun _ => False) (World.exec env (.unlockAccount u) w).2 w' := by
  refine .of_lockStates (by rw [h.rest]; rfl) ?_ fun v m m' hm hm' => ?_
  · show List.Forall₂ _ (w.credentials.rows.map _) _
    rw [List.forall₂_map_left_iff]
    refine h.shape.imp fun c c' hc => ?_
    obtain ⟨l', rfl⟩ := hc
    refine ⟨l', ?_⟩
    unfold Table.patchIf
    split <;> rfl
  · rw [lockState_unlock] at hm
    obtain ⟨m₀, hm₀, rfl⟩ := Option.map_eq_some_iff.mp hm
    obtain ⟨m₁, hm₁, hmatch⟩ := h.lockState hm₀
    obtain rfl : m₁ = m' := Option.some.inj (hm₁.symm.trans hm')
    by_cases hv : v = u
    · subst hv
      obtain rfl := Option.some.inj (hm₁.symm.trans hl')
      rw [if_pos rfl]
      exact .same hs (fun _ => hn) (by simp)
    · rw [if_neg hv]
      exact hmatch

/-- The job's unlock of a row whose lock has run out. -/
theorem UpToExpiry.unlock_right {u : Nat} (env : Env) (h : UpToExpiry (fun _ => False) w w')
    (hl : ∀ l, w.lockState u = some l → l.expired w.now = true) :
    UpToExpiry (fun _ => False) w (World.exec env (.unlockAccount u) w').2 := by
  refine .of_lockStates ?_ ?_ fun v m m' hm hm' => ?_
  · rw [h.rest]
    rfl
  · show List.Forall₂ _ _ (w'.credentials.rows.map _)
    rw [List.forall₂_map_right_iff]
    refine h.shape.imp fun c c' hc => ?_
    obtain ⟨l', rfl⟩ := hc
    unfold Table.patchIf
    split
    · exact ⟨⟨.active, 0, none⟩, rfl⟩
    · exact ⟨l', rfl⟩
  · rw [lockState_unlock] at hm'
    obtain ⟨m₀, hm₀, rfl⟩ := Option.map_eq_some_iff.mp hm'
    obtain ⟨m₁, hm₁, hmatch⟩ := h.lockState hm
    obtain rfl : m₁ = m₀ := Option.some.inj (hm₁.symm.trans hm₀)
    by_cases hv : v = u
    · subst hv
      rw [if_pos rfl]
      exact .overtaken id (hl m hm) rfl rfl
    · rw [if_neg hv]
      exact hmatch

/-! ## Requests -/

/-- The program does the same in two worlds that the job alone tells apart. -/
abbrev Alike {α : Type} (env : Env) (p p' : AuthProg α) : Prop :=
  p.Simulates (World.machine env) (UpToExpiry fun _ => False) p'

theorem alike_of_uses {α : Type} {p : AuthProg α} (hp : p.Uses (steady fun _ => False)) :
    Alike env p p :=
  simulates_of_uses hp fun _ hs => exec_upToExpiry hs

/-- A lookup of an account, and a continuation that looks at nothing of its lock state. -/
theorem alike_findById {α : Type} {u : Nat} {f : Option UserCredential → AuthProg α}
    (hnone : (f none).Uses (steady fun _ => False))
    (hsome : ∀ c, (f (some c)).Uses (steady fun _ => False))
    (hlock : ∀ c l, f (some (c.withLock l)) = f (some c)) :
    Alike env ((UserCredentialRepository.findById u).bind f)
      ((UserCredentialRepository.findById u).bind f) := by
  refine simulates_lookup fun w w' h => ⟨w.account u, w'.account u, rfl, rfl, ?_⟩
  rcases h.account u with ⟨hnone', hnone''⟩ | ⟨c, l', hc, hc', -⟩
  · rw [hnone', hnone'']
    exact alike_of_uses hnone
  · rw [hc, hc', hlock]
    exact alike_of_uses (hsome c)

theorem alike_findByEmail {α : Type} {email : String} {f : Option UserCredential → AuthProg α}
    (hnone : (f none).Uses (steady fun _ => False))
    (hsome : ∀ c, (f (some c)).Uses (steady fun _ => False))
    (hlock : ∀ c l, f (some (c.withLock l)) = f (some c)) :
    Alike env ((UserCredentialRepository.findByEmail email).bind f)
      ((UserCredentialRepository.findByEmail email).bind f) := by
  refine simulates_lookup fun w w' h => ⟨w.byEmail env email, w'.byEmail env email, rfl, rfl, ?_⟩
  rcases h.byEmail env email with ⟨hnone', hnone''⟩ | ⟨c, l', hc, hc', -⟩
  · rw [hnone', hnone'']
    exact alike_of_uses hnone
  · rw [hc, hc', hlock]
    exact alike_of_uses (hsome c)

/-- The event and the audit row at the end of a flow. -/
theorem steady_publish {event : Int → DomainEvent} :
    (newDate.bind fun timestamp => EventService.safePublish (event timestamp)).Uses (steady sync) :=
  uses_publish rfl fun _ => rfl

theorem steady_revokeAll {u : Nat} {reason : String} :
    (TokenService.revokeAllUserTokens u reason).Uses (steady sync) :=
  uses_revokeAllUserTokens rfl fun _ => rfl

theorem alike_register (email password : String) (ipAddress userAgent : Option String) :
    Alike env (AuthService.register env email password ipAddress userAgent)
      (AuthService.register env email password ipAddress userAgent) := by
  refine alike_findByEmail ?_ (fun _ => trivial) fun _ _ => rfl
  refine uses_bind (uses_perform_bind rfl fun hash => (uses_perform _).mpr rfl) fun c => ?_
  unfold AuthService.registerSession
  refine uses_perform_bind rfl fun accessToken => ?_
  refine uses_bind
    (uses_generateRefreshToken_of_tacit (fun s hs => steady_of_blind (blind_of_tacit hs)) fun _ _ => rfl)
    fun pair => ?_
  refine uses_bind
    (uses_enforceMaxSessions_of_tacit (fun s hs => steady_of_blind (blind_of_tacit hs)) fun _ _ => rfl)
    fun _ => ?_
  exact uses_bind steady_publish fun _ => uses_perform_bind rfl fun _ => trivial

theorem alike_refreshToken (raw : Nat) :
    Alike env (AuthController.refreshToken env raw) (AuthController.refreshToken env raw) := by
  refine simulates_bind (alike_of_uses ?_) fun result => ?_
  · exact uses_refreshTokens_of_tacit raw none none (fun s hs => steady_of_blind (blind_of_tacit hs))
      (fun _ _ => rfl) (fun _ _ => rfl) (fun _ => rfl) (fun _ _ => rfl) fun _ _ => rfl
  · exact alike_findById trivial (fun c => uses_perform_bind rfl fun _ => trivial) fun _ _ => rfl

theorem steady_logout (accessToken : Jwt) (refreshToken : Nat) (ipAddress userAgent : Option String) :
    (AuthService.logout accessToken refreshToken ipAddress userAgent).Uses (steady sync) :=
  uses_logout_of_tacit accessToken refreshToken ipAddress userAgent
    (fun _ hs => steady_of_blind (blind_of_tacit hs)) (fun _ _ _ => rfl) (fun _ _ => rfl)
    (fun _ _ _ => rfl) fun _ _ => rfl

theorem alike_validateToken (token : Jwt) :
    Alike env (AuthService.validateToken env token) (AuthService.validateToken env token) := by
  intro w w' h
  cases token with
  | unsigned claims => exact ⟨rfl, h⟩
  | malformed => exact ⟨rfl, h⟩
  | signed p =>
    rw [run_validateToken, run_validateToken]
    have hverdict : p.rejection env w' = p.rejection env w := by
      unfold JwtPayload.rejection
      rw [h.now_eq, show w'.isBlacklisted p.jti = w.isBlacklisted p.jti by rw [h.rest]; rfl]
      cases hl : w.lockState p.sub with
      | none =>
        have hnone : w'.lockState p.sub = none := by
          cases hl' : w'.lockState p.sub with
          | none => rfl
          | some l' =>
            obtain ⟨l, hl₁, -⟩ := h.lockState_source hl'
            rw [hl] at hl₁
            cases hl₁
        rw [hnone]
      | some l =>
        obtain ⟨l', hl', hm⟩ := h.lockState hl
        simp only [hl', hm.rejection]
    rw [hverdict]
    exact ⟨rfl, h⟩

theorem alike_forgotPassword (email : String) (ipAddress : Option String) :
    Alike env (AuthService.forgotPassword env email ipAddress)
      (AuthService.forgotPassword env email ipAddress) := by
  refine alike_findByEmail trivial (fun c => ?_) fun _ _ => rfl
  refine uses_perform_bind rfl fun rawToken => uses_perform_bind rfl fun now => ?_
  refine uses_perform_bind rfl fun _ => uses_perform_bind rfl fun _ => ?_
  exact uses_bind steady_publish fun _ => (uses_perform _).mpr rfl

theorem steady_resetPassword (rawToken : Nat) (newPassword : String) (ipAddress : Option String) :
    (AuthService.resetPassword rawToken newPassword ipAddress).Uses (steady sync) := by
  unfold AuthService.resetPassword
  refine uses_perform_bind rfl fun resetToken? => ?_
  cases resetToken? with
  | none => trivial
  | some t =>
    simp only
    split
    · trivial
    · refine uses_perform_bind rfl fun now => ?_
      split
      · trivial
      · unfold AuthService.redeem
        refine uses_bind (uses_perform_bind rfl fun hash => uses_perform_bind rfl fun at' =>
          (uses_perform _).mpr rfl) fun _ => ?_
        refine uses_bind (uses_perform_bind rfl fun _ => (uses_perform _).mpr rfl) fun _ => ?_
        refine uses_perform_bind rfl fun _ => ?_
        refine uses_bind steady_revokeAll fun _ => ?_
        exact uses_bind steady_publish fun _ => (uses_perform _).mpr rfl

/-- The tail that the operations of an administrator share. -/
theorem steady_afterwards {u : Nat} {reason : String} {event : Int → DomainEvent} {entry : AuditLog} :
    ((TokenService.revokeAllUserTokens u reason).bind fun _ =>
      (newDate.bind fun timestamp => EventService.safePublish (event timestamp)).bind fun _ =>
        AuditLogRepository.create entry).Uses (steady sync) :=
  uses_bind steady_revokeAll fun _ => uses_bind steady_publish fun _ => (uses_perform _).mpr rfl

theorem alike_lockAccount (u : Nat) (reason : String) (duration : Option Nat)
    (adminUserId : Option String) :
    Alike env (AccountService.lockAccount env u reason duration adminUserId)
      (AccountService.lockAccount env u reason duration adminUserId) := by
  refine alike_findById trivial (fun c => ?_) fun _ _ => rfl
  refine uses_bind ?_ fun lockedUntil => uses_perform_bind rfl fun _ => steady_afterwards
  unfold AccountService.lockExpiry
  split
  · trivial
  · trivial
  · exact uses_perform_bind rfl fun now => trivial

theorem alike_unlockAccount (u : Nat) (adminUserId : Option String) :
    Alike env (AccountService.unlockAccount u adminUserId)
      (AccountService.unlockAccount u adminUserId) := by
  refine alike_findById trivial (fun c => ?_) fun _ _ => rfl
  exact uses_perform_bind rfl fun _ => uses_bind steady_publish fun _ => (uses_perform _).mpr rfl

theorem alike_banUser (u : Nat) (reason : String) (adminUserId : Option String) :
    Alike env (AccountService.banUser u reason adminUserId)
      (AccountService.banUser u reason adminUserId) :=
  alike_findById trivial (fun _ => uses_perform_bind rfl fun _ => steady_afterwards) fun _ _ => rfl

theorem alike_assignRole (u : Nat) (role assignedBy : String) :
    Alike env (RoleService.assignRole u role assignedBy)
      (RoleService.assignRole u role assignedBy) := by
  refine alike_findById trivial (fun c => ?_) fun _ _ => rfl
  refine uses_perform_bind rfl fun role? => ?_
  cases role? with
  | none => trivial
  | some r =>
    simp only
    split
    · trivial
    · exact uses_perform_bind rfl fun _ => uses_bind steady_revokeAll fun _ => steady_publish

theorem alike_revokeRole (u : Nat) (role revokedBy : String) :
    Alike env (RoleService.revokeRole u role revokedBy)
      (RoleService.revokeRole u role revokedBy) := by
  refine alike_findById trivial (fun c => ?_) fun _ _ => rfl
  simp only
  split
  · exact uses_perform_bind rfl fun _ => uses_bind steady_revokeAll fun _ => steady_publish
  · trivial

/-! ## Logins -/

section Login

variable {email password : String} {ipAddress userAgent : Option String} {c : UserCredential}

/-- From the password check on a login may read the counter, and only of its own account. -/
theorem steady_loginVerify (env : Env) (c : UserCredential) (email password : String)
    (ipAddress userAgent : Option String) :
    (AuthService.loginVerify env c email password ipAddress userAgent).Uses (steady (· = c.id)) := by
  unfold AuthService.loginVerify
  refine uses_perform_bind rfl fun valid => ?_
  cases valid with
  | true =>
    exact uses_loginSucceeded_of_blind c email ipAddress userAgent (fun s => steady_of_blind) rfl
      (fun _ _ => rfl) rfl (fun _ _ => rfl) fun _ _ => rfl
  | false =>
    exact uses_loginFailed_of_blind c email ipAddress userAgent (fun s => steady_of_blind) rfl
      (fun _ => rfl) fun _ => rfl

/-- The auto-unlock of an admitted login brings the two runs together on its account. -/
theorem synced_autoUnlock {l' : LockState} (env : Env) (h : UpToExpiry (fun _ => False) w w')
    (hl : w.lockState c.id = some c.lockState) (hl' : w'.lockState c.id = some l')
    (hm : c.lockState.Matches w.now False l') (hr : c.lockState.refusal w.now = none) :
    UpToExpiry (· = c.id)
      (if c.lockState.expired w.now then (World.exec env (.unlockAccount c.id) w).2 else w)
      (if l'.expired w'.now then (World.exec env (.unlockAccount c.id) w').2 else w') := by
  have hafter : ∀ {v : World} {m : LockState}, v.lockState c.id = some m →
      (World.exec env (.unlockAccount c.id) v).2.lockState c.id = some ⟨.active, 0, none⟩ := by
    intro v m hv
    rw [lockState_unlock, hv, Option.map_some, if_pos rfl]
  rw [h.now_eq]
  cases hm with
  | same status counter expiry =>
    cases hs : c.lockState.status with
    | active =>
      have hne : c.lockState.expired w.now = false := by simp [LockState.expired, hs]
      have hne' : l'.expired w.now = false := by simp [LockState.expired, status, hs]
      simp only [hne, hne', Bool.false_eq_true, if_false]
      exact h.synced hl hl' status (counter (.inr hs))
    | locked =>
      have hexp : c.lockState.expired w.now = true := by
        cases hany : c.lockState.lockedUntil.any (· ≤ w.now) with
        | false => simp [LockState.refusal, hs, hany] at hr
        | true => simp [LockState.expired, hs, hany]
      have hexp' : l'.expired w.now = true := by
        simpa only [LockState.expired, status, expiry hs] using hexp
      simp only [hexp, hexp', if_true]
      have hboth : UpToExpiry (fun _ => False) (World.exec env (.unlockAccount c.id) w).2
          (World.exec env (.unlockAccount c.id) w').2 :=
        h.update shifts_unlock fun _ _ _ => .refl _ _ _
      exact hboth.synced (hafter hl) (hafter hl') rfl rfl
    | banned => simp [LockState.refusal, hs] at hr
    | deleted => simp [LockState.refusal, hs] at hr
  | overtaken free expired status counter =>
    have hne' : l'.expired w.now = false := by simp [LockState.expired, status]
    simp only [expired, hne', Bool.false_eq_true, if_true, if_false]
    exact (h.unlock_left env hl' status counter).synced (hafter hl) hl' status counter

/-- An audit row and an exception end a refused login. -/
theorem alike_refused (entry : AuditLog) (e : Exn) : Alike env
    ((AuditLogRepository.create entry).bind fun _ => (.throw e : AuthProg AuthResponse))
    ((AuditLogRepository.create entry).bind fun _ => .throw e) :=
  alike_of_uses (uses_perform_bind rfl fun _ => trivial)

/-- A refused login writes its audit row about the account, whose lock states agree. -/
theorem alike_login_refused {l' : LockState} {e : Exn} (h : UpToExpiry (fun _ => False) w w')
    (hc : w.byEmail env email = some c) (hc' : w'.byEmail env email = some (c.withLock l'))
    (hm : c.lockState.Matches w.now False l') (hr : c.lockState.refusal w.now = some e) :
    ((AuthService.login env email password ipAddress userAgent).run (World.machine env) w).1 =
        ((AuthService.login env email password ipAddress userAgent).run (World.machine env) w').1 ∧
      UpToExpiry (fun _ => False)
        ((AuthService.login env email password ipAddress userAgent).run (World.machine env) w).2
        ((AuthService.login env email password ipAddress userAgent).run (World.machine env) w').2 := by
  unfold AuthService.login
  simp only [bind_eq]
  rw [run_findByEmail_bind, run_findByEmail_bind, hc, hc']
  cases hm with
  | same status counter expiry =>
    have hstatus : (c.withLock l').status = c.status := status
    cases hs : c.status with
    | active => simp [LockState.refusal, UserCredential.lockState, hs] at hr
    | banned =>
      simp only [hstatus, hs]
      exact alike_refused _ _ w w' h
    | deleted =>
      simp only [hstatus, hs]
      exact ⟨rfl, h⟩
    | locked =>
      have hexpiry : (c.withLock l').lockedUntil = c.lockedUntil := expiry hs
      cases hlu : c.lockedUntil with
      | none =>
        simp only [hstatus, hexpiry, hs, hlu]
        exact alike_refused _ _ w w' h
      | some t =>
        have ht : ¬ t ≤ w.now := by
          intro ht
          simp [LockState.refusal, UserCredential.lockState, hs, hlu, ht] at hr
        simp only [hstatus, hexpiry, hs, hlu]
        rw [run_newDate_bind, run_newDate_bind, h.now_eq, if_neg ht, if_neg ht]
        exact alike_refused _ _ w w' h
  | overtaken free expired status counter =>
    rw [← LockState.Matches.refusal (.overtaken free expired status counter)] at hr
    simp [LockState.refusal, status] at hr

theorem alike_login (email password : String) (ipAddress userAgent : Option String) :
    Alike env (AuthService.login env email password ipAddress userAgent)
      (AuthService.login env email password ipAddress userAgent) := by
  intro w w' h
  rcases h.byEmail env email with ⟨hnone, hnone'⟩ | ⟨c, l', hc, hc', hm⟩
  · unfold AuthService.login
    simp only [bind_eq]
    rw [run_findByEmail_bind, run_findByEmail_bind, hnone, hnone']
    exact alike_refused _ _ w w' h
  · cases hr : c.lockState.refusal w.now with
    | some e => exact alike_login_refused h hc hc' hm hr
    | none =>
      have hr' : (c.withLock l').lockState.refusal w'.now = none := by
        rw [h.now_eq]
        exact hm.refusal.trans hr
      have hl' : w'.lockState c.id = some l' := by
        have hid : (c.withLock l').id = c.id := rfl
        rw [World.lockState, ← hid, World.account_of_byEmail hc']
        rfl
      rw [run_login_admitted hc hr, run_login_admitted hc' hr']
      have hsync := synced_autoUnlock env h (byEmail_lockState hc) hl' hm hr
      obtain ⟨hres, hrel⟩ := simulates_of_uses
        (steady_loginVerify env c email password ipAddress userAgent)
        (fun _ hs => exec_upToExpiry hs) _ _ hsync
      exact ⟨hres, hrel.unsync⟩

end Login

/-! ## The job -/

section Job

variable {fault : Stmt → Option (Fault Exn)} {I : World → Prop}

/-- The loop of the job, by induction on the accounts left; a failing write is skipped. -/
theorem keeps_unlocks {M : Machine sig World} (accounts : List UserCredential)
    (h : ∀ a ∈ accounts, ∀ v, I v → I (M.exec (.unlockAccount a.id) v).2) :
    (forEach (fun account : UserCredential =>
      (UserCredentialRepository.unlockAccount account.id).tryCatch fun _ => .ret ())
        accounts).Keeps M I := by
  induction accounts with
  | nil => exact keeps_ret ()
  | cons a as ih =>
    refine keeps_bind (fun v hv => ?_) fun _ => ih fun b hb => h b (List.mem_cons_of_mem _ hb)
    have hnext := h a List.mem_cons_self v hv
    rw [run_tryCatch]
    rw [show (UserCredentialRepository.unlockAccount a.id).run M v =
      M.exec (.unlockAccount a.id) v from run_perform M _ v]
    rcases hexec : M.exec (.unlockAccount a.id) v with ⟨r, v'⟩
    rw [hexec] at hnext
    cases r with
    | ok _ => exact hnext
    | error _ => exact hnext

/-- The query of the job finds the rows whose lock has run out, or fails. -/
theorem run_findLockedAccounts (env : Env) (fault : Stmt → Option (Fault Exn)) (w : World) :
    UserCredentialRepository.findLockedAccountsToUnlock.run ((World.machine env).withFaults fault) w =
        (.ok (w.credentials.select (unlockable w.now)), w) ∨
      ∃ e, UserCredentialRepository.findLockedAccountsToUnlock.run
        ((World.machine env).withFaults fault) w = (.error e, w) := by
  unfold UserCredentialRepository.findLockedAccountsToUnlock newDate
  simp only [bind_eq]
  have hread : ((World.machine env).withFaults fault).exec .newDate w = (.ok w.now, w) ∨
      ∃ e, ((World.machine env).withFaults fault).exec .newDate w = (.error e, w) :=
    exec_withFaults_read rfl
  rcases hread with hclock | ⟨e, hclock⟩
  · rw [run_bind_ok _ ((run_perform _ _ _).trans hclock), run_perform]
    exact exec_withFaults_read rfl
  · exact .inr ⟨e, run_bind_error _ ((run_perform _ _ _).trans hclock)⟩

/-- The job under any plan of faults: it unlocks rows that its query has found, and nothing else. -/
theorem handleUnlock_invariant (env : Env) (fault : Stmt → Option (Fault Exn)) (h : I w)
    (hunlock : ∀ a ∈ w.credentials.select (unlockable w.now), ∀ v, I v →
      I (World.exec env (.unlockAccount a.id) v).2) :
    I (UnlockExpiredLockoutsJob.handleUnlock.run ((World.machine env).withFaults fault) w).2 := by
  have hjob : I ((UserCredentialRepository.findLockedAccountsToUnlock.bind fun accounts =>
      forEach (fun account : UserCredential =>
        (UserCredentialRepository.unlockAccount account.id).tryCatch fun _ => .ret ())
          accounts).run ((World.machine env).withFaults fault) w).2 := by
    rcases run_findLockedAccounts env fault w with hfind | ⟨e, hfind⟩
    · rw [run_bind_ok _ hfind]
      exact keeps_unlocks _ (fun a ha v hv => withFaults_keeps hv (hunlock a ha v hv)) w h
    · rw [run_bind_error _ hfind]
      exact h
  unfold UnlockExpiredLockoutsJob.handleUnlock
  rw [run_tryCatch]
  simp only [bind_eq, pure_eq]
  split
  · rename_i r w₁ hrun
    rw [hrun] at hjob
    exact hjob
  · rename_i e w₁ hrun
    rw [hrun] at hjob
    exact hjob

/-- A row that the query of the job finds. -/
theorem ranOut_of_unlockable {a : UserCredential}
    (ha : a ∈ w.credentials.select (unlockable w.now)) :
    w.lockState a.id = some a.lockState ∧ a.lockState.ranOut w.now = true := by
  obtain ⟨hmem, hp⟩ := List.mem_filter.mp ha
  constructor
  · rw [World.lockState, World.account_of_mem hmem rfl]
    rfl
  · cases hlu : a.lockedUntil with
    | none => simp [unlockable, hlu] at hp
    | some t => simpa [unlockable, LockState.ranOut, UserCredential.lockState, hlu] using hp

theorem LockState.locked_of_expired {l : LockState} (h : l.expired now = true) :
    l.status = .locked := by
  simp only [LockState.expired, Bool.and_eq_true, decide_eq_true_eq] at h
  exact h.1

/-- A job run in one of the runs only. -/
theorem UpToExpiry.job (env : Env) (fault : Stmt → Option (Fault Exn))
    (h : UpToExpiry (fun _ => False) w w') :
    UpToExpiry (fun _ => False) w
      (UnlockExpiredLockoutsJob.handleUnlock.run ((World.machine env).withFaults fault) w').2 := by
  refine handleUnlock_invariant env fault h fun a ha v hv => hv.unlock_right env fun l hl => ?_
  obtain ⟨hrow, hran⟩ := ranOut_of_unlockable ha
  obtain ⟨l', hl', hm⟩ := h.lockState hl
  obtain rfl := Option.some.inj (hrow.symm.trans hl')
  have hexp := LockState.expired_of_ranOut hran
  rw [h.now_eq] at hexp
  cases hm with
  | same status counter expiry =>
    have hs : l.status = .locked := status.symm.trans (LockState.locked_of_expired hexp)
    simpa only [LockState.expired, status, expiry hs] using hexp
  | overtaken free expired status counter => exact expired

/-- What the job has left of a lock that had run out in the other run. -/
theorem LockState.Matches.afterJob {l l' : LockState} (hm : l.Matches now False l') (hran : l.ranOut now = true) :
    (if l'.ranOut now then (⟨.active, 0, none⟩ : LockState) else l').status = .active ∧
      (if l'.ranOut now then (⟨.active, 0, none⟩ : LockState) else l').failedLoginAttempts = 0 := by
  cases hm with
  | same status counter expiry =>
    have hs := LockState.locked_of_expired (LockState.expired_of_ranOut hran)
    have hran' : l'.ranOut now = true := by
      simpa only [LockState.ranOut, status, expiry hs] using hran
    rw [if_pos hran']
    exact ⟨rfl, rfl⟩
  | overtaken free expired status counter =>
    have hran' : l'.ranOut now = false := by simp [LockState.ranOut, status]
    rw [hran']
    exact ⟨status, counter⟩

/-- A job run in both: the rows that the first run unlocks, the second has unlocked too, now or
before. -/
theorem alike_handleUnlock :
    Alike env UnlockExpiredLockoutsJob.handleUnlock UnlockExpiredLockoutsJob.handleUnlock := by
  intro w w' h
  have hdone : ∀ v : World, (UnlockExpiredLockoutsJob.handleUnlock.run (World.machine env) v).1 =
      .ok () := fun v => run_tryCatch_ret _ _ _
  rw [hdone, hdone]
  refine ⟨rfl, ?_⟩
  have hright := h.job env fun _ => none
  have hserve : ∀ v : World, (serve env .unlockExpiredLockouts v).2 =
      (UnlockExpiredLockoutsJob.handleUnlock.run (World.machine env) v).2 := fun v =>
    run_bind_ret _ _ _ _
  rw [withFaults_none] at hright
  refine handleUnlock_invariant (I := fun v => UpToExpiry (fun _ => False) v
    (UnlockExpiredLockoutsJob.handleUnlock.run (World.machine env) w').2)
    env (fun _ => none) hright fun a ha v hv => ?_
  obtain ⟨hrow, hran⟩ := ranOut_of_unlockable ha
  obtain ⟨l', hl', hm⟩ := h.lockState hrow
  have hafter : (serve env .unlockExpiredLockouts w').2.lockState a.id =
      some (if l'.ranOut w'.now then ⟨.active, 0, none⟩ else l') := lockState_job env hl'
  rw [hserve, h.now_eq] at hafter
  exact hv.unlock_left env hafter (hm.afterJob hran).1 (hm.afterJob hran).2

end Job

/-! ## Runs -/

/-- Every request answers alike in two related worlds and leaves them related. -/
theorem serve_upToExpiry (env : Env) (r : Request) (h : UpToExpiry (fun _ => False) w w') :
    (serve env r w).1 = (serve env r w').1 ∧
      UpToExpiry (fun _ => False) (serve env r w).2 (serve env r w').2 := by
  have hret : ∀ {α : Type} {p : AuthProg α} {g : α → Response}, Alike env p p →
      Alike env (p.bind fun a => .ret (g a)) (p.bind fun a => .ret (g a)) := fun hp =>
    simulates_bind hp fun _ => simulates_ret _
  have hsteady : ∀ {α : Type} {p : AuthProg α} {g : α → Response},
      p.Uses (steady fun _ => False) →
      Alike env (p.bind fun a => .ret (g a)) (p.bind fun a => .ret (g a)) := fun hp =>
    hret (alike_of_uses hp)
  suffices halike : Alike env (handle env r) (handle env r) from halike w w' h
  cases r with
  | register email password ip ua => exact hret (alike_register email password ip ua)
  | login email password ip ua => exact hret (alike_login email password ip ua)
  | refreshToken raw => exact hret (alike_refreshToken raw)
  | logout token raw ip ua => exact hsteady (steady_logout token raw ip ua)
  | validateToken token => exact hret (alike_validateToken token)
  | introspect token =>
    refine hsteady (uses_bind (uses_validateAccessToken token rfl fun _ => rfl) fun result => ?_)
    split
    · trivial
    · trivial
  | forgotPassword email ip => exact hret (alike_forgotPassword email ip)
  | resetPassword raw password ip => exact hsteady (steady_resetPassword raw password ip)
  | lockAccount u reason duration admin => exact hret (alike_lockAccount u reason duration admin)
  | unlockAccount u admin => exact hret (alike_unlockAccount u admin)
  | banUser u reason admin => exact hret (alike_banUser u reason admin)
  | deleteCredentials u =>
    refine hsteady (uses_perform_bind rfl fun deleted => ?_)
    exact uses_bind steady_publish fun _ => (uses_perform _).mpr rfl
  | assignRole u role by' => exact hret (alike_assignRole u role by')
  | revokeRole u role by' => exact hret (alike_revokeRole u role by')
  | getUserRoles u => exact hret (alike_findById trivial (fun _ => trivial) fun _ _ => rfl)
  | getAllRoles => exact hsteady ((uses_perform _).mpr rfl)
  | revokeToken u reason =>
    cases u with
    | none => exact hsteady trivial
    | some u => exact hsteady steady_revokeAll
  | revokeAllTokens u reason => exact hsteady steady_revokeAll
  | revokeSession id => exact hsteady (uses_perform_bind rfl fun _ => (uses_perform _).mpr rfl)
  | getActiveSessions u =>
    exact hsteady (uses_bind (uses_perform_bind rfl fun _ => (uses_perform _).mpr rfl)
      fun _ => trivial)
  | unlockExpiredLockouts => exact hret alike_handleUnlock
  | cleanupRefreshTokens | cleanupPasswordResets =>
    refine hsteady (uses_tryCatch ?_ fun _ => trivial)
    exact uses_bind (uses_perform_bind rfl fun _ => (uses_perform _).mpr rfl) fun _ => trivial

/-- A scheduled action, or a run of the job that is only in one of the runs, under a plan of faults. -/
inductive Step where
  | action (a : Action)
  | job (fault : Stmt → Option (Fault Exn))

def Step.apply (env : Env) (w : World) : Step → World
  | .action a => act env w a
  | .job fault => (UnlockExpiredLockoutsJob.handleUnlock.run ((World.machine env).withFaults fault) w).2

/-- The answers to the requests of a run, in order; nobody waits for an answer of the job. -/
def answers (env : Env) : World → List Step → List (Except Exn Response)
  | _, [] => []
  | w, .action a :: steps => a.response env w ++ answers env (act env w a) steps
  | w, .job fault :: steps => answers env (Step.apply env w (.job fault)) steps

def Step.scheduled : Step → Bool
  | .action _ => true
  | .job _ => false

theorem upToExpiry_run (env : Env) (steps : List Step) (h : UpToExpiry (fun _ => False) w w') :
    answers env w' steps = answers env w (steps.filter Step.scheduled) ∧
      UpToExpiry (fun _ => False)
        ((steps.filter Step.scheduled).foldl (Step.apply env) w) (steps.foldl (Step.apply env) w') := by
  induction steps generalizing w w' with
  | nil => exact ⟨rfl, h⟩
  | cons step steps ih =>
    cases step with
    | job fault => exact ih (h.job env fault)
    | action a =>
      cases a with
      | pass n => exact ih (h.later n)
      | request r =>
        obtain ⟨hres, hrel⟩ := serve_upToExpiry env r h
        obtain ⟨hanswers, hfinal⟩ := ih hrel
        refine ⟨?_, hfinal⟩
        simp only [answers, List.filter, Step.scheduled, Action.response, hres]
        exact congrArg _ hanswers

/-- Leaving the extra runs of the unlock job out changes no answer, no event and no audit row, and the
credential tables differ in matching lock states only. -/
theorem job_unobservable (env : Env) (w : World) (steps : List Step) :
    answers env w steps = answers env w (steps.filter Step.scheduled) ∧
    (steps.foldl (Step.apply env) w).published =
      ((steps.filter Step.scheduled).foldl (Step.apply env) w).published ∧
    (steps.foldl (Step.apply env) w).auditLogs =
      ((steps.filter Step.scheduled).foldl (Step.apply env) w).auditLogs ∧
    UpToExpiry (fun _ => False) ((steps.filter Step.scheduled).foldl (Step.apply env) w)
      (steps.foldl (Step.apply env) w) := by
  obtain ⟨hanswers, hrel⟩ := upToExpiry_run env steps (.refl _ w)
  refine ⟨hanswers, ?_, ?_, hrel⟩
  · rw [hrel.rest]
  · rw [hrel.rest]

end Auth
