import AuthService.Confinement

/-!
# AuthService.NonInterference

A run of whole requests, and the same run without the requests that are addressed to others than one
user.

* `Request.toOthers` — addressed to others: by a key that is not the user's and that somebody else
  answers to, or has answered to before; or by an email to register that is not the user's.
* `remaining`        — the other requests of a run, with the fresh ids and the clock that each met and
  the response it had; `Operation.again` serves one of them again.
* `Agree`            — the invariant between the run and its remainder.
* `users_do_not_interfere` — the remainder has the same responses and leaves the same rows of the user.
-/

namespace Auth

open Relational Resumption Prog

variable {env : Env} {w w' : World} {u : Nat}

/-- A request of a run, as it was served. -/
structure Operation where
  request : Request
  supply : Nat
  now : Int
  response : Except Exn Response

/-- Operation again in another world, with the same fresh ids and at the same time. -/
def Operation.again (env : Env) (w : World) (o : Operation) : Except Exn Response × World :=
  serve env o.request { w with supply := o.supply, now := o.now }

def Request.registers : Request → Bool
  | .register _ _ _ _ => true
  | _ => false

/-- The keys that others answer to, beside those that they are known to have answered to. -/
def World.noticed (env : Env) (u : Nat) (w : World) (seen : Key → Bool) (k : Key) : Bool :=
  seen k || w.foreign env u k

def Request.toOthers (env : Env) (u : Nat) (w : World) (seen : Key → Bool) (r : Request) : Bool :=
  r.key?.any fun k => !w.owns env (fun v => decide (v = u)) k && (seen k || r.registers)

/-- What is left of a run without the requests that are addressed to others than `u`. -/
def remaining (env : Env) (u : Nat) : (Key → Bool) → World → List Action → List Operation
  | _, _, [] => []
  | seen, w, .pass n :: as => remaining env u seen (act env w (.pass n)) as
  | seen, w, .request r :: as =>
    let seen := w.noticed env u seen
    let rest := remaining env u seen (serve env r w).2 as
    if r.toOthers env u w seen then rest else ⟨r, w.supply, w.now, (serve env r w).1⟩ :: rest

/-- Operation again one after the other, the requests have the responses that they had, but for the
endpoints that judge access tokens. -/
def Repeats (env : Env) : World → List Operation → Prop
  | _, [] => True
  | w, o :: os =>
    (o.request.validates = false → (o.again env w).1 = o.response) ∧ Repeats env (o.again env w).2 os

def replay (env : Env) (w : World) (os : List Operation) : World :=
  os.foldl (fun w o => (o.again env w).2) w

/-! ## Keys of one user -/

/-- Whether the user answers to a key is a matter of the user's rows. -/
theorem owns_own (h : w.own u = w'.own u) (k : Key) :
    w.owns env (fun v => decide (v = u)) k = w'.owns env (fun v => decide (v = u)) k := by
  have hcredentials := congrArg Own.credentials h
  have htokens := congrArg Own.refreshTokens h
  have hresets := congrArg Own.passwordResetTokens h
  cases k
  case email email =>
    have hany := congrArg (List.any · fun c => decide (env.sqlLower c.email = env.sqlLower email))
      hcredentials
    simpa only [World.own, World.owns, Table.select, List.any_filter] using hany
  case user id =>
    have hany := congrArg (List.any · fun c => decide (c.id = id)) hcredentials
    simpa only [World.own, World.owns, Table.select, List.any_filter] using hany
  case refreshToken raw =>
    have hany := congrArg (List.any · fun t => decide (t.tokenHash = hashToken raw)) htokens
    simpa only [World.own, World.owns, Table.select, List.any_filter] using hany
  case session id =>
    have hany := congrArg (List.any · fun t => decide (t.id = id)) htokens
    simpa only [World.own, World.owns, Table.select, List.any_filter] using hany
  case resetToken raw =>
    have hany := congrArg (List.any · fun t => decide (t.tokenHash = hashToken raw)) hresets
    simpa only [World.own, World.owns, Table.select, List.any_filter] using hany

/-- A key has one owner. -/
theorem foreign_of_owns {k : Key} (h : Integrity env w)
    (howns : w.owns env (fun v => decide (v = u)) k = true) : w.foreign env u k = false := by
  refine Bool.eq_false_iff.mpr fun hforeign => ?_
  cases k
  case email email =>
    obtain ⟨c, hc, hp⟩ := List.any_eq_true.mp howns
    obtain ⟨c', hc', hp'⟩ := List.any_eq_true.mp hforeign
    simp only [Bool.and_eq_true, decide_eq_true_eq] at hp hp'
    obtain rfl := h.email_inj c hc c' hc' (hp.2.trans hp'.2.symm)
    exact hp'.1 hp.1
  case user id =>
    obtain ⟨c, hc, hp⟩ := List.any_eq_true.mp howns
    obtain ⟨c', hc', hp'⟩ := List.any_eq_true.mp hforeign
    simp only [Bool.and_eq_true, decide_eq_true_eq] at hp hp'
    exact hp'.1 (hp'.2.trans (hp.2.symm.trans hp.1))
  case refreshToken raw =>
    obtain ⟨t, ht, hp⟩ := List.any_eq_true.mp howns
    obtain ⟨t', ht', hp'⟩ := List.any_eq_true.mp hforeign
    simp only [Bool.and_eq_true, decide_eq_true_eq] at hp hp'
    obtain rfl := Table.eq_of_uniq ht ht' (hp.2.trans hp'.2.symm)
    exact hp'.1 hp.1
  case session id =>
    obtain ⟨t, ht, hp⟩ := List.any_eq_true.mp howns
    obtain ⟨t', ht', hp'⟩ := List.any_eq_true.mp hforeign
    simp only [Bool.and_eq_true, decide_eq_true_eq] at hp hp'
    obtain rfl := Table.eq_of_key ht ht' (hp.2.trans hp'.2.symm)
    exact hp'.1 hp.1
  case resetToken raw =>
    obtain ⟨t, ht, hp⟩ := List.any_eq_true.mp howns
    obtain ⟨t', ht', hp'⟩ := List.any_eq_true.mp hforeign
    simp only [Bool.and_eq_true, decide_eq_true_eq] at hp hp'
    obtain rfl := Table.eq_of_uniq ht ht' (hp.2.trans hp'.2.symm)
    exact hp'.1 hp.1

@[simp] theorem not_foreign_self : w.foreign env u (.user u) = false := by
  refine Bool.eq_false_iff.mpr fun hforeign => ?_
  obtain ⟨c, hc, hp⟩ := List.any_eq_true.mp hforeign
  simp only [Bool.and_eq_true, decide_eq_true_eq] at hp
  exact hp.1 hp.2

theorem noticed_of_seen {seen : Key → Bool} {k : Key} (h : seen k = true) :
    w.noticed env u seen k = true := by
  simp [World.noticed, h]

/-! ## The run beside its remainder -/

/-- Integrity at a later time, after ids have been drawn elsewhere. -/
theorem Integrity.later {supply : Nat} {now : Int} (h : Integrity env w) (hs : w.supply ≤ supply)
    (hn : w.now ≤ now) : Integrity env { w with supply := supply, now := now } := by
  obtain ⟨n, rfl⟩ := Nat.exists_eq_add_of_le hs
  have hdrawn : Integrity env { w with supply := w.supply + n } := by
    clear hs
    induction n with
    | zero => exact h
    | succ n ih => exact (keeping_integrity env).exec .uuidv4 _ rfl ih
  have hpass := (keeping_integrity env).pass _ (now - w.now).toNat hdrawn
  have hnow : w.now + ((now - w.now).toNat : Int) = now := by omega
  simp only [hnow] at hpass
  exact hpass

theorem Integrity.drawn (h : Integrity env w) : Drawn w :=
  ⟨h.id_lt, h.hash_lt, h.owner, h.reset_id_lt, h.reset_hash_lt⟩

/-- The world of the run and that of its remainder, when others have answered to the keys `seen`. -/
structure Agree (env : Env) (u : Nat) (seen : Key → Bool) (w w' : World) : Prop where
  own : w.own u = w'.own u
  roles : w.roles = w'.roles
  supply : w'.supply ≤ w.supply
  now : w'.now ≤ w.now
  registered : u < w.supply
  integrity : Integrity env w
  integrity' : Integrity env w'
  /-- Whoever is left in the remainder was there in the run, now or before. -/
  seen' : ∀ k, w'.foreign env u k = true → w.noticed env u seen k = true
  self : seen (.user u) = false

theorem Agree.pass {seen : Key → Bool} (h : Agree env u seen w w') (n : Nat) :
    Agree env u seen (act env w (.pass n)) w' := by
  have hnow := h.now
  have hlater : w'.now ≤ w.now + n := by omega
  exact ⟨h.own, h.roles, h.supply, hlater, h.registered, (keeping_integrity env).pass w n h.integrity,
    h.integrity', h.seen', h.self⟩

/-- A request to others happens in the run alone. -/
theorem Agree.removed {seen : Key → Bool} {r : Request} (h : Agree env u seen w w')
    (hr : r.toOthers env u w (w.noticed env u seen) = true) :
    Agree env u (w.noticed env u seen) (serve env r w).2 w' := by
  unfold Request.toOthers at hr
  cases hkey : r.key? with
  | none => simp [hkey] at hr
  | some k =>
    simp only [hkey, Option.any_some, Bool.and_eq_true, Bool.not_eq_true', Bool.or_eq_true] at hr
    obtain ⟨hmine, hk⟩ := hr
    have hself : w.noticed env u seen (.user u) = false := by simp [World.noticed, h.self]
    have hne : k ≠ .user u := by
      rintro rfl
      rcases hk with hk | hk
      · rw [hself] at hk
        cases hk
      · cases r <;> first | cases hkey; done | cases hk
    have hframed : Framed u (w.own u) (serve env r w).2 :=
      framed_serve hkey hne hmine ⟨rfl, h.registered⟩
    have hnow : w'.now ≤ (serve env r w).2.now := by
      rw [now_serve]
      exact h.now
    exact ⟨hframed.1.trans h.own, (roles_serve env r w).trans h.roles, Nat.le_trans h.supply (supply_serve env r w),
      hnow, hframed.2, (keeping_integrity env).serve r h.integrity, h.integrity',
      fun k hk => noticed_of_seen (h.seen' k hk), hself⟩

/-- A request that is not to others happens in both. -/
theorem Agree.kept {seen : Key → Bool} {r : Request} (h : Agree env u seen w w')
    (hr : r.toOthers env u w (w.noticed env u seen) = false) :
    (r.validates = false →
        ((⟨r, w.supply, w.now, (serve env r w).1⟩ : Operation).again env w').1 = (serve env r w).1) ∧
      Agree env u (w.noticed env u seen) (serve env r w).2
        ((⟨r, w.supply, w.now, (serve env r w).1⟩ : Operation).again env w').2 := by
  have hsame : w.own u = World.own u { w' with supply := w.supply, now := w.now } := h.own
  have hintegrity := h.integrity'.later h.supply h.now
  have htwins : Twins env u (fun k => w.foreign env u k = true ∨ w'.foreign env u k = true) w
      { w' with supply := w.supply, now := w.now } :=
    ⟨hsame, h.roles, rfl, rfl, h.integrity.drawn, hintegrity.drawn, fun _ => .inl, fun _ => .inr⟩
  have hclear : ∀ k, r.key? = some k → ¬ (w.foreign env u k = true ∨ w'.foreign env u k = true) := by
    intro k hkey
    by_cases howns : w.owns env (fun v => decide (v = u)) k = true
    · have howns' := (owns_own hsame k).symm.trans howns
      rintro (hk | hk)
      · rw [foreign_of_owns h.integrity howns] at hk
        cases hk
      · have hnone : w'.foreign env u k = false :=
          foreign_of_owns (w := { w' with supply := w.supply, now := w.now }) hintegrity howns'
        rw [hnone] at hk
        cases hk
    · simp only [Request.toOthers, hkey, Option.any_some, Bool.eq_false_iff.mpr howns, Bool.not_false,
        Bool.true_and, Bool.or_eq_false_iff] at hr
      rintro (hk | hk)
      · simp [World.noticed, hk] at hr
      · have hnoticed := h.seen' k hk
        rw [hr.1] at hnoticed
        cases hnoticed
  have hregister : ∀ email password ip ua, r = .register email password ip ua →
      ∃ c, w.byEmail env email = some c := by
    rintro email password ip ua rfl
    by_cases howns : w.owns env (fun v => decide (v = u)) (.email email) = true
    · obtain ⟨c, hc, hp⟩ := List.any_eq_true.mp howns
      cases hfound : w.byEmail env email with
      | some c' => exact ⟨c', rfl⟩
      | none =>
        have hnone := Table.find?_none hfound c hc
        simp only [Bool.and_eq_true] at hp
        rw [hp.2] at hnone
        cases hnone
    · simp [Request.toOthers, Request.key?, Bool.eq_false_iff.mpr howns, Request.registers] at hr
  have hself : ¬ (w.foreign env u (.user u) = true ∨ w'.foreign env u (.user u) = true) := by simp
  obtain ⟨hres, hafter⟩ := serve_twins (r := r) htwins hclear hself hregister
  refine ⟨fun hv => (hres hv).symm, hafter.own, hafter.roles, hafter.supply.ge, hafter.now.ge,
    Nat.lt_of_lt_of_le h.registered (supply_serve env r w), (keeping_integrity env).serve r h.integrity,
    (keeping_integrity env).serve r hintegrity, fun k hk => noticed_of_seen ?_,
    by simp [World.noticed, h.self]⟩
  rcases hafter.foreign' k hk with hk | hk
  · simp [World.noticed, hk]
  · exact h.seen' k hk

theorem agree_runs {seen : Key → Bool} (h : Agree env u seen w w') (as : List Action) :
    Repeats env w' (remaining env u seen w as) ∧
      (replay env w' (remaining env u seen w as)).own u = (runs env w as).own u := by
  induction as generalizing seen w w' with
  | nil => exact ⟨trivial, h.own.symm⟩
  | cons a as ih =>
    cases a with
    | pass n => exact ih (h.pass n)
    | request r =>
      cases hr : r.toOthers env u w (w.noticed env u seen) with
      | true =>
        simp only [remaining, hr, if_true]
        exact ih (h.removed hr)
      | false =>
        simp only [remaining, hr, Bool.false_eq_true, if_false]
        obtain ⟨hres, hagree⟩ := h.kept hr
        obtain ⟨hrepeats, hown⟩ := ih hagree
        exact ⟨⟨hres, hrepeats⟩, hown⟩

/-- Requests of others change no response to the rest, and no row of the user. -/
theorem users_do_not_interfere (env : Env) (w : World) (u : Nat) (as : List Action)
    (hw : Reachable env w) (hu : w.hasUser u = true) :
    Repeats env w (remaining env u (fun _ => false) w as) ∧
      (replay env w (remaining env u (fun _ => false) w as)).own u = (runs env w as).own u := by
  have hintegrity := hw.integrity
  obtain ⟨c, hc⟩ := World.hasUser_iff.mp hu
  have hlt := hintegrity.credential_id_lt c (Table.find?_mem hc).1
  rw [World.account_id hc] at hlt
  refine agree_runs ⟨rfl, rfl, Nat.le_refl _, Int.le_refl _, hlt, hintegrity, hintegrity,
    fun k hk => ?_, rfl⟩ as
  simp [World.noticed, hk]

/-- While the second user registers, asks for a reset and is banned, the first logs in, rotates and is
told about a token. -/
theorem users_do_not_interfere_two :
    let actions : List Action :=
      [.request (.register "b@x" "q" none none), .request (.login "a@x" "p" none none),
        .request (.forgotPassword "b@x" none), .pass 1000, .request (.banUser 6 "abuse" none),
        .request (.refreshToken 3), .request (.validateToken .malformed)]
    (remaining Env.plain 1 (fun _ => false) registered actions).map (·.request) =
        [.login "a@x" "p" none none, .refreshToken 3, .validateToken .malformed] ∧
      Reachable Env.plain registered ∧ registered.hasUser 1 = true ∧
      Repeats Env.plain registered (remaining Env.plain 1 (fun _ => false) registered actions) ∧
      (replay Env.plain registered (remaining Env.plain 1 (fun _ => false) registered actions)).own 1 =
        (runs Env.plain registered actions).own 1 :=
  ⟨by decide +kernel, registered_reachable, by decide,
    users_do_not_interfere Env.plain registered 1 _ registered_reachable (by decide)⟩

end Auth
