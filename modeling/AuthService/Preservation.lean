import AuthService.Refresh

/-!
# AuthService.Preservation

Which properties of a world survive every request.

`Keeping env I` lists what has to be shown of `I`, statement by statement: a plain statement keeps
it, and so does each of the four others under what the service knows when it issues the statement.
An account is inserted after `findByEmail` has found none; a token is inserted with the digest of
a UUID that has been drawn, and a session only after an access token was signed. A rotation is one
unit, since its link is what most properties of sessions are about.

`Keeping.serve` derives the rest: a request keeps `I`, and so does every action of a run.
-/

namespace Auth

open Relational Resumption Prog

structure Keeping (env : Env) (I : World → Prop) : Prop where
  exec : ∀ s w, s.plain = true → I w → I (World.exec env s w).2
  createCredential : ∀ email passwordHash roles w, w.byEmail env email = none → I w →
    I (World.exec env (.createCredential email passwordHash roles) w).2
  createRefreshToken : ∀ data w, data.tokenHash.preimage < w.supply → data.issuedAt = w.now →
    (env.timespan env.accessTokenExpiry).isSome = true → I w →
    I (World.exec env (.createRefreshToken data) w).2
  rotate : ∀ t w, t ∈ w.refreshTokens.rows → t.revoked = false → ¬ t.expiresAt < w.now → I w →
    I ((TokenService.rotate env t none none).run (World.machine env) w).2
  createPasswordResetToken : ∀ userId tokenHash expiresAt w, tokenHash.preimage < w.supply → I w →
    I (World.exec env (.createPasswordResetToken userId tokenHash expiresAt) w).2
  pass : ∀ w (n : Nat), I w → I { w with now := w.now + n }

namespace Keeping

variable {env : Env} {I : World → Prop} {w : World}

theorem run (hI : Keeping env I) {α : Type} {p : AuthProg α} (hp : p.Uses fun s : Stmt => s.plain = true) :
    p.Keeps (World.machine env) I :=
  keeps_of_uses hp fun s w hs => hI.exec s w hs

theorem generateRefreshToken (hI : Keeping env I)
    (hspan : (env.timespan env.accessTokenExpiry).isSome = true) (userId : Nat)
    (deviceFingerprint ipAddress userAgent : Option String) :
    (TokenService.generateRefreshToken env userId deviceFingerprint ipAddress userAgent).Keeps
      (World.machine env) I := by
  intro w h
  have hdrawn : I { w with supply := w.supply + 1 } := hI.exec .uuidv4 w rfl h
  obtain ⟨data, rfl, ⟨e, -, hrun⟩ | ⟨w', hexec, -, -, hrun⟩⟩ :=
    run_generateRefreshToken env userId deviceFingerprint ipAddress userAgent w
  · rw [hrun]
    exact hdrawn
  · rw [hrun]
    have hkept := hI.createRefreshToken (requested env userId deviceFingerprint ipAddress userAgent w)
      { w with supply := w.supply + 1 } (Nat.lt_succ_self _) rfl hspan hdrawn
    rw [hexec] at hkept
    exact hkept

/-- A token pair: the refresh token is only asked for once the access token is signed. -/
theorem issue (hI : Keeping env I) {α : Type} (sub : Nat) (email : String) (roles : List String)
    {f : Jwt → AuthProg α}
    (hf : (env.timespan env.accessTokenExpiry).isSome = true →
      ∀ token, (f token).Keeps (World.machine env) I) :
    ((TokenService.generateAccessToken sub email roles).bind f).Keeps (World.machine env) I := by
  intro w h
  have hsigned := hI.exec (.signAccessToken sub email roles .access) w rfl h
  rw [run_generateAccessToken_bind]
  cases hspan : env.timespan env.accessTokenExpiry with
  | none => exact h
  | some lifetime => exact hf (by rw [hspan]; rfl) _ _ hsigned

/-- What follows an issued token pair: evictions, an event, an audit row. -/
theorem afterIssue (hI : Keeping env I) {α : Type} (userId : Nat) (event : Int → DomainEvent)
    (entry : AuditLog) (a : α) :
    ((SessionService.enforceMaxSessions env userId).bind fun _ =>
      (newDate.bind fun timestamp => EventService.safePublish (event timestamp)).bind fun _ =>
        (AuditLogRepository.create entry).bind fun _ => .ret a).Keeps (World.machine env) I := by
  refine hI.run (uses_bind (uses_enforceMaxSessions (fun _ => plain_of_quiet) fun _ _ => rfl) ?_)
  exact fun _ => uses_bind (uses_publish rfl fun _ => rfl) fun _ => uses_perform_bind rfl fun _ => trivial

theorem registerSession (hI : Keeping env I) (c : UserCredential)
    (ipAddress userAgent : Option String) :
    (AuthService.registerSession env c ipAddress userAgent).Keeps (World.machine env) I :=
  hI.issue _ _ _ fun hspan _ => keeps_bind (hI.generateRefreshToken hspan _ _ _ _) fun _ =>
    hI.afterIssue _ _ _ _

theorem createAccount (hI : Keeping env I) (email password : String)
    (hfound : w.byEmail env email = none) (h : I w) :
    I ((CredentialService.createCredential email password).run (World.machine env) w).2 := by
  unfold CredentialService.createCredential
  simp only [bind_eq]
  rw [run_hashPassword_bind]
  cases env.hashPassword password w.supply with
  | none => exact h
  | some hash =>
    have hdrawn : I { w with supply := w.supply + 1 } := hI.exec .uuidv4 w rfl h
    show I ((query (.createCredential email hash ["USER"])).run (World.machine env) _).2
    rw [run_perform]
    exact hI.createCredential email hash ["USER"] _ hfound hdrawn

theorem register (hI : Keeping env I) (email password : String)
    (ipAddress userAgent : Option String) :
    (AuthService.register env email password ipAddress userAgent).Keeps (World.machine env) I := by
  intro w h
  unfold AuthService.register
  simp only [bind_eq]
  rw [run_findByEmail_bind]
  cases hfound : w.byEmail env email with
  | some c => exact h
  | none =>
    exact run_bind_keeps (hI.createAccount email password hfound h) fun c =>
      hI.registerSession c ipAddress userAgent

theorem loginVerify (hI : Keeping env I) (c : UserCredential) (email password : String)
    (ipAddress userAgent : Option String) :
    (AuthService.loginVerify env c email password ipAddress userAgent).Keeps (World.machine env) I := by
  refine keeps_bind (hI.run ((uses_perform _).mpr rfl)) fun valid => ?_
  cases valid with
  | true =>
    refine keeps_bind (hI.run ((uses_perform _).mpr rfl)) fun _ => ?_
    refine keeps_bind (hI.run (uses_perform_bind rfl fun _ => (uses_perform _).mpr rfl)) fun _ => ?_
    exact hI.issue _ _ _ fun hspan _ => keeps_bind (hI.generateRefreshToken hspan _ _ _ _) fun _ =>
      hI.afterIssue _ _ _ _
  | false =>
    exact hI.run (uses_loginFailed c email ipAddress userAgent (fun _ => plain_of_quiet) rfl
      (fun _ => rfl) fun _ => rfl)

theorem login (hI : Keeping env I) (email password : String) (ipAddress userAgent : Option String) :
    (AuthService.login env email password ipAddress userAgent).Keeps (World.machine env) I := by
  refine login_induction (fun s f hs hf => keeps_bind (hI.run ((uses_perform _).mpr ?_)) hf)
    (fun _ _ => hI.run (uses_perform_bind rfl fun _ => trivial)) (fun _ => keeps_throw _)
    fun c => hI.loginVerify c email password ipAddress userAgent
  cases s <;> first | rfl | cases hs

theorem forgotPassword (hI : Keeping env I) (email : String) (ipAddress : Option String) :
    (AuthService.forgotPassword env email ipAddress).Keeps (World.machine env) I := by
  intro w h
  unfold AuthService.forgotPassword
  simp only [bind_eq]
  rw [run_findByEmail_bind]
  cases hfound : w.byEmail env email with
  | none => exact h
  | some user =>
    simp only
    have hdrawn : I { w with supply := w.supply + 1 } := hI.exec .uuidv4 w rfl h
    have hdeleted := hI.exec (.deleteResetTokensByUserId user.id) _ rfl hdrawn
    refine run_bind_keeps (p := query (.createPasswordResetToken user.id (hashToken w.supply)
      (env.zone.setMinutesPlus w.now env.passwordResetExpiryMinutes)))
      (w := (World.exec env (.deleteResetTokensByUserId user.id)
        { w with supply := w.supply + 1 }).2) ?_ fun _ => ?_
    · rw [run_perform]
      exact hI.createPasswordResetToken _ _ _ _ (Nat.lt_succ_self _) hdeleted
    · exact hI.run (uses_bind (uses_publish rfl fun _ => rfl) fun _ => (uses_perform _).mpr rfl)

/-- A request keeps `I`. -/
theorem serve (hI : Keeping env I) (r : Request) (h : I w) : I (serve env r w).2 := by
  cases r
  case register email password ip ua =>
    exact keeps_bind (hI.register email password ip ua) (fun _ => keeps_ret _) w h
  case login email password ip ua =>
    exact keeps_bind (hI.login email password ip ua) (fun _ => keeps_ret _) w h
  case refreshToken raw =>
    exact serve_refreshToken_keeps hI.exec
      (fun t hfound hrev hexp => hI.rotate t w (presented_mem hfound).1 hrev hexp h) h
  case forgotPassword email ip =>
    exact keeps_bind (hI.forgotPassword email ip) (fun _ => keeps_ret _) w h
  all_goals exact serve_invariant (fun s w hs => hI.exec s w (plain_of_footprint rfl hs)) h

theorem act (hI : Keeping env I) (a : Action) (h : I w) : I (act env w a) := by
  cases a with
  | request r => exact hI.serve r h
  | pass n => exact hI.pass w n h

theorem runs (hI : Keeping env I) (as : List Action) (h : I w) : I (runs env w as) :=
  runs_invariant (P := fun _ => True) (fun _ a hw _ => hI.act a hw) (fun _ _ => trivial) h

end Keeping

theorem Reachable.keeps {env : Env} {I : World → Prop} {w : World} (h : Reachable env w)
    (hI : Keeping env I) (h0 : ∀ roles supply now, I (World.initial roles supply now)) : I w :=
  h.invariant h0 fun _ a hw => hI.act a hw

end Auth
