import AuthService.Chains
import AuthService.Dating
import AuthService.Isolation

/-!
# AuthService.Interlinking

Rotation chains where refreshes, and any other requests and jobs, are served statement by statement.
Two refreshes with one token may both go through; even so the links keep their shape.

* `Rotated` — what a refresh has seen when it sets a link, in its order.
* `Settled` — an id that is taken, and what is true of the row under it, as long as it is there.
* `Since`   — what is true of a token that a thread has found, after what it has seen since.
* `Woven`   — the invariant of the interleavings.
* `interleaved_chains_well_formed` — in every attained world the chains are well formed.
-/

namespace Auth

open Relational Resumption Prog Relation

variable {env : Env} {w : World} {s : Stmt}

/-! ## What a refresh has seen -/

/-- The links that a thread sets: from the token that it has found, and has revoked since, to the row
that it has inserted last, for the same user and as of a later reading of the clock. -/
structure Rotated (h : List (Exchange sig)) (id j : Nat) : Prop where
  once : ∀ id' j' x, ⟨.setReplacedBy id' j', x⟩ ∉ h
  seen : ∃ hash t reason revokedAt data r h₁ h₂,
    h = h₁ ++ ⟨.findRefreshTokenByHash hash, .ok (some t)⟩ :: h₂ ∧
      ⟨.revokeToken t.id reason revokedAt, .ok ()⟩ ∈ h₁ ∧ ⟨.newDate, .ok data.issuedAt⟩ ∈ h₁ ∧
      ⟨.createRefreshToken data, .ok r⟩ ∈ h₁ ∧ data.userId = t.userId ∧ id = t.id ∧ j = r.id

def Stmt.Links (h : List (Exchange sig)) : Stmt → Prop
  | .setReplacedBy id j => Rotated h id j
  | _ => True

/-- A program that sets no link. -/
theorem links_of_uses {α : Type} {h : List (Exchange sig)} {p : AuthProg α}
    (hp : p.Uses fun s : Stmt => ∀ i j, s ≠ .setReplacedBy i j) : p.Justified Stmt.Links h := by
  apply justified_of_uses hp
  intro h' _ s hs
  cases s
  case setReplacedBy i j => exact absurd rfl (hs i j)
  all_goals trivial

theorem links_rotate {hash : TokenHash} {t : RefreshToken} {now : Int}
    (ipAddress userAgent : Option String) :
    (TokenService.rotate env t ipAddress userAgent).Justified Stmt.Links
      [⟨.newDate, .ok now⟩, ⟨.findRefreshTokenByHash hash, .ok (some t)⟩] := by
  unfold TokenService.rotate RefreshTokenRepository.revokeToken TokenService.generateRefreshToken
    RefreshTokenRepository.create
  simp only [bind_eq, Prog.bind_assoc]
  apply justified_perform_bind trivial
  intro revokedAt
  apply justified_perform_bind trivial
  intro _
  apply justified_perform_bind trivial
  intro rawToken
  apply justified_perform_bind trivial
  intro now'
  apply justified_perform_bind trivial
  intro issuedAt
  apply justified_perform_bind trivial
  intro r
  -- everything seen so far is known
  refine justified_perform_bind
    ⟨?_, hash, t, "rotated", revokedAt, _, r, [_, _, _, _, _, _, _], [], rfl, ?_⟩ fun _ => ?_
  · intro id' j' x hmem
    simp at hmem
  · simp
  · unfold RefreshTokenRepository.updateLastUsed
    simp only [bind_eq, Prog.bind_assoc]
    exact justified_perform_bind trivial fun _ => justified_perform_bind trivial fun _ => trivial

theorem links_refreshTokens (raw : Nat) (ipAddress userAgent : Option String) :
    (TokenService.refreshTokens env raw ipAddress userAgent).Justified Stmt.Links [] := by
  unfold TokenService.refreshTokens
  refine justified_perform_bind trivial fun existing? => ?_
  cases existing? with
  | none => trivial
  | some t =>
    simp only
    split
    · refine links_of_uses (uses_bind (uses_revokeAllUserTokens ?_ fun _ => ?_) fun _ => trivial)
      · exact fun _ _ => nofun
      · exact fun _ _ => nofun
    · apply justified_perform_bind trivial
      intro now
      split
      · trivial
      · exact links_rotate ipAddress userAgent

theorem links_handle (env : Env) (r : Request) : (handle env r).Justified Stmt.Links [] := by
  cases r
  case refreshToken raw =>
    refine justified_map (justified_bind (links_refreshTokens raw none none) fun h' _ result => ?_) _
    exact links_of_uses (uses_issueAccessToken result (fun _ _ _ => nofun) fun _ _ _ _ _ => nofun)
  case register | login =>
    refine links_of_uses ((uses_handle _).mono ?_)
    rintro s hs i j rfl
    obtain ⟨_, hs⟩ := hs
    cases hs
  all_goals
    refine links_of_uses ((uses_handle _).mono ?_)
    rintro s hs i j rfl
    cases hs

theorem links_program (env : Env) (a : Activity) :
    (a.program env).Justified
      (fun h (s : sig.refusable.Stmt) => Stmt.Links (h.map Exchange.unrefused) s.1) [] := by
  cases a with
  | http r => exact justified_submit (J := Stmt.Links) (h := []) (links_handle env (r.request env))
  | job j => exact justified_submit (J := Stmt.Links) (h := []) (links_handle env j.request)
  | pass n => trivial

/-! ## The world -/

/-- Linking the row with id `i` to a row with id `j`, as long as they are there. -/
theorem chained_link {i j : Nat} (hj : j < w.supply)
    (hspent : ∀ t ∈ w.refreshTokens.rows, t.id = i → t.revoked = true ∧ i < j)
    (htarget : ∀ t ∈ w.refreshTokens.rows, ∀ t' ∈ w.refreshTokens.rows, t.id = i → t'.id = j →
      t'.userId = t.userId ∧ t.issuedAt ≤ t'.issuedAt)
    (hunlinked : ∀ t ∈ w.refreshTokens.rows, t.replacedByTokenId ≠ some j) (h : Chained w) :
    Chained (World.exec env (.setReplacedBy i j) w).2 := by
  refine ⟨⟨?_, ?_, ?_, ?_⟩, ?_, ?_, ?_, ?_⟩
  · intro t' ht'
    obtain ⟨t, ht, hev, -⟩ := exec_setReplacedBy_row ht'
    rw [hev.id_eq]
    exact h.id_lt t ht
  · intro t' ht' k hk
    obtain ⟨t, ht, hev, hlink | ⟨hid, -⟩⟩ := exec_setReplacedBy_row ht'
    · exact hev.revoked (h.revoked t ht k (hlink.symm.trans hk))
    · exact hev.revoked (hspent t ht hid).1
  · intro t' ht' k hk
    obtain ⟨t, ht, -, hlink | ⟨-, hlink⟩⟩ := exec_setReplacedBy_row ht'
    · exact h.target_lt t ht k (hlink.symm.trans hk)
    · cases hlink.symm.trans hk
      exact hj
  · intro t' ht' u' hu' hk
    obtain ⟨u, hu, hevu, -⟩ := exec_setReplacedBy_row hu'
    obtain ⟨t, ht, hev, hlink | ⟨hid, hlink⟩⟩ := exec_setReplacedBy_row ht'
    · rw [hevu.userId_eq, hev.userId_eq]
      refine h.target_user t ht u hu ?_
      rw [← hlink, hk, hevu.id_eq]
    · cases hlink.symm.trans hk
      rw [hevu.userId_eq, hev.userId_eq]
      exact (htarget t ht u hu hid hevu.id_eq.symm).1
  · intro t' ht' k hk
    obtain ⟨t, ht, hev, hlink | ⟨hid, hlink⟩⟩ := exec_setReplacedBy_row ht'
    · rw [hev.id_eq]
      exact h.link_lt t ht k (hlink.symm.trans hk)
    · cases hlink.symm.trans hk
      rw [hev.id_eq, hid]
      exact (hspent t ht hid).2
  · intro t' ht' u' hu' k hk hk'
    obtain ⟨t, ht, hev, hlink⟩ := exec_setReplacedBy_row ht'
    obtain ⟨u, hu, hevu, hlinku⟩ := exec_setReplacedBy_row hu'
    have hid : t.id = u.id := by
      rcases hlink with hlink | ⟨hid, hlink⟩
      · rcases hlinku with hlinku | ⟨-, hlinku⟩
        · rw [h.link_inj t ht u hu k (hlink.symm.trans hk) (hlinku.symm.trans hk')]
        · cases hlinku.symm.trans hk'
          exact absurd (hlink.symm.trans hk) (hunlinked t ht)
      · rcases hlinku with hlinku | ⟨hidu, -⟩
        · cases hlink.symm.trans hk
          exact absurd (hlinku.symm.trans hk') (hunlinked u hu)
        · exact hid.trans hidu.symm
    exact Table.eq_of_key ht' hu' (hev.id_eq.trans (hid.trans hevu.id_eq.symm))
  · intro t' ht'
    obtain ⟨t, ht, hev, -⟩ := exec_setReplacedBy_row ht'
    rw [hev.issuedAt_eq, World.exec_now]
    exact h.issued_le_now t ht
  · intro t' ht' u' hu' hk
    obtain ⟨u, hu, hevu, -⟩ := exec_setReplacedBy_row hu'
    obtain ⟨t, ht, hev, hlink | ⟨hid, hlink⟩⟩ := exec_setReplacedBy_row ht'
    · rw [hev.issuedAt_eq, hevu.issuedAt_eq]
      refine h.issued_le t ht u hu ?_
      rw [← hlink, hk, hevu.id_eq]
    · cases hlink.symm.trans hk
      rw [hev.issuedAt_eq, hevu.issuedAt_eq]
      exact (htarget t ht u hu hid hevu.id_eq.symm).2

/-- A new row, issued as of a reading that may be past. -/
theorem chained_insert {data : NewRefreshToken} (hissued : data.issuedAt ≤ w.now) (h : Chained w) :
    Chained (World.exec env (.createRefreshToken data) w).2 := by
  have hlinked : Linked (World.exec env (.createRefreshToken data) w).2 :=
    linked_exec env (by simp) h.toLinked
  rcases World.exec_createRefreshToken env w data with ⟨e, he⟩ | ⟨table, he, hrows, -⟩
  · rw [he]
    exact h
  · rw [he] at hlinked ⊢
    have hrow : ∀ t' ∈ table.rows, t' ∈ w.refreshTokens.rows ∨ t' = World.newRefreshToken w.supply data := by
      intro t' ht'
      rw [hrows] at ht'
      simpa using ht'
    refine ⟨hlinked, ?_, ?_, ?_, ?_⟩
    · intro t' ht' j hj
      rcases hrow t' ht' with ht | rfl
      · exact h.link_lt t' ht j hj
      · cases hj
    · intro t' ht' u' hu' j hj hj'
      rcases hrow t' ht' with ht | rfl
      · rcases hrow u' hu' with hu | rfl
        · exact h.link_inj t' ht u' hu j hj hj'
        · cases hj'
      · cases hj
    · intro t' ht'
      rcases hrow t' ht' with ht | rfl
      · exact h.issued_le_now t' ht
      · exact hissued
    · intro t' ht' u' hu' hj
      rcases hrow t' ht' with ht | rfl
      · rcases hrow u' hu' with hu | rfl
        · exact h.issued_le t' ht u' hu hj
        · exact absurd (h.target_lt t' ht _ hj) (Nat.lt_irrefl _)
      · cases hj

/-- What the chains of a world look like as rotation families. -/
theorem Chained.wellFormed (h : Chained w) : WellFormedChains w.refreshTokens := by
  have hnext : ∀ t ∈ w.refreshTokens.rows, t.revoked = false → t.replacedByTokenId = none := by
    intro t ht hrev
    cases hlink : t.replacedByTokenId with
    | none => rfl
    | some j =>
      rw [h.revoked t ht j hlink] at hrev
      cases hrev
  constructor
  case revoked =>
    intro t ht hlink
    obtain ⟨j, hj⟩ := Option.ne_none_iff_exists'.mp hlink
    exact h.revoked t ht j hj
  case injective =>
    intro t ht t' ht' hlink heq
    obtain ⟨j, hj⟩ := Option.ne_none_iff_exists'.mp hlink
    exact h.link_inj t ht t' ht' j hj (heq ▸ hj)
  case acyclic =>
    exact acyclic_of_lt RefreshToken.id fun t t' hstep => h.link_lt t hstep.1 _ hstep.2.2
  case same_user => exact fun t t' hstep => h.target_user t hstep.1 t' hstep.2.1 hstep.2.2
  case issued_no_earlier => exact fun t t' hstep => h.issued_le t hstep.1 t' hstep.2.1 hstep.2.2
  case one_unrevoked =>
    intro t t' hfam hrev hrev'
    exact last_unique replacedBy_functional (h.not_replaced hrev) (h.not_replaced hrev') hfam
  case unrevoked_last =>
    intro t ht hrev
    exact ⟨hnext t ht hrev, fun t' hfam => reaches_last replacedBy_functional (h.not_replaced hrev) hfam⟩

/-! ## Rows that a thread remembers -/

/-- The id is taken, and what is left under it satisfies `P`. -/
def Settled (P : RefreshToken → Prop) (id : Nat) (w : World) : Prop :=
  id < w.supply ∧ ∀ t ∈ w.refreshTokens.rows, t.id = id → P t

theorem Settled.exec {P : RefreshToken → Prop} {id : Nat}
    (hP : ∀ t t' : RefreshToken, t.Evolves t' → P t → P t') (h : Settled P id w) :
    Settled P id (World.exec env s w).2 := by
  refine ⟨Nat.lt_of_lt_of_le h.1 (World.exec_supply env s w), fun t' ht' hid => ?_⟩
  rcases World.exec_origin ht' with ⟨t, ht, hev⟩ | ⟨data, -, rfl⟩
  · exact hP t t' hev (h.2 t ht (hev.id_eq.symm.trans hid))
  · exact absurd hid (Nat.ne_of_gt h.1)

theorem settled_of_mem {t : RefreshToken} (hdrawn : Drawn w) (ht : t ∈ w.refreshTokens.rows) :
    Settled t.Evolves t.id w := by
  refine ⟨hdrawn.id_lt t ht, fun t' ht' hid => ?_⟩
  rw [Table.eq_of_key ht' ht hid]
  exact .refl t

/-- A token that a thread has found, with what the thread has seen since. -/
structure Since (w : World) (h : List (Exchange sig)) (t : RefreshToken) : Prop where
  kept : Settled t.Evolves t.id w
  issued : t.issuedAt ≤ w.now
  read : ∀ now, ⟨.newDate, .ok now⟩ ∈ h → t.issuedAt ≤ now
  spent : ∀ reason revokedAt, ⟨.revokeToken t.id reason revokedAt, .ok ()⟩ ∈ h →
    Settled (fun t' => t'.revoked = true) t.id w
  later : ∀ data r, ⟨.createRefreshToken data, .ok r⟩ ∈ h → t.id < r.id

theorem Since.start {t : RefreshToken} (hkept : Settled t.Evolves t.id w) (hissued : t.issuedAt ≤ w.now) :
    Since w [] t :=
  ⟨hkept, hissued, fun _ hmem => absurd hmem List.not_mem_nil,
    fun _ _ hmem => absurd hmem List.not_mem_nil, fun _ _ hmem => absurd hmem List.not_mem_nil⟩

theorem Since.tail {h : List (Exchange sig)} {x : Exchange sig} {t : RefreshToken}
    (hsince : Since w (x :: h) t) : Since w h t :=
  ⟨hsince.kept, hsince.issued, fun now hmem => hsince.read now (List.mem_cons_of_mem _ hmem),
    fun reason revokedAt hmem => hsince.spent reason revokedAt (List.mem_cons_of_mem _ hmem),
    fun data r hmem => hsince.later data r (List.mem_cons_of_mem _ hmem)⟩

/-- A session that has been inserted is the last row. -/
theorem inserted {data : NewRefreshToken} {r : RefreshToken}
    (hreply : (World.exec env (.createRefreshToken data) w).1 = .ok r) :
    r = World.newRefreshToken w.supply data ∧
      r ∈ (World.exec env (.createRefreshToken data) w).2.refreshTokens.rows := by
  rcases World.exec_createRefreshToken env w data with ⟨e, he⟩ | ⟨table, he, hrows, -⟩
  · rw [he] at hreply
    cases hreply
  · rw [he] at hreply ⊢
    obtain rfl := Except.ok.inj hreply
    refine ⟨rfl, ?_⟩
    show _ ∈ table.rows
    simp [hrows]

/-- What a statement and its reply add to what is known of a token found before. -/
theorem Since.executed {h : List (Exchange sig)} {t : RefreshToken} {st : sig.refusable.Stmt}
    (hsince : Since w h t) :
    Since ((World.machine env).refusable.exec st w).2
      (⟨st.1, ((World.machine env).refusable.exec st w).1⟩ :: h) t := by
  obtain ⟨s, refused⟩ := st
  cases refused with
  | some e =>
    refine ⟨hsince.kept, hsince.issued, fun now hmem => ?_, fun reason revokedAt hmem => ?_,
      fun data r hmem => ?_⟩
    all_goals
      rcases List.mem_cons.mp hmem with hx | hmem
      · cases (Exchange.mk.inj hx).1
        cases eq_of_heq (Exchange.mk.inj hx).2
    · exact hsince.read now hmem
    · exact hsince.spent reason revokedAt hmem
    · exact hsince.later data r hmem
  | none =>
    constructor
    case kept => exact hsince.kept.exec fun _ _ hev h => h.trans hev
    case issued => exact le_of_le_of_eq hsince.issued (World.exec_now env s w).symm
    case read =>
      intro now hmem
      rcases List.mem_cons.mp hmem with hx | hmem
      · obtain ⟨rfl, hreply⟩ := Exchange.eq_executed (M := World.machine env) hx
        exact le_of_le_of_eq hsince.issued (Except.ok.inj hreply)
      · exact hsince.read now hmem
    case spent =>
      intro reason revokedAt hmem
      rcases List.mem_cons.mp hmem with hx | hmem
      · obtain ⟨rfl, -⟩ := Exchange.eq_executed (M := World.machine env) hx
        refine ⟨hsince.kept.1, fun t' ht' hid => ?_⟩
        have hrow : t' ∈ (World.exec env (.revokeToken t.id reason revokedAt) w).2.refreshTokens.rows :=
          ht'
        exact World.exec_revokeToken hrow hid
      · exact (hsince.spent reason revokedAt hmem).exec fun _ _ hev hrev => hev.revoked hrev
    case later =>
      intro data r hmem
      rcases List.mem_cons.mp hmem with hx | hmem
      · obtain ⟨rfl, hreply⟩ := Exchange.eq_executed (M := World.machine env) hx
        have hexec : (World.exec env (.createRefreshToken data) w).1 = .ok r := hreply
        rw [(inserted hexec).1]
        exact hsince.kept.1
      · exact hsince.later data r hmem

/-! ## Interleavings -/

section Interleaved

variable {ι : Type} [DecidableEq ι] {acts : ι → Activity}
  {C : Pool sig.refusable World ι (fun _ => Response) → Label ι → Prop}
  {q : Pool sig.refusable World ι fun _ => Response} {i : ι} {st : sig.refusable.Stmt}
  {k : Except Exn (sig.refusable.Reply st) → Prog sig.refusable Response}

structure Woven (q : Pool sig.refusable World ι fun _ => Response) : Prop where
  chained : Chained q.world
  since : ∀ i hash t h₁ h₂, q.seen i = h₁ ++ ⟨.findRefreshTokenByHash hash, .ok (some t)⟩ :: h₂ →
    Since q.world h₁ t
  stored : ∀ i data r, ⟨.createRefreshToken data, .ok r⟩ ∈ q.seen i →
    r.userId = data.userId ∧ r.issuedAt = data.issuedAt ∧ Settled r.Evolves r.id q.world
  storer : ∀ i j data data' r r', ⟨.createRefreshToken data, .ok r⟩ ∈ q.seen i →
    ⟨.createRefreshToken data', .ok r'⟩ ∈ q.seen j → r.id = r'.id → i = j
  /-- Nobody but the thread that has stored a row links to it. -/
  unlinked : ∀ i data r, ⟨.createRefreshToken data, .ok r⟩ ∈ q.seen i →
    (∀ id x, ⟨.setReplacedBy id r.id, x⟩ ∉ q.seen i) →
    ∀ t ∈ q.world.refreshTokens.rows, t.replacedByTokenId ≠ some r.id

theorem linking (hr : Reach (World.machine env).refusable C (answering env acts w) q)
    (hp : q.prog i = .call st k) : Stmt.Links (q.seen i) st.1 :=
  hr.justified_seen (J := fun _ h s => Stmt.Links h s) rfl (fun i => links_program env (acts i)) hp

theorem mem_of_readings (env : Env) {h : List (Exchange sig)} {now : Int}
    (hmem : now ∈ phaseAfter (Readings.monitor env) [] h) : ⟨.newDate, .ok now⟩ ∈ h := by
  induction h with
  | nil => simp [phaseAfter] at hmem
  | cons x h ih =>
    obtain ⟨s, reply⟩ := x
    have hcons : now ∈ Readings.next (phaseAfter (Readings.monitor env) [] h) s reply := hmem
    cases s
    case newDate =>
      cases reply with
      | error e => exact List.mem_cons_of_mem _ (ih hcons)
      | ok now' =>
        rcases List.mem_cons.mp hcons with rfl | hold
        · exact List.mem_cons_self
        · exact List.mem_cons_of_mem _ (ih hold)
    all_goals exact List.mem_cons_of_mem _ (ih hcons)

theorem dated_program (env : Env) (a : Activity) :
    (a.program env).Justified (fun h (s : sig.refusable.Stmt) =>
      Readings.allowed env (phaseAfter (Readings.monitor env) [] (h.map Exchange.unrefused)) s.1) [] := by
  have hrequest : ∀ r : Request, (handle env r).Justified
      (fun h s => Readings.allowed env (phaseAfter (Readings.monitor env) [] h) s) [] := fun r =>
    justified_of_conforms (m := Readings.monitor env) (h := []) (dated_handle env r [])
  cases a with
  | http r => exact justified_submit (h := []) (hrequest (r.request env))
  | job j => exact justified_submit (h := []) (hrequest j.request)
  | pass n => trivial

/-- A session is inserted as of a reading that its thread has made. -/
theorem issuedAt_read (hr : Reach (World.machine env).refusable C (answering env acts w) q)
    {data : NewRefreshToken} (hp : q.prog i = .call st k) (hs : st.1 = .createRefreshToken data) :
    ⟨.newDate, .ok data.issuedAt⟩ ∈ q.seen i := by
  have hdated := hr.justified_seen (J := fun _ h s =>
    Readings.allowed env (phaseAfter (Readings.monitor env) [] h) s) rfl
      (fun i => dated_program env (acts i)) hp
  rw [hs] at hdated
  obtain ⟨now, rest, hphase, -⟩ := hdated
  refine mem_of_readings env ?_
  rw [hphase]
  exact List.mem_cons_self

theorem chained_step (hr : Reach (World.machine env).refusable C (answering env acts w) q)
    (hq : Woven q) (hp : q.prog i = .call st k) :
    Chained (q.step (World.machine env).refusable (.run i)).world := by
  rw [Pool.world_step hp]
  refine exec_refusable_keeps hq.chained ?_
  have hlinks := linking hr hp
  by_cases hcreate : ∃ data, st.1 = .createRefreshToken data
  · obtain ⟨data, hs⟩ := hcreate
    rw [hs]
    exact chained_insert (read_le_now hr (issuedAt_read hr hp hs)) hq.chained
  · by_cases hset : ∃ id j, st.1 = .setReplacedBy id j
    · obtain ⟨id, j, hs⟩ := hset
      rw [hs] at hlinks ⊢
      obtain ⟨hash, t, reason, revokedAt, data, r, h₁, h₂, hseen, hrevoked, hread, hstored, huser,
        rfl, rfl⟩ := hlinks.seen
      have hsince := hq.since i hash t h₁ h₂ hseen
      have hmem : ⟨.createRefreshToken data, .ok r⟩ ∈ q.seen i := by
        rw [hseen]
        exact List.mem_append_left _ hstored
      obtain ⟨hruser, hrissued, hrkept⟩ := hq.stored i data r hmem
      refine chained_link hrkept.1 ?_ ?_ ?_ hq.chained
      · intro t' ht' hid
        exact ⟨(hsince.spent reason revokedAt hrevoked).2 t' ht' hid, hsince.later data r hstored⟩
      · intro t' ht' r' hr' hid hid'
        have hevt := hsince.kept.2 t' ht' hid
        have hevr := hrkept.2 r' hr' hid'
        refine ⟨?_, ?_⟩
        · rw [hevr.userId_eq, hevt.userId_eq, hruser, huser]
        · rw [hevr.issuedAt_eq, hevt.issuedAt_eq, hrissued]
          exact hsince.read data.issuedAt hread
      · exact hq.unlinked i data r hmem fun id' x => hlinks.once id' r.id x
    · refine chained_exec env (fun id j hs => hset ⟨id, j, hs⟩) ?_ hq.chained
      exact fun data hs => absurd ⟨data, hs⟩ hcreate

theorem since_step (hq : Woven q) (hdrawn : Drawn q.world) (hp : q.prog i = .call st k) {j : ι}
    {hash : TokenHash} {t : RefreshToken} {h₁ h₂ : List (Exchange sig)}
    (hseen : (q.step (World.machine env).refusable (.run i)).seen j =
      h₁ ++ ⟨.findRefreshTokenByHash hash, .ok (some t)⟩ :: h₂) :
    Since (q.step (World.machine env).refusable (.run i)).world h₁ t := by
  have hmem : ⟨.findRefreshTokenByHash hash, .ok (some t)⟩ ∈
      (q.step (World.machine env).refusable (.run i)).seen j := by
    rw [hseen]
    exact List.mem_append_right _ List.mem_cons_self
  rw [Pool.seen_step hp] at hseen
  rw [Pool.world_step hp]
  split at hseen
  · cases h₁ with
    | nil =>
      -- found by this very step
      obtain ⟨hx, -⟩ := List.cons.inj hseen
      obtain ⟨s, refused⟩ := st
      cases refused with
      | some e => cases hx
      | none =>
        obtain ⟨rfl, hreply⟩ := Exchange.eq_executed (M := World.machine env) hx.symm
        have ht := (Table.find?_mem (Except.ok.inj hreply)).1
        exact (Since.start (settled_of_mem hdrawn ht) (hq.chained.issued_le_now t ht)).executed.tail
    | cons x h₁ =>
      obtain ⟨rfl, htail⟩ := List.cons.inj hseen
      exact (hq.since j hash t h₁ h₂ htail).executed
  · exact (hq.since j hash t h₁ h₂ hseen).executed.tail

/-- A session that a thread has inserted, now or before. -/
theorem stored_step {j : ι} {data : NewRefreshToken} {r : RefreshToken} (hp : q.prog i = .call st k)
    (hx : ⟨.createRefreshToken data, .ok r⟩ ∈ (q.step (World.machine env).refusable (.run i)).seen j) :
    ⟨.createRefreshToken data, .ok r⟩ ∈ q.seen j ∨
      i = j ∧ r = World.newRefreshToken q.world.supply data ∧ st = (.createRefreshToken data, none) ∧
        r ∈ (q.step (World.machine env).refusable (.run i)).world.refreshTokens.rows := by
  rcases Pool.mem_seen_step_ok hp hx with hx | ⟨hij, hst, hreply, hworld⟩
  · exact .inl hx
  · have hexec : (World.exec env (.createRefreshToken data) q.world).1 = .ok r := hreply
    have hafter : (q.step (World.machine env).refusable (.run i)).world =
        (World.exec env (.createRefreshToken data) q.world).2 := hworld
    refine .inr ⟨hij, (inserted hexec).1, hst, ?_⟩
    rw [hafter]
    exact (inserted hexec).2

theorem storer_step (hq : Woven q) (hp : q.prog i = .call st k) {j j' : ι}
    {data data' : NewRefreshToken} {r r' : RefreshToken}
    (hx : ⟨.createRefreshToken data, .ok r⟩ ∈ (q.step (World.machine env).refusable (.run i)).seen j)
    (hx' : ⟨.createRefreshToken data', .ok r'⟩ ∈
      (q.step (World.machine env).refusable (.run i)).seen j') (hid : r.id = r'.id) : j = j' := by
  rcases stored_step hp hx with hold | ⟨hij, rfl, -, -⟩
  · rcases stored_step hp hx' with hold' | ⟨-, rfl, -, -⟩
    · exact hq.storer j j' data data' r r' hold hold' hid
    · exact absurd hid (Nat.ne_of_lt (hq.stored j data r hold).2.2.1)
  · rcases stored_step hp hx' with hold' | ⟨hij', -, -, -⟩
    · exact absurd hid.symm (Nat.ne_of_lt (hq.stored j' data' r' hold').2.2.1)
    · exact hij.symm.trans hij'

/-- A link is set by the thread that has stored its target; to a row that has just been stored, by
nobody yet. -/
theorem unlinked_step (hr : Reach (World.machine env).refusable C (answering env acts w) q)
    (hq : Woven q) (hp : q.prog i = .call st k) {j : ι} {data : NewRefreshToken} {r : RefreshToken}
    (hx : ⟨.createRefreshToken data, .ok r⟩ ∈ (q.step (World.machine env).refusable (.run i)).seen j)
    (hunset : ∀ id x, ⟨.setReplacedBy id r.id, x⟩ ∉
      (q.step (World.machine env).refusable (.run i)).seen j) {t : RefreshToken}
    (ht : t ∈ (q.step (World.machine env).refusable (.run i)).world.refreshTokens.rows) :
    t.replacedByTokenId ≠ some r.id := by
  intro hlink
  rcases stored_step hp hx with hold | ⟨-, rfl, rfl, -⟩
  · have hnone := hq.unlinked j data r hold fun id x hmem =>
      hunset id x (Pool.seen_step_mono hp j hmem)
    have hlinks := linking hr hp
    rw [Pool.world_step hp] at ht
    obtain ⟨s, refused⟩ := st
    cases refused with
    | some e => exact hnone t ht hlink
    | none =>
      have ht : t ∈ (World.exec env s q.world).2.refreshTokens.rows := ht
      by_cases hset : ∃ id l, s = .setReplacedBy id l
      · obtain ⟨id, l, rfl⟩ := hset
        obtain ⟨t₀, ht₀, -, hsame | ⟨-, hnew⟩⟩ := exec_setReplacedBy_row ht
        · exact hnone t₀ ht₀ (hsame.symm.trans hlink)
        · -- the thread that links is the one that has stored the row
          obtain ⟨hash, t', reason, revokedAt, data', r', h₁, h₂, hseen, -, -, hstored, -, -, rfl⟩ :=
            hlinks.seen
          have hmem : ⟨.createRefreshToken data', .ok r'⟩ ∈ q.seen i := by
            rw [hseen]
            exact List.mem_append_left _ hstored
          have hrid : r'.id = r.id := Option.some.inj (hnew.symm.trans hlink)
          obtain rfl := hq.storer i j data' data r' r hmem hold hrid
          have hissue : ∃ x, ⟨.setReplacedBy id r'.id, x⟩ ∈
              (q.step (World.machine env).refusable (.run i)).seen i := by
            rw [Pool.seen_step hp, if_pos rfl]
            exact ⟨_, List.mem_cons_self⟩
          obtain ⟨x, hx⟩ := hissue
          rw [hrid] at hx
          exact hunset id x hx
      · rcases World.exec_source ht with ⟨t₀, ht₀, rfl⟩ | ⟨data', -, rfl, -⟩
        · rw [Stmt.onRefreshToken_link fun l hs => absurd ⟨_, l, hs⟩ hset] at hlink
          exact hnone t₀ ht₀ hlink
        · cases hlink
  · rw [Pool.world_step hp] at ht
    have ht : t ∈ (World.exec env (.createRefreshToken data) q.world).2.refreshTokens.rows := ht
    rcases World.exec_source ht with ⟨t₀, ht₀, hrow⟩ | ⟨data', -, rfl, -⟩
    · rw [hrow] at hlink
      exact absurd (hq.chained.target_lt t₀ ht₀ _ hlink) (Nat.lt_irrefl _)
    · cases hlink

theorem woven_step (hr : Reach (World.machine env).refusable C (answering env acts w) q)
    (hq : Woven q) (hdrawn : Drawn q.world)
    (hdrawn' : Drawn (q.step (World.machine env).refusable (.run i)).world)
    (hp : q.prog i = .call st k) : Woven (q.step (World.machine env).refusable (.run i)) := by
  constructor
  case chained => exact chained_step hr hq hp
  case since => exact fun j hash t h₁ h₂ hseen => since_step hq hdrawn hp hseen
  case stored =>
    intro j data r hx
    rcases stored_step hp hx with hold | ⟨-, rfl, -, hmem⟩
    · obtain ⟨huser, hissued, hkept⟩ := hq.stored j data r hold
      refine ⟨huser, hissued, ?_⟩
      rw [Pool.world_step hp]
      exact exec_refusable_keeps hkept (hkept.exec fun _ _ hev h => h.trans hev)
    · exact ⟨rfl, rfl, settled_of_mem hdrawn' hmem⟩
  case storer => exact fun j j' data data' r r' hx hx' hid => storer_step hq hp hx hx' hid
  case unlinked => exact fun j data r hx hunset t ht => unlinked_step hr hq hp hx hunset ht

/-- From worlds whose chains are well formed, whatever is served concurrently. -/
theorem woven_reach (hr : Reach (World.machine env).refusable C (answering env acts w) q)
    (h : Chained w) (hdrawn : Drawn w) : Woven q := by
  refine hr.invariant_steps (I := Woven) ?_ (fun q n _ ih _ => ?_) fun q i st k hq ih hc hp => ?_
  · refine ⟨h, fun i hash t h₁ h₂ hseen => ?_, fun _ _ _ hx => ?_, fun _ _ _ _ _ _ hx => ?_,
      fun _ _ _ hx => ?_⟩
    · have hmem : ⟨.findRefreshTokenByHash hash, .ok (some t)⟩ ∈ (answering env acts w).seen i := by
        rw [hseen]
        exact List.mem_append_right _ List.mem_cons_self
      cases hmem
    all_goals cases hx
  · refine ⟨(keeping_chained env).pass _ n ih.chained, fun i hash t h₁ h₂ hseen => ?_, ih.stored,
      ih.storer, ih.unlinked⟩
    obtain ⟨hkept, hissued, hread, hspent, hlater⟩ := ih.since i hash t h₁ h₂ hseen
    refine ⟨hkept, ?_, hread, hspent, hlater⟩
    show t.issuedAt ≤ q.world.now + n
    omega
  · exact woven_step hq ih (fresh_reach hq hdrawn).drawn (fresh_reach (.step _ hq hc) hdrawn).drawn hp

end Interleaved

theorem Attained.chained (h : Attained env w) : Chained w := by
  obtain ⟨roles, supply, now, κ, _, acts, q, hr, rfl⟩ := h
  refine (woven_reach hr (chained_initial roles supply now) ?_).chained
  refine ⟨?_, ?_, ?_, ?_, ?_⟩ <;> simp [World.initial]

/-- In every world that interleaved requests and jobs lead to, the rotation chains are well formed, also
where two refreshes with one token have both gone through. -/
theorem interleaved_chains_well_formed (h : Attained env w) : WellFormedChains w.refreshTokens :=
  h.chained.wellFormed

/-- Two refreshes with the registered user's token both go through: the second link replaces the first,
and each of the new tokens is a family's last. -/
theorem interleaved_chains_well_formed_twice :
    let headers : Headers := ⟨none, none, none, none, .token .malformed⟩
    let acts : Option Bool → Activity
      | none => .http (registration none)
      | some _ => .http ⟨headers, none, .refreshToken 3⟩
    let q := (answering Env.plain acts (World.initial .empty 0 0)).runs
      (World.machine Env.plain).refusable
        (List.replicate 13 (.run none) ++ List.replicate 3 (.run (some false)) ++
          List.replicate 20 (.run (some true)) ++ List.replicate 20 (.run (some false)))
    q.world.refreshTokens.rows.map (fun t => (t.id, t.replacedByTokenId)) =
        [(4, some 9), (6, none), (9, none)] ∧
      WellFormedChains q.world.refreshTokens := by
  intro headers acts q
  have hr : Reach (World.machine Env.plain).refusable (fun _ _ => True)
      (answering Env.plain acts (World.initial .empty 0 0)) q := Reach.of_checked (by decide +kernel)
  have hw : Attained Env.plain q.world :=
    ⟨.empty, 0, 0, Option Bool, inferInstance, acts, q, hr, rfl⟩
  exact ⟨by decide +kernel, interleaved_chains_well_formed hw⟩

end Auth
