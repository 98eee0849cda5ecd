import AuthService.Reuse
import AuthService.Relational.Chain

/-!
# AuthService.Chains

The shape of rotation chains, in every reachable world.

* `Chained` — `Linked`, and links lead to a later id and no earlier instant, no two to the same token.
* `keeping_chained` — every request keeps it: a rotation links its revoked token to a row that has
  just been inserted.
* `chains_well_formed` — what follows about whole rotation families.
-/

namespace Auth

open Relational Resumption Prog Relation

variable {env : Env} {w : World}

structure Chained (w : World) : Prop extends Linked w where
  link_lt : ∀ t ∈ w.refreshTokens.rows, ∀ j, t.replacedByTokenId = some j → t.id < j
  link_inj : ∀ t ∈ w.refreshTokens.rows, ∀ t' ∈ w.refreshTokens.rows, ∀ j,
    t.replacedByTokenId = some j → t'.replacedByTokenId = some j → t = t'
  issued_le_now : ∀ t ∈ w.refreshTokens.rows, t.issuedAt ≤ w.now
  issued_le : ∀ t ∈ w.refreshTokens.rows, ∀ t' ∈ w.refreshTokens.rows,
    t.replacedByTokenId = some t'.id → t.issuedAt ≤ t'.issuedAt

/-- Statements that set no link keep the chains. A new row is issued now and has no link. -/
theorem chained_exec (env : Env) {s : Stmt} (hs : ∀ i j, s ≠ .setReplacedBy i j)
    (hissued : ∀ data, s = .createRefreshToken data → data.issuedAt = w.now) (h : Chained w) :
    Chained (World.exec env s w).2 := by
  have hlink : ∀ t : RefreshToken, (s.onRefreshToken t).replacedByTokenId = t.replacedByTokenId :=
    fun t => Stmt.onRefreshToken_link fun j => hs t.id j
  refine ⟨linked_exec env hs h.toLinked, ?_, ?_, ?_, ?_⟩
  · intro t' ht' j hj
    rcases World.exec_source ht' with ⟨t, ht, rfl⟩ | ⟨data, rfl, rfl, -⟩
    · rw [(s.evolves_onRefreshToken t).id_eq]
      exact h.link_lt t ht j ((hlink t).symm.trans hj)
    · cases hj
  · intro t' ht' u' hu' j hj hj'
    rcases World.exec_source ht' with ⟨t, ht, rfl⟩ | ⟨data, rfl, rfl, -⟩
    · rcases World.exec_source hu' with ⟨u, hu, rfl⟩ | ⟨data, rfl, rfl, -⟩
      · rw [h.link_inj t ht u hu j ((hlink t).symm.trans hj) ((hlink u).symm.trans hj')]
      · cases hj'
    · cases hj
  · intro t' ht'
    rw [World.exec_now]
    rcases World.exec_source ht' with ⟨t, ht, rfl⟩ | ⟨data, rfl, rfl, -⟩
    · rw [(s.evolves_onRefreshToken t).issuedAt_eq]
      exact h.issued_le_now t ht
    · exact Int.le_of_eq (hissued data rfl)
  · intro t' ht' u' hu' hj
    rcases World.exec_source ht' with ⟨t, ht, rfl⟩ | ⟨data, rfl, rfl, -⟩
    · rw [hlink] at hj
      rw [(s.evolves_onRefreshToken t).issuedAt_eq]
      rcases World.exec_source hu' with ⟨u, hu, rfl⟩ | ⟨data, rfl, rfl, -⟩
      · rw [(s.evolves_onRefreshToken u).id_eq] at hj
        rw [(s.evolves_onRefreshToken u).issuedAt_eq]
        exact h.issued_le t ht u hu hj
      · exact absurd (h.target_lt t ht _ hj) (Nat.lt_irrefl _)
    · cases hj

/-- Linking a spent row to the row that was inserted last. -/
theorem chained_setReplacedBy {i : Nat} {r : RefreshToken} (hlinkable : Linkable w i r)
    (h : Chained w) : Chained (World.exec env (.setReplacedBy i r.id) w).2 := by
  refine ⟨linked_setReplacedBy hlinkable.inserted
    (fun t ht hid => ⟨(hlinkable.spent t ht hid).1, (hlinkable.spent t ht hid).2.1⟩) h.toLinked,
    ?_, ?_, ?_, ?_⟩
  · intro t' ht' j hj
    obtain ⟨t, ht, hev, hlink | ⟨hid, hlink⟩⟩ := exec_setReplacedBy_row ht'
    · rw [hev.id_eq]
      exact h.link_lt t ht j (hlink.symm.trans hj)
    · cases hlink.symm.trans hj
      rw [hev.id_eq, hid]
      exact (hlinkable.spent t ht hid).2.2
  · intro t' ht' u' hu' j hj hj'
    obtain ⟨t, ht, hev, hlink⟩ := exec_setReplacedBy_row ht'
    obtain ⟨u, hu, hevu, hlinku⟩ := exec_setReplacedBy_row hu'
    have hid : t.id = u.id := by
      rcases hlink with hlink | ⟨hid, hlink⟩
      · rcases hlinku with hlinku | ⟨-, hlinku⟩
        · rw [h.link_inj t ht u hu j (hlink.symm.trans hj) (hlinku.symm.trans hj')]
        · cases hlinku.symm.trans hj'
          exact absurd (hlink.symm.trans hj) (hlinkable.unlinked t ht)
      · rcases hlinku with hlinku | ⟨hidu, -⟩
        · cases hlink.symm.trans hj
          exact absurd (hlinku.symm.trans hj') (hlinkable.unlinked u hu)
        · exact hid.trans hidu.symm
    refine Table.eq_of_key ht' hu' ?_
    exact hev.id_eq.trans (hid.trans hevu.id_eq.symm)
  · intro t' ht'
    obtain ⟨t, ht, hev, -⟩ := exec_setReplacedBy_row ht'
    rw [hev.issuedAt_eq, World.exec_now]
    exact h.issued_le_now t ht
  · intro t' ht' u' hu' hj
    obtain ⟨u, hu, hevu, -⟩ := exec_setReplacedBy_row hu'
    obtain ⟨t, ht, hev, hlink | ⟨hid, hlink⟩⟩ := exec_setReplacedBy_row ht'
    · rw [hev.issuedAt_eq, hevu.issuedAt_eq]
      refine h.issued_le t ht u hu ?_
      rw [← hlink, hj, hevu.id_eq]
    · have hur : u = r := by
        refine Table.eq_of_key hu hlinkable.inserted (hevu.id_eq.symm.trans ?_)
        exact Option.some.inj (hj.symm.trans hlink)
      rw [hev.issuedAt_eq, hevu.issuedAt_eq, hur, hlinkable.issuedAt_eq]
      exact h.issued_le_now t ht

theorem keeping_chained (env : Env) : Keeping env Chained := by
  have hplain : ∀ s w, s.plain = true → Chained w → Chained (World.exec env s w).2 := by
    intro s w hs h
    refine chained_exec env (not_setReplacedBy_of_plain hs) ?_ h
    rintro data rfl
    cases hs
  have hcreate : ∀ data w, data.tokenHash.preimage < w.supply → data.issuedAt = w.now → Chained w →
      Chained (World.exec env (.createRefreshToken data) w).2 := by
    intro data w _ hissued h
    refine chained_exec env (by simp) ?_ h
    rintro data' heq
    cases heq
    exact hissued
  exact {
    exec := hplain
    createCredential := fun _ _ _ _ _ h => chained_exec env (by simp) (by simp) h
    createRefreshToken := fun data w hhash hissued _ h => hcreate data w hhash hissued h
    rotate := fun t w ht _ _ h => rotate_keeps hplain hcreate
      (fun _ _ _ hlinkable h => chained_setReplacedBy hlinkable h) h.toLinked ht h
    createPasswordResetToken := fun _ _ _ _ _ h => chained_exec env (by simp) (by simp) h
    pass := fun w n h => ⟨(keeping_linked env).pass w n h.toLinked, h.link_lt, h.link_inj,
      fun t ht => by
        have := h.issued_le_now t ht
        show t.issuedAt ≤ w.now + n
        omega,
      h.issued_le⟩ }

theorem chained_initial (roles : Table Role) (supply : Nat) (now : Int) :
    Chained (World.initial roles supply now) := by
  refine ⟨linked_initial roles supply now, ?_, ?_, ?_, ?_⟩ <;> simp [World.initial]

theorem Reachable.chained (h : Reachable env w) : Chained w :=
  h.keeps (keeping_chained env) chained_initial

/-! ## Rotation families -/

/-- The shape of the chains of a `refresh_tokens` table. A rotation family is a class of the
equivalence that `ReplacedBy` generates. -/
structure WellFormedChains (table : Table RefreshToken) : Prop where
  revoked : ∀ t ∈ table.rows, t.replacedByTokenId ≠ none → t.revoked = true
  injective : ∀ t ∈ table.rows, ∀ t' ∈ table.rows, t.replacedByTokenId ≠ none →
    t.replacedByTokenId = t'.replacedByTokenId → t = t'
  acyclic : ∀ t, ¬ TransGen (RefreshToken.ReplacedBy table) t t
  same_user : ∀ t t', RefreshToken.ReplacedBy table t t' → t'.userId = t.userId
  issued_no_earlier : ∀ t t', RefreshToken.ReplacedBy table t t' → t.issuedAt ≤ t'.issuedAt
  one_unrevoked : ∀ t t', EqvGen (RefreshToken.ReplacedBy table) t t' → t.revoked = false →
    t'.revoked = false → t = t'
  unrevoked_last : ∀ t ∈ table.rows, t.revoked = false →
    t.replacedByTokenId = none ∧ ∀ t', EqvGen (RefreshToken.ReplacedBy table) t' t →
      ReflTransGen (RefreshToken.ReplacedBy table) t' t

theorem replacedBy_functional {table : Table RefreshToken} (a b c : RefreshToken)
    (hb : RefreshToken.ReplacedBy table a b) (hc : RefreshToken.ReplacedBy table a c) : b = c :=
  Table.eq_of_key hb.2.1 hc.2.1 (Option.some.inj (hb.2.2.symm.trans hc.2.2))

theorem Chained.not_replaced (h : Chained w) {t : RefreshToken} (hrev : t.revoked = false)
    (t' : RefreshToken) : ¬ RefreshToken.ReplacedBy w.refreshTokens t t' := by
  rintro ⟨ht, -, hlink⟩
  rw [h.revoked t ht _ hlink] at hrev
  cases hrev

/-- In every reachable world the rotation chains are well formed: a link sits on a revoked token and
leads to a later token of the same user that no other link leads to, and each family has at most one
unrevoked token, at its end. -/
theorem chains_well_formed (env : Env) (roles : Table Role) (supply : Nat) (now : Int)
    (as : List Action) :
    WellFormedChains (runs env (World.initial roles supply now) as).refreshTokens := by
  have h : Chained (runs env (World.initial roles supply now) as) :=
    Reachable.chained ⟨roles, supply, now, as, rfl⟩
  constructor
  case revoked =>
    intro t ht hlink
    obtain ⟨j, hj⟩ := Option.ne_none_iff_exists'.mp hlink
    exact h.revoked t ht j hj
  case injective =>
    intro t ht t' ht' hlink heq
    obtain ⟨j, hj⟩ := Option.ne_none_iff_exists'.mp hlink
    exact h.link_inj t ht t' ht' j hj (heq ▸ hj)
  case acyclic =>
    exact acyclic_of_lt RefreshToken.id fun t t' hstep => h.link_lt t hstep.1 _ hstep.2.2
  case same_user => exact fun t t' hstep => h.target_user t hstep.1 t' hstep.2.1 hstep.2.2
  case issued_no_earlier => exact fun t t' hstep => h.issued_le t hstep.1 t' hstep.2.1 hstep.2.2
  case one_unrevoked =>
    exact fun t t' hfam hrev hrev' =>
      last_unique replacedBy_functional (h.not_replaced hrev) (h.not_replaced hrev') hfam
  case unrevoked_last =>
    intro t ht hrev
    refine ⟨?_, fun t' hfam => reaches_last replacedBy_functional (h.not_replaced hrev) hfam⟩
    cases hlink : t.replacedByTokenId with
    | none => rfl
    | some j =>
      rw [h.revoked t ht j hlink] at hrev
      cases hrev

end Auth
