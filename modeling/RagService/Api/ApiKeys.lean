import RagService.Api.Auth
import RagService.Lib.Runs
import Mathlib.Data.List.Nodup

/-!
# The life of an API key

The requests that write the authentication tables (`POST /register`, `POST /api-keys`,
`DELETE /api-keys/{key_id}`, `POST /feedback`) as steps on `AuthDb`; a request that raises
commits nothing. The rows of `api_keys` keep two facts, the unique index on `key_hash` and the
primary key (`KeysOk`), and every request keeps them.

A key that `POST /api-keys` returns is stored for the caller's tenant. After any later requests
it resolves to its row, as `get_current_user`'s key lookups and `validate_api_key` read it, until
a request authenticated for that tenant revokes it; from then on it never resolves again
(`issued_key_lifecycle`). The handlers behind `get_current_user` do not all accept the principal
a key resolves to: `/me` parses its id `api_<n>` as an `int`, and `POST /feedback` binds its
integer rating to an enum of names.
-/

set_option autoImplicit false

namespace RagService.Api

open PyText RagService.Db

/-! ## Requests that write -/

/-- A request that writes the authentication tables, with what it reads besides them. -/
inductive Write where
  | postRegister (E : AuthEnv) (user_data : UserRegister)
  | postApiKeys (E : AuthEnv) (current_user : Principal) (api_key_data : APIKeyCreate)
      (token : Str)
  | deleteApiKey (key_id : Nat) (current_user : Principal)
  | postFeedback (current_user : Principal) (feedback_data : FeedbackCreate)

/-- The tables a request commits. -/
def Write.run : Write → AuthDb → Except Exc AuthDb
  | .postRegister E user_data, db => (register E db user_data).map (·.2)
  | .postApiKeys E current_user api_key_data token, db =>
    (createApiKey E db current_user api_key_data token).map (·.2)
  | .deleteApiKey key_id current_user, db => (revokeApiKey key_id current_user db).map (·.2)
  | .postFeedback current_user feedback_data, db => createFeedback current_user db feedback_data

/-- The tables after a request: what it commits, or the same tables when it raises. -/
def AuthDb.apply (db : AuthDb) (w : Write) : AuthDb :=
  match w.run db with
  | .ok db' => db'
  | .error _ => db

/-- The tables after a sequence of requests. -/
def runWrites (ws : List Write) (db : AuthDb) : AuthDb := ws.foldl AuthDb.apply db

/-- What a request that commits does to `api_keys`: nothing; or one new row, live, under a hash
and an id no row has; or the revocation of the rows of an id that has a live key of the caller's
tenant. -/
theorem Write.run_cases {w : Write} {db db' : AuthDb} (h : w.run db = .ok db') :
    db'.api_keys = db.api_keys ∨
    (∃ row : APIKey, row.key_hash ∉ db.api_keys.map (·.key_hash) ∧
      row.id ∉ db.api_keys.map (·.id) ∧ row.revoked = false ∧
      db'.api_keys = db.api_keys ++ [row]) ∨
    (∃ p k, w = .deleteApiKey k.id p ∧ k ∈ db.api_keys ∧ k.liveFor p = true ∧
      db' = db.revoke k.id) := by
  cases w with
  | postRegister E user_data =>
    obtain ⟨⟨r, _⟩, hr, rfl⟩ := Runs.except_map_ok h
    exact Or.inl (register_api_keys hr)
  | postApiKeys E current_user api_key_data token =>
    obtain ⟨⟨r, _⟩, hr, rfl⟩ := Runs.except_map_ok h
    obtain ⟨-, -, -, hnew, hid, rfl⟩ := createApiKey_ok hr
    refine Or.inr (Or.inl ⟨_, hnew, ?_, rfl, rfl⟩)
    rw [hid]
    exact nextId_not_mem _
  | deleteApiKey key_id current_user =>
    obtain ⟨⟨m, _⟩, hr, rfl⟩ := Runs.except_map_ok h
    obtain ⟨k, hk, rfl, hlive, rfl⟩ := revokeApiKey_ok hr
    exact Or.inr (Or.inr ⟨current_user, k, rfl, hk, hlive, rfl⟩)
  | postFeedback current_user feedback_data =>
    obtain ⟨e, he⟩ := createFeedback_error current_user db feedback_data
    simp only [Write.run, he] at h
    cases h

/-! ## Keys by hash and by id -/

@[simp] theorem revokeIf_key_hash (i : Nat) (k : APIKey) : (k.revokeIf i).key_hash = k.key_hash := by
  unfold APIKey.revokeIf
  split <;> rfl

@[simp] theorem revokeIf_id (i : Nat) (k : APIKey) : (k.revokeIf i).id = k.id := by
  unfold APIKey.revokeIf
  split <;> rfl

theorem revokeIf_of_ne {i : Nat} {k : APIKey} (h : k.id ≠ i) : k.revokeIf i = k := by
  simp [APIKey.revokeIf, h]

/-- A row that is live once its id's rows are revoked was live before. -/
theorem live_of_revokeIf {i : Nat} {k : APIKey} {h : Str}
    (hl : (k.revokeIf i).key_hash = h ∧ (k.revokeIf i).revoked = false) :
    k.id ≠ i ∧ k.key_hash = h ∧ k.revoked = false := by
  by_cases hi : k.id = i
  · simp [APIKey.revokeIf, hi] at hl
  · rw [revokeIf_of_ne hi] at hl
    exact ⟨hi, hl⟩

@[simp] theorem revoke_key_hashes (db : AuthDb) (i : Nat) :
    (db.revoke i).api_keys.map (·.key_hash) = db.api_keys.map (·.key_hash) := by
  simp [AuthDb.revoke, Function.comp_def]

@[simp] theorem revoke_ids (db : AuthDb) (i : Nat) :
    (db.revoke i).api_keys.map (·.id) = db.api_keys.map (·.id) := by
  simp [AuthDb.revoke, Function.comp_def]

/-- What the unique index on `key_hash` and the primary key of `api_keys` guarantee. -/
structure KeysOk (db : AuthDb) : Prop where
  hashes : (db.api_keys.map (·.key_hash)).Nodup
  ids : (db.api_keys.map (·.id)).Nodup

theorem KeysOk.empty (users : List User) (feedback : List AnswerFeedback) :
    KeysOk ⟨users, [], feedback⟩ :=
  ⟨List.nodup_nil, List.nodup_nil⟩

theorem KeysOk.run {w : Write} {db db' : AuthDb} (hok : KeysOk db) (h : w.run db = .ok db') :
    KeysOk db' := by
  rcases Write.run_cases h with heq | ⟨row, hhash, hid, -, happ⟩ | ⟨p, k, -, -, -, rfl⟩
  · constructor
    · rw [heq]
      exact hok.hashes
    · rw [heq]
      exact hok.ids
  · constructor
    · rw [happ, List.map_append, List.map_singleton, ← List.concat_eq_append]
      exact (List.nodup_concat _ _).2 ⟨hhash, hok.hashes⟩
    · rw [happ, List.map_append, List.map_singleton, ← List.concat_eq_append]
      exact (List.nodup_concat _ _).2 ⟨hid, hok.ids⟩
  · exact ⟨by simpa using hok.hashes, by simpa using hok.ids⟩

theorem KeysOk.apply {db : AuthDb} (hok : KeysOk db) (w : Write) : KeysOk (db.apply w) := by
  unfold AuthDb.apply
  split
  · rename_i db' h
    exact hok.run h
  · exact hok

theorem KeysOk.runWrites {db : AuthDb} (hok : KeysOk db) (ws : List Write) :
    KeysOk (runWrites ws db) :=
  Runs.foldl_invariant AuthDb.apply KeysOk ws (fun _ w _ h => h.apply w) db hok

/-! ## Live and dead keys -/

section Liveness

variable {db db' : AuthDb} {h : Str} {k : APIKey}

theorem liveKey_mem (hk : db.liveKey h = some k) :
    k ∈ db.api_keys ∧ k.key_hash = h ∧ k.revoked = false := by
  unfold AuthDb.liveKey at hk
  have hp := List.find?_some hk
  simp only [decide_eq_true_eq] at hp
  exact ⟨List.mem_of_find?_eq_some hk, hp⟩

theorem liveKey_eq_none_of_not_mem (hn : h ∉ db.api_keys.map (·.key_hash)) :
    db.liveKey h = none := by
  unfold AuthDb.liveKey
  rw [List.find?_eq_none]
  intro x hx hl
  simp only [decide_eq_true_eq] at hl
  exact hn (List.mem_map.2 ⟨x, hx, hl.1⟩)

theorem liveKey_congr (heq : db'.api_keys = db.api_keys) : db'.liveKey h = db.liveKey h := by
  unfold AuthDb.liveKey
  rw [heq]

/-- A row appended after the others is found only when no earlier row is. -/
theorem liveKey_append {row : APIKey} (happ : db'.api_keys = db.api_keys ++ [row]) :
    db'.liveKey h = (db.liveKey h).or ([row].find? fun k => k.key_hash = h ∧ k.revoked = false) := by
  unfold AuthDb.liveKey
  rw [happ, List.find?_append]

/-- Revoking makes no key live. -/
theorem liveKey_revoke_of_none (i : Nat) (hn : db.liveKey h = none) : (db.revoke i).liveKey h = none := by
  unfold AuthDb.liveKey at hn ⊢
  rw [List.find?_eq_none] at hn ⊢
  intro x hx hl
  simp only [AuthDb.revoke, List.mem_map] at hx
  obtain ⟨y, hy, rfl⟩ := hx
  simp only [decide_eq_true_eq] at hl
  have := (live_of_revokeIf hl).2
  exact hn y hy (by simpa using this)

/-- Revoking the rows of another id leaves a live key live. -/
theorem liveKey_revoke_of_ne {i : Nat} (hk : db.liveKey h = some k) (hi : k.id ≠ i) :
    (db.revoke i).liveKey h = some k := by
  unfold AuthDb.liveKey at hk ⊢
  rw [List.find?_eq_some_iff_append] at hk ⊢
  obtain ⟨hpk, as, bs, hsplit, hbefore⟩ := hk
  -- the rows before `k` were not live, and revoking keeps them so
  refine ⟨hpk, as.map (APIKey.revokeIf i), bs.map (APIKey.revokeIf i), ?_, ?_⟩
  · simp only [AuthDb.revoke, hsplit, List.map_append, List.map_cons, revokeIf_of_ne hi]
  · intro x hx
    obtain ⟨y, hy, rfl⟩ := List.mem_map.1 hx
    have hy' := hbefore y hy
    simp only [Bool.not_eq_true', decide_eq_false_iff_not] at hy' ⊢
    exact fun hl => hy' (live_of_revokeIf hl).2

/-- Revoking a key's id leaves no live row under its hash. -/
theorem liveKey_revoke_self (hok : KeysOk db) (hk : k ∈ db.api_keys) :
    (db.revoke k.id).liveKey k.key_hash = none := by
  unfold AuthDb.liveKey
  rw [List.find?_eq_none]
  intro x hx hl
  simp only [AuthDb.revoke, List.mem_map] at hx
  obtain ⟨y, hy, rfl⟩ := hx
  simp only [decide_eq_true_eq] at hl
  obtain ⟨hne, hhash, -⟩ := live_of_revokeIf hl
  -- the hash is unique, so the live row would be `k` itself
  have hyk : y = k := List.inj_on_of_nodup_map hok.hashes hy hk hhash
  exact hne (congrArg APIKey.id hyk)

end Liveness

/-- One request, for a live key `k`: it stays live, or the request was the revocation of `k`'s
id by a caller of `k`'s tenant, and `k` is dead. -/
theorem Write.run_live {w : Write} {db db' : AuthDb} {h : Str} {k : APIKey} (hok : KeysOk db)
    (hk : db.liveKey h = some k) (hrun : w.run db = .ok db') :
    db'.liveKey h = some k ∨ (db'.liveKey h = none ∧
      ∃ p, w = Write.deleteApiKey k.id p ∧ p.tenant_id = .str k.tenant_id) := by
  rcases Write.run_cases hrun with heq | ⟨row, -, -, -, happ⟩ | ⟨p, k', rfl, hk', hlive, rfl⟩
  · exact Or.inl ((liveKey_congr heq).trans hk)
  · left
    rw [liveKey_append happ, hk]
    rfl
  · obtain ⟨hkmem, hhash, -⟩ := liveKey_mem hk
    by_cases hid : k.id = k'.id
    · -- ids are unique: the revoked key is `k`, and the caller is of its tenant
      have hkk : k = k' := List.inj_on_of_nodup_map hok.ids hkmem hk' hid
      subst hkk
      refine Or.inr ⟨?_, p, rfl, ?_⟩
      · rw [← hhash]
        exact liveKey_revoke_self hok hkmem
      · simp only [APIKey.liveFor, decide_eq_true_eq] at hlive
        exact hlive.1.symm
    · exact Or.inl (liveKey_revoke_of_ne hk hid)

/-- One request, for a dead key (its hash stored, no live row): it stays dead. -/
theorem Write.run_dead {w : Write} {db db' : AuthDb} {h : Str}
    (hmem : h ∈ db.api_keys.map (·.key_hash)) (hn : db.liveKey h = none)
    (hrun : w.run db = .ok db') :
    h ∈ db'.api_keys.map (·.key_hash) ∧ db'.liveKey h = none := by
  rcases Write.run_cases hrun with heq | ⟨row, hnew, -, -, happ⟩ | ⟨p, k, -, -, -, rfl⟩
  · rw [heq, liveKey_congr heq]
    exact ⟨hmem, hn⟩
  · -- the new row has a hash no row had, so not `h`
    have hrow : row.key_hash ≠ h := fun he => hnew (he ▸ hmem)
    refine ⟨?_, ?_⟩
    · rw [happ, List.map_append]
      exact List.mem_append_left _ hmem
    · rw [liveKey_append happ, hn]
      simp [hrow]
  · exact ⟨by simpa using hmem, liveKey_revoke_of_none k.id hn⟩

theorem AuthDb.apply_dead {db : AuthDb} {h : Str} (hmem : h ∈ db.api_keys.map (·.key_hash))
    (hn : db.liveKey h = none) (w : Write) :
    h ∈ (db.apply w).api_keys.map (·.key_hash) ∧ (db.apply w).liveKey h = none := by
  unfold AuthDb.apply
  split
  · rename_i db' hrun
    exact Write.run_dead hmem hn hrun
  · exact ⟨hmem, hn⟩

theorem runWrites_dead (ws : List Write) {db : AuthDb} {h : Str}
    (hmem : h ∈ db.api_keys.map (·.key_hash)) (hn : db.liveKey h = none) :
    (runWrites ws db).liveKey h = none :=
  (Runs.foldl_invariant AuthDb.apply
    (fun db => h ∈ db.api_keys.map (·.key_hash) ∧ db.liveKey h = none) ws
    (fun _ w _ hd => AuthDb.apply_dead hd.1 hd.2 w) db ⟨hmem, hn⟩).2

/-- Over any requests, a live key stays live unless one of them is the revocation of its id by
a caller of its tenant, after which it is dead. -/
theorem runWrites_live (ws : List Write) {db : AuthDb} {h : Str} {k : APIKey} (hok : KeysOk db)
    (hk : db.liveKey h = some k) :
    (runWrites ws db).liveKey h = some k ∨ ((runWrites ws db).liveKey h = none ∧
      ∃ p, Write.deleteApiKey k.id p ∈ ws ∧ p.tenant_id = .str k.tenant_id) := by
  induction ws generalizing db with
  | nil => exact Or.inl hk
  | cons w ws ih =>
    show (runWrites ws (db.apply w)).liveKey h = some k ∨
      ((runWrites ws (db.apply w)).liveKey h = none ∧
        ∃ p, Write.deleteApiKey k.id p ∈ w :: ws ∧ p.tenant_id = .str k.tenant_id)
    have hstep : (db.apply w).liveKey h = some k ∨ ((db.apply w).liveKey h = none ∧
        ∃ p, w = Write.deleteApiKey k.id p ∧ p.tenant_id = .str k.tenant_id) := by
      unfold AuthDb.apply
      split
      · rename_i db' hrun
        exact Write.run_live hok hk hrun
      · exact Or.inl hk
    rcases hstep with hlive | ⟨hdead, p, rfl, hp⟩
    · rcases ih (hok.apply w) hlive with hend | ⟨hend, q, hq, hqt⟩
      · exact Or.inl hend
      · exact Or.inr ⟨hend, q, List.mem_cons_of_mem _ hq, hqt⟩
    · -- revoked by the first request: dead from then on
      have hmem : h ∈ (db.apply (Write.deleteApiKey k.id p)).api_keys.map (·.key_hash) := by
        obtain ⟨hkmem, hhash, -⟩ := liveKey_mem hk
        unfold AuthDb.apply
        split
        · rename_i db' hrun
          rcases Write.run_cases hrun with heq | ⟨row, -, -, -, happ⟩ | ⟨-, -, -, -, -, rfl⟩
          · rw [heq]
            exact List.mem_map.2 ⟨k, hkmem, hhash⟩
          · rw [happ, List.map_append]
            exact List.mem_append_left _ (List.mem_map.2 ⟨k, hkmem, hhash⟩)
          · simpa using List.mem_map.2 ⟨k, hkmem, hhash⟩
        · exact List.mem_map.2 ⟨k, hkmem, hhash⟩
      exact Or.inr ⟨runWrites_dead ws hmem hdead, p, List.mem_cons_self, hp⟩

/-- A key created by `POST /api-keys`: stored for the caller's tenant, it resolves to its row
after any further requests, until a caller of that tenant revokes it; then it never resolves
again. -/
theorem issued_key_lifecycle {E : AuthEnv} {db db' : AuthDb} {current_user : Principal}
    {api_key_data : APIKeyCreate} {token : Str} {r : APIKeyResponse} (hok : KeysOk db)
    (hc : createApiKey E db current_user api_key_data token = .ok (r, db')) (ws : List Write) :
    r.tenant_id = current_user.tenant_id.toStr ∧
    (apiKeyUser E (runWrites ws db') (some r.key) =
        some (keyPrincipal ⟨r.id, E.sha256 r.key, r.tenant_id, r.role, false⟩) ∨
      (apiKeyUser E (runWrites ws db') (some r.key) = none ∧
        ∃ p, Write.deleteApiKey r.id p ∈ ws ∧ p.tenant_id = .str r.tenant_id)) := by
  obtain ⟨hkey, -, htenant, hnew, -, rfl⟩ := createApiKey_ok hc
  have hne : r.key ≠ [] := by simp [hkey]
  have hrun : (Write.postApiKeys E current_user api_key_data token).run db = .ok { db with
      api_keys := db.api_keys ++ [⟨r.id, E.sha256 r.key, r.tenant_id, r.role, false⟩] } := by
    simp only [Write.run, hc]
    rfl
  -- the new row is the only one under its hash
  have hlive : ({ db with api_keys := db.api_keys ++
      [⟨r.id, E.sha256 r.key, r.tenant_id, r.role, false⟩] } : AuthDb).liveKey (E.sha256 r.key) =
      some ⟨r.id, E.sha256 r.key, r.tenant_id, r.role, false⟩ := by
    rw [liveKey_append rfl, liveKey_eq_none_of_not_mem hnew]
    simp
  refine ⟨htenant, ?_⟩
  rcases runWrites_live ws (hok.run hrun) hlive with hend | ⟨hend, p, hp, hpt⟩
  · exact Or.inl (apiKeyUser_live E hne hend)
  · exact Or.inr ⟨apiKeyUser_dead E hend, p, hp, hpt⟩

/-- A key of tenant `acme` issued into empty tables resolves to its row. -/
theorem acme_issued_key_lifecycle :
    KeysOk (⟨[], [], []⟩ : AuthDb) ∧
    createApiKey identityEnv ⟨[], [], []⟩
        ⟨.str "1".toList, .str "acme".toList, .str "a@acme.io".toList, .str "admin".toList, none⟩
        ⟨none⟩ "abc".toList =
      .ok (⟨1, "pk_abc".toList, "acme".toList, "user".toList⟩,
        ⟨[], [⟨1, "pk_abc".toList, "acme".toList, "user".toList, false⟩], []⟩) ∧
    ("acme".toList = (PyVal.str "acme".toList).toStr ∧
      (apiKeyUser identityEnv (runWrites []
          ⟨[], [⟨1, "pk_abc".toList, "acme".toList, "user".toList, false⟩], []⟩)
          (some "pk_abc".toList) =
        some (keyPrincipal ⟨1, identityEnv.sha256 "pk_abc".toList, "acme".toList, "user".toList,
          false⟩) ∨
      (apiKeyUser identityEnv (runWrites []
          ⟨[], [⟨1, "pk_abc".toList, "acme".toList, "user".toList, false⟩], []⟩)
          (some "pk_abc".toList) = none ∧
        ∃ p, Write.deleteApiKey 1 p ∈ ([] : List Write) ∧ p.tenant_id = .str "acme".toList))) := by
  have hc : createApiKey identityEnv ⟨[], [], []⟩
      ⟨.str "1".toList, .str "acme".toList, .str "a@acme.io".toList, .str "admin".toList, none⟩
      ⟨none⟩ "abc".toList =
      .ok (⟨1, "pk_abc".toList, "acme".toList, "user".toList⟩,
        ⟨[], [⟨1, "pk_abc".toList, "acme".toList, "user".toList, false⟩], []⟩) := by
    decide
  exact ⟨KeysOk.empty [] [], hc, issued_key_lifecycle (KeysOk.empty [] []) hc []⟩

/-! ## The principal of a key at the handlers -/

theorem key_principal_breaks_handlers (E : AuthEnv) (decodeToken : Str → Option Payload)
    {db : AuthDb} {request : Request} {key : Str} {k : APIKey} (hkey : key ≠ [])
    (hk : db.liveKey (E.sha256 key) = some k)
    (hpresent : request.authorization = some ("Bearer ".toList ++ key) ∨
      (request.authorization = none ∧ request.xApiKey = some key)) :
    getCurrentUser E decodeToken db request = .ok (keyPrincipal k) ∧
    getCurrentUserInfo (keyPrincipal k) = .error (valueError
      ("invalid literal for int() with base 10: '".toList ++
        ("api_".toList ++ Nat.toDigits 10 k.id) ++ "'".toList)) ∧
    ∀ feedback_data : FeedbackCreate, createFeedback (keyPrincipal k) db feedback_data =
      .error (enumLookupError "feedback_rating".toList ["up".toList, "down".toList]
        (.int feedback_data.rating)) := by
  refine ⟨?_, getCurrentUserInfo_keyPrincipal k, createFeedback_keyPrincipal k db⟩
  rcases hpresent with hauth | ⟨hnone, hheader⟩
  · exact getCurrentUser_bearer_key E decodeToken hauth hkey hk
  · -- no `Authorization` header: `HTTPBearer` gives no credentials
    have hbearer : getCurrentUserApiKey E db (httpBearer request.authorization) = none := by
      rw [hnone]
      rfl
    exact getCurrentUser_header_key E decodeToken hbearer hheader hkey hk

theorem acme_key_principal_breaks_handlers :
    ("pk_abc".toList ≠ [] ∧
      (⟨[], [⟨7, "pk_abc".toList, "acme".toList, "user".toList, false⟩], []⟩ : AuthDb).liveKey
        (identityEnv.sha256 "pk_abc".toList) =
        some ⟨7, "pk_abc".toList, "acme".toList, "user".toList, false⟩ ∧
      (some "Bearer pk_abc".toList = some ("Bearer ".toList ++ "pk_abc".toList) ∨
        (some "Bearer pk_abc".toList = none ∧ (none : Option Str) = some "pk_abc".toList))) ∧
    getCurrentUser identityEnv (fun _ => none)
        ⟨[], [⟨7, "pk_abc".toList, "acme".toList, "user".toList, false⟩], []⟩
        ⟨some "Bearer pk_abc".toList, none, none⟩ =
      .ok (keyPrincipal ⟨7, "pk_abc".toList, "acme".toList, "user".toList, false⟩) ∧
    getCurrentUserInfo (keyPrincipal ⟨7, "pk_abc".toList, "acme".toList, "user".toList, false⟩) =
      .error (valueError ("invalid literal for int() with base 10: '".toList ++
        ("api_".toList ++ Nat.toDigits 10 7) ++ "'".toList)) ∧
    ∀ feedback_data : FeedbackCreate,
      createFeedback (keyPrincipal ⟨7, "pk_abc".toList, "acme".toList, "user".toList, false⟩)
          ⟨[], [⟨7, "pk_abc".toList, "acme".toList, "user".toList, false⟩], []⟩ feedback_data =
        .error (enumLookupError "feedback_rating".toList ["up".toList, "down".toList]
          (.int feedback_data.rating)) := by
  have hkey : "pk_abc".toList ≠ [] := by decide
  have hk : (⟨[], [⟨7, "pk_abc".toList, "acme".toList, "user".toList, false⟩], []⟩ :
      AuthDb).liveKey (identityEnv.sha256 "pk_abc".toList) =
      some ⟨7, "pk_abc".toList, "acme".toList, "user".toList, false⟩ := by decide
  have hauth : some "Bearer pk_abc".toList = some ("Bearer ".toList ++ "pk_abc".toList) := by
    decide
  exact ⟨⟨hkey, hk, Or.inl hauth⟩, @key_principal_breaks_handlers identityEnv (fun _ => none) _
    ⟨some "Bearer pk_abc".toList, none, none⟩ _ _ hkey hk (Or.inl hauth)⟩

end RagService.Api
