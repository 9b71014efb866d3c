import Mathlib
import RagService.Lib.Interleaving
import RagService.Lib.PyText

/-!
# Rate and quota limits on Redis

`RateLimiter.is_allowed(identifier)` and `QuotaLimiter.check_quota(tenant_id, tokens)` of
`api/middleware/rate_limit.py` are one protocol on one Redis key: `GET key`, a test of the
value read, then, when the test passes, the pipeline `INCRBY key amount; EXPIRE key ttl`, and
the call returns `True`. The read and the pipeline are two round trips, each atomic in Redis;
calls in flight at the same time (requests awaiting Redis in the event loop, or several
workers) interleave between them. A call is a process of `Interleaving` with two atomic steps.

A key counts within one window: `rate_limit:{identifier}:{window}` for a minute,
`quota:{tenant_id}:{date}` for a day. Each pipeline sets the key to live for the window's
length from its own time, past the window's end, so within a window the key does not expire
and the expiry is left out. `int(current) if current else 0` reads a missing key as `0`.

`counter_eq_admitted`: in every interleaving, while Redis answers, a key's counter is its first
value plus the amounts of the calls on it that returned `True`. `serial_within_limit`: when the
calls run one after another, a key whose counter starts within the limit stays within it.
`concurrent_calls_overrun`: two calls that both read before either pipeline both return `True`.
-/

set_option autoImplicit false

namespace RagService.Api

open PyText Interleaving

/-- The server: whether it answers, and the counter of each key. -/
structure Redis where
  up : Bool
  counters : Str → Nat

/-- `INCRBY key n`. -/
def Redis.incrBy (r : Redis) (key : Str) (n : Nat) : Redis :=
  { r with counters := Function.update r.counters key (r.counters key + n) }

/-- Where a limiter call is: before its `GET`, between the test and the pipeline, or returned. -/
inductive Phase where
  | start
  | counted
  | returned (allowed : Bool)
  deriving DecidableEq, Repr

/-- A limiter call: its key, the amount its pipeline adds, and where it is. -/
structure Call where
  key : Str
  amount : Nat
  phase : Phase
  deriving DecidableEq, Repr

/-- One atomic step of a limiter call whose test is `exceeds`: the `GET` and the test, or the
pipeline. An exception at either (Redis down) makes the call return `True`. -/
def limiterStep (exceeds : Nat → Nat → Bool) (r : Redis) (call : Call) : Option (Redis × Call) :=
  match call.phase with
  | .start =>
    if r.up then
      if exceeds (r.counters call.key) call.amount then some (r, { call with phase := .returned false })
      else some (r, { call with phase := .counted })
    else some (r, { call with phase := .returned true })
  | .counted =>
    if r.up then some (r.incrBy call.key call.amount, { call with phase := .returned true })
    else some (r, { call with phase := .returned true })
  | .returned _ => none

namespace RateLimiter

/-- `_get_key(identifier)` in the window `int(time.time() // 60)`. -/
def getKey (identifier : Str) (current_window : Nat) : Str :=
  "rate_limit:".toList ++ identifier ++ ":".toList ++ Nat.toDigits 10 current_window

/-- `is_allowed`: refused when `count >= self.requests_per_minute`; the pipeline is `INCR`. -/
def isAllowed (requests_per_minute : Nat) : Redis → Call → Option (Redis × Call) :=
  limiterStep fun count _ => decide (requests_per_minute ≤ count)

/-- A call of `is_allowed(identifier)` in a window, before its first step. -/
def call (identifier : Str) (current_window : Nat) : Call :=
  ⟨getKey identifier current_window, 1, .start⟩

end RateLimiter

namespace QuotaLimiter

/-- `_get_key(tenant_id)` on the date `time.strftime("%Y-%m-%d")`. -/
def getKey (tenant_id today : Str) : Str := "quota:".toList ++ tenant_id ++ ":".toList ++ today

/-- `check_quota`: refused when `usage + tokens > self.daily_token_quota`. -/
def checkQuota (daily_token_quota : Nat) : Redis → Call → Option (Redis × Call) :=
  limiterStep fun usage tokens => decide (daily_token_quota < usage + tokens)

/-- A call of `check_quota(tenant_id, tokens)` on a date, before its first step. -/
def call (tenant_id today : Str) (tokens : Nat) : Call := ⟨getKey tenant_id today, tokens, .start⟩

end QuotaLimiter

/-- The quota call of `POST /answer`: `check_quota(user.tenant_id, len(request.query.split()) *
2)`. -/
def answerQuotaCall (tenant_id today query : Str) : Call :=
  QuotaLimiter.call tenant_id today ((splitWs query).length * 2)

/-! ## What every interleaving keeps -/

/-- What a call has added to `key`'s counter: its amount, once it returned `True` on `key`. -/
def admitted (key : Str) (call : Call) : Nat :=
  if call.key = key ∧ call.phase = .returned true then call.amount else 0

/-- Redis answers, and every counter is its value in `r0` plus what the calls have added. -/
def Accounted (r0 : Redis) (c : Sys Redis Call) : Prop :=
  c.shared.up = true ∧ ∀ key, c.shared.counters key = r0.counters key + (c.procs.map (admitted key)).sum

theorem admitted_of_not_returned {key : Str} {call : Call} (h : call.phase ≠ .returned true) :
    admitted key call = 0 := by
  simp [admitted, h]

theorem incrBy_counters (r : Redis) (k key : Str) (n : Nat) :
    (r.incrBy k n).counters key = r.counters key + if k = key then n else 0 := by
  unfold Redis.incrBy
  by_cases h : k = key
  · subst h
    simp
  · simp [Function.update_of_ne (Ne.symm h), h]

/-- One atomic step of any limiter keeps the account. -/
theorem accounted_step (exceeds : Nat → Nat → Bool) (r0 : Redis) {s s' : Redis} {ls : List Call}
    {i : Nat} {l l' : Call} (hi : ls[i]? = some l) (hstep : limiterStep exceeds s l = some (s', l'))
    (hacc : Accounted r0 ⟨s, ls⟩) : Accounted r0 ⟨s', ls.set i l'⟩ := by
  obtain ⟨hup, hcount⟩ := hacc
  dsimp only at hup hcount ⊢
  unfold limiterStep at hstep
  simp only [hup, if_true] at hstep
  -- which step: the read, or the pipeline; a returned call takes none
  split at hstep
  · rename_i hphase
    -- the read leaves the counters, and the call has added nothing before or after it
    have hl : ∀ key, admitted key l = 0 := fun _ => admitted_of_not_returned (by simp [hphase])
    have hl' : s' = s ∧ ∀ key, admitted key l' = 0 := by
      split at hstep <;>
        · cases hstep
          exact ⟨rfl, fun _ => admitted_of_not_returned (by simp)⟩
    obtain ⟨rfl, hl'⟩ := hl'
    refine ⟨hup, fun key => ?_⟩
    dsimp only
    have hsum := sum_map_set (admitted key) (m := l') hi
    rw [hl, hl'] at hsum
    have hk := hcount key
    omega
  · rename_i hphase
    -- the pipeline adds the call's amount to its key, and the call now counts it
    cases hstep
    refine ⟨hup, fun key => ?_⟩
    dsimp only
    have hsum := sum_map_set (admitted key) (m := { l with phase := .returned true }) hi
    rw [admitted_of_not_returned (by simp [hphase])] at hsum
    rw [incrBy_counters, hcount key]
    by_cases hk : l.key = key
    · simp only [admitted, hk, true_and, if_true] at hsum ⊢
      omega
    · simp only [admitted, hk, false_and, if_false] at hsum ⊢
      omega
  · cases hstep

theorem counter_eq_admitted (exceeds : Nat → Nat → Bool) (r0 : Redis) (hup : r0.up = true)
    (calls : List Call) (hstart : ∀ call ∈ calls, call.phase = .start) (sched : List Nat)
    (key : Str) :
    (run (limiterStep exceeds) ⟨r0, calls⟩ sched).shared.counters key =
      r0.counters key + ((run (limiterStep exceeds) ⟨r0, calls⟩ sched).procs.map (admitted key)).sum := by
  have h0 : Accounted r0 ⟨r0, calls⟩ := by
    refine ⟨hup, fun key => ?_⟩
    -- no call has returned yet
    have hzero : calls.map (admitted key) = calls.map fun _ => 0 :=
      List.map_congr_left fun call hc => admitted_of_not_returned (by simp [hstart call hc])
    simp [hzero]
  exact (run_invariant (Accounted r0)
    (fun _ _ _ _ _ _ hi hstep hacc => accounted_step exceeds r0 hi hstep hacc) h0 sched).2 key

/-- The calls the code makes start at their `GET`. -/
theorem start_quotaCalls (requests : List (Str × Str × Nat)) :
    ∀ call ∈ requests.map (fun r => QuotaLimiter.call r.1 r.2.1 r.2.2), call.phase = .start := by
  intro call hcall
  obtain ⟨r, -, rfl⟩ := List.mem_map.1 hcall
  rfl

theorem start_rateCalls (requests : List (Str × Nat)) :
    ∀ call ∈ requests.map (fun r => RateLimiter.call r.1 r.2), call.phase = .start := by
  intro call hcall
  obtain ⟨r, -, rfl⟩ := List.mem_map.1 hcall
  rfl

/-- No admitted increment is lost or counted twice: in every interleaving of `check_quota` calls
(tenant, day, tokens), and of `is_allowed` calls (identifier, window), while Redis answers, each
key's counter is its first value plus the amounts of the calls on it that returned `True`. -/
theorem limiters_count_every_admission (daily_token_quota requests_per_minute : Nat)
    (r0 : Redis) (hup : r0.up = true) (quota_requests : List (Str × Str × Nat))
    (rate_requests : List (Str × Nat)) (sched : List Nat) (key : Str) :
    let quota := run (QuotaLimiter.checkQuota daily_token_quota)
      ⟨r0, quota_requests.map fun r => QuotaLimiter.call r.1 r.2.1 r.2.2⟩ sched
    let rate := run (RateLimiter.isAllowed requests_per_minute)
      ⟨r0, rate_requests.map fun r => RateLimiter.call r.1 r.2⟩ sched
    quota.shared.counters key = r0.counters key + (quota.procs.map (admitted key)).sum ∧
      rate.shared.counters key = r0.counters key + (rate.procs.map (admitted key)).sum :=
  ⟨counter_eq_admitted _ r0 hup _ (start_quotaCalls quota_requests) sched key,
    counter_eq_admitted _ r0 hup _ (start_rateCalls rate_requests) sched key⟩

/-- Two quota calls of 6 tokens and two rate calls, interleaved read, read, pipeline, pipeline,
on a fresh Redis. -/
theorem race_counts_every_admission :
    (⟨true, fun _ => 0⟩ : Redis).up = true ∧
    let quota := run (QuotaLimiter.checkQuota 10)
      ⟨⟨true, fun _ => 0⟩, [("t".toList, "2026-11-11".toList, 6), ("t".toList, "2026-11-11".toList, 6)].map
        fun r => QuotaLimiter.call r.1 r.2.1 r.2.2⟩ [0, 1, 0, 1]
    let rate := run (RateLimiter.isAllowed 1)
      ⟨⟨true, fun _ => 0⟩, [("u".toList, 0), ("u".toList, 0)].map fun r => RateLimiter.call r.1 r.2⟩
      [0, 1, 0, 1]
    quota.shared.counters (QuotaLimiter.getKey "t".toList "2026-11-11".toList) =
        (⟨true, fun _ => 0⟩ : Redis).counters (QuotaLimiter.getKey "t".toList "2026-11-11".toList) +
          (quota.procs.map (admitted (QuotaLimiter.getKey "t".toList "2026-11-11".toList))).sum ∧
      rate.shared.counters (QuotaLimiter.getKey "t".toList "2026-11-11".toList) =
        (⟨true, fun _ => 0⟩ : Redis).counters (QuotaLimiter.getKey "t".toList "2026-11-11".toList) +
          (rate.procs.map (admitted (QuotaLimiter.getKey "t".toList "2026-11-11".toList))).sum :=
  ⟨rfl, limiters_count_every_admission 10 1 ⟨true, fun _ => 0⟩ rfl _ _ [0, 1, 0, 1] _⟩

/-! ## Calls one after another -/

/-- The schedule that runs `n` calls one after another, each call's two steps in turn. -/
def serial (n : Nat) : List Nat := (List.range n).flatMap fun i => [i, i]

/-- A call's two steps in a row, from its start while Redis answers. -/
theorem run_call (exceeds : Nat → Nat → Bool) {c : Sys Redis Call} {i : Nat} {call : Call}
    (hi : c.procs[i]? = some call) (hs : call.phase = .start) (hup : c.shared.up = true) :
    run (limiterStep exceeds) c [i, i] =
      if exceeds (c.shared.counters call.key) call.amount then
        ⟨c.shared, c.procs.set i { call with phase := .returned false }⟩
      else ⟨c.shared.incrBy call.key call.amount, c.procs.set i { call with phase := .returned true }⟩ := by
  have hlen : i < c.procs.length := (List.getElem?_eq_some_iff.1 hi).1
  unfold run
  simp only [List.foldl_cons, List.foldl_nil]
  by_cases hover : exceeds (c.shared.counters call.key) call.amount
  · -- refused at the read; the returned call takes no second step
    have h1 : step (limiterStep exceeds) c i =
        ⟨c.shared, c.procs.set i { call with phase := .returned false }⟩ :=
      step_of_some hi (by simp [limiterStep, hs, hup, hover])
    rw [h1, step_of_none (l := { call with phase := .returned false }) (by simp [hlen])
      (by simp [limiterStep]), if_pos hover]
  · -- passed the read; the pipeline follows
    have h1 : step (limiterStep exceeds) c i = ⟨c.shared, c.procs.set i { call with phase := .counted }⟩ :=
      step_of_some hi (by simp [limiterStep, hs, hup, hover])
    rw [h1, step_of_some (l := { call with phase := .counted })
      (s := c.shared.incrBy call.key call.amount) (m := { call with phase := .returned true })
      (by simp [hlen]) (by simp [limiterStep, hup]), if_neg hover, List.set_set]

/-- After the first `n` calls, run one after another: Redis answers, the calls from `n` on have
not moved, and a counter that started within the limit is within it. -/
theorem serial_inv (exceeds : Nat → Nat → Bool) (limit : Nat) (r0 : Redis) (hup : r0.up = true)
    (calls : List Call) (hstart : ∀ call ∈ calls, call.phase = .start)
    (hover : ∀ u call, call ∈ calls → exceeds u call.amount = false → u + call.amount ≤ limit)
    (key : Str) (hkey : r0.counters key ≤ limit) :
    ∀ n ≤ calls.length,
      (run (limiterStep exceeds) ⟨r0, calls⟩ (serial n)).shared.up = true ∧
      (∀ j, n ≤ j → (run (limiterStep exceeds) ⟨r0, calls⟩ (serial n)).procs[j]? = calls[j]?) ∧
      (run (limiterStep exceeds) ⟨r0, calls⟩ (serial n)).shared.counters key ≤ limit := by
  intro n
  induction n with
  | zero => exact fun _ => ⟨hup, fun _ _ => rfl, hkey⟩
  | succ n ih =>
    intro hn
    obtain ⟨hup', hrest, hcount⟩ := ih (by omega)
    -- the next call is still at its start
    obtain ⟨call, hcall⟩ : ∃ call, calls[n]? = some call :=
      ⟨calls[n], List.getElem?_eq_getElem (by omega)⟩
    have hmem : call ∈ calls := List.mem_of_getElem? hcall
    have hi := (hrest n le_rfl).trans hcall
    have hschedule : serial (n + 1) = serial n ++ [n, n] := by
      simp [serial, List.range_succ]
    rw [hschedule, run_append, run_call exceeds hi (hstart call hmem) hup']
    split
    · -- refused: nothing is written
      refine ⟨hup', fun j hj => ?_, hcount⟩
      rw [List.getElem?_set_ne (by omega)]
      exact hrest j (by omega)
    · -- admitted: the counter of its key grows by its amount, within the limit
      rename_i hpass
      refine ⟨hup', fun j hj => ?_, ?_⟩
      · rw [List.getElem?_set_ne (by omega)]
        exact hrest j (by omega)
      · have hwithin := hover _ call hmem (by simpa using hpass)
        rw [incrBy_counters]
        split
        · rename_i hk
          rw [← hk]
          exact hwithin
        · simpa using hcount

/-- Calls run one after another admit, on each key, no more than the limit leaves. -/
theorem serial_within_limit (exceeds : Nat → Nat → Bool) (limit : Nat) (r0 : Redis)
    (hup : r0.up = true) (calls : List Call) (hstart : ∀ call ∈ calls, call.phase = .start)
    (hover : ∀ u call, call ∈ calls → exceeds u call.amount = false → u + call.amount ≤ limit)
    (key : Str) (hkey : r0.counters key ≤ limit) :
    r0.counters key +
        ((run (limiterStep exceeds) ⟨r0, calls⟩ (serial calls.length)).procs.map (admitted key)).sum ≤
      limit := by
  rw [← counter_eq_admitted exceeds r0 hup calls hstart]
  exact (serial_inv exceeds limit r0 hup calls hstart hover key hkey calls.length le_rfl).2.2

/-- Serial `check_quota` calls stay within the daily quota. -/
theorem checkQuota_serial (daily_token_quota : Nat) (r0 : Redis) (hup : r0.up = true)
    (calls : List Call) (hstart : ∀ call ∈ calls, call.phase = .start) (key : Str)
    (hkey : r0.counters key ≤ daily_token_quota) :
    r0.counters key + ((run (QuotaLimiter.checkQuota daily_token_quota) ⟨r0, calls⟩
        (serial calls.length)).procs.map (admitted key)).sum ≤ daily_token_quota :=
  serial_within_limit _ daily_token_quota r0 hup calls hstart
    (fun u call _ h => by simpa using h) key hkey

/-- Serial `is_allowed` calls stay within the requests per minute. -/
theorem isAllowed_serial (requests_per_minute : Nat) (r0 : Redis) (hup : r0.up = true)
    (calls : List Call) (hstart : ∀ call ∈ calls, call.phase = .start)
    (hone : ∀ call ∈ calls, call.amount = 1) (key : Str)
    (hkey : r0.counters key ≤ requests_per_minute) :
    r0.counters key + ((run (RateLimiter.isAllowed requests_per_minute) ⟨r0, calls⟩
        (serial calls.length)).procs.map (admitted key)).sum ≤ requests_per_minute :=
  serial_within_limit _ requests_per_minute r0 hup calls hstart
    (fun u call hc h => by
      rw [hone call hc]
      simp only [decide_eq_false_iff_not, not_le] at h
      omega) key hkey

/-- When the calls of a day, or of a minute window, run one after another from a fresh Redis,
the limits hold: on every key, the tokens admitted by `check_quota` add up to at most the daily
quota, and the calls `is_allowed` admits to at most the requests per minute. -/
theorem serial_limiters_within_limits (daily_token_quota requests_per_minute : Nat)
    (quota_requests : List (Str × Str × Nat)) (rate_requests : List (Str × Nat)) (key : Str) :
    ((run (QuotaLimiter.checkQuota daily_token_quota)
        ⟨⟨true, fun _ => 0⟩, quota_requests.map fun r => QuotaLimiter.call r.1 r.2.1 r.2.2⟩
        (serial quota_requests.length)).procs.map (admitted key)).sum ≤ daily_token_quota ∧
      ((run (RateLimiter.isAllowed requests_per_minute)
        ⟨⟨true, fun _ => 0⟩, rate_requests.map fun r => RateLimiter.call r.1 r.2⟩
        (serial rate_requests.length)).procs.map (admitted key)).sum ≤ requests_per_minute := by
  have hquota := checkQuota_serial daily_token_quota ⟨true, fun _ => 0⟩ rfl _
    (start_quotaCalls quota_requests) key (Nat.zero_le _)
  -- every call of `is_allowed` adds one request
  have hone : ∀ call ∈ rate_requests.map (fun r => RateLimiter.call r.1 r.2), call.amount = 1 := by
    intro call hcall
    obtain ⟨r, -, rfl⟩ := List.mem_map.1 hcall
    rfl
  have hrate := isAllowed_serial requests_per_minute ⟨true, fun _ => 0⟩ rfl _
    (start_rateCalls rate_requests) hone key (Nat.zero_le _)
  rw [List.length_map, Nat.zero_add] at hquota hrate
  exact ⟨hquota, hrate⟩

/-! ## Calls in flight together -/

/-- Two `POST /answer` requests of tenant `t` on one day, each asking `what is rag`
(`check_quota("t", 6)`), against a daily quota of 10, each reading the counter before the
other's pipeline. -/
def quotaRace : Sys Redis Call :=
  run (QuotaLimiter.checkQuota 10)
    ⟨⟨true, fun _ => 0⟩, [answerQuotaCall "t".toList "2026-11-11".toList "what is rag".toList,
      answerQuotaCall "t".toList "2026-11-11".toList "what is rag".toList]⟩ [0, 1, 0, 1]

/-- Two calls of `is_allowed("u")` in one window against one request per minute, interleaved
the same way. -/
def rateRace : Sys Redis Call :=
  run (RateLimiter.isAllowed 1)
    ⟨⟨true, fun _ => 0⟩, [RateLimiter.call "u".toList 0, RateLimiter.call "u".toList 0]⟩
    [0, 1, 0, 1]

theorem concurrent_calls_overrun :
    quotaRace.procs.map (·.phase) = [.returned true, .returned true] ∧
      (quotaRace.procs.map (admitted (QuotaLimiter.getKey "t".toList "2026-11-11".toList))).sum =
        12 ∧
    rateRace.procs.map (·.phase) = [.returned true, .returned true] ∧
      (rateRace.procs.map (admitted (RateLimiter.getKey "u".toList 0))).sum = 2 := by
  decide

end RagService.Api
