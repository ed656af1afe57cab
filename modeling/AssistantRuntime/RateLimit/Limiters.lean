/-
**The rate limiters.**

A Lua script keeps the calls of a key in a sorted set, or its tokens in a bucket, and is run by the
store as one step.  It expects the time before the time to live, and the limiter passes no time.  So
the script takes the time to live for the time, and finds no time to live: a call that it would accept
is written down, and then the script fails.  What it has written stays written.  Time stands still, so
a bucket is never refilled.

Main results:

* `Limiter.limits_iff` — **the limiter does what it is for exactly if nothing is to be accepted**;
* `TokenBucketLimiter.taken_bounded` — **the bucket is between empty and full, and no more is
  taken than a full bucket and its refill.**
-/

import Mathlib

namespace AssistantRuntime.RateLimit

/-! ### The script -/

/-- Members of a sorted set, each once, with their scores. -/
abbrev SortedSet := List (ℤ × ℤ)

/-- A script of the store: an error does not take back what was written before it. -/
abbrev Script := EStateM String SortedSet

/-- An operand of arithmetic or of a comparison in Lua. -/
def operand : Option ℤ → Script ℤ
  | some n => pure n
  | none => throw "attempt to perform arithmetic on a nil value"

/-- An argument of `redis.call`. -/
def commandArgument : Option ℤ → Script ℤ
  | some n => pure n
  | none => throw "Lua redis lib command arguments must be strings or integers"

def zremrangebyscore (upTo : ℤ) : Script Unit := modify (·.filter (upTo < ·.2))

def zcard : Script ℤ := return (← get).length

def zadd (score member : ℤ) : Script Unit :=
  modify fun s => (member, score) :: s.filter (·.1 ≠ member)

/-- `sliding_window.lua`.  Expiry of the key is not a part of the state: only its argument matters. -/
def slidingWindow (argv : List ℤ) : Script (ℤ × ℤ) := do
  let limit := argv[0]?
  let windowSize := argv[1]?
  let currentTime := argv[2]?
  let ttl := argv[3]?
  let windowStart := (← operand currentTime) - (← operand windowSize)
  zremrangebyscore windowStart
  let currentCount ← zcard
  if currentCount < (← operand limit) then
    zadd (← commandArgument currentTime) (← commandArgument currentTime)
    let _ ← commandArgument ttl
    return (1, (← operand limit) - (currentCount + 1))
  else
    return (0, 0)

/-! ### The limiter -/

/-- `SlidingWindowLimiter`. -/
structure Limiter where
  limit : ℤ
  windowSize : ℤ
  ttl : ℤ

namespace Limiter

/-- `is_allowed`, as far as it depends on the reply of the script. -/
def isAllowed (l : Limiter) : Script (Bool × ℤ) := do
  let (allowed, remaining) ← slidingWindow [l.limit, l.windowSize, l.ttl]
  return (allowed ≠ 0, remaining)

/-- What the caller learns, and the set that is left. -/
def reply (l : Limiter) (s : SortedSet) : Bool × SortedSet :=
  match l.isAllowed s with
  | .ok (allowed, _) s' => (allowed, s')
  | .error _ s' => (false, s')

/-- Which calls at the given times are accepted. -/
def decisions (l : Limiter) : SortedSet → List ℚ → List Bool
  | _, [] => []
  | s, _ :: times =>
    (l.reply s).1 :: l.decisions (l.reply s).2 times

def acceptedTimes (l : Limiter) (s : SortedSet) (times : List ℚ) : List ℚ :=
  ((times.zip (l.decisions s times)).filter (·.2)).map (·.1)

/-- The number of accepted calls in the window that begins after `start`. -/
def acceptedIn (l : Limiter) (s : SortedSet) (times : List ℚ) (start : ℚ) : ℕ :=
  (l.acceptedTimes s times).countP fun t => start < t ∧ t ≤ start + l.windowSize

/-- **What the limiter is for**: in a window there are at most as many accepted calls as the limit, and
a call is accepted if there were fewer in the window before it. -/
structure Limits (l : Limiter) (s : SortedSet) (times : List ℚ) : Prop where
  bounded : ∀ start : ℚ, (l.acceptedIn s times start : ℤ) ≤ l.limit
  accepted : ∀ (k : ℕ) (now : ℚ), times[k]? = some now →
    (l.acceptedIn s (times.take k) (now - l.windowSize) : ℤ) < l.limit →
      (l.decisions s times)[k]? = some true

/-- The time to live is missing where a call would be accepted. -/
theorem isAllowed_eq (l : Limiter) (s : SortedSet) :
    l.isAllowed s =
      let kept := s.filter (l.ttl - l.windowSize < ·.2)
      if kept.length < l.limit then
        .error "Lua redis lib command arguments must be strings or integers"
          ((l.ttl, l.ttl) :: kept.filter (·.1 ≠ l.ttl))
      else .ok (false, 0) kept := by
  by_cases hcount : ((s.filter (l.ttl - l.windowSize < ·.2)).length : ℤ) < l.limit <;>
    simp [isAllowed, slidingWindow, operand, commandArgument, zremrangebyscore, zcard, zadd, hcount,
      bind, EStateM.bind, pure, EStateM.pure, modify, modifyGet, MonadStateOf.modifyGet,
      EStateM.modifyGet, get, getThe, MonadStateOf.get, EStateM.get, throw, throwThe,
      MonadExceptOf.throw, EStateM.throw]

theorem reply_refused (l : Limiter) (s : SortedSet) : (l.reply s).1 = false := by
  rw [reply, isAllowed_eq]
  dsimp only
  split_ifs <;> rfl

/-- **No call is ever accepted.** -/
theorem decisions_eq (l : Limiter) (s : SortedSet) (times : List ℚ) :
    l.decisions s times = List.replicate times.length false := by
  induction times generalizing s with
  | nil => rfl
  | cons t times ih => simp [decisions, reply_refused, ih, List.replicate_succ]

theorem acceptedTimes_eq (l : Limiter) (s : SortedSet) (times : List ℚ) :
    l.acceptedTimes s times = [] := by
  rw [acceptedTimes, decisions_eq, List.map_eq_nil_iff, List.filter_eq_nil_iff]
  rintro ⟨t, b⟩ hmem
  have hb := List.eq_of_mem_replicate (List.of_mem_zip hmem).2
  simp [hb]

theorem acceptedIn_eq (l : Limiter) (s : SortedSet) (times : List ℚ) (start : ℚ) :
    l.acceptedIn s times start = 0 := by
  rw [acceptedIn, acceptedTimes_eq, List.countP_nil]

/-- **The limiter does what it is for exactly if nothing is to be accepted**: the limit is none, or
there is no call. -/
theorem limits_iff (l : Limiter) (s : SortedSet) (times : List ℚ) :
    l.Limits s times ↔ l.limit = 0 ∨ 0 ≤ l.limit ∧ times = [] := by
  constructor
  · intro h
    have hlimit : 0 ≤ l.limit := by simpa [acceptedIn_eq] using h.bounded 0
    cases times with
    | nil => exact .inr ⟨hlimit, rfl⟩
    | cons t times =>
      refine .inl (le_antisymm (not_lt.1 fun hpos => ?_) hlimit)
      have haccepted := h.accepted 0 t rfl (by simpa [acceptedIn_eq] using hpos)
      simp [decisions_eq, List.replicate_succ] at haccepted
  · intro h
    have hlimit : 0 ≤ l.limit := by rcases h with h | ⟨h, -⟩ <;> omega
    refine ⟨fun start => by simpa [acceptedIn_eq] using hlimit, fun k now hk hfew => ?_⟩
    rcases h with hzero | ⟨-, rfl⟩
    · simp [acceptedIn_eq, hzero] at hfew
    · simp at hk

/-- **The first call of a limiter with its default settings fails**, and is left in the set. -/
theorem first_call_fails :
    isAllowed ⟨100, 60, 3600⟩ [] =
        .error "Lua redis lib command arguments must be strings or integers" [(3600, 3600)] ∧
      ¬Limits ⟨100, 60, 3600⟩ [] [0] := by
  refine ⟨rfl, fun h => ?_⟩
  have haccepted := h.accepted 0 0 rfl (by decide)
  exact absurd haccepted (by decide)

end Limiter

/-! ### The token bucket -/

/-- The hash of a key, if it was written: the tokens and the time of the last refill. -/
abbrev Bucket := Option (ℚ × ℚ)

/-- A script on a hash: an error does not take back what was written before it. -/
abbrev BucketScript := EStateM String Bucket

/-- A number where the script needs one. -/
def number (message : String) : Option ℚ → BucketScript ℚ
  | some x => pure x
  | none => throw message

/-- `token_bucket.lua`.  Of the expiry of the key only its argument matters. -/
def tokenBucket (argv : List ℚ) : BucketScript (ℤ × ℚ × ℚ) := do
  let operand := number "attempt to perform arithmetic on a nil value"
  let argument := number "Lua redis lib command arguments must be strings or integers"
  let currentTime := argv[3]?
  let bucket ← get
  let lastRefill := bucket.map (·.2) <|> currentTime
  let tokens := bucket.map (·.1) <|> argv[0]?
  let timePassed := (← operand currentTime) - (← operand lastRefill)
  let newTokens := timePassed * (← operand argv[1]?)
  let tokens := min (← operand argv[0]?) ((← operand tokens) + newTokens)
  let cost ← operand argv[2]?
  if cost ≤ tokens then
    set (some (tokens - cost, ← argument currentTime))
    let _ ← argument argv[4]?
    return (1, tokens - cost, 0)
  else
    return (0, tokens, (cost - tokens) / (← operand argv[1]?))

structure TokenBucketLimiter where
  capacity : ℤ
  refillRate : ℚ
  ttl : ℤ

namespace TokenBucketLimiter

variable (l : TokenBucketLimiter)

/-- `is_allowed`, up to the conversion of the reply. -/
def isAllowed (cost : ℤ) : BucketScript (ℤ × ℚ × ℚ) :=
  tokenBucket [l.capacity, l.refillRate, cost, l.ttl]

/-- A call that is not refused has taken its tokens, also if it fails afterwards. -/
def tookTokens : EStateM.Result String Bucket (ℤ × ℚ × ℚ) → Bool
  | .ok (allowed, _) _ => allowed ≠ 0
  | .error _ _ => true

def stored : EStateM.Result String Bucket (ℤ × ℚ × ℚ) → Bucket
  | .ok _ b => b
  | .error _ b => b

/-- The bucket after some calls, each with its time and its cost. -/
def after (b : Bucket) (calls : List (ℚ × ℤ)) : Bucket :=
  calls.foldl (fun b call => stored (l.isAllowed call.2 b)) b

/-- The calls that took their tokens. -/
def taken : Bucket → List (ℚ × ℤ) → List (ℚ × ℤ)
  | _, [] => []
  | b, call :: calls =>
    let result := l.isAllowed call.2 b
    if tookTokens result then call :: taken (stored result) calls else taken (stored result) calls

/-- What is taken in the interval of length `d` that begins at `start`. -/
def takenIn (b : Bucket) (calls : List (ℚ × ℤ)) (start d : ℚ) : ℚ :=
  (((l.taken b calls).filter fun call => start ≤ call.1 ∧ call.1 ≤ start + d).map
    fun call => (call.2 : ℚ)).sum

/-- The tokens of a bucket; one that was never written is full. -/
def level (b : Bucket) : ℚ := (b.map (·.1)).getD l.capacity

/-- The bucket was never written, or is between empty and full and as old as the time to live. -/
structure Sound (b : Bucket) : Prop where
  level : 0 ≤ l.level b ∧ l.level b ≤ l.capacity
  time : ∀ x ∈ b, x.2 = l.ttl

variable {l} {b : Bucket}

/-- Time stands still, and the time to live is missing where tokens are taken. -/
theorem isAllowed_eq (hb : l.Sound b) (cost : ℤ) :
    l.isAllowed cost b =
      if (cost : ℚ) ≤ l.level b then
        .error "Lua redis lib command arguments must be strings or integers"
          (some (l.level b - cost, l.ttl))
      else .ok (0, l.level b, (cost - l.level b) / l.refillRate) b := by
  obtain ⟨⟨-, hfull⟩, htime⟩ := hb
  simp only [isAllowed, tokenBucket, number, bind, EStateM.bind, pure, get, getThe, MonadStateOf.get,
    EStateM.get, set, throw, throwThe, MonadExceptOf.throw]
  rcases b with _ | ⟨t, last⟩
  · by_cases hcost : (cost : ℚ) ≤ l.capacity <;>
      simp [level, hcost, EStateM.bind, EStateM.pure, EStateM.set, EStateM.throw, -Int.cast_le]
  · obtain rfl : last = l.ttl := htime _ rfl
    have hmin : min (l.capacity : ℚ) t = t := min_eq_right hfull
    by_cases hcost : (cost : ℚ) ≤ t <;>
      simp [level, hcost, hmin, EStateM.bind, EStateM.pure, EStateM.set, EStateM.throw, -le_inf_iff]

/-- A call keeps the bucket sound, and takes from it what it costs or nothing. -/
theorem call_keeps (hb : l.Sound b) {cost : ℤ} (hcost : 0 ≤ cost) :
    l.Sound (stored (l.isAllowed cost b)) ∧
      l.level (stored (l.isAllowed cost b)) =
        l.level b - if tookTokens (l.isAllowed cost b) then (cost : ℚ) else 0 := by
  have hcost' : (0 : ℚ) ≤ cost := Int.cast_nonneg hcost
  obtain ⟨⟨hempty, hfull⟩, -⟩ := id hb
  rw [isAllowed_eq hb]
  split
  · next henough =>
      refine ⟨⟨⟨sub_nonneg.2 henough, (sub_le_self _ hcost').trans hfull⟩, ?_⟩, rfl⟩
      rintro _ ⟨⟩
      rfl
  · exact ⟨hb, by simp [stored, tookTokens]⟩

theorem sum_taken {calls : List (ℚ × ℤ)} (hb : l.Sound b) (hcosts : ∀ call ∈ calls, 0 ≤ call.2) :
    l.Sound (l.after b calls) ∧
      ((l.taken b calls).map fun call => (call.2 : ℚ)).sum = l.level b - l.level (l.after b calls) := by
  induction calls generalizing b with
  | nil => exact ⟨hb, by simp [taken, after]⟩
  | cons call calls ih =>
    obtain ⟨hcost, hcosts⟩ := List.forall_mem_cons.1 hcosts
    obtain ⟨hsound, hlevel⟩ := call_keeps hb hcost
    obtain ⟨hafter, hsum⟩ := ih hsound hcosts
    refine ⟨hafter, ?_⟩
    rw [after, List.foldl_cons, ← after, taken]
    by_cases htook : tookTokens (l.isAllowed call.2 b) = true
    · simp only [htook, if_true, List.map_cons, List.sum_cons, hsum, hlevel]
      ring
    · simp only [htook, if_false, Bool.false_eq_true, hsum, hlevel, sub_zero]

theorem taken_sublist (l : TokenBucketLimiter) (b : Bucket) (calls : List (ℚ × ℤ)) :
    (l.taken b calls).Sublist calls := by
  induction calls generalizing b with
  | nil => exact .slnil
  | cons call calls ih =>
    rw [taken]
    split
    · exact (ih _).cons_cons call
    · exact (ih _).cons call

/-- **The bucket is between empty and full, and no more is taken in an interval than a full bucket
and what it is refilled with.** -/
theorem taken_bounded (l : TokenBucketLimiter) (hcapacity : 0 ≤ l.capacity)
    (hrate : 0 ≤ l.refillRate) {calls : List (ℚ × ℤ)} (hcosts : ∀ call ∈ calls, 0 ≤ call.2) :
    (∀ x ∈ l.after none calls, 0 ≤ x.1 ∧ x.1 ≤ l.capacity) ∧
      ∀ start d, 0 ≤ d → l.takenIn none calls start d ≤ l.capacity + l.refillRate * d := by
  have hfull : l.Sound none :=
    ⟨⟨Int.cast_nonneg hcapacity, le_refl _⟩, fun _ h => absurd h (Option.not_mem_none _)⟩
  obtain ⟨hafter, hsum⟩ := sum_taken hfull hcosts
  refine ⟨fun x hx => ?_, fun start d hd => ?_⟩
  · have hlevel := hafter.level
    rw [show l.after none calls = some x from hx] at hlevel
    exact hlevel
  · have hsub : l.takenIn none calls start d ≤ ((l.taken none calls).map fun c => (c.2 : ℚ)).sum := by
      refine (List.filter_sublist.map _).sum_le_sum fun x hx => ?_
      obtain ⟨c, hc, rfl⟩ := List.mem_map.1 hx
      exact Int.cast_nonneg (hcosts c ((l.taken_sublist none calls).mem hc))
    calc l.takenIn none calls start d
        ≤ ((l.taken none calls).map fun c => (c.2 : ℚ)).sum := hsub
      _ = l.capacity - l.level (l.after none calls) := hsum
      _ ≤ l.capacity + l.refillRate * d := by
        have := hafter.level.1
        have := mul_nonneg hrate hd
        linarith

theorem taken_bounded_default :
    TokenBucketLimiter.takenIn ⟨100, 5, 3600⟩ none [(0, 1), (1, 200)] 0 1 ≤ 100 + 5 * 1 := by
  have h := (@taken_bounded ⟨100, 5, 3600⟩ (by decide) (by norm_num) [(0, 1), (1, 200)]
    (by decide)).2 0 1 zero_le_one
  simpa using h

theorem negative_cost_overfills : TokenBucketLimiter.after ⟨1, 5, 3600⟩ none [(0, -1)] =
    some (2, 3600) := by
  decide +kernel

end TokenBucketLimiter

end AssistantRuntime.RateLimit
