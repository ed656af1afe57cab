/-
**Which capabilities the model sees.**

`runtimes/agent/selection.py`: every eligible capability collects a score from independent signals, and
those with the highest scores are visible.  Other signals together can outweigh an explicit request.

Main results:

* `mem_take_sorted` — what a truncated ranking keeps;
* `Context.select_bounded` — **explicit requests are honoured exactly if not too many capabilities
  outrank them**, and never more than the bound are visible.
-/

import Mathlib

namespace AssistantRuntime.Agent.Selection

open List

abbrev Text := List Char

/-- `str.lower` and `str.strip`. -/
class Casing where
  lower : Text → Text
  strip : Text → Text

export Casing (lower strip)

structure Candidate where
  capabilityId : Text
  name : Text
  description : Text

inductive Role
  | system
  | tool
  | other
  deriving DecidableEq

/-- A message, with its content as one text. -/
structure Message where
  role : Role
  content : Text
  name : Option Text
  toolCalls : List Text

structure Hint where
  capabilityId : Text
  purpose : Text

/-- The context, with the hints of the active skills. -/
structure Context where
  iteration : ℕ
  messages : List Message
  eligible : List Candidate
  explicitlyRequested : List Text
  hints : List Hint

/-- An entry of `ranked`. -/
structure Ranked where
  negScore : ℤ
  index : ℕ
  capabilityId : Text
  signals : List Text

def Ranked.key (r : Ranked) : ℤ ×ₗ ℕ ×ₗ Text := toLex (r.negScore, toLex (r.index, r.capabilityId))

structure WorkingSet where
  visible : List Text
  activeGroups : List Text
  reason : String
  provenance : List Text
  revision : ℕ

def isWordChar (c : Char) : Bool := ('a' ≤ c ∧ c ≤ 'z') ∨ ('0' ≤ c ∧ c ≤ '9')

def stopWords : List Text :=
  ["the", "and", "for", "with", "from", "this", "that", "use", "using", "tool", "tools", "capability",
    "capabilities", "request", "current", "available", "one", "into", "only", "when", "where", "what",
    "which", "then", "than", "your", "you"].map String.toList

variable [Casing]

def words (value : Text) : List Text :=
  ((lower value).splitOnP (!isWordChar ·)).filter fun word => 3 ≤ word.length ∧ word ∉ stopWords

def shareWord (a b : Text) : Bool := (words a).any (· ∈ words b)

def spaced (t : Text) : Text := t.map fun c => if c ∈ ['.', '_', '-'] then ' ' else c

def candidateMatches (text : Text) (c : Candidate) : Bool :=
  let id := lower c.capabilityId
  let name := lower c.name
  id <:+: text ∨ name <:+: text ∨ shareWord (spaced id ++ ' ' :: spaced name) text ∨
    shareWord c.description text

def capabilityGroup (id : Text) : Text := (lower (strip id)).takeWhile (· ≠ '.')

namespace Context

variable (ctx : Context)

def eligibleIds : List Text := ctx.eligible.map (·.capabilityId)

/-- The text of `_conversation_signal`. -/
def text : Text := lower ([' '].intercalate ((ctx.messages.filter (·.role ≠ .system)).map (·.content)))

def priorEligibleIds : List Text :=
  (ctx.messages.flatMap fun m =>
    (if m.role = .tool then m.name.toList.filter (· ≠ []) else []) ++ m.toolCalls).filter
      (· ∈ ctx.eligibleIds)

def hintedIds : List Text :=
  (ctx.hints.filter fun hint =>
    let purpose := lower (strip hint.purpose)
    hint.capabilityId ∈ ctx.eligibleIds ∧ purpose ≠ [] ∧
      (purpose <:+: ctx.text ∨ shareWord purpose ctx.text)).map (·.capabilityId)

/-- What a candidate scores, each part with its signal. -/
def contributions (c : Candidate) : List (ℕ × Text) :=
  let id := c.capabilityId
  let group := capabilityGroup id
  (if id ∈ ctx.explicitlyRequested then [(1000, "explicit:".toList ++ id)] else []) ++
    (if id ∈ ctx.priorEligibleIds then [(800, "prior-tool:".toList ++ id)] else []) ++
    (if candidateMatches ctx.text c then [(500, "task-match:".toList ++ id)] else []) ++
    (if id ∈ ctx.hintedIds then [(300, "skill-hint:".toList ++ id)] else []) ++
    if group ≠ [] ∧ group ∈ ctx.priorEligibleIds.map capabilityGroup ∧ id ∉ ctx.priorEligibleIds then
      [(200, "group-expand:".toList ++ group ++ ':' :: id)]
    else []

def score (c : Candidate) : ℕ := ((ctx.contributions c).map (·.1)).sum

/-- The entries of candidates whose indices begin at `start`. -/
def rankedFrom (start : ℕ) (candidates : List Candidate) : List Ranked :=
  (candidates.zipIdx start).filterMap fun (c, index) =>
    if ctx.score c = 0 then none
    else some ⟨-ctx.score c, index, c.capabilityId, (ctx.contributions c).map (·.2)⟩

def ranked : List Ranked := ctx.rankedFrom 0 ctx.eligible

def selected (maxVisible : ℕ) : List Ranked :=
  (ctx.ranked.insertionSort (·.key ≤ ·.key)).take maxVisible

def select (maxVisible : ℕ) : WorkingSet :=
  let visible := (ctx.selected maxVisible).map (·.capabilityId)
  { visible
    activeGroups := ((visible.map capabilityGroup).filter (· ≠ [])).eraseDups
    reason := if visible ≠ [] then "DCS2_BOUNDED_RANKED_SELECTION" else "DCS2_ZERO_TOOL_FAST_PATH"
    provenance := (ctx.selected maxVisible).flatMap (·.signals)
    revision := ctx.iteration }

end Context

omit [Casing] in
/-- **A prefix of a sorted list keeps what few enough elements come before.** -/
theorem mem_take_sorted {α β : Type} [LinearOrder β] {key : α → β} {l : List α}
    (hl : l.Pairwise (key · < key ·)) {x : α} (hx : x ∈ l) (n : ℕ) :
    x ∈ l.take n ↔ l.countP (key · < key x) < n := by
  induction l generalizing n with
  | nil => cases hx
  | cons a l ih =>
    obtain ⟨ha, hl⟩ := pairwise_cons.1 hl
    cases n with
    | zero => simp
    | succ n =>
      rcases mem_cons.1 hx with rfl | hmem
      · have hnone : l.countP (key · < key x) = 0 :=
          countP_eq_zero.2 fun b hb => by simpa using (ha b hb).le
        simp [hnone]
      · have hne : x ≠ a := fun heq => (ha x hmem).ne (heq ▸ rfl)
        simp [ha x hmem, hne, ih hl hmem]

namespace Context

variable {ctx : Context}

theorem rankedFrom_ids (k : ℕ) (l : List Candidate) :
    (ctx.rankedFrom k l).map (·.capabilityId) =
      (l.filter (ctx.score · ≠ 0)).map (·.capabilityId) := by
  induction l generalizing k with
  | nil => rfl
  | cons c l ih =>
    have htail := ih (k + 1)
    by_cases hscore : ctx.score c = 0 <;> simpa [rankedFrom, zipIdx_cons, hscore] using htail

theorem score_ne_zero {c : Candidate} (h : c.capabilityId ∈ ctx.explicitlyRequested) :
    ctx.score c ≠ 0 := by
  rw [score, contributions, if_pos h]
  simp only [append_assoc, cons_append, map_cons, sum_cons]
  omega

theorem mem_ranked_of_selected {r : Ranked} {n : ℕ} (h : r ∈ ctx.selected n) : r ∈ ctx.ranked :=
  (perm_insertionSort _ _).mem_iff.1 (mem_of_mem_take h)

variable (hnodup : ctx.eligibleIds.Nodup)

include hnodup

theorem ranked_nodup : (ctx.ranked.map (·.capabilityId)).Nodup := by
  rw [ranked, rankedFrom_ids]
  exact (filter_sublist.map _).nodup hnodup

/-- An entry is selected exactly if not too many entries outrank it. -/
theorem mem_selected {r : Ranked} (hr : r ∈ ctx.ranked) (n : ℕ) :
    r ∈ ctx.selected n ↔ ctx.ranked.countP (·.key < r.key) < n := by
  have : Std.Total fun a b : Ranked => a.key ≤ b.key := ⟨fun _ _ => le_total _ _⟩
  have : IsTrans Ranked fun a b => a.key ≤ b.key := ⟨fun _ _ _ => le_trans⟩
  have hperm := perm_insertionSort (fun a b : Ranked => a.key ≤ b.key) ctx.ranked
  have hne := pairwise_map.1 ((hperm.map (·.capabilityId)).nodup_iff.2 (ranked_nodup hnodup))
  have hsorted := ((pairwise_insertionSort _ _).and hne).imp fun h =>
    lt_of_le_of_ne h.1 fun heq => h.2 (congrArg (fun key => (ofLex (ofLex key).2).2) heq)
  rw [selected, mem_take_sorted hsorted (hperm.mem_iff.2 hr), hperm.countP_eq]

/-- **The visible capabilities are eligible and within the bound, and those that were requested are all
visible exactly if none of them is outranked by as many as the bound.** -/
theorem select_bounded (n : ℕ) :
    (ctx.select n).visible ⊆ ctx.eligibleIds ∧ (ctx.select n).visible.length ≤ n ∧
      ((∀ id ∈ ctx.explicitlyRequested, id ∈ ctx.eligibleIds → id ∈ (ctx.select n).visible) ↔
        ∀ r ∈ ctx.ranked, r.capabilityId ∈ ctx.explicitlyRequested →
          ctx.ranked.countP (·.key < r.key) < n) := by
  have hids {id} : id ∈ ctx.ranked.map (·.capabilityId) ↔
      ∃ c ∈ ctx.eligible, ctx.score c ≠ 0 ∧ c.capabilityId = id := by
    simp [ranked, rankedFrom_ids, and_assoc]
  have helig {r} (hr : r ∈ ctx.ranked) : r.capabilityId ∈ ctx.eligibleIds := by
    obtain ⟨c, hc, -, hid⟩ := hids.1 (mem_map_of_mem hr)
    exact mem_map.2 ⟨c, hc, hid⟩
  refine ⟨fun id hid => ?_, by simp [select, selected], fun h r hr hreq => ?_, fun h id hreq hid => ?_⟩
  · obtain ⟨r, hr, rfl⟩ := mem_map.1 hid
    exact helig (mem_ranked_of_selected hr)
  · obtain ⟨r', hr', hsame⟩ := mem_map.1 (h _ hreq (helig hr))
    obtain rfl := inj_on_of_nodup_map (ranked_nodup hnodup) (mem_ranked_of_selected hr') hr hsame
    exact (mem_selected hnodup hr n).1 hr'
  · obtain ⟨c, hc, rfl⟩ := mem_map.1 hid
    obtain ⟨r, hr, hsame⟩ := mem_map.1 (hids.2 ⟨c, hc, score_ne_zero hreq, rfl⟩)
    exact mem_map.2 ⟨r, (mem_selected hnodup hr n).2 (h r hr (hsame ▸ hreq)), hsame⟩

omit hnodup [Casing]

/-- A request for `a`, after `b` was used. -/
def sample : Context where
  iteration := 1
  messages := [⟨.tool, ['b'], some ['b'], []⟩]
  eligible := [⟨['a'], ['a'], []⟩, ⟨['b'], ['b'], []⟩]
  explicitlyRequested := [['a']]
  hints := []

theorem select_bounded_sample : (@select ⟨id, id⟩ sample 2).visible ⊆ [['a'], ['b']] ∧
    (@select ⟨id, id⟩ sample 2).visible.length ≤ 2 ∧ ['a'] ∈ (@select ⟨id, id⟩ sample 2).visible := by
  obtain ⟨heligible, hlength, hrequested⟩ := @select_bounded ⟨id, id⟩ sample (by decide) 2
  refine ⟨heligible, hlength, hrequested.2 ?_ _ (.head _) (.head _)⟩
  decide +kernel

theorem request_outranked : (@select ⟨id, id⟩ sample 1).visible = [['b']] := by
  decide +kernel

end Context

end AssistantRuntime.Agent.Selection
