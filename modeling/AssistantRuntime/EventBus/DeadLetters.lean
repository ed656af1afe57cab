/-
**The events that one event leads to.**

A handler that has failed as often as it may is reported by a dead letter, which is an event like any
other: its handlers are called in the same way, and one of them that fails as often is reported by
another dead letter.  So the number of events that one event leads to is bounded exactly if the chain
cannot go on: no handler of the event fails, or no handler of dead letters does.
-/

import AssistantRuntime.EventBus.Dispatch

namespace AssistantRuntime.EventBus

open Relational Option List

variable {H : Type}

def deadLetterName : String := "system.event.failed"

/-- Nothing is registered and nothing is published from outside, and of the handlers only those fail
that may fail on an event of the name. -/
def Bus.Consequential (fails : H → String → Prop) (s : Bus H) : Act H → Prop
  | .subscribe .. | .unsubscribe .. | .registerForAll _ | .publish _ => False
  | .attempt i k .failed _ =>
    ∀ t ∈ s.tasks i, ∀ r ∈ t.runs[k]?, fails r.handler t.event.eventName
  | _ => True

/-- **The chain of failures**: a handler of the event may fail, and a handler of dead letters may fail
on them. -/
def Chained (maxRetries : ℕ) (fails : H → String → Prop) (r : Registry H) (e : Event) : Prop :=
  0 < maxRetries ∧ (∃ h ∈ r.getHandlers e.eventName, fails h e.eventName) ∧
    ∃ h ∈ r.getHandlers deadLetterName, fails h deadLetterName

namespace DispatchTask

/-- The number of calls whose error was raised. -/
def raised (t : DispatchTask H) : ℕ := t.runs.countP fun r => r.progress = .raised

/-- The calls of the task are those of the handlers of its event. -/
structure Fits (r : Registry H) (t : DispatchTask H) : Prop where
  idle : t.phase = .queued ∨ t.phase = .checked → t.runs = []
  handlers : t.runs = [] ∨ t.runs.map (·.handler) = r.getHandlers t.event.eventName

variable {t : DispatchTask H} {reg : Registry H} {k : ℕ} {r : HandlerRun H} {p : Progress}

theorem raised_set (h : t.runs[k]? = some r) (hr : r.progress ≠ .raised) :
    raised { t with runs := t.runs.set k ⟨r.handler, p⟩ } =
      t.raised + if p = .raised then 1 else 0 := by
  obtain ⟨before, after, hruns, hset⟩ := runs_split h
  simp only [raised, hset]
  rw [hruns]
  by_cases hp : p = .raised <;> simp [hr, hp]
  omega

theorem Fits.set (hf : t.Fits reg) (h : t.runs[k]? = some r) :
    Fits reg { t with runs := t.runs.set k ⟨r.handler, p⟩ } where
  idle hphase := by simp [hf.idle hphase]
  handlers := by
    rcases hf.handlers with hnil | hall
    · simp [hnil] at h
    · exact .inr ((handlers_set h p).trans hall)

theorem Fits.mem (hf : t.Fits reg) (h : t.runs[k]? = some r) :
    r.handler ∈ reg.getHandlers t.event.eventName := by
  rcases hf.handlers with hnil | hall
  · simp [hnil] at h
  · rw [← hall]
    exact List.mem_map_of_mem (mem_of_getElem? h)

theorem Fits.raised_le (hf : t.Fits reg) :
    t.raised ≤ (reg.getHandlers t.event.eventName).length := by
  rcases hf.handlers with hnil | hall
  · simp [raised, hnil]
  · rw [← hall, length_map]
    exact countP_le_length

theorem exists_afterGather (t : DispatchTask H) :
    ∃ p, ¬(p = Phase.queued ∨ p = .checked) ∧ Bus.afterGather t = { t with phase := p } := by
  unfold Bus.afterGather
  split_ifs
  · exact ⟨.ended, by simp, rfl⟩
  · exact ⟨.marking, by simp, rfl⟩
  · exact ⟨.ended, by simp, rfl⟩

end DispatchTask

variable [DecidableEq H] {maxRetries : ℕ} {fails : H → String → Prop} {s s' : Bus H} {a : Act H}
variable {reg : Registry H} {e : Event}

/-- **What a step can do**: a task goes on, and it publishes a dead letter exactly if the error of one
more of its calls is raised. -/
inductive Consequence (maxRetries : ℕ) (fails : H → String → Prop) (s s' : Bus H) : Prop
  | quiet (i : ℕ) (t t' : DispatchTask H) (task : s.tasks i = some t)
      (tasks : s'.tasks = (s.setTask i t').tasks) (sequence : s'.sequence = s.sequence)
      (event : t'.event = t.event) (fits : t'.Fits s.registry) (raised : t'.raised = t.raised)
  | letter (i : ℕ) (t t' : DispatchTask H) (id : String) (task : s.tasks i = some t)
      (tasks : s'.tasks = ((s.setTask i t').deadLetter id).tasks)
      (sequence : s'.sequence = s.sequence + 1)
      (event : t'.event = t.event) (fits : t'.Fits s.registry) (raised : t'.raised = t.raised + 1)
      (retries : 0 < maxRetries)
      (failed : ∃ h ∈ s.registry.getHandlers t.event.eventName, fails h t.event.eventName)

theorem Consequence.of_step (hok : s.Consequential fails a) (h : step maxRetries s a = some s')
    (hfits : ∀ i t, s.tasks i = some t → t.Fits s.registry) :
    s'.registry = s.registry ∧ Consequence maxRetries fails s s' := by
  cases a with
  | subscribe | unsubscribe | registerForAll | publish => exact hok.elim
  | check i =>
    simp only [EventBus.step, bind_eq_bind, bind_eq_some_iff,
      guard_eq_some'] at h
    obtain ⟨t, ht, -, hphase, h⟩ := h
    have hruns := (hfits i t ht).idle (.inl hphase)
    split at h <;> cases h
    all_goals exact ⟨rfl, .quiet i t _ ht rfl rfl rfl ⟨fun _ => hruns, .inl hruns⟩ rfl⟩
  | start i =>
    obtain ⟨t, ht, hphase, h⟩ := bind_guard_eq_some.1 h
    cases h
    refine ⟨rfl, .quiet i t { t with
      phase := .running
      runs := (s.registry.getHandlers t.event.eventName).map (beginRun maxRetries) } ht rfl rfl rfl
      ⟨by simp, .inr (DispatchTask.handlers_begun _ _)⟩ ?_⟩
    rw [DispatchTask.raised, DispatchTask.raised, (hfits i t ht).idle (.inr hphase),
      countP_nil, countP_eq_zero]
    intro r hr
    obtain ⟨x, -, rfl⟩ := List.mem_map.1 hr
    by_cases hm : maxRetries = 0 <;> simp [beginRun, hm]
  | attempt i k result dlqId =>
    simp only [EventBus.step, bind_eq_bind, bind_eq_some_iff,
      guard_eq_some'] at h
    obtain ⟨t, ht, -, -, r, hr, h⟩ := h
    split at h
    · next n hn =>
      have hset : ∀ p, DispatchTask.Fits s.registry { t with runs := t.runs.set k ⟨r.handler, p⟩ } :=
        fun p => (hfits i t ht).set hr
      have hraised : ∀ p,
          DispatchTask.raised { t with runs := t.runs.set k ⟨r.handler, p⟩ } =
            t.raised + if p = .raised then 1 else 0 :=
        fun p => DispatchTask.raised_set hr (by simp [hn])
      cases h
      cases result with
      | succeeded => exact ⟨rfl, .quiet i t _ ht rfl rfl rfl (hset .completed) (hraised _)⟩
      | cancelled => exact ⟨rfl, .quiet i t _ ht rfl rfl rfl (hset .abandoned) (hraised _)⟩
      | failed =>
        by_cases hlast : n + 1 = maxRetries
        · simp only [Bus.attempt, if_pos hlast]
          exact ⟨rfl, .letter i t _ dlqId ht rfl rfl rfl (hset .raised) (hraised _) (by omega)
            ⟨_, (hfits i t ht).mem hr, hok t ht r hr⟩⟩
        · simp only [Bus.attempt, if_neg hlast]
          exact ⟨rfl, .quiet i t _ ht rfl rfl rfl (hset (.attempting (n + 1))) (hraised _)⟩
    · cases h
  | gather i =>
    obtain ⟨t, ht, -, h⟩ := bind_guard_eq_some.1 h
    cases h
    obtain ⟨p, hp, heq⟩ := DispatchTask.exists_afterGather t
    rw [heq]
    exact ⟨rfl, .quiet i t { t with phase := p } ht rfl rfl rfl
      ⟨fun hphase => (hp hphase).elim, (hfits i t ht).handlers⟩ rfl⟩
  | mark i | cancel i =>
    obtain ⟨t, ht, -, h⟩ := bind_guard_eq_some.1 h
    cases h
    exact ⟨rfl, .quiet i t { t with phase := .ended } ht rfl rfl rfl
      ⟨by simp, (hfits i t ht).handlers⟩ rfl⟩

/-! ### The bound -/

/-- What one event has led to, if there is no chain: it is the first task, the others are of dead
letters, and there is one for each call of the first that raised. -/
structure Contained (maxRetries : ℕ) (fails : H → String → Prop) (reg : Registry H) (e : Event)
    (s : Bus H) : Prop where
  registry : s.registry = reg
  fits : ∀ i t, s.tasks i = some t → t.Fits reg
  first : ∃ t, s.tasks 1 = some t ∧ t.event = e ∧ s.sequence = 1 + t.raised
  others : ∀ i t, s.tasks i = some t → i = 1 ∨
    i ≤ s.sequence ∧ t.event.eventName = deadLetterName ∧ 0 < maxRetries ∧
      ∃ h ∈ reg.getHandlers e.eventName, fails h e.eventName

omit [DecidableEq H] in
theorem contained_publish (maxRetries : ℕ) (fails : H → String → Prop) (reg : Registry H)
    (e : Event) : Contained maxRetries fails reg e (Bus.publish { registry := reg } e) where
  registry := rfl
  fits i t ht := by
    rcases Bus.of_tasks_setTask ht with ⟨-, rfl⟩ | ⟨-, ht⟩
    · exact ⟨fun _ => rfl, .inl rfl⟩
    · cases ht
  first := ⟨⟨e, .queued, []⟩, Bus.tasks_setTask_self { registry := reg } 1 _, rfl, rfl⟩
  others i t ht := by
    rcases Bus.of_tasks_setTask ht with ⟨rfl, -⟩ | ⟨-, ht⟩
    · exact .inl rfl
    · cases ht

theorem Contained.step (hs : Contained maxRetries fails reg e s)
    (hchain : ¬Chained maxRetries fails reg e) (hok : s.Consequential fails a)
    (h : step maxRetries s a = some s') : Contained maxRetries fails reg e s' := by
  obtain ⟨t1, ht1, he, hseq⟩ := hs.first
  obtain ⟨hreg, hcons⟩ := Consequence.of_step hok h fun i t ht => hs.registry ▸ hs.fits i t ht
  rw [hs.registry] at hreg
  cases hcons with
  | quiet i t t' ht htasks hseq' hevent hfits hraised =>
    rw [hs.registry] at hfits
    refine ⟨hreg, fun j u hu => ?_, ?_, fun j u hu => ?_⟩
    · rw [htasks] at hu
      rcases Bus.of_tasks_setTask hu with ⟨-, rfl⟩ | ⟨-, hu⟩
      · exact hfits
      · exact hs.fits j u hu
    · by_cases hi : i = 1
      · subst hi
        obtain rfl : t = t1 := mem_unique ht ht1
        exact ⟨t', by rw [htasks, Bus.tasks_setTask_self], hevent.trans he, by omega⟩
      · exact ⟨t1, by rw [htasks, Bus.tasks_setTask_of_ne _ _ (Ne.symm hi), ht1], he, by omega⟩
    · rw [htasks] at hu
      rw [hseq']
      rcases Bus.of_tasks_setTask hu with ⟨rfl, rfl⟩ | ⟨-, hu⟩
      · rw [hevent]
        exact hs.others j t ht
      · exact hs.others j u hu
  | letter i t t' id ht htasks hseq' hevent hfits hraised hretries hfailed =>
    rw [hs.registry] at hfits hfailed
    -- the task that raised is the first: the others are of dead letters, whose handlers do not fail
    obtain rfl : i = 1 := by
      rcases hs.others i t ht with hi | ⟨-, hname, -, hfirst⟩
      · exact hi
      · rw [hname] at hfailed
        exact absurd ⟨hretries, hfirst, hfailed⟩ hchain
    obtain rfl : t = t1 := mem_unique ht ht1
    have hnew : ∀ j u, s'.tasks j = some u →
        j = s.sequence + 1 ∧ u = ⟨⟨id, deadLetterName⟩, .queued, []⟩ ∨ j = 1 ∧ u = t' ∨
          s.tasks j = some u := by
      intro j u hu
      rw [htasks] at hu
      rcases Bus.of_tasks_setTask hu with ⟨rfl, rfl⟩ | ⟨-, hu⟩
      · exact .inl ⟨rfl, rfl⟩
      · rcases Bus.of_tasks_setTask hu with ⟨rfl, rfl⟩ | ⟨-, hu⟩
        · exact .inr (.inl ⟨rfl, rfl⟩)
        · exact .inr (.inr hu)
    refine ⟨hreg, fun j u hu => ?_, ⟨t', ?_, hevent.trans he, by omega⟩, fun j u hu => ?_⟩
    · rcases hnew j u hu with ⟨-, rfl⟩ | ⟨-, rfl⟩ | hu
      · exact ⟨fun _ => rfl, .inl rfl⟩
      · exact hfits
      · exact hs.fits j u hu
    · rw [htasks, Bus.deadLetter, Bus.publish]
      exact (Bus.tasks_setTask_of_ne _ _ (by simp [Bus.setTask]; omega)).trans
        (Bus.tasks_setTask_self _ _ _)
    · rw [he] at hfailed
      rcases hnew j u hu with ⟨rfl, rfl⟩ | ⟨rfl, -⟩ | hu
      · exact .inr ⟨by omega, rfl, hretries, hfailed⟩
      · exact .inl rfl
      · rcases hs.others j u hu with hj | ⟨hj, hname, -, hfirst⟩
        · exact .inl hj
        · exact .inr ⟨by omega, hname, hretries, hfirst⟩

/-- **Without a chain there is at most one dead letter for each handler of the event.** -/
theorem published_le {acts : List (Act H)} (hchain : ¬Chained maxRetries fails reg e)
    (hrun : Run (TakesWhen (Bus.Consequential fails) (step maxRetries))
      (Bus.publish { registry := reg } e) acts s) :
    s.sequence ≤ 1 + (reg.getHandlers e.eventName).length := by
  have hs : Contained maxRetries fails reg e s :=
    hrun.invariant (fun _ _ _ hs h => hs.step hchain h.1 h.2) (contained_publish _ _ _ _)
  obtain ⟨t, ht, rfl, hseq⟩ := hs.first
  have hle := (hs.fits 1 t ht).raised_le
  omega

/-! ### The chain -/

/-- The next event has been published, and waits. -/
structure Announces (s s' : Bus H) (next : Event) : Prop where
  registry : s'.registry = s.registry
  processed : s'.processed = s.processed
  sequence : s'.sequence = s.sequence + 1
  waits : s'.tasks (s.sequence + 1) = some ⟨next, .queued, []⟩

variable {t : DispatchTask H}

theorem takes_attempt (maxRetries : ℕ) {i k n : ℕ} {h : H} (id : String) (ht : s.tasks i = some t)
    (hphase : t.phase = .running) (hk : t.runs[k]? = some ⟨h, .attempting n⟩)
    (hfails : fails h t.event.eventName) :
    TakesWhen (Bus.Consequential fails) (step maxRetries) (.attempt i k .failed id) s
      (s.attempt maxRetries i k t ⟨h, .attempting n⟩ n id .failed) := by
  refine ⟨fun u hu r hr => ?_, by simp [step, ht, hphase, hk]⟩
  obtain rfl : t = u := mem_unique ht hu
  obtain rfl : ⟨h, .attempting n⟩ = r := mem_unique hk hr
  exact hfails

/-- A call that may fail fails until its dead letter is published. -/
theorem exists_run_attempts {i k n d : ℕ} {h : H} (id : String) (ht : s.tasks i = some t)
    (hphase : t.phase = .running) (hk : t.runs[k]? = some ⟨h, .attempting n⟩)
    (hfails : fails h t.event.eventName) (hd : maxRetries = n + 1 + d) :
    ∃ acts s', Run (TakesWhen (Bus.Consequential fails) (step maxRetries)) s acts s' ∧
      Announces s s' ⟨id, deadLetterName⟩ := by
  -- the induction is on the attempts left after this one
  induction d generalizing s t n with
  | zero =>
    have hstep := takes_attempt maxRetries id ht hphase hk hfails
    rw [Bus.attempt, if_pos (by omega)] at hstep
    exact ⟨_, _, .cons hstep (.nil _), ⟨rfl, rfl, rfl, Bus.tasks_setTask_self _ _ _⟩⟩
  | succ d ih =>
    have hstep := takes_attempt maxRetries id ht hphase hk hfails
    rw [Bus.attempt, if_neg (by omega)] at hstep
    have hset : (t.runs.set k ⟨h, .attempting (n + 1)⟩)[k]? = some ⟨h, .attempting (n + 1)⟩ := by
      simp [getElem?_set_self (List.getElem?_eq_some_iff.1 hk).1]
    obtain ⟨acts, s', hrun, hnext⟩ := ih
      (Bus.tasks_setTask_self s i { t with runs := t.runs.set k ⟨h, .attempting (n + 1)⟩ })
      hphase hset hfails (by omega)
    exact ⟨_, s', .cons hstep hrun, { hnext with }⟩

/-- **A link of the chain**: an event that waits and one of whose handlers may fail leads to a dead
letter that waits. -/
theorem exists_run_announces {ev : Event} (hretries : 0 < maxRetries)
    (hwaits : s.tasks s.sequence = some ⟨ev, .queued, []⟩) (hprocessed : s.processed = [])
    (hfails : ∃ h ∈ s.registry.getHandlers ev.eventName, fails h ev.eventName) (id : String) :
    ∃ acts s', Run (TakesWhen (Bus.Consequential fails) (step maxRetries)) s acts s' ∧
      Announces s s' ⟨id, deadLetterName⟩ := by
  obtain ⟨h, hmem, hfails⟩ := hfails
  obtain ⟨k, hk⟩ := mem_iff_getElem?.1 hmem
  set checked : Bus H := s.setTask s.sequence ⟨ev, .checked, []⟩ with hchecked
  set started : Bus H := checked.setTask s.sequence
    ⟨ev, .running, (s.registry.getHandlers ev.eventName).map (beginRun maxRetries)⟩ with hstarted
  have hcheck : step maxRetries s (.check s.sequence) = some checked := by
    simp [step, hwaits, hprocessed, hchecked]
  have hstart : step maxRetries checked (.start s.sequence) = some started := by
    simp [step, hchecked, hstarted, Bus.tasks_setTask_self]
    rfl
  have hrun : ((s.registry.getHandlers ev.eventName).map (beginRun maxRetries))[k]? =
      some ⟨h, .attempting 0⟩ := by
    simp [hk, beginRun, Nat.pos_iff_ne_zero.1 hretries]
  have hleft : maxRetries = 0 + 1 + (maxRetries - 1) := by omega
  have htask := Bus.tasks_setTask_self checked s.sequence
    ⟨ev, .running, (s.registry.getHandlers ev.eventName).map (beginRun maxRetries)⟩
  obtain ⟨acts, s', hacts, hnext⟩ := exists_run_attempts id htask rfl hrun hfails hleft
  exact ⟨.check s.sequence :: .start s.sequence :: acts, s',
    .cons ⟨trivial, hcheck⟩ (.cons ⟨trivial, hstart⟩ hacts), { hnext with }⟩

/-- **With a chain there are as many events as one likes.** -/
theorem exists_run_published (hchain : Chained maxRetries fails reg e) (n : ℕ) :
    ∃ acts s, Run (TakesWhen (Bus.Consequential fails) (step maxRetries))
      (Bus.publish { registry := reg } e) acts s ∧ s.sequence = n + 1 := by
  obtain ⟨hretries, hfirst, hletters⟩ := hchain
  -- the last event waits, and one of its handlers may fail: the link is used once more
  suffices ∃ acts s ev, Run (TakesWhen (Bus.Consequential fails) (step maxRetries))
      (Bus.publish { registry := reg } e) acts s ∧ s.sequence = n + 1 ∧ s.registry = reg ∧
      s.processed = [] ∧ s.tasks s.sequence = some ⟨ev, .queued, []⟩ ∧
      ∃ h ∈ reg.getHandlers ev.eventName, fails h ev.eventName by
    obtain ⟨acts, s, -, hrun, hseq, -⟩ := this
    exact ⟨acts, s, hrun, hseq⟩
  induction n with
  | zero =>
    exact ⟨[], _, e, .nil _, rfl, rfl, rfl, Bus.tasks_setTask_self { registry := reg } 1 _, hfirst⟩
  | succ n ih =>
    obtain ⟨acts, s, ev, hrun, hseq, rfl, hprocessed, hwaits, hfails⟩ := ih
    obtain ⟨acts', s', hrun', hnext⟩ :=
      exists_run_announces hretries hwaits hprocessed hfails (toString n)
    refine ⟨_, s', ⟨toString n, deadLetterName⟩, hrun.append hrun', by rw [hnext.sequence, hseq],
      hnext.registry, hnext.processed.trans hprocessed, ?_, hletters⟩
    rw [hnext.sequence]
    exact hnext.waits

/-- **The number of events is bounded exactly if there is no chain**, and then it is by the number of
handlers of the event. -/
theorem published_bounded_iff (maxRetries : ℕ) (fails : H → String → Prop) (reg : Registry H)
    (e : Event) :
    ((∃ bound, ∀ acts s, Run (TakesWhen (Bus.Consequential fails) (step maxRetries))
        (Bus.publish { registry := reg } e) acts s → s.sequence ≤ bound) ↔
      ¬Chained maxRetries fails reg e) ∧
    ((∀ acts s, Run (TakesWhen (Bus.Consequential fails) (step maxRetries))
        (Bus.publish { registry := reg } e) acts s →
        s.sequence ≤ 1 + (reg.getHandlers e.eventName).length) ↔
      ¬Chained maxRetries fails reg e) := by
  have hunbounded : ∀ bound, Chained maxRetries fails reg e →
      ¬∀ acts s, Run (TakesWhen (Bus.Consequential fails) (step maxRetries))
        (Bus.publish { registry := reg } e) acts s → s.sequence ≤ bound := by
    intro bound hchain hle
    obtain ⟨acts, s, hrun, hseq⟩ := exists_run_published hchain bound
    have := hle acts s hrun
    omega
  exact ⟨⟨fun ⟨bound, hle⟩ hchain => hunbounded bound hchain hle,
    fun hchain => ⟨_, fun _ _ => published_le hchain⟩⟩,
    ⟨fun hle hchain => hunbounded _ hchain hle, fun hchain _ _ => published_le hchain⟩⟩

/-- One handler for all events that always fails, so also on the dead letters about itself. -/
def sampleAuditor : Registry ℕ := { allEventHandlers := [0] }

/-- Three attempts of the handler, on the event and on each of the dead letters. -/
def sampleCascade (n : ℕ) : List (Act ℕ) :=
  (List.range n).flatMap fun i =>
    [.check (i + 1), .start (i + 1)] ++
      List.replicate 3 (.attempt (i + 1) 0 .failed ("d" ++ toString i))

/-- **A handler that always fails is enough for an unbounded number of events.** -/
theorem auditor_published_unbounded :
    (∀ bound, ∃ acts s, Run (TakesWhen (Bus.Consequential fun _ _ => True) (step 3))
      (Bus.publish { registry := sampleAuditor } ⟨"e1", "task.created"⟩) acts s ∧
        bound < s.sequence) ∧
    (exec (step 3) (Bus.publish { registry := sampleAuditor } ⟨"e1", "task.created"⟩)
      (sampleCascade 4)).map (·.sequence) = some 5 := by
  refine ⟨fun bound => ?_, by decide⟩
  have hchain : Chained 3 (fun _ _ => True) sampleAuditor ⟨"e1", "task.created"⟩ :=
    ⟨by decide, ⟨0, by decide, trivial⟩, ⟨0, by decide, trivial⟩⟩
  obtain ⟨acts, s, hrun, hseq⟩ := exists_run_published hchain bound
  exact ⟨acts, s, hrun, by omega⟩

end AssistantRuntime.EventBus
