/-
**The registry of connections.**

The life cycle of a connection is kept apart from its socket.  `ConnectionLifecycleRegistry` knows in
which state a connection is, `ConnectionRegistry` adds the sockets and the sessions and drops a socket
when its connection is disconnected, removed or evicted.  An evicted connection is only `STALE`, and
from there a heartbeat or an activation makes it `ACTIVE` again.  Nothing gives it a socket again.

Main results:

* `active_connections_reachable_iff` — **along a run every `ACTIVE` connection has the socket it was
  registered with, and none whose socket was dropped is `ACTIVE` again, exactly when no operation of
  the run revives a `STALE` connection**;
* `active_without_socket` — a heartbeat that comes after the eviction.
-/

import Mathlib.Data.Int.Notation
import Mathlib.Data.List.Induction
import Mathlib.Data.Nat.Notation
import Mathlib.Logic.Function.Basic

namespace AssistantRuntime.Connection

open Option Function

/-! ### States -/

inductive ConnectionState
  | registered
  | active
  | stale
  | disconnected
  | removed
  deriving DecidableEq

def ConnectionState.allowedTransitions : ConnectionState → List ConnectionState
  | registered => [active, disconnected, removed]
  | active => [stale, disconnected, removed]
  | stale => [active, disconnected, removed]
  | disconnected => [removed]
  | removed => []

/-- `ConnectionSnapshot`, without the metadata that no operation reads. -/
structure ConnectionSnapshot where
  connectionId : String
  sessionId : String
  userId : String
  state : ConnectionState := .registered
  connectedAt : ℤ
  lastHeartbeatAt : ℤ
  staleAfterSeconds : ℤ
  deriving DecidableEq

inductive ConnectionError
  | reused (connectionId : String)
  | notFound (connectionId : String)
  | invalidTransition (current new : ConnectionState)
  | heartbeatRefused (current : ConnectionState) (connectionId : String)
  deriving DecidableEq

/-! ### The life cycle registry -/

/-- `ConnectionLifecycleRegistry`. -/
structure Lifecycle where
  staleAfterSeconds : ℤ := 90
  connections : String → Option ConnectionSnapshot := fun _ => none

def ConnectionSnapshot.transition (current : ConnectionSnapshot) (new : ConnectionState) :
    Except ConnectionError ConnectionSnapshot :=
  if current.state = new then .ok current
  else if new ∈ current.state.allowedTransitions then .ok { current with state := new }
  else .error (.invalidTransition current.state new)

def ConnectionSnapshot.Expired (current : ConnectionSnapshot) (now : ℤ) : Prop :=
  current.state = .active ∧ current.staleAfterSeconds ≤ now - current.lastHeartbeatAt
  deriving Decidable

namespace Lifecycle

def get (l : Lifecycle) (connectionId : String) : Except ConnectionError ConnectionSnapshot :=
  match l.connections connectionId with
  | some current => .ok current
  | none => .error (.notFound connectionId)

def store (l : Lifecycle) (connectionId : String) (snapshot : ConnectionSnapshot) : Lifecycle :=
  { l with connections := update l.connections connectionId (some snapshot) }

def register (l : Lifecycle) (connectionId sessionId userId : String) (now : ℤ) :
    Except ConnectionError (ConnectionSnapshot × Lifecycle) :=
  match l.connections connectionId with
  | some _ => .error (.reused connectionId)
  | none =>
    let snapshot : ConnectionSnapshot :=
      { connectionId, sessionId, userId, connectedAt := now, lastHeartbeatAt := now,
        staleAfterSeconds := l.staleAfterSeconds }
    .ok (snapshot, l.store connectionId snapshot)

/-- `transition`, and with it `activate`, `disconnect` and `remove`, as the registry of sockets calls
them: without a time. -/
def transition (l : Lifecycle) (connectionId : String) (new : ConnectionState) :
    Except ConnectionError (ConnectionSnapshot × Lifecycle) := do
  let current ← l.get connectionId
  let updated ← current.transition new
  pure (updated, l.store connectionId updated)

def heartbeat (l : Lifecycle) (connectionId : String) (now : ℤ) :
    Except ConnectionError (ConnectionSnapshot × Lifecycle) := do
  let current ← l.get connectionId
  if current.state = .active ∨ current.state = .stale then
    let updated := { current with state := .active, lastHeartbeatAt := now }
    pure (updated, l.store connectionId updated)
  else throw (.heartbeatRefused current.state connectionId)

/-- `evict_stale`: every `ACTIVE` connection without a recent heartbeat becomes `STALE`. -/
def evictStale (l : Lifecycle) (now : ℤ) : Lifecycle :=
  { l with connections := fun connectionId => (l.connections connectionId).map fun current =>
      if current.Expired now then { current with state := .stale } else current }

end Lifecycle

/-! ### The registry with sockets -/

variable {S : Type}

/-- `ConnectionRegistry`. -/
structure Registry (S : Type) where
  lifecycle : Lifecycle := {}
  sockets : String → Option S := fun _ => none
  sessionToConnection : String → Option String := fun _ => none
  connectionToSession : String → Option String := fun _ => none

namespace Registry

def dropSocket (r : Registry S) (connectionId : String) : Registry S :=
  { r with sockets := update r.sockets connectionId none }

def register (r : Registry S) (sessionId userId : String) (socket : Option S)
    (connectionId : String) (now : ℤ) :
    Except ConnectionError (ConnectionSnapshot × Registry S) := do
  let (snapshot, lifecycle) ← r.lifecycle.register connectionId sessionId userId now
  pure (snapshot,
    { lifecycle
      sockets := match socket with
        | some x => update r.sockets connectionId (some x)
        | none => r.sockets
      sessionToConnection := update r.sessionToConnection sessionId (some connectionId)
      connectionToSession := update r.connectionToSession connectionId (some sessionId) })

def activate (r : Registry S) (connectionId : String) :
    Except ConnectionError (ConnectionSnapshot × Registry S) := do
  let (snapshot, lifecycle) ← r.lifecycle.transition connectionId .active
  pure (snapshot, { r with lifecycle })

def heartbeat (r : Registry S) (connectionId : String) (now : ℤ) :
    Except ConnectionError (ConnectionSnapshot × Registry S) := do
  let (snapshot, lifecycle) ← r.lifecycle.heartbeat connectionId now
  pure (snapshot, { r with lifecycle })

def disconnect (r : Registry S) (connectionId : String) :
    Except ConnectionError (ConnectionSnapshot × Registry S) := do
  let (snapshot, lifecycle) ← r.lifecycle.transition connectionId .disconnected
  pure (snapshot, { r with lifecycle }.dropSocket connectionId)

def dropSession (r : Registry S) (connectionId : String) : Registry S :=
  match r.connectionToSession connectionId with
  | none => r
  | some sessionId =>
    { r with
      connectionToSession := update r.connectionToSession connectionId none
      sessionToConnection := update r.sessionToConnection sessionId none }

def unregister (r : Registry S) (connectionId : String) :
    Except ConnectionError (ConnectionSnapshot × Registry S) := do
  let (snapshot, lifecycle) ← r.lifecycle.transition connectionId .removed
  pure (snapshot, ({ r with lifecycle }.dropSocket connectionId).dropSession connectionId)

/-- The connection is `ACTIVE` and its heartbeat is overdue. -/
def Evictable (r : Registry S) (now : ℤ) (connectionId : String) : Prop :=
  ∃ current ∈ r.lifecycle.connections connectionId, current.Expired now
  deriving Decidable

/-- `evict_stale`: the sockets of the connections that became `STALE` are dropped. -/
def evictStale (r : Registry S) (now : ℤ) : Registry S :=
  { r with
    lifecycle := r.lifecycle.evictStale now
    sockets := fun connectionId =>
      if r.Evictable now connectionId then none else r.sockets connectionId }

end Registry

/-! ### Runs -/

/-- The operations on the registry.  Every connection is registered with a socket; `close` is
`unregister`. -/
inductive Op (S : Type)
  | register (sessionId userId : String) (socket : S) (connectionId : String) (now : ℤ)
  | activate (connectionId : String)
  | heartbeat (connectionId : String) (now : ℤ)
  | evictStale (now : ℤ)
  | disconnect (connectionId : String)
  | close (connectionId : String)

/-- The registry, with a record of the socket that each connection was registered with. -/
structure World (S : Type) where
  registry : Registry S := {}
  registeredWith : String → Option S := fun _ => none

namespace World

def keep (w : World S) : Except ConnectionError (ConnectionSnapshot × Registry S) → World S
  | .ok (_, r) => { w with registry := r }
  | .error _ => w

def apply (w : World S) : Op S → World S
  | .register sessionId userId socket connectionId now =>
    match w.registry.register sessionId userId (some socket) connectionId now with
    | .ok (_, r) =>
      { registry := r
        registeredWith := update w.registeredWith connectionId (some socket) }
    | .error _ => w
  | .activate connectionId => w.keep (w.registry.activate connectionId)
  | .heartbeat connectionId now => w.keep (w.registry.heartbeat connectionId now)
  | .evictStale now => { w with registry := w.registry.evictStale now }
  | .disconnect connectionId => w.keep (w.registry.disconnect connectionId)
  | .close connectionId => w.keep (w.registry.unregister connectionId)

def after (w : World S) (ops : List (Op S)) : World S := ops.foldl apply w

def state (w : World S) (connectionId : String) : Option ConnectionState :=
  (w.registry.lifecycle.connections connectionId).map (·.state)

/-- Every `ACTIVE` connection has the socket that it was registered with. -/
def ActiveReachable (w : World S) : Prop :=
  ∀ c, w.state c = some .active → ∃ x, w.registeredWith c = some x ∧ w.registry.sockets c = some x

/-- The connection was registered, and its socket is gone. -/
def Dropped (w : World S) (c : String) : Prop := w.state c ≠ none ∧ w.registry.sockets c = none

/-- The operation makes a `STALE` connection `ACTIVE`. -/
def Revives (w : World S) : Op S → Prop
  | .activate c => w.state c = some .stale
  | .heartbeat c _ => w.state c = some .stale
  | _ => False

end World

/-! ### What an operation does to one connection -/

/-- What is known of one connection. -/
structure View (S : Type) where
  state : Option ConnectionState
  socket : Option S
  bound : Option S

/-- What is known of the connection in the registry. -/
def World.view (w : World S) (c : String) : View S :=
  ⟨w.state c, w.registry.sockets c, w.registeredWith c⟩

/-- **The changes of a connection**, where `revived` says whether it may come back from `STALE`. -/
inductive Change (revived : Prop) : View S → View S → Prop
  | same (v : View S) : Change revived v v
  | registered (x : S) (y z : Option S) :
      Change revived ⟨none, y, z⟩ ⟨some .registered, some x, some x⟩
  | activated (a : ConnectionState) (y z : Option S)
      (h : a = .registered ∨ a = .active ∨ a = .stale ∧ revived) :
      Change revived ⟨some a, y, z⟩ ⟨some .active, y, z⟩
  | dropped (a b : ConnectionState) (y z : Option S)
      (h : b = .stale ∨ b = .disconnected ∨ b = .removed) :
      Change revived ⟨some a, y, z⟩ ⟨some b, none, z⟩

namespace Lifecycle

variable {l l' : Lifecycle} {c d : String} {snapshot : ConnectionSnapshot}

theorem connections_store_self : (l.store c snapshot).connections c = some snapshot := by
  simp [store]

theorem connections_store_of_ne (h : d ≠ c) :
    (l.store c snapshot).connections d = l.connections d := by
  simp [store, h]

theorem register_ok {sessionId userId : String} {now : ℤ}
    (h : l.register c sessionId userId now = .ok (snapshot, l')) :
    l.connections c = none ∧ l' = l.store c snapshot ∧ snapshot.state = .registered := by
  unfold register at h
  split at h
  · cases h
  · next hnone =>
    cases h
    exact ⟨hnone, rfl, rfl⟩

theorem transition_ok {new : ConnectionState} (h : l.transition c new = .ok (snapshot, l')) :
    ∃ current, l.connections c = some current ∧ l' = l.store c snapshot ∧ snapshot.state = new ∧
      (current.state = new ∨ new ∈ current.state.allowedTransitions) := by
  unfold transition get at h
  split at h
  · next current hc =>
    refine ⟨current, hc, ?_⟩
    change (current.transition new >>= _) = _ at h
    unfold ConnectionSnapshot.transition at h
    split at h
    · next hsame =>
      cases h
      exact ⟨rfl, hsame, .inl hsame⟩
    · split at h
      · next hallowed =>
        cases h
        exact ⟨rfl, rfl, .inr hallowed⟩
      · cases h
  · cases h

theorem heartbeat_ok {now : ℤ} (h : l.heartbeat c now = .ok (snapshot, l')) :
    ∃ current, l.connections c = some current ∧ l' = l.store c snapshot ∧
      snapshot.state = .active ∧ (current.state = .active ∨ current.state = .stale) := by
  unfold heartbeat get at h
  split at h
  · next current hc =>
    refine ⟨current, hc, ?_⟩
    change (if current.state = .active ∨ current.state = .stale then _ else _) = _ at h
    split at h
    · next hstate =>
      cases h
      exact ⟨rfl, rfl, hstate⟩
    · cases h
  · cases h

end Lifecycle

namespace World

variable {w : World S} {c d : String}

theorem state_of_connections {current : ConnectionSnapshot} {a : ConnectionState}
    (h : w.registry.lifecycle.connections c = some current) (ha : current.state = a) :
    w.state c = some a := by
  simp [state, h, ha]

theorem change_register (w : World S) (sessionId userId : String) (x : S) (c : String) (now : ℤ)
    (d : String) :
    Change False (w.view d) ((w.apply (.register sessionId userId x c now)).view d) := by
  cases hreg : w.registry.lifecycle.register c sessionId userId now with
  | error e =>
    simp only [apply, Registry.register, hreg, bind, Except.bind]
    exact .same _
  | ok p =>
    obtain ⟨snapshot, l'⟩ := p
    obtain ⟨hnone, rfl, hstate⟩ := Lifecycle.register_ok hreg
    simp only [apply, Registry.register, hreg, bind, Except.bind, pure, Except.pure]
    by_cases hd : d = c
    · subst hd
      simp only [view, state, hnone, Lifecycle.connections_store_self, update_self,
        map_none, map_some, hstate]
      exact .registered x _ _
    · simp only [view, state, Lifecycle.connections_store_of_ne hd, update_of_ne hd]
      exact .same _

variable {current snapshot : ConnectionSnapshot} {revived : Prop}

/-- An operation that the life cycle refuses changes nothing. -/
theorem change_keep {x : Except ConnectionError (ConnectionSnapshot × Lifecycle)}
    {f : ConnectionSnapshot × Lifecycle → Except ConnectionError (ConnectionSnapshot × Registry S)}
    (h : ∀ snapshot l', x = .ok (snapshot, l') →
      Change revived (w.view d) ((w.keep (f (snapshot, l'))).view d)) :
    Change revived (w.view d) ((w.keep (x >>= f)).view d) := by
  cases x with
  | error e => exact .same _
  | ok p => exact h _ _ rfl

theorem change_store (hc : w.registry.lifecycle.connections c = some current)
    (hactive : snapshot.state = .active)
    (hfrom : current.state = .registered ∨ current.state = .active ∨ current.state = .stale ∧
      revived)
    (d : String) : Change revived (w.view d)
      (view { w with registry.lifecycle := w.registry.lifecycle.store c snapshot } d) := by
  by_cases hd : d = c
  · subst hd
    simp only [view, state, hc, Lifecycle.connections_store_self, map_some, hactive]
    exact .activated _ _ _ hfrom
  · simp only [view, state, Lifecycle.connections_store_of_ne hd]
    exact .same _

theorem change_activate (w : World S) (c d : String) :
    Change (w.Revives (.activate c)) (w.view d) ((w.apply (.activate c)).view d) := by
  refine change_keep fun snapshot l' htr => ?_
  obtain ⟨current, hc, rfl, hnew, hfrom⟩ := Lifecycle.transition_ok htr
  refine change_store hc hnew ?_ d
  cases hstate : current.state with
  | registered => exact .inl rfl
  | active => exact .inr (.inl rfl)
  | stale => exact .inr (.inr ⟨rfl, state_of_connections hc hstate⟩)
  | disconnected | removed => simp [hstate, ConnectionState.allowedTransitions] at hfrom

theorem change_heartbeat (w : World S) (c : String) (now : ℤ) (d : String) :
    Change (w.Revives (.heartbeat c now)) (w.view d) ((w.apply (.heartbeat c now)).view d) := by
  refine change_keep fun snapshot l' hbeat => ?_
  obtain ⟨current, hc, rfl, hnew, hfrom⟩ := Lifecycle.heartbeat_ok hbeat
  refine change_store hc hnew ?_ d
  rcases hfrom with hactive | hstale
  · exact .inr (.inl hactive)
  · exact .inr (.inr ⟨hstale, state_of_connections hc hstale⟩)

theorem change_drop (hc : w.registry.lifecycle.connections c = some current)
    (hstate : snapshot.state = .disconnected ∨ snapshot.state = .removed) (d : String) :
    Change False (w.view d)
      (view { w with
        registry := ({ w.registry with
          lifecycle := w.registry.lifecycle.store c snapshot } : Registry S).dropSocket c } d) := by
  by_cases hd : d = c
  · subst hd
    simp only [view, state, Registry.dropSocket, hc, Lifecycle.connections_store_self,
      map_some, update_self]
    exact .dropped _ _ _ _ (.inr hstate)
  · simp only [view, state, Registry.dropSocket, Lifecycle.connections_store_of_ne hd,
      update_of_ne hd]
    exact .same _

theorem change_disconnect (w : World S) (c d : String) :
    Change False (w.view d) ((w.apply (.disconnect c)).view d) := by
  refine change_keep fun snapshot l' htr => ?_
  obtain ⟨current, hc, rfl, hnew, -⟩ := Lifecycle.transition_ok htr
  exact change_drop hc (.inl hnew) d

theorem view_dropSession (r : Registry S) (c d : String) :
    view { w with registry := r.dropSession c } d = view { w with registry := r } d := by
  unfold Registry.dropSession
  split <;> rfl

theorem change_close (w : World S) (c d : String) :
    Change False (w.view d) ((w.apply (.close c)).view d) := by
  refine change_keep fun snapshot l' htr => ?_
  obtain ⟨current, hc, rfl, hnew, -⟩ := Lifecycle.transition_ok htr
  simp only [keep, pure, Except.pure, view_dropSession]
  exact change_drop hc (.inr hnew) d

theorem change_evictStale (w : World S) (now : ℤ) (d : String) :
    Change False (w.view d) ((w.apply (.evictStale now)).view d) := by
  simp only [apply, view, state, Registry.evictStale, Lifecycle.evictStale]
  cases hd : w.registry.lifecycle.connections d with
  | none =>
    have hkept : ¬ w.registry.Evictable now d := by simp [Registry.Evictable, hd]
    simp only [hkept, map_none, if_false]
    exact .same _
  | some current =>
    by_cases hexp : current.Expired now
    · have hevict : w.registry.Evictable now d := ⟨current, hd, hexp⟩
      simp only [hevict, hexp, map_some, if_true]
      exact .dropped _ _ _ _ (.inl rfl)
    · have hkept : ¬ w.registry.Evictable now d := by simp [Registry.Evictable, hd, hexp]
      simp only [hkept, hexp, map_some, if_false]
      exact .same _

/-- **Every operation changes each connection in one of the listed ways.** -/
theorem change (w : World S) (op : Op S) (d : String) :
    Change (w.Revives op) (w.view d) ((w.apply op).view d) := by
  cases op with
  | register sessionId userId x c now => exact w.change_register sessionId userId x c now d
  | activate c => exact w.change_activate c d
  | heartbeat c now => exact w.change_heartbeat c now d
  | evictStale now => exact w.change_evictStale now d
  | disconnect c => exact w.change_disconnect c d
  | close c => exact w.change_close c d

/-! ### Invariants -/

/-- What holds of a connection at all times: a socket is missing in every state past `ACTIVE`, and a
connection that is known was registered with a socket. -/
def Kept (v : View S) : Prop :=
  (v.state = some .stale ∨ v.state = some .disconnected ∨ v.state = some .removed →
    v.socket = none) ∧ (v.state ≠ none → v.bound ≠ none)

/-- A connection that is or may become `ACTIVE` has its socket. -/
def Bound (v : View S) : Prop :=
  v.state = some .registered ∨ v.state = some .active → v.socket = v.bound

theorem Kept.change {revived : Prop} {v v' : View S} (h : Change revived v v') (hv : Kept v) :
    Kept v' := by
  cases h with
  | same => exact hv
  | registered x y z => simp [Kept]
  | activated a y z hfrom => exact ⟨by simp, fun _ => hv.2 (by simp)⟩
  | dropped a b y z hto => exact ⟨fun _ => rfl, fun _ => hv.2 (by simp)⟩

theorem Bound.change {v v' : View S} (h : Change False v v') (hv : Bound v) : Bound v' := by
  cases h with
  | same => exact hv
  | registered x y z => simp [Bound]
  | activated a y z hfrom =>
    intro _
    refine hv ?_
    rcases hfrom with rfl | rfl | ⟨-, hno⟩
    · exact .inl rfl
    · exact .inr rfl
    · exact hno.elim
  | dropped a b y z hto =>
    rintro (hb | hb) <;> cases hb <;> simp at hto

/-- A socket that was dropped does not come back. -/
theorem Dropped.apply {op : Op S} (h : w.Dropped c) : (w.apply op).Dropped c := by
  have hchange := w.change op c
  have hv : (w.view c).state ≠ none ∧ (w.view c).socket = none := h
  show ((w.apply op).view c).state ≠ none ∧ ((w.apply op).view c).socket = none
  revert hchange hv
  generalize w.view c = v
  generalize (w.apply op).view c = v'
  intro hchange hv
  cases hchange with
  | same => exact hv
  | registered x y z => exact absurd rfl hv.1
  | activated a y z hfrom => exact ⟨by simp, hv.2⟩
  | dropped a b y z hto => exact ⟨by simp, rfl⟩

variable {ops : List (Op S)}

theorem Dropped.after (h : w.Dropped c) : (w.after ops).Dropped c := by
  induction ops generalizing w with
  | nil => exact h
  | cons op ops ih => exact ih h.apply

theorem after_append (w : World S) (ops ops' : List (Op S)) :
    w.after (ops ++ ops') = (w.after ops).after ops' := List.foldl_append

theorem kept_after (ops : List (Op S)) (c : String) : Kept ((({} : World S).after ops).view c) := by
  induction ops using List.reverseRecOn with
  | nil => simp [Kept, after, view, state]
  | append_singleton ops op ih =>
    rw [after_append]
    exact ih.change (change _ op c)

/-- Without revivals a connection that may be `ACTIVE` has its socket. -/
theorem bound_after
    (h : ∀ pre op post, ops = pre ++ op :: post → ¬ (({} : World S).after pre).Revives op)
    (c : String) : Bound ((({} : World S).after ops).view c) := by
  induction ops using List.reverseRecOn with
  | nil => simp [Bound, after, view, state]
  | append_singleton ops op ih =>
    have hold : Bound ((({} : World S).after ops).view c) := by
      refine ih ?_
      rintro pre op' post rfl
      exact h pre op' (post ++ [op]) (by simp)
    have hquiet := h ops op [] rfl
    have hchange := change (({} : World S).after ops) op c
    rw [eq_false hquiet] at hchange
    rw [after_append]
    exact hold.change hchange

theorem activeReachable_of_bound (hkept : ∀ c, Kept (w.view c)) (hbound : ∀ c, Bound (w.view c)) :
    w.ActiveReachable := by
  intro c hc
  have hsome : w.registeredWith c ≠ none := (hkept c).2 (by simp [view, hc])
  obtain ⟨x, hx⟩ := ne_none_iff_exists'.1 hsome
  have hsocket : w.registry.sockets c = w.registeredWith c := hbound c (.inr hc)
  exact ⟨x, hx, hsocket.trans hx⟩

/-- A connection that comes back from `STALE` is `ACTIVE`, and has no socket. -/
theorem active_of_revives {op : Op S} (hkept : ∀ c, Kept (w.view c)) (h : w.Revives op) :
    ∃ c, (w.apply op).state c = some .active ∧ (w.apply op).registry.sockets c = none := by
  cases op with
  | activate c | heartbeat c now =>
    have hstale : w.state c = some .stale := h
    have hnone : w.registry.sockets c = none := (hkept c).1 (.inl hstale)
    obtain ⟨current, hc, hstate⟩ := map_eq_some_iff.1 hstale
    refine ⟨c, ?_⟩
    simp [apply, Registry.activate, Registry.heartbeat, Lifecycle.transition, Lifecycle.heartbeat,
      Lifecycle.get, hc, ConnectionSnapshot.transition, hstate, ConnectionState.allowedTransitions,
      bind, Except.bind, pure, Except.pure, keep, state, Lifecycle.store, hnone]
  | register | evictStale | disconnect | close => exact h.elim

end World

/-! ### The result -/

/-- **Connections are reachable along a run exactly when it revives none**: in all states of it the
`ACTIVE` connections have the sockets they were registered with, and no connection whose socket was
dropped in one state is `ACTIVE` in a later one. -/
theorem active_connections_reachable_iff (ops : List (Op S)) :
    (∀ pre post, ops = pre ++ post → (({} : World S).after pre).ActiveReachable ∧
      ∀ mid rest, post = mid ++ rest → ∀ c, (({} : World S).after pre).Dropped c →
        (({} : World S).after (pre ++ mid)).state c ≠ some .active) ↔
    ∀ pre op post, ops = pre ++ op :: post → ¬ (({} : World S).after pre).Revives op := by
  constructor
  · rintro h pre op post rfl hrevives
    obtain ⟨c, hactive, hnone⟩ := World.active_of_revives (World.kept_after pre) hrevives
    have hafter := (h (pre ++ [op]) post (by simp)).1
    rw [World.after_append] at hafter
    obtain ⟨x, -, hx⟩ := hafter c hactive
    exact absurd (hnone.symm.trans hx) (by simp)
  · intro h
    have hreach : ∀ pre post, ops = pre ++ post → (({} : World S).after pre).ActiveReachable := by
      rintro pre post rfl
      refine World.activeReachable_of_bound (World.kept_after pre) (World.bound_after ?_)
      rintro pre' op post' rfl
      exact h pre' op (post' ++ post) (by simp)
    intro pre post hops
    refine ⟨hreach pre post hops, ?_⟩
    rintro mid rest rfl c hdropped hactive
    obtain ⟨x, -, hx⟩ := hreach (pre ++ mid) rest (by simp [hops]) c hactive
    rw [World.after_append] at hx
    exact absurd (hdropped.after.2.symm.trans hx) (by simp)

/-- A connection whose heartbeat comes after it was evicted. -/
def sampleLateHeartbeat : List (Op ℕ) :=
  [.register "session" "user" 7 "conn" 0, .activate "conn", .evictStale 90, .heartbeat "conn" 91]

theorem active_without_socket :
    (({} : World ℕ).after sampleLateHeartbeat).state "conn" = some .active ∧
      (({} : World ℕ).after sampleLateHeartbeat).registry.sockets "conn" = none ∧
      (({} : World ℕ).after sampleLateHeartbeat).registeredWith "conn" = some 7 := by
  decide +kernel

end AssistantRuntime.Connection
