import Mapapi.Lib.Runs

/-!
# Brokers

A broker stands between the writers of a store and the subscribers of topics. A
write changes the store and publishes payloads. A payload goes into the queue of
everybody who subscribes to its topic at that moment, and the subscribers take
what waits for them later, one payload after the other.

Who may read a topic is for the store to say. Nobody is about to be given what
they may not read (`Discreet`) exactly as long as no write reaches, or leaves
with a payload that still waits, a subscriber who may not read it after the write
(`discreet_iff`). When every subscription is checked, and no write takes from a
subscriber what it is allowed, no step lapses (`along_not_lapses`).
-/

namespace Lib

/-- What a broker has to know: how a write changes the store and what it
publishes, what a payload is about, and whose credentials a subscription comes
with. -/
structure Broker (σ ω κ υ τ π : Type*) where
  apply : ω → σ → σ
  publishes : ω → σ → List π
  topic : π → τ
  identify : κ → σ → Option υ

namespace Broker

variable {σ ω κ υ τ π χ : Type*}

/-- A subscriber, with the payloads that wait for it: all of them are about its topic. -/
structure Subscriber (B : Broker σ ω κ υ τ π) (χ : Type*) where
  channel : χ
  user : υ
  topic : τ
  queue : List π
  about : ∀ p ∈ queue, B.topic p = topic

structure State (B : Broker σ ω κ υ τ π) (χ : Type*) where
  store : σ
  subscribers : List (B.Subscriber χ)

inductive Event (B : Broker σ ω κ υ τ π) (χ : Type*) where
  | join (channel : χ) (credentials : κ) (topic : τ)
  | leave (channel : χ)
  | take (channel : χ)
  | write (w : ω)

variable {B : Broker σ ω κ υ τ π} [DecidableEq τ]

/-! ## Steps -/

namespace Subscriber

variable (x : B.Subscriber χ) (payloads : List π)

theorem about_enqueue :
    ∀ p ∈ x.queue ++ payloads.filter fun p => decide (B.topic p = x.topic),
      B.topic p = x.topic := by
  intro p hp
  rcases List.mem_append.mp hp with hold | hnew
  · exact x.about p hold
  · exact of_decide_eq_true (List.mem_filter.mp hnew).2

def enqueue : B.Subscriber χ :=
  { x with
    queue := x.queue ++ payloads.filter fun p => decide (B.topic p = x.topic)
    about := x.about_enqueue payloads }

def dequeue : B.Subscriber χ :=
  { x with queue := x.queue.tail, about := fun p hp => x.about p (List.mem_of_mem_tail hp) }

omit [DecidableEq τ] in
@[simp] theorem queue_dequeue : x.dequeue.queue = x.queue.tail := rfl

def fresh (channel : χ) (user : υ) (topic : τ) : B.Subscriber χ where
  channel := channel
  user := user
  topic := topic
  queue := []
  about := fun _ hp => absurd hp List.not_mem_nil

def Reached : Prop := ∃ p ∈ payloads, B.topic p = x.topic

theorem queue_enqueue_ne_nil :
    (x.enqueue payloads).queue ≠ [] ↔ x.queue ≠ [] ∨ x.Reached payloads := by
  unfold enqueue Reached
  rw [ne_eq, List.append_eq_nil_iff, not_and_or, List.filter_eq_nil_iff]
  simp

end Subscriber

variable [DecidableEq χ]

namespace State

/-- A subscription, by whoever the credentials identify; the names of channels are
not given twice. -/
def join (channel : χ) (credentials : κ) (topic : τ) (s : B.State χ) : B.State χ :=
  match B.identify credentials s.store with
  | none => s
  | some user =>
    if s.subscribers.any fun x => decide (x.channel = channel) then s
    else { s with subscribers := .fresh channel user topic :: s.subscribers }

def leave (channel : χ) (s : B.State χ) : B.State χ :=
  { s with subscribers := s.subscribers.filter fun x => decide (x.channel ≠ channel) }

def take (channel : χ) (s : B.State χ) : B.State χ :=
  { s with subscribers := s.subscribers.map fun x =>
      if x.channel = channel then x.dequeue else x }

def write (w : ω) (s : B.State χ) : B.State χ :=
  { store := B.apply w s.store
    subscribers := s.subscribers.map fun x => x.enqueue (B.publishes w s.store) }

def step (s : B.State χ) : B.Event χ → B.State χ
  | .join channel credentials topic => s.join channel credentials topic
  | .leave channel => s.leave channel
  | .take channel => s.take channel
  | .write w => s.write w

variable (allowed : σ → υ → τ → Prop) (s : B.State χ)

/-- Whatever a subscriber takes next, it may read. -/
def Discreet : Prop :=
  ∀ x ∈ s.subscribers, ∀ p, x.queue.head? = some p → allowed s.store x.user (B.topic p)

/-- Whoever has something waiting may read its topic. This is about a
subscriber and not about what waits, so that it can be followed through steps
that neither publish nor deliver. -/
def Guarded : Prop := ∀ x ∈ s.subscribers, x.queue ≠ [] → allowed s.store x.user x.topic

/-- The write reaches a subscriber who may not read its topic afterwards, or leaves
one with a payload that still waits. -/
def Lapses : B.Event χ → Prop
  | .write w => ∃ x ∈ s.subscribers, (x.queue ≠ [] ∨ x.Reached (B.publishes w s.store)) ∧
      ¬ allowed (B.apply w s.store) x.user x.topic
  | _ => False

/-- A subscription of somebody who may read the topic, or a write that takes from no
subscriber what it is allowed. -/
def Checked : B.Event χ → Prop
  | .join _ credentials topic =>
      ∀ user, B.identify credentials s.store = some user → allowed s.store user topic
  | .write w => ∀ x ∈ s.subscribers, allowed s.store x.user x.topic →
      allowed (B.apply w s.store) x.user x.topic
  | _ => True

end State

/-! ## What waits -/

section Waiting

variable {allowed : σ → υ → τ → Prop} {s : B.State χ} {event : B.Event χ}

omit [DecidableEq τ] [DecidableEq χ] in
/-- All that waits for a subscriber is about its topic, the oldest payload too. -/
theorem discreet_iff_guarded : s.Discreet allowed ↔ s.Guarded allowed := by
  constructor
  · intro h x hx hne
    obtain ⟨p, hp⟩ := Option.ne_none_iff_exists'.mp (List.head?_eq_none_iff.not.mpr hne)
    have hallowed := h x hx p hp
    rwa [x.about p (List.mem_of_head? hp)] at hallowed
  · intro h x hx p hp
    rw [x.about p (List.mem_of_head? hp)]
    refine h x hx fun hnil => ?_
    rw [hnil] at hp
    cases hp

omit [DecidableEq τ] in
theorem mem_join {channel : χ} {credentials : κ} {topic : τ} {x : B.Subscriber χ}
    (h : x ∈ (s.join channel credentials topic).subscribers) :
    x ∈ s.subscribers ∨
      ∃ user, B.identify credentials s.store = some user ∧ x = .fresh channel user topic := by
  unfold State.join at h
  split at h
  · exact Or.inl h
  · rename_i user huser
    split at h
    · exact Or.inl h
    · rcases List.mem_cons.mp h with rfl | h
      · exact Or.inr ⟨user, huser, rfl⟩
      · exact Or.inl h

omit [DecidableEq τ] in
theorem store_join {channel : χ} {credentials : κ} {topic : τ} :
    (s.join channel credentials topic).store = s.store := by
  unfold State.join
  split
  · rfl
  · split <;> rfl

omit [DecidableEq χ] in
theorem guarded_write {w : ω} :
    (s.write w).Guarded allowed ↔ ¬ s.Lapses allowed (.write w) := by
  constructor
  · rintro h ⟨x, hx, hwaits, hnot⟩
    refine hnot (h (x.enqueue (B.publishes w s.store)) (List.mem_map_of_mem hx) ?_)
    exact (x.queue_enqueue_ne_nil _).mpr hwaits
  · intro h x' hx' hne
    obtain ⟨x, hx, rfl⟩ := List.mem_map.mp hx'
    exact Classical.not_not.mp fun hnot =>
      h ⟨x, hx, (x.queue_enqueue_ne_nil _).mp hne, hnot⟩

/-- Only a write makes a subscriber wait for what it may not read. -/
theorem guarded_step (hs : s.Guarded allowed) :
    (s.step event).Guarded allowed ↔ ¬ s.Lapses allowed event := by
  cases event with
  | write w => exact guarded_write
  | join channel credentials topic =>
      refine iff_of_true (fun x hx hne => ?_) id
      rw [State.step, store_join]
      rcases mem_join hx with hx | ⟨user, -, rfl⟩
      · exact hs x hx hne
      · exact absurd rfl hne
  | leave channel =>
      refine iff_of_true (fun x hx hne => ?_) id
      exact hs x (List.mem_filter.mp hx).1 hne
  | take channel =>
      refine iff_of_true (fun x' hx' hne => ?_) id
      obtain ⟨x, hx, rfl⟩ := List.mem_map.mp hx'
      by_cases hchannel : x.channel = channel
      · rw [if_pos hchannel] at hne ⊢
        refine hs x hx fun hnil => hne ?_
        rw [Subscriber.queue_dequeue, hnil, List.tail_nil]
      · rw [if_neg hchannel] at hne ⊢
        exact hs x hx hne

/-- At every moment of a run nobody is about to be given what they may not
read, exactly when no step lapses. What may be read is a matter of the store,
so a write can break it for payloads that were sent long before. -/
theorem discreet_iff {events : List (B.Event χ)} (hs : s.Guarded allowed) :
    (∀ pre post, events = pre ++ post → (exec State.step s pre).Discreet allowed) ↔
      Along State.step (fun s event => ¬ s.Lapses allowed event) s events := by
  simp only [discreet_iff_guarded]
  exact along_iff_prefixes (A := fun _ => True) (fun _ _ _ => guarded_step)
    (fun _ _ => trivial) hs

end Waiting

/-! ## Checks -/

section Checks

variable {allowed : σ → υ → τ → Prop} {s : B.State χ} {event : B.Event χ}

/-- Checked steps keep every subscriber among those who may read its topic. -/
theorem allowed_step (hchecked : s.Checked allowed event)
    (hs : ∀ x ∈ s.subscribers, allowed s.store x.user x.topic) :
    ∀ x ∈ (s.step event).subscribers, allowed (s.step event).store x.user x.topic := by
  cases event with
  | join channel credentials topic =>
      intro x hx
      rw [State.step, store_join]
      rcases mem_join hx with hx | ⟨user, huser, rfl⟩
      · exact hs x hx
      · exact hchecked user huser
  | leave channel => exact fun x hx => hs x (List.mem_filter.mp hx).1
  | take channel =>
      intro x' hx'
      obtain ⟨x, hx, rfl⟩ := List.mem_map.mp hx'
      split
      · exact hs x hx
      · exact hs x hx
  | write w =>
      intro x' hx'
      obtain ⟨x, hx, rfl⟩ := List.mem_map.mp hx'
      exact hchecked x hx (hs x hx)

omit [DecidableEq τ] [DecidableEq χ] in
theorem not_lapses_of_checked (hchecked : s.Checked allowed event)
    (hs : ∀ x ∈ s.subscribers, allowed s.store x.user x.topic) : ¬ s.Lapses allowed event := by
  cases event with
  | write w => exact fun ⟨x, hx, _, hnot⟩ => hnot (hchecked x hx (hs x hx))
  | join channel credentials topic => exact id
  | leave channel => exact id
  | take channel => exact id

/-- No step of a run of checked steps lapses. -/
theorem along_not_lapses {events : List (B.Event χ)}
    (hchecked : Along State.step (fun s event => s.Checked allowed event) s events)
    (hs : ∀ x ∈ s.subscribers, allowed s.store x.user x.topic) :
    Along State.step (fun s event => ¬ s.Lapses allowed event) s events := by
  induction events generalizing s with
  | nil => trivial
  | cons event events ih =>
      exact ⟨not_lapses_of_checked hchecked.1 hs, ih hchecked.2 (allowed_step hchecked.1 hs)⟩

end Checks

end Broker

end Lib
