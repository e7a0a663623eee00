import Mapapi.Lib.Broker
import Mapapi.Lib.Replica

/-!
# What a broker delivers

As long as a subscriber stays, what it is given and what waits for it are, in this
order, what waited at first and what has been published about its topic since:
nothing is lost, nothing comes twice and nothing overtakes (`delivered`).

So a subscriber whose topic is a view of the store can keep a replica of it: once its
copy and what waits amount to the view, they do exactly as long as every write
publishes what it does to the view (`upToDate_iff`). The view may be keyed
(`Feed.keyed`), or a list that grows at its end (`Feed.journal`).
-/

namespace Lib

namespace Broker

variable {σ ω κ υ τ π χ : Type*} {B : Broker σ ω κ υ τ π}

namespace State

section Defs

variable [DecidableEq χ] (channel : χ) (s : B.State χ)

def subscriber? : Option (B.Subscriber χ) :=
  s.subscribers.find? fun x => decide (x.channel = channel)

/-- What the step gives to the channel. -/
def gives : B.Event χ → List π
  | .take c => if c = channel then ((s.subscriber? channel).bind fun x => x.queue.head?).toList
      else []
  | _ => []

end Defs

/-- What the step publishes about the topic. -/
def posts [DecidableEq τ] (topic : τ) (s : B.State χ) : B.Event χ → List π
  | .write w => (B.publishes w s.store).filter fun p => decide (B.topic p = topic)
  | _ => []

end State

variable [DecidableEq τ] [DecidableEq χ] {channel : χ} {s : B.State χ} {event : B.Event χ}
  {events : List (B.Event χ)} {x : B.Subscriber χ}

section Subscribers

omit [DecidableEq τ]

theorem channel_of_subscriber? (h : s.subscriber? channel = some x) : x.channel = channel := by
  unfold State.subscriber? at h
  have hfound := List.find?_some h
  exact of_decide_eq_true hfound

/-- A subscription of somebody else, or of a channel that is taken, changes nothing. -/
theorem subscriber?_join {c : χ} {credentials : κ} {topic : τ}
    (h : s.subscriber? channel = some x) :
    (s.join c credentials topic).subscriber? channel = some x := by
  unfold State.join
  split
  · exact h
  · split
    · exact h
    · rename_i hnew
      have hne : c ≠ channel := by
        rintro rfl
        refine hnew (List.any_eq_true.mpr ⟨x, List.mem_of_find?_eq_some h, ?_⟩)
        exact decide_eq_true (channel_of_subscriber? h)
      exact (List.find?_cons_of_neg (by simp [Subscriber.fresh, hne])).trans h

theorem subscriber?_join_self {credentials : κ} {topic : τ} {user : υ}
    (hnew : s.subscriber? channel = none) (huser : B.identify credentials s.store = some user) :
    (s.join channel credentials topic).subscriber? channel =
      some (.fresh channel user topic) := by
  have hfree : (s.subscribers.any fun x => decide (x.channel = channel)) = false := by
    refine List.any_eq_false.mpr fun y hy => ?_
    exact List.find?_eq_none.mp hnew y hy
  unfold State.join
  rw [huser]
  dsimp only
  rw [if_neg (by simp [hfree])]
  exact List.find?_cons_of_pos (by simp [Subscriber.fresh])

theorem subscriber?_leave {c : χ} (hne : c ≠ channel) (h : s.subscriber? channel = some x) :
    (s.leave c).subscriber? channel = some x := by
  unfold State.leave State.subscriber?
  rw [List.find?_filter, ← h]
  unfold State.subscriber?
  congr 1
  funext y
  by_cases hy : y.channel = channel
  · simp [hy, hne.symm]
  · simp [hy]

theorem subscriber?_map (f : B.Subscriber χ → B.Subscriber χ)
    (hf : ∀ x, (f x).channel = x.channel) {store : σ} :
    ({ store := store, subscribers := s.subscribers.map f } : B.State χ).subscriber? channel =
      (s.subscriber? channel).map f := by
  unfold State.subscriber?
  rw [List.find?_map]
  simp only [Function.comp_def, hf]

end Subscribers

/-! ## Queues -/

/-- What a step does to a subscriber who stays: what is given comes from the front of the
queue, what is published goes to its end. -/
theorem delivered_step (h : s.subscriber? channel = some x) (hstays : event ≠ .leave channel) :
    ∃ x', (s.step event).subscriber? channel = some x' ∧ x'.user = x.user ∧
      x'.topic = x.topic ∧
      x.queue ++ s.posts x.topic event = s.gives channel event ++ x'.queue := by
  cases event with
  | join c credentials topic =>
      exact ⟨x, subscriber?_join h, rfl, rfl, by simp [State.posts, State.gives]⟩
  | leave c =>
      have hne : c ≠ channel := fun hc => hstays (by rw [hc])
      exact ⟨x, subscriber?_leave hne h, rfl, rfl, by simp [State.posts, State.gives]⟩
  | take c =>
      have hchannel := channel_of_subscriber? h
      have hmap : (s.step (.take c)).subscriber? channel =
          (s.subscriber? channel).map fun x => if x.channel = c then x.dequeue else x :=
        subscriber?_map _ fun y => by split <;> rfl
      rw [h, Option.map_some, hchannel] at hmap
      by_cases hc : c = channel
      · rw [if_pos hc.symm] at hmap
        refine ⟨x.dequeue, hmap, rfl, rfl, ?_⟩
        simp only [State.posts, State.gives, if_pos hc, h, Option.bind_some, List.append_nil,
          Subscriber.queue_dequeue]
        cases x.queue <;> rfl
      · rw [if_neg (Ne.symm hc)] at hmap
        exact ⟨x, hmap, rfl, rfl, by simp [State.posts, State.gives, hc]⟩
  | write w =>
      have hmap : (s.step (.write w)).subscriber? channel =
          (s.subscriber? channel).map fun x => x.enqueue (B.publishes w s.store) :=
        subscriber?_map (Subscriber.enqueue · (B.publishes w s.store)) fun _ => rfl
      rw [h, Option.map_some] at hmap
      exact ⟨_, hmap, rfl, rfl, rfl⟩

/-- Over a run: nothing is lost, nothing comes twice and nothing overtakes.
The induction is on the run, with `delivered_step` for one step. -/
theorem delivered (h : s.subscriber? channel = some x)
    (hstays : ∀ event ∈ events, event ≠ .leave channel) :
    ∃ x', (exec State.step s events).subscriber? channel = some x' ∧ x'.user = x.user ∧
      x'.topic = x.topic ∧
      x.queue ++ collected State.step (State.posts x.topic) s events =
        collected State.step (State.gives channel) s events ++ x'.queue := by
  induction events generalizing s x with
  | nil => exact ⟨x, h, rfl, rfl, by simp⟩
  | cons event events ih =>
      obtain ⟨y, hy, huser, htopic, hqueue⟩ :=
        delivered_step h (hstays event List.mem_cons_self)
      obtain ⟨z, hz, huser', htopic', hqueue'⟩ :=
        ih hy fun event' hmem => hstays event' (List.mem_cons_of_mem _ hmem)
      refine ⟨z, hz, huser'.trans huser, htopic'.trans htopic, ?_⟩
      rw [htopic] at hqueue'
      rw [collected_cons, collected_cons, ← List.append_assoc, hqueue, List.append_assoc,
        hqueue', List.append_assoc]

theorem store_exec_writes (ws : List ω) :
    (exec State.step s (ws.map Event.write)).store =
      ws.foldl (fun store w => B.apply w store) s.store := by
  induction ws generalizing s with
  | nil => rfl
  | cons w ws ih => exact ih

/-! ## Replicas of a topic -/

/-- A view of the store that a topic is about, and how its payloads change a copy. -/
structure Feed (B : Broker σ ω κ υ τ π) (α δ : Type*) where
  topic : τ
  view : σ → α
  read : π → List δ
  apply : α → δ → α

section Replicas

variable {α δ : Type*} (feed : B.Feed α δ)

def Feed.now (s : B.State χ) : α := feed.view s.store

/-- What the step publishes about the topic, read as changes. -/
def Feed.changes (s : B.State χ) (event : B.Event χ) : List δ :=
  (s.posts feed.topic event).flatMap feed.read

/-- The write publishes what it does to the view. -/
def Feed.Published (s : B.State χ) (event : B.Event χ) : Prop :=
  Tells feed.apply feed.now feed.changes State.step s event

/-- The copy of the subscriber and what waits for it amount to the view. -/
def Feed.UpToDate (channel : χ) (copy : α) (s : B.State χ) : Prop :=
  ∃ x, s.subscriber? channel = some x ∧ x.topic = feed.topic ∧
    (x.queue.flatMap feed.read).foldl feed.apply copy = feed.now s

/-- The copy of a subscriber who applies what it is given. -/
def Feed.follow (channel : χ) (copy : α) (s : B.State χ) (events : List (B.Event χ)) : α :=
  ((collected State.step (State.gives channel) s events).flatMap feed.read).foldl feed.apply copy

variable {feed} {copy : α}

theorem collected_changes :
    collected State.step feed.changes s events =
      (collected State.step (State.posts feed.topic) s events).flatMap feed.read := by
  induction events generalizing s with
  | nil => rfl
  | cons event events ih =>
      rw [collected_cons, collected_cons, List.flatMap_append, ih]
      rfl

theorem upToDate_follow (hx : s.subscriber? channel = some x) (htopic : x.topic = feed.topic)
    (hstays : ∀ event ∈ events, event ≠ .leave channel) :
    feed.UpToDate channel (feed.follow channel copy s events) (exec State.step s events) ↔
      (x.queue.flatMap feed.read ++ collected State.step feed.changes s events).foldl
          feed.apply copy =
        feed.now (exec State.step s events) := by
  obtain ⟨x', hx', -, htopic', hqueue⟩ := delivered hx hstays
  have hsame : (x'.queue.flatMap feed.read).foldl feed.apply
        (feed.follow channel copy s events) =
      (x.queue.flatMap feed.read ++ collected State.step feed.changes s events).foldl
        feed.apply copy := by
    unfold Feed.follow
    rw [← List.foldl_append, ← List.flatMap_append, ← hqueue, List.flatMap_append, htopic,
      collected_changes]
  rw [← hsame]
  constructor
  · rintro ⟨y, hy, -, hright⟩
    obtain rfl := Option.some.inj (hx'.symm.trans hy)
    exact hright
  · intro hright
    exact ⟨x', hx', htopic'.trans htopic, hright⟩

/-- A copy that is up to date stays so, under a subscriber who applies what it
is given, exactly as long as every write publishes what it does to the view.
The copy lags behind by what waits, and no more than that can be asked of it. -/
theorem upToDate_iff (hstart : feed.UpToDate channel copy s)
    (hstays : ∀ event ∈ events, event ≠ .leave channel) :
    (∀ pre post, events = pre ++ post →
        feed.UpToDate channel (feed.follow channel copy s pre) (exec State.step s pre)) ↔
      Along State.step feed.Published s events := by
  obtain ⟨x, hx, htopic, hright⟩ := hstart
  refine Iff.trans ?_ (foldl_collected_iff hright)
  refine forall_congr' fun pre => forall_congr' fun post => forall_congr' fun h => ?_
  refine upToDate_follow hx htopic fun event hmem => hstays event ?_
  rw [h]
  exact List.mem_append_left _ hmem

/-- A copy that is up to date stays so over a write, which gives nothing to anybody, exactly
if the write publishes what it does to the view. -/
theorem upToDate_write_iff {w : ω} (hstart : feed.UpToDate channel copy s) :
    feed.UpToDate channel copy (s.write w) ↔ feed.Published s (.write w) := by
  obtain ⟨x, hx, htopic, hright⟩ := hstart
  have hstays : ∀ event ∈ ([.write w] : List (B.Event χ)), event ≠ .leave channel := by simp
  have hrun : feed.UpToDate channel copy (s.write w) ↔ _ := upToDate_follow hx htopic hstays
  rw [collected_cons, collected_nil, List.append_nil, List.foldl_append, hright] at hrun
  exact hrun.trans eq_comm

theorem upToDate_writes {ws : List ω} (hstart : feed.UpToDate channel copy s)
    (htold : Along State.step feed.Published s (ws.map .write)) :
    feed.UpToDate channel copy (exec State.step s (ws.map .write)) := by
  induction ws generalizing s with
  | nil => exact hstart
  | cons w ws ih => exact ih ((upToDate_write_iff hstart).mpr htold.1) htold.2

omit [DecidableEq τ] in
theorem upToDate_new (hx : s.subscriber? channel = some x) (htopic : x.topic = feed.topic)
    (hqueue : x.queue = []) : feed.UpToDate channel (feed.now s) s :=
  ⟨x, hx, htopic, by rw [hqueue]; rfl⟩

end Replicas

/-! ## Replicas of a keyed view -/

section Keyed

variable {γ ρ : Type*} [DecidableEq γ]

/-- A keyed view, which is told of as changes of its keys. -/
def Feed.keyed (topic : τ) (view : σ → γ → Option ρ) (read : π → List (Change γ ρ)) :
    B.Feed (γ → Option ρ) (Change γ ρ) where
  topic := topic
  view := view
  read := read
  apply := Change.apply

variable {topic : τ} {view : σ → γ → Option ρ} {read : π → List (Change γ ρ)}
  {copy : γ → Option ρ}

/-- A copy that is made while nothing, or only the latest changes, wait is up to date: the
subscriber came first, and every write since then has published what it does. -/
theorem upToDate_view (hx : s.subscriber? channel = some x) (htopic : x.topic = topic)
    (hqueue : x.queue = []) (hstays : ∀ event ∈ events, event ≠ .leave channel)
    (htold : Along State.step (Feed.keyed topic view read).Published s events) :
    (Feed.keyed topic view read).UpToDate channel (view (exec State.step s events).store)
      (exec State.step s events) := by
  obtain ⟨x', hx', -, htopic', hdelivered⟩ := delivered hx hstays
  refine ⟨x', hx', htopic'.trans htopic, ?_⟩
  have hview : view (exec State.step s events).store = replay (view s.store)
      (collected State.step (Feed.keyed topic view read).changes s events) := view_exec htold
  have hchanges : collected State.step (Feed.keyed topic view read).changes s events =
      (collected State.step (State.posts topic) s events).flatMap read := collected_changes
  rw [hqueue, List.nil_append, htopic] at hdelivered
  rw [hchanges, hdelivered, List.flatMap_append] at hview
  change replay _ _ = view _
  rw [hview]
  exact replay_replay

/-- A copy that was made before the subscriber came is up to date, at the end of a run of
writes that publish what they do, exactly if it was right about every key that none of
them is about. -/
theorem upToDate_early_iff (hx : s.subscriber? channel = some x) (htopic : x.topic = topic)
    (hqueue : x.queue = []) (hstays : ∀ event ∈ events, event ≠ .leave channel)
    (htold : Along State.step (Feed.keyed topic view read).Published s events) :
    (Feed.keyed topic view read).UpToDate channel
        ((Feed.keyed topic view read).follow channel copy s events)
        (exec State.step s events) ↔
      ∀ k, Untouched k (collected State.step (Feed.keyed topic view read).changes s events) →
        copy k = view s.store k := by
  have hview : view (exec State.step s events).store = replay (view s.store)
      (collected State.step (Feed.keyed topic view read).changes s events) := view_exec htold
  rw [upToDate_follow hx htopic hstays, hqueue, List.flatMap_nil, List.nil_append]
  change replay copy _ = view _ ↔ _
  rw [hview]
  exact replay_eq_iff

end Keyed

/-! ## Journals -/

/-- A list of the store that a topic is about, which grows at its end by what is
published. -/
def Feed.journal {ε : Type*} (topic : τ) (entries : σ → List ε) (read : π → List ε) :
    B.Feed (List ε) ε where
  topic := topic
  view := entries
  read := read
  apply := fun seen entry => seen ++ [entry]

section Journals

variable {ε : Type*} {topic : τ} {entries : σ → List ε} {read : π → List ε} {seen : List ε}

theorem foldl_snoc (seen new : List ε) :
    new.foldl (fun seen entry => seen ++ [entry]) seen = seen ++ new := by
  induction new generalizing seen with
  | nil => exact (List.append_nil seen).symm
  | cons entry new ih => rw [List.foldl_cons, ih, List.append_assoc, List.singleton_append]

theorem journal_published_iff {event : B.Event χ} :
    (Feed.journal topic entries read).Published s event ↔
      entries (s.step event).store =
        entries s.store ++ (s.posts topic event).flatMap read := by
  unfold Feed.Published Tells
  exact (Eq.congr_right (foldl_snoc ..)).trans Iff.rfl

omit [DecidableEq τ] in
theorem journal_upToDate_iff :
    (Feed.journal topic entries read).UpToDate channel seen s ↔
      ∃ x, s.subscriber? channel = some x ∧ x.topic = topic ∧
        seen ++ x.queue.flatMap read = entries s.store := by
  unfold Feed.UpToDate
  refine exists_congr fun x => and_congr_right fun _ => and_congr_right fun _ => ?_
  exact (Eq.congr_left (foldl_snoc ..)).trans Iff.rfl

/-- What a new subscriber has been given and what waits for it are the entries that have
come since, each once and in their order, at every moment: exactly as long as every step
publishes the entries that it adds. -/
theorem journal_delivered_iff (hx : s.subscriber? channel = some x) (htopic : x.topic = topic)
    (hqueue : x.queue = []) (hstays : ∀ event ∈ events, event ≠ .leave channel) :
    (∀ pre post, events = pre ++ post →
        ∃ y, (exec State.step s pre).subscriber? channel = some y ∧
          entries s.store ++ (collected State.step (State.gives channel) s pre ++
            y.queue).flatMap read = entries (exec State.step s pre).store) ↔
      Along State.step (Feed.journal topic entries read).Published s events := by
  have hstart : (Feed.journal topic entries read).UpToDate channel (entries s.store) s :=
    upToDate_new hx htopic hqueue
  refine Iff.trans ?_ (upToDate_iff hstart hstays)
  refine forall_congr' fun pre => forall_congr' fun post => forall_congr' fun hevents => ?_
  have hstays' : ∀ event ∈ pre, event ≠ .leave channel := fun event hmem =>
    hstays event (hevents ▸ List.mem_append_left _ hmem)
  obtain ⟨y, hy, -, htopic', -⟩ := delivered hx hstays'
  have hfollow : (Feed.journal topic entries read).follow channel (entries s.store) s pre =
      entries s.store ++ (collected State.step (State.gives channel) s pre).flatMap read :=
    foldl_snoc ..
  rw [hfollow]
  refine Iff.trans (exists_congr fun z => ?_) journal_upToDate_iff.symm
  rw [List.flatMap_append, List.append_assoc]
  refine and_congr_right fun hz => ?_
  obtain rfl := Option.some.inj (hy.symm.trans hz)
  exact (and_iff_right (htopic'.trans htopic)).symm

end Journals

end Broker

end Lib
