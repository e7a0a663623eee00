import Mapapi.Lib.Footprint
import Mapapi.Lib.Seen
import Mapapi.Lib.View
import Mapapi.Chat

/-!
# Talking to the assistant

`IncidentChatView.post` sends a question about an incident to the service of the model,
with the conversation so far and what the analysis of the photo has found, and keeps the
question and the answer. Anybody may be talking to the assistant at the same time, about
any incident.

A conversation is private: the assistant is asked, and answers, as if nobody else was
there, and nothing of it is lost (`assistant_private`). But two requests of one user that
overlap miss each other (`history_shown_iff`).

What a client sees of the store is its own conversation and what the analysis
has found (`Talk`); the requests of everybody else do not touch that, so a
client runs against it as if alone (`Lib.View`). Messages are ordered by time,
then by id, and the law needs that a message created later comes later
(`Draws.Ordered`).
-/

namespace Mapapi

open Lib

/-! ## The store -/

/-- The chats, and what the analysis of an incident has found: there may be no prediction,
or one whose `full_response` is still empty. -/
structure AssistantStore (χ : Type) extends ChatStore where
  fullResponse : IncidentId → Option (Option χ)
  /-- How many messages have been created. -/
  created : Nat

structure Draws where
  time : Nat → Instant
  id : Nat → MessageId

def Draws.stamp (draws : Draws) (n : Nat) : Stamp := toLex (draws.time n, draws.id n)

/-- A message that is created later comes later, under another id. -/
structure Draws.Ordered (draws : Draws) : Prop where
  stamp {m n : Nat} (h : m < n) : draws.stamp m < draws.stamp n
  id : Function.Injective draws.id

structure ChatTurn where
  role : ChatRole
  content : String
  deriving DecidableEq

def ChatHistory.turn (m : ChatHistory) : ChatTurn := ⟨m.role, m.content⟩

variable {χ : Type}

/-- The conversation of a user about an incident, oldest message first. The
source orders by `created_at` alone, which decides as long as no two messages
have one time. -/
def AssistantStore.thread (s : AssistantStore χ) (i : IncidentId) (user : UserId) :
    List ChatTurn :=
  (ascending ChatHistory.stamp (s.conversation i user)).map ChatHistory.turn

/-- A row takes its instant and its id from the next draw. Counting the
creations in the store makes draws a parameter of the whole run instead of one
of each request. -/
def AssistantStore.newMessage (s : AssistantStore χ) (draws : Draws) (i : IncidentId)
    (user : UserId) (said : ChatTurn) : ChatHistory :=
  { id := draws.id s.created
    incident := some i
    user := some user
    role := said.role
    content := said.content
    createdAt := draws.time s.created }

/-- `ChatHistory.objects.create(...)`. The number of messages created so far
decides the time and the id that are drawn (`Draws`). -/
def createMessage (draws : Draws) (i : IncidentId) (user : UserId) (said : ChatTurn)
    (s : AssistantStore χ) : AssistantStore χ :=
  { s with
    chatHistory := s.chatHistory.put (s.newMessage draws i user said)
    created := s.created + 1 }

/-! ## The view -/

/-- `ask_model_chat`: the answer of the service, or the text of the error that it raises. -/
abbrev ModelChat (χ : Type) := List ChatTurn → χ → Except String String

inductive ChatReply where
  /-- Status 401. -/
  | unauthorized
  /-- `{"error": ...}`, status 404. -/
  | notFound (error : String)
  /-- `{"detail": ...}`, with its status. -/
  | refused (status : Nat) (detail : String)
  | answered (message : String) (history : List ChatTurn)
  deriving DecidableEq

/-- The part of `IncidentChatView.post` that talks to the service. -/
def askAssistant (draws : Draws) (askModelChat : ModelChat χ) (i : IncidentId) (u : UserId)
    (context : χ) (message : String) : Prog (AssistantStore χ) ChatReply := do
  let history ← Prog.read fun s => s.thread i u
  let messages := history ++ [⟨.user, message⟩]
  -- the question is kept whatever the service does
  Prog.modify (createMessage draws i u ⟨.user, message⟩)
  match askModelChat messages context with
  | .error exc => pure (.refused 502 ("Chat service error: " ++ exc))
  | .ok answer => do
    Prog.modify (createMessage draws i u ⟨.assistant, answer⟩)
    pure (.answered answer (messages ++ [⟨.assistant, answer⟩]))

/-- `IncidentChatView.post`, with the text of the message as it is stripped, empty if there
is none. -/
def postChat (draws : Draws) (askModelChat : ModelChat χ) (auth : Option UserId)
    (i : IncidentId) (message : String) : Prog (AssistantStore χ) ChatReply := do
  match ← Prog.read fun s => s.db.authenticated auth with
  | none => pure .unauthorized
  | some user =>
    match ← Prog.read fun s => s.db.incidents.get? i with
    | none => pure (.notFound "Incident non trouvé.")
    | some _ =>
      match ← Prog.read fun s => s.fullResponse i with
      | none => pure (.refused 400 "Prediction not found for this incident.")
      | some none =>
        pure (.refused 400 "Prediction context is empty (analysis not completed yet).")
      | some (some context) =>
        if message = "" then pure (.refused 400 "message is required.")
        else askAssistant draws askModelChat i user.id context message

/-- A client who is signed in and asks one question after the other about an incident, each
one once the previous one has been replied to. -/
structure ChatClient (χ : Type) where
  user : UserId
  incident : IncidentId
  messages : List String
  askModelChat : ModelChat χ

/-- A client waits for one reply before it sends the next message. -/
def postAll (draws : Draws) (askModelChat : ModelChat χ) (u : UserId) (i : IncidentId) :
    List String → Prog (AssistantStore χ) (List ChatReply)
  | [] => pure []
  | message :: rest => do
    let reply ← postChat draws askModelChat (some u) i message
    let replies ← postAll draws askModelChat u i rest
    pure (reply :: replies)

def ChatClient.prog (draws : Draws) (client : ChatClient χ) :
    Prog (AssistantStore χ) (List ChatReply) :=
  postAll draws client.askModelChat client.user client.incident client.messages

/-! ## A conversation without anybody else -/

/-- What the conversation of a user about an incident depends on. -/
structure Talk (χ : Type) where
  user : Option User
  incident : Option Incident
  fullResponse : Option (Option χ)
  thread : List ChatTurn

/-- The part of the store that a client sees. Its clock and the ids of its
messages are not in it, so two stores may differ in everything that others
have said. -/
def AssistantStore.talk (i : IncidentId) (u : UserId) (s : AssistantStore χ) : Talk χ where
  user := s.db.authenticated (some u)
  incident := s.db.incidents.get? i
  fullResponse := s.fullResponse i
  thread := s.thread i u

def Talk.say (said : ChatTurn) (talk : Talk χ) : Talk χ :=
  { talk with thread := talk.thread ++ [said] }

/-- A message is refused, or the service is asked about the conversation with it. -/
def Talk.reply (askModelChat : ModelChat χ) (message : String) (talk : Talk χ) :
    ChatReply × Talk χ :=
  match talk.user with
  | none => (.unauthorized, talk)
  | some _ =>
    match talk.incident with
    | none => (.notFound "Incident non trouvé.", talk)
    | some _ =>
      match talk.fullResponse with
      | none => (.refused 400 "Prediction not found for this incident.", talk)
      | some none =>
        (.refused 400 "Prediction context is empty (analysis not completed yet).", talk)
      | some (some context) =>
        if message = "" then (.refused 400 "message is required.", talk)
        else
          let asked := talk.say ⟨.user, message⟩
          match askModelChat asked.thread context with
          | .error exc => (.refused 502 ("Chat service error: " ++ exc), asked)
          | .ok answer =>
            let told := asked.say ⟨.assistant, answer⟩
            (.answered answer told.thread, told)

/-- The replies to one message after the other, and the conversation in the end. -/
def Talk.replies (askModelChat : ModelChat χ) :
    List String → Talk χ → List ChatReply × Talk χ
  | [], talk => ([], talk)
  | message :: rest, talk =>
    let (reply, next) := talk.reply askModelChat message
    let (replies, last) := next.replies askModelChat rest
    (reply :: replies, last)

/-! ## Creations -/

/-- The messages have been created before, under other ids than those to come. -/
def Draws.Dates (draws : Draws) (s : AssistantStore χ) : Prop :=
  ∀ m ∈ s.chatHistory.rows, ∀ n, s.created ≤ n →
    m.stamp < draws.stamp n ∧ m.id ≠ draws.id n

section Create

variable {draws : Draws} {s : AssistantStore χ} {i j : IncidentId} {u w : UserId}
  {said : ChatTurn}

theorem rows_createMessage (h : draws.Dates s) :
    (createMessage draws i u said s).chatHistory.rows =
      s.chatHistory.rows ++ [s.newMessage draws i u said] := by
  refine Table.rows_put _ _ (Table.get?_eq_none.mpr fun hmem => ?_)
  obtain ⟨m, hm, hid⟩ := List.mem_map.mp hmem
  exact (h m hm s.created le_rfl).2 hid

theorem dates_createMessage (hdraws : draws.Ordered) (h : draws.Dates s) :
    draws.Dates (createMessage draws i u said s) := by
  intro m hm n hn
  rw [rows_createMessage h, List.mem_append, List.mem_singleton] at hm
  have hlater : s.created < n := hn
  rcases hm with hm | rfl
  · exact h m hm n hlater.le
  · exact ⟨hdraws.stamp hlater, fun hid => hlater.ne (hdraws.id hid)⟩

theorem thread_createMessage_other (h : draws.Dates s) (hother : j ≠ i ∨ w ≠ u) :
    (createMessage draws j w said s).thread i u = s.thread i u := by
  unfold AssistantStore.thread ChatStore.conversation Table.select
  rw [rows_createMessage h, List.filter_append, List.filter_cons_of_neg, List.filter_nil,
    List.append_nil]
  simp only [AssistantStore.newMessage, Option.some.injEq, decide_eq_true_eq]
  rintro ⟨hincident, huser, -⟩
  exact hother.elim (· hincident) (· huser)

theorem thread_createMessage (h : draws.Dates s)
    (hrole : said.role = .user ∨ said.role = .assistant) :
    (createMessage draws i u said s).thread i u = s.thread i u ++ [said] := by
  have hkeys : ((s.conversation i u).map ChatHistory.stamp).Nodup := by
    refine List.Nodup.of_map (fun s : Stamp => (ofLex s).2) ?_
    rw [List.map_map]
    exact s.chatHistory.nodup_select _
  unfold AssistantStore.thread ChatStore.conversation Table.select
  rw [rows_createMessage h, List.filter_append, List.filter_cons_of_pos, List.filter_nil]
  · have hlast : ∀ m ∈ s.conversation i u,
        m.stamp < (s.newMessage draws i u said).stamp := fun m hm =>
      (h m (List.mem_filter.mp hm).1 s.created le_rfl).1
    rw [← Table.select]
    exact (congrArg (List.map ChatHistory.turn)
      (ascending_append_last hkeys hlast)).trans (List.map_append ..)
  · simp [AssistantStore.newMessage, hrole]

theorem talk_createMessage (h : draws.Dates s)
    (hrole : said.role = .user ∨ said.role = .assistant) :
    (createMessage draws i u said s).talk i u = (s.talk i u).say said := by
  unfold AssistantStore.talk Talk.say
  rw [thread_createMessage h hrole]
  rfl

theorem talk_createMessage_other (h : draws.Dates s) (hother : j ≠ i ∨ w ≠ u) :
    (createMessage draws j w said s).talk i u = s.talk i u := by
  unfold AssistantStore.talk
  rw [thread_createMessage_other h hother]
  rfl

end Create

/-! ## Clients -/

def Talk.ask (askModelChat : ModelChat χ) (context : χ) (message : String) :
    Prog (Talk χ) ChatReply := do
  let history ← Prog.read Talk.thread
  let messages := history ++ [⟨.user, message⟩]
  Prog.modify (Talk.say ⟨.user, message⟩)
  match askModelChat messages context with
  | .error exc => pure (.refused 502 ("Chat service error: " ++ exc))
  | .ok answer => do
    Prog.modify (Talk.say ⟨.assistant, answer⟩)
    pure (.answered answer (messages ++ [⟨.assistant, answer⟩]))

def Talk.post (askModelChat : ModelChat χ) (message : String) : Prog (Talk χ) ChatReply := do
  match ← Prog.read Talk.user with
  | none => pure .unauthorized
  | some _ =>
    match ← Prog.read Talk.incident with
    | none => pure (.notFound "Incident non trouvé.")
    | some _ =>
      match ← Prog.read Talk.fullResponse with
      | none => pure (.refused 400 "Prediction not found for this incident.")
      | some none =>
        pure (.refused 400 "Prediction context is empty (analysis not completed yet).")
      | some (some context) =>
        if message = "" then pure (.refused 400 "message is required.")
        else Talk.ask askModelChat context message

def Talk.postAll (askModelChat : ModelChat χ) : List String → Prog (Talk χ) (List ChatReply)
  | [] => pure []
  | message :: rest => do
    let reply ← Talk.post askModelChat message
    let replies ← Talk.postAll askModelChat rest
    pure (reply :: replies)

section Clients

variable {draws : Draws} {askModelChat : ModelChat χ} {i j : IncidentId} {u w : UserId}
  {context : χ} {message : String} {messages : List String} {talk : Talk χ}

theorem run_post : (Talk.post askModelChat message).run talk = talk.reply askModelChat message := by
  obtain ⟨user, incident, fullResponse, thread⟩ := talk
  unfold Talk.post Talk.reply
  cases user with
  | none => rfl
  | some user =>
      cases incident with
      | none => rfl
      | some incident =>
          rcases fullResponse with _ | _ | context
          · rfl
          · rfl
          · by_cases hempty : message = ""
            · simp [hempty]
            · simp only [Prog.run_bind, Prog.run_read, if_neg hempty, Talk.ask,
                Prog.run_modify, Talk.say]
              cases askModelChat (thread ++ [⟨.user, message⟩]) context <;> rfl

theorem run_postAll :
    (Talk.postAll askModelChat messages).run talk = talk.replies askModelChat messages := by
  induction messages generalizing talk with
  | nil => rfl
  | cons message rest ih =>
      unfold Talk.postAll Talk.replies
      simp only [Prog.run_bind, run_post, ih, Prog.run_pure]

theorem within_ask : (Talk.ask askModelChat context message).Within 3 := by
  refine Prog.within_read fun history => Prog.within_modify fun _ => ?_
  split
  · exact Prog.within_pure _ _
  · exact Prog.within_modify fun _ => Prog.within_pure _ _

theorem within_post : (Talk.post askModelChat message).Within 6 := by
  refine Prog.within_read fun user => ?_
  cases user with
  | none => exact Prog.within_pure _ _
  | some user =>
      refine Prog.within_read fun incident => ?_
      cases incident with
      | none => exact Prog.within_pure _ _
      | some incident =>
          refine Prog.within_read fun fullResponse => ?_
          rcases fullResponse with _ | _ | context
          · exact Prog.within_pure _ _
          · exact Prog.within_pure _ _
          · dsimp only
            split
            · exact Prog.within_pure _ _
            · exact within_ask

theorem within_postAll : (Talk.postAll askModelChat messages).Within (6 * messages.length) := by
  induction messages with
  | nil => exact Prog.within_pure _ _
  | cons message rest ih =>
      rw [List.length_cons, Nat.mul_succ, Nat.add_comm]
      refine Prog.within_bind within_post fun reply => ?_
      exact (Prog.within_bind ih fun replies => Prog.within_pure 0 _).mono le_rfl

theorem sees_askAssistant (hdraws : draws.Ordered) :
    (askAssistant draws askModelChat i u context message).Sees draws.Dates
      (AssistantStore.talk i u) (Talk.ask askModelChat context message) := by
  have hsay (said : ChatTurn) (hrole : said.role = .user ∨ said.role = .assistant)
      (s : AssistantStore χ) (hs : draws.Dates s) :
      (createMessage draws i u said s).talk i u = (s.talk i u).say said ∧
        draws.Dates (createMessage draws i u said s) :=
    ⟨talk_createMessage hs hrole, dates_createMessage hdraws hs⟩
  refine Prog.sees_read (fun _ _ => rfl) fun s _ => ?_
  refine Prog.sees_modify (hsay _ (Or.inl rfl)) fun _ => ?_
  split
  · exact Prog.sees_pure _
  · exact Prog.sees_modify (hsay _ (Or.inr rfl)) fun _ => Prog.sees_pure _

theorem sees_postChat (hdraws : draws.Ordered) :
    (postChat draws askModelChat (some u) i message).Sees draws.Dates
      (AssistantStore.talk i u) (Talk.post askModelChat message) := by
  refine Prog.sees_read (fun _ _ => rfl) fun s _ => ?_
  cases huser : s.db.authenticated (some u) with
  | none => exact Prog.sees_pure _
  | some user =>
      obtain rfl : u = user.id := Option.some.inj (authenticated_id huser).1
      refine Prog.sees_read (fun _ _ => rfl) fun s _ => ?_
      cases s.db.incidents.get? i with
      | none => exact Prog.sees_pure _
      | some incident =>
          refine Prog.sees_read (fun _ _ => rfl) fun s _ => ?_
          rcases s.fullResponse i with _ | _ | context
          · exact Prog.sees_pure _
          · exact Prog.sees_pure _
          · dsimp only
            split
            · exact Prog.sees_pure _
            · exact sees_askAssistant hdraws

theorem sees_postAll (hdraws : draws.Ordered) :
    (postAll draws askModelChat u i messages).Sees draws.Dates
      (AssistantStore.talk i u) (Talk.postAll askModelChat messages) := by
  induction messages with
  | nil => exact Prog.sees_pure _
  | cons message rest ih =>
      refine Prog.sees_bind (sees_postChat hdraws) fun reply => ?_
      exact Prog.sees_bind ih fun replies => Prog.sees_pure _

theorem blind_askAssistant (hdraws : draws.Ordered) (hother : j ≠ i ∨ w ≠ u) :
    (askAssistant draws askModelChat j w context message).Blind draws.Dates
      (AssistantStore.talk i u) := by
  have hsay (said : ChatTurn) (s : AssistantStore χ) (hs : draws.Dates s) :
      (createMessage draws j w said s).talk i u = s.talk i u ∧
        draws.Dates (createMessage draws j w said s) :=
    ⟨talk_createMessage_other hs hother, dates_createMessage hdraws hs⟩
  refine Prog.blind_read fun s _ => ?_
  refine Prog.blind_modify (hsay _) fun _ => ?_
  split
  · exact Prog.blind_pure _
  · exact Prog.blind_modify (hsay _) fun _ => Prog.blind_pure _

theorem blind_postChat (hdraws : draws.Ordered) (hother : j ≠ i ∨ w ≠ u) :
    (postChat draws askModelChat (some w) j message).Blind draws.Dates
      (AssistantStore.talk i u) := by
  refine Prog.blind_read fun s _ => ?_
  cases huser : s.db.authenticated (some w) with
  | none => exact Prog.blind_pure _
  | some user =>
      obtain rfl : w = user.id := Option.some.inj (authenticated_id huser).1
      refine Prog.blind_read fun s _ => ?_
      cases s.db.incidents.get? j with
      | none => exact Prog.blind_pure _
      | some incident =>
          refine Prog.blind_read fun s _ => ?_
          rcases s.fullResponse j with _ | _ | context
          · exact Prog.blind_pure _
          · exact Prog.blind_pure _
          · dsimp only
            split
            · exact Prog.blind_pure _
            · exact blind_askAssistant hdraws hother

theorem blind_postAll (hdraws : draws.Ordered) (hother : j ≠ i ∨ w ≠ u) :
    (postAll draws askModelChat w j messages).Blind draws.Dates
      (AssistantStore.talk i u) := by
  induction messages with
  | nil => exact Prog.blind_pure _
  | cons message rest ih =>
      refine Prog.blind_bind (blind_postChat hdraws hother) fun reply => ?_
      exact Prog.blind_bind ih fun replies => Prog.blind_pure _

end Clients

def chatPool {ι : Type} (draws : Draws) (s : AssistantStore χ) (clients : ι → ChatClient χ) :
    Pool (AssistantStore χ) ι (List ChatReply) :=
  { store := s, progs := fun k => (clients k).prog draws }

/-- Whatever anybody else asks the assistant at the same time, a client is
replied to, and keeps its conversation, as it would alone. The schedule has to
give the client enough turns to finish; nothing is asked of the turns of the
others. -/
theorem assistant_private {ι : Type} [DecidableEq ι] {draws : Draws} (hdraws : draws.Ordered)
    {s : AssistantStore χ} (hs : draws.Dates s) (clients : ι → ChatClient χ) (k : ι)
    (hother : ∀ j, j ≠ k → (clients j).incident ≠ (clients k).incident ∨
      (clients j).user ≠ (clients k).user)
    (schedule : List ι) (hturns : 6 * (clients k).messages.length ≤ schedule.count k) :
    let client := clients k
    let alone := (s.talk client.incident client.user).replies client.askModelChat client.messages
    ((chatPool draws s clients).exec schedule).result k = some alone.1 ∧
      ((chatPool draws s clients).exec schedule).store.talk client.incident client.user =
        alone.2 := by
  intro client alone
  have hresult := @Pool.result_of_sees _ _ _ _ _ (chatPool draws s clients) k draws.Dates
    (AssistantStore.talk client.incident client.user) _ _ schedule hs (sees_postAll hdraws)
    (fun j hj => blind_postAll hdraws (hother j hj)) within_postAll hturns
  rwa [run_postAll] at hresult

/-! ## Requests of one user that overlap -/

section Overlap

variable {draws : Draws} {askModelChat : ModelChat χ} {i : IncidentId} {u : UserId}
  {message answer : String} {shown : List ChatTurn}

/-- A request that is answered has passed all the checks at its first three turns. -/
theorem after_checks {s₁ s₂ s₃ : AssistantStore χ} {rest : List (AssistantStore χ)}
    (h : ((postAll draws askModelChat u i [message]).after
      ([s₁, s₂, s₃] ++ rest)).result = some [.answered answer shown]) :
    ∃ context, (postAll draws askModelChat u i [message]).after [s₁, s₂, s₃] =
      askAssistant draws askModelChat i u context message >>= fun reply => pure [reply] := by
  rw [Prog.after_append] at h
  have hrefused {reply : ChatReply} (hreply : reply ≠ .answered answer shown)
      (hended : (postAll draws askModelChat u i [message]).after [s₁, s₂, s₃] = .done [reply]) :
      False := by
    rw [hended, Prog.after_done] at h
    have hsame : [reply] = [.answered answer shown] := Option.some.inj h
    exact hreply (List.singleton_inj.mp hsame)
  unfold postAll postChat at hrefused ⊢
  simp only [Prog.after_cons, Prog.step_read_bind] at hrefused ⊢
  cases huser : s₁.db.authenticated (some u) with
  | none =>
      simp only [huser] at hrefused
      exact (@hrefused .unauthorized (fun h => by cases h) rfl).elim
  | some user =>
      obtain rfl : u = user.id := Option.some.inj (authenticated_id huser).1
      simp only [huser, Prog.step_read_bind] at hrefused ⊢
      cases hincident : s₂.db.incidents.get? i with
      | none =>
          simp only [hincident] at hrefused
          exact (@hrefused (.notFound _) (fun h => by cases h) rfl).elim
      | some incident =>
          simp only [hincident, Prog.step_read_bind] at hrefused ⊢
          rcases hfull : s₃.fullResponse i with _ | _ | context
          · simp only [hfull] at hrefused
            exact (@hrefused (.refused ..) (fun h => by cases h) rfl).elim
          · simp only [hfull] at hrefused
            exact (@hrefused (.refused ..) (fun h => by cases h) rfl).elim
          · simp only [hfull] at hrefused ⊢
            by_cases hempty : message = ""
            · simp only [if_pos hempty] at hrefused
              exact (@hrefused (.refused ..) (fun h => by cases h) rfl).elim
            · simp only [if_neg hempty]
              exact ⟨context, rfl⟩

/-- A request that is answered asks about the conversation it has found, and keeps the
question and the answer. -/
theorem after_askAssistant {context : χ} {s₄ s₅ s₆ : AssistantStore χ}
    (h : ((askAssistant draws askModelChat i u context message >>= fun reply =>
      pure [reply]).after [s₄, s₅, s₆]).result = some [.answered answer shown]) :
    shown = s₄.thread i u ++ [⟨.user, message⟩] ++ [⟨.assistant, answer⟩] ∧
      ((askAssistant draws askModelChat i u context message >>= fun reply =>
        (pure [reply] : Prog _ _)).after [s₄]).Next (createMessage draws i u ⟨.user, message⟩) ∧
      ((askAssistant draws askModelChat i u context message >>= fun reply =>
        (pure [reply] : Prog _ _)).after [s₄, s₅]).Next
          (createMessage draws i u ⟨.assistant, answer⟩) := by
  unfold askAssistant at h ⊢
  simp only [Prog.after_cons, Prog.step_read_bind] at h ⊢
  cases hasked : askModelChat (s₄.thread i u ++ [⟨.user, message⟩]) context with
  | error exc =>
      simp only [hasked] at h
      have hrefused : some [ChatReply.refused 502 ("Chat service error: " ++ exc)] =
          some [.answered answer shown] := h
      cases hrefused
  | ok told =>
      simp only [hasked] at h ⊢
      have hanswered : some [ChatReply.answered told
          (s₄.thread i u ++ [⟨.user, message⟩] ++ [⟨.assistant, told⟩])] =
          some [.answered answer shown] := h
      cases hanswered
      exact ⟨rfl, ⟨_, rfl⟩, ⟨_, rfl⟩⟩

/-! ### What is said meanwhile -/

def Extends (draws : Draws) (i : IncidentId) (u : UserId) (s s' : AssistantStore χ) : Prop :=
  draws.Dates s' ∧ s.thread i u <+: s'.thread i u

theorem extends_createMessage {j : IncidentId} {w : UserId} {said : ChatTurn}
    {s : AssistantStore χ} (hdraws : draws.Ordered) (hs : draws.Dates s)
    (hrole : said.role = .user ∨ said.role = .assistant) :
    Extends draws i u s (createMessage draws j w said s) := by
  refine ⟨dates_createMessage hdraws hs, ?_⟩
  by_cases hown : j = i ∧ w = u
  · obtain ⟨rfl, rfl⟩ := hown
    rw [thread_createMessage hs hrole]
    exact List.prefix_append _ _
  · have hother : j ≠ i ∨ w ≠ u := by
      by_contra hsame
      rw [not_or, not_not, not_not] at hsame
      exact hown hsame
    rw [thread_createMessage_other hs hother]

/-- Whatever a client does, the thread of a user about an incident only grows,
at its end: messages that are created later are dated later. -/
theorem writes_postAll {j : IncidentId} {w : UserId} {messages : List String}
    (hdraws : draws.Ordered) :
    (postAll draws askModelChat w j messages).Writes draws.Dates (Extends draws i u) := by
  have hsay (said : ChatTurn) (hrole : said.role = .user ∨ said.role = .assistant) :
      (Prog.modify (createMessage draws j w said) : Prog (AssistantStore χ) PUnit).Writes
        draws.Dates (Extends draws i u) :=
    Prog.writes_modify fun s hs => extends_createMessage hdraws hs hrole
  induction messages with
  | nil => exact Prog.writes_pure _
  | cons message rest ih =>
      refine Prog.writes_bind ?_ fun reply => Prog.writes_bind ih fun _ => Prog.writes_pure _
      refine Prog.writes_read fun s _ => ?_
      cases huser : s.db.authenticated (some w) with
      | none => exact Prog.writes_pure _
      | some user =>
          obtain rfl : w = user.id := Option.some.inj (authenticated_id huser).1
          refine Prog.writes_read fun s _ => ?_
          cases s.db.incidents.get? j with
          | none => exact Prog.writes_pure _
          | some incident =>
              refine Prog.writes_read fun s _ => ?_
              rcases s.fullResponse j with _ | _ | context
              · exact Prog.writes_pure _
              · exact Prog.writes_pure _
              · refine Prog.writes_ite (fun _ => Prog.writes_pure _) fun _ => ?_
                refine Prog.writes_read fun s _ => ?_
                refine Prog.writes_bind (hsay _ (Or.inl rfl)) fun _ => ?_
                split
                · exact Prog.writes_pure _
                · exact Prog.writes_bind (hsay _ (Or.inr rfl)) fun _ => Prog.writes_pure _

variable {ι : Type} [DecidableEq ι] {s : AssistantStore χ} {clients : ι → ChatClient χ} {k : ι}

theorem dates_exec (hdraws : draws.Ordered) (hs : draws.Dates s) (schedule : List ι) :
    draws.Dates ((chatPool draws s clients).exec schedule).store :=
  (Pool.writes_exec (c := chatPool draws s clients) (W := Extends draws 0 0)
    (fun _ => writes_postAll hdraws) (fun _ _ h _ => h.1) hs schedule).1

def threadOf (draws : Draws) (s : AssistantStore χ) (clients : ι → ChatClient χ) (k : ι)
    (schedule : List ι) : List ChatTurn :=
  ((chatPool draws s clients).exec schedule).store.thread (clients k).incident (clients k).user

theorem threadOf_prefix (hdraws : draws.Ordered) (hs : draws.Dates s) (past rest : List ι) :
    threadOf draws s clients k past <+: threadOf draws s clients k (past ++ rest) := by
  have hwrites := @Pool.writes_exec _ _ _ _ (chatPool draws s clients) draws.Dates
    (Extends draws (clients k).incident (clients k).user) (fun _ => writes_postAll hdraws)
    (fun _ _ h _ => h.1) hs past
  have hextends := @Pool.exec_writes _ _ _ _ ((chatPool draws s clients).exec past) draws.Dates
    (fun s' => threadOf draws s clients k past <+:
      s'.thread (clients k).incident (clients k).user)
    (Extends draws (clients k).incident (clients k).user) hwrites.2
    (fun _ _ h _ => h.1) (fun _ _ h _ hbefore => hbefore.trans h.2) hwrites.1
    List.prefix_rfl rest
  unfold threadOf Pool.exec at *
  rwa [List.foldl_append]

theorem threadOf_say {said : ChatTurn} (hdraws : draws.Ordered) (hs : draws.Dates s)
    (hrole : said.role = .user ∨ said.role = .assistant) {past : List ι}
    (h : (((clients k).prog draws).after ((chatPool draws s clients).seen k past)).Next
      (createMessage draws (clients k).incident (clients k).user said)) :
    threadOf draws s clients k (past ++ [k]) = threadOf draws s clients k past ++ [said] := by
  obtain ⟨next, hnext⟩ := h
  unfold threadOf
  have hprog : ((chatPool draws s clients).exec past).progs k = _ :=
    (Pool.progs_exec ..).trans hnext
  rw [Pool.store_exec_snoc hprog, thread_createMessage (dates_exec hdraws hs past) hrole]

/-- The history that is shown with an answer is the conversation as it is
kept, if and only if nothing else was said in it since the request has read
it: before its question was stored, or between the question and the answer. -/
theorem history_shown_iff (hdraws : draws.Ordered) (hs : draws.Dates s)
    (hone : (clients k).messages = [message]) {past before between : List ι}
    (hpast : past.count k = 3) (hbefore : k ∉ before) (hbetween : k ∉ between)
    (hanswered : ((chatPool draws s clients).exec
      (past ++ [k] ++ before ++ [k] ++ between ++ [k])).result k = some [.answered answer shown]) :
    shown = threadOf draws s clients k (past ++ [k] ++ before ++ [k] ++ between ++ [k]) ↔
      threadOf draws s clients k (past ++ [k] ++ before) = threadOf draws s clients k past ∧
        threadOf draws s clients k (past ++ [k] ++ before ++ [k] ++ between) =
          threadOf draws s clients k (past ++ [k] ++ before ++ [k]) := by
  set c := chatPool draws s clients with hc
  set asked := past ++ [k] ++ before with hasked
  set told := asked ++ [k] ++ between with htold
  obtain ⟨s₁, s₂, s₃, hchecks⟩ := List.length_eq_three.mp ((c.length_seen k past).trans hpast)
  -- what the client has found at its turns
  have hseen : c.seen k asked = [s₁, s₂, s₃] ++ [(c.exec past).store] := by
    rw [hasked, Pool.seen_append, Pool.seen_snoc_self, hchecks, Pool.seen_of_not_mem hbefore,
      List.append_nil]
  have hseen' : c.seen k told =
      [s₁, s₂, s₃] ++ [(c.exec past).store, (c.exec asked).store] := by
    rw [htold, Pool.seen_append, Pool.seen_snoc_self, hseen, Pool.seen_of_not_mem hbetween]
    rfl
  have hprog : (clients k).prog draws =
      postAll draws (clients k).askModelChat (clients k).user (clients k).incident [message] := by
    rw [ChatClient.prog, hone]
  have hresult : (((clients k).prog draws).after ([s₁, s₂, s₃] ++
      [(c.exec past).store, (c.exec asked).store, (c.exec told).store])).result =
        some [.answered answer shown] := by
    rw [Pool.result, Pool.progs_exec, Pool.seen_snoc_self, hseen'] at hanswered
    exact hanswered
  rw [hprog] at hresult
  obtain ⟨context, hrest⟩ := after_checks hresult
  rw [Prog.after_append, hrest] at hresult
  obtain ⟨hshown, hask, hanswer⟩ := after_askAssistant hresult
  have hsaid := @threadOf_say _ _ _ _ s clients k ⟨.user, message⟩ hdraws hs (Or.inl rfl) asked
    (by rw [hprog, hseen, Prog.after_append, hrest]; exact hask)
  have hsaid' := @threadOf_say _ _ _ _ s clients k ⟨.assistant, answer⟩ hdraws hs (Or.inr rfl)
    told (by rw [hprog, hseen', Prog.after_append, hrest]; exact hanswer)
  have hread : threadOf draws s clients k past <+: threadOf draws s clients k asked := by
    rw [hasked, List.append_assoc]
    exact threadOf_prefix hdraws hs past _
  have hkept : threadOf draws s clients k (asked ++ [k]) <+: threadOf draws s clients k told :=
    threadOf_prefix hdraws hs _ between
  have hshown' : shown = threadOf draws s clients k past ++ [⟨.user, message⟩] ++
      [⟨.assistant, answer⟩] := hshown
  rw [hshown', hsaid']
  constructor
  · intro h
    have hsame := List.append_inj_left' h rfl
    rw [hsaid, ← hsame] at hkept
    have hlength := hkept.length_le
    simp only [List.length_append, List.length_singleton] at hlength
    have hasked := (hread.eq_of_length_le (by omega)).symm
    exact ⟨hasked, by rw [hsaid, hasked, hsame]⟩
  · rintro ⟨hasked, htold⟩
    rw [htold, hsaid, hasked]

end Overlap

/-! ## Two clients -/

def assistantStore : AssistantStore Unit where
  db := Db.start [] [.superAdmin 2 "super@map.ml", .superAdmin 3 "ali@map.ml"]
    (.new 1 (some "Fuite") "Bamako" "01-02-2025")
  chatHistory := Table.empty
  posts := Table.empty
  fullResponse _ := some (some ())
  created := 0

def eachSecond : Draws := ⟨fun n => n, fun n => n⟩

theorem eachSecond_ordered : eachSecond.Ordered where
  stamp h := Prod.Lex.lt_iff.mpr (Or.inl (Int.ofNat_lt.mpr h))
  id _ _ h := h

def counting : ModelChat Unit := fun messages _ => .ok (toString messages.length)

theorem assistantStore_dates : eachSecond.Dates assistantStore := nofun

theorem assistant_private_twoUsers :
    let clients : Bool → ChatClient Unit := fun k =>
      { user := if k then 2 else 3, incident := 1, messages := ["Où ?"], askModelChat := counting }
    ((chatPool eachSecond assistantStore clients).exec
        [true, false, true, false, true, false, true, false, true, false, true]).result true =
      some [.answered "1" [⟨.user, "Où ?"⟩, ⟨.assistant, "1"⟩]] := by
  intro clients
  have hother : ∀ j, j ≠ true → (clients j).user ≠ (clients true).user := by
    intro j hj
    obtain rfl := Bool.eq_false_iff.mpr hj
    exact Nat.succ_ne_self 2
  refine (assistant_private eachSecond_ordered assistantStore_dates clients true
    (fun j hj => Or.inr (hother j hj))
    [true, false, true, false, true, false, true, false, true, false, true] (by decide)).1.trans ?_
  decide

/-- A user asks from two tabs. The first one is not shown what the second one was told. -/
theorem history_shown_twoTabs :
    let clients : Bool → ChatClient Unit := fun k =>
      { user := 2, incident := 1, messages := [if k then "Où ?" else "Quand ?"]
        askModelChat := counting }
    threadOf eachSecond assistantStore clients true
        ([true, true, true] ++ [true] ++ List.replicate 6 false ++ [true] ++ [] ++ [true]) ≠
      [⟨.user, "Où ?"⟩, ⟨.assistant, "1"⟩] := by
  intro clients h
  have hshown := (@history_shown_iff Unit eachSecond "Où ?" "1"
    [⟨.user, "Où ?"⟩, ⟨.assistant, "1"⟩] Bool _ assistantStore clients true eachSecond_ordered
    assistantStore_dates rfl [true, true, true] (List.replicate 6 false) [] rfl (by decide)
    (by decide) (by decide)).mp h.symm
  have hlength := congrArg List.length hshown.1
  exact absurd hlength (by decide)

end Mapapi
