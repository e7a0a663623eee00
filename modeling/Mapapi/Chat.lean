import Mathlib.Data.Prod.Lex
import Mapapi.Lib.Keyset
import Mapapi.Server

/-!
# Reading a chat page by page

`IncidentChatView.get` serves the conversation of a user with the assistant,
`DiscussionMessageView.list` the discussion of an incident. Both take a `limit` and a
`before`, and answer with the most recent messages before that one. The messages are
ordered by their creation time, and by their id where times are equal.

A page is cut from the messages below a cursor, and the next cursor is the
oldest message of the page. That this loses nothing and ends is a fact about
any strict order (`Lib.Keyset`), also when messages arrive while somebody is
reading: they are newer than the cursor unless their clock is behind, and then
there are finitely many of them (`Arrives`).
-/

namespace Mapapi

open Lib

/-! ## The store -/

abbrev MessageId := Nat

inductive ChatRole where
  | user
  | assistant
  | system
  deriving DecidableEq

structure ChatHistory where
  id : MessageId
  incident : Option IncidentId
  user : Option UserId
  role : ChatRole
  content : String
  createdAt : Instant
  deriving DecidableEq

structure Post extends DiscussionMessage where
  id : MessageId
  createdAt : Instant
  deriving DecidableEq

instance : Keyed ChatHistory MessageId := ⟨ChatHistory.id⟩
instance : Keyed Post MessageId := ⟨fun post => post.id⟩

/-- The messages, beside the rows that say who may read them. -/
structure ChatStore where
  db : Db
  chatHistory : Table ChatHistory
  posts : Table Post

/-! ## The two views -/

inductive Limit where
  | absent
  | malformed
  | int (n : Int)
  deriving DecidableEq

/-- The parameters of a request; an empty `before` is `absent`. -/
structure CursorParams where
  limit : Limit
  before : RawId
  deriving DecidableEq

inductive ChatAnswer (μ : Type) where
  /-- All the messages. -/
  | history (rows : List μ)
  | page (page : Page μ MessageId)
  /-- `{"detail": ...}`, status 400. -/
  | detail (message : String)
  | refused (response : Response)

/-- What the messages are ordered by: the creation time, then the id. -/
abbrev Stamp := Instant ×ₗ MessageId

def ChatHistory.stamp (m : ChatHistory) : Stamp := toLex (m.createdAt, m.id)

def Post.stamp (m : Post) : Stamp := toLex (m.createdAt, m.id)

/-- `Q(created_at__lt=...) | Q(created_at=..., id__lt=...)`. -/
def isBefore (cursor stamp : Stamp) : Bool :=
  decide ((ofLex stamp).1 < (ofLex cursor).1 ∨
    (ofLex stamp).1 = (ofLex cursor).1 ∧ (ofLex stamp).2 < (ofLex cursor).2)

/-- A limit out of range is not an error, it is moved into the range. So every
request for a page asks for at least one message, without which following the
cursors would not end. -/
def clampLimit (n : Int) : Nat := (max 1 (min n 100)).toNat

/-- The pagination of both views, on the messages that the user may read. -/
def paginate {μ : Type} (stamp : μ → Stamp) (base whole : List μ) (params : CursorParams) :
    ChatAnswer μ :=
  let id := fun m => (ofLex (stamp m)).2
  match params.limit with
  | .absent => .history whole
  | .malformed => .detail "limit doit être un entier."
  | .int n =>
    match params.before with
    | .absent => .page (newestPage stamp id base (clampLimit n))
    | .malformed => .detail "Paramètre 'before' invalide ou introuvable."
    | .uuid before =>
      match base.find? fun m => decide (id m = before) with
      | none => .detail "Paramètre 'before' invalide ou introuvable."
      | some cursor =>
        .page (newestPage stamp id (base.filter fun m => isBefore (stamp cursor) (stamp m))
          (clampLimit n))

def ChatStore.conversation (s : ChatStore) (i : IncidentId) (user : UserId) : List ChatHistory :=
  s.chatHistory.select fun m => decide (m.incident = some i ∧ m.user = some user ∧
    (m.role = .user ∨ m.role = .assistant))

/-- `IncidentChatView.get`. There is no permission beyond a token: whoever is
signed in has a conversation of his own on any incident, which may be empty. -/
def getChat (auth : Option UserId) (i : IncidentId) (params : CursorParams) (s : ChatStore) :
    ChatAnswer ChatHistory :=
  match s.db.authenticated auth with
  | none => .refused .unauthorized
  | some user =>
    match s.db.incidents.get? i with
    | none => .refused (.error 404 "Incident non trouvé.")
    | some _ =>
      let base := s.conversation i user.id
      paginate ChatHistory.stamp base (ascending ChatHistory.stamp base) params

def ChatStore.discussion (s : ChatStore) (i : IncidentId) : List Post :=
  s.posts.select fun m => decide (m.incident = i)

/-- `DiscussionMessageView.list`. Who may read is decided, and may be let in, as for the
whole discussion (`readDiscussion`); the whole discussion is ordered by time only. -/
def listDiscussion (auth : Option UserId) (i : IncidentId) (params : CursorParams)
    (s : ChatStore) : ChatAnswer Post × ChatStore :=
  match (readDiscussion auth i).run s.db with
  | (.ok _ (.messages _), db) =>
    let base := s.discussion i
    (paginate Post.stamp base (ascending Post.createdAt base) params, { s with db := db })
  | (response, db) => (.refused response, { s with db := db })

/-! ## Following the cursors -/

def ChatAnswer.page? {μ : Type} : ChatAnswer μ → Option (Page μ MessageId)
  | .page shown => some shown
  | _ => none

def beforeOf : Option MessageId → RawId
  | none => .absent
  | some id => .uuid id

/-- From the first page on, the cursors lead through the messages to an end. The pages
put together are strictly ascending and hold every message of the first request once;
they are the whole history if it stays as it is. -/
def ReadsAll {μ : Type} [DecidableEq μ] (stamp : μ → Stamp) (base : Nat → List μ)
    (ask : Nat → Option MessageId → ChatAnswer μ) : Prop :=
  ∃ requests all, follow (fun n before => (ask n before).page?) requests 0 none = some all ∧
    (all.Pairwise fun m m' => stamp m < stamp m') ∧
    (∀ m ∈ base 0, all.count m = 1) ∧ (∀ m ∈ all, ∃ n, m ∈ base n) ∧
    ((∀ n, base n = base 0) → all = ascending stamp (base 0))

/-- Messages arrive, and finitely many of them come before a message of the first request. -/
structure Arrives {μ : Type} (stamp : μ → Stamp) (base : Nat → List μ) : Prop where
  grows : ∀ n, ∀ m ∈ base n, m ∈ base (n + 1)
  finite : {m | (∃ n, m ∈ base n) ∧ ∃ m' ∈ base 0, stamp m < stamp m'}.Finite

section Pages

variable {μ : Type} {stamp : μ → Stamp}

theorem isBefore_iff {cursor stamp : Stamp} : isBefore cursor stamp = true ↔ stamp < cursor := by
  unfold isBefore
  rw [decide_eq_true_eq, Prod.Lex.lt_iff]

theorem clampLimit_pos (n : Int) : 0 < clampLimit n := by
  unfold clampLimit
  omega

theorem find?_id {base : List μ} (hids : (base.map fun m => (ofLex (stamp m)).2).Nodup) {c : μ}
    (hc : c ∈ base) :
    base.find? (fun m => decide ((ofLex (stamp m)).2 = (ofLex (stamp c)).2)) = some c := by
  induction base with
  | nil => cases hc
  | cons m rest ih =>
      obtain ⟨hm, hrest⟩ := List.nodup_cons.mp hids
      rcases List.mem_cons.mp hc with rfl | hc
      · exact List.find?_cons_of_pos (decide_eq_true rfl)
      · rw [List.find?_cons_of_neg, ih hrest hc]
        intro heq
        exact hm (List.mem_map.mpr ⟨c, hc, (of_decide_eq_true heq).symm⟩)

theorem serves_paginate {base whole : Nat → List μ}
    (hids : ∀ n, ((base n).map fun m => (ofLex (stamp m)).2).Nodup) (limit : Int) :
    Serves stamp (fun m => (ofLex (stamp m)).2) base fun n before =>
      (paginate stamp (base n) (whole n) ⟨.int limit, beforeOf before⟩).page? := by
  have hkeys : ∀ n, ((base n).map stamp).Nodup := by
    intro n
    refine List.Nodup.of_map (fun s : Stamp => (ofLex s).2) ?_
    rw [List.map_map]
    exact hids n
  refine ⟨fun n => ⟨_, ?_, newestPage_shows (hkeys n) (clampLimit_pos limit)⟩, fun n c hc => ?_⟩
  · rfl
  · have hbefore : (base n).filter (fun m => isBefore (stamp c) (stamp m)) =
        (base n).filter fun m => stamp m < stamp c := by
      refine List.filter_congr fun m _ => ?_
      rw [Bool.eq_iff_iff, isBefore_iff, decide_eq_true_eq]
    have hsub : (((base n).filter fun m => stamp m < stamp c).map stamp).Nodup :=
      (hkeys n).sublist (List.filter_sublist.map stamp)
    refine ⟨_, ?_, newestPage_shows hsub (clampLimit_pos limit)⟩
    unfold paginate beforeOf
    dsimp only
    rw [find?_id (hids n) hc]
    dsimp only
    rw [hbefore]
    rfl

/-- A view that paginates reads all its messages. -/
theorem readsAll_of_paginate [DecidableEq μ] {base : Nat → List μ} (whole : Nat → List μ)
    {ask : Nat → Option MessageId → ChatAnswer μ} (limit : Int)
    (hask : ∀ n before, ask n before =
      paginate stamp (base n) (whole n) ⟨.int limit, beforeOf before⟩)
    (hids : ∀ n, ((base n).map fun m => (ofLex (stamp m)).2).Nodup)
    (harrives : Arrives stamp base) : ReadsAll stamp base ask := by
  have hserves : Serves stamp (fun m => (ofLex (stamp m)).2) base
      fun n before => (ask n before).page? := by
    simp only [hask]
    exact serves_paginate hids limit
  obtain ⟨requests, all, hfollow, hsorted, hsound, hcomplete⟩ :=
    follow_complete hserves harrives.grows harrives.finite
  have hnodup : all.Nodup := by
    refine hsorted.imp fun {m m'} hlt heq => ?_
    rw [heq] at hlt
    exact lt_irrefl _ hlt
  refine ⟨requests, all, hfollow, hsorted, fun m hm => ?_, hsound, fun hsame => ?_⟩
  · exact List.count_eq_one_of_mem hnodup (hcomplete m hm)
  · have hkeys : ((base 0).map stamp).Nodup := by
      refine List.Nodup.of_map (fun s : Stamp => (ofLex s).2) ?_
      rw [List.map_map]
      exact hids 0
    refine eq_of_ascending hsorted (pairwise_ascending hkeys) fun m => ?_
    rw [mem_ascending]
    refine ⟨fun hm => ?_, hcomplete m⟩
    obtain ⟨n, hn⟩ := hsound m hm
    rwa [hsame n] at hn

end Pages

/-! ## Both chats -/

def ChatStore.MayChat (s : ChatStore) (user : UserId) (i : IncidentId) : Prop :=
  (s.db.authenticated (some user)).isSome ∧ (s.db.incidents.get? i).isSome

/-- The user reads the discussion without an error. To read is to be let in,
which the view checks at each request. -/
def ChatStore.MayDiscuss (s : ChatStore) (user : UserId) (i : IncidentId) : Prop :=
  ∃ status messages, ((readDiscussion (some user) i).run s.db).1 = .ok status (.messages messages)

/-- For as long as the user may read them, the cursors of both chats return
every message once. The stores may differ from request to request, as far as
messages arrive, and following the cursors comes to an end all the same. -/
theorem cursors_return_all (stores : Nat → ChatStore) (user : UserId) (i : IncidentId)
    (limit : Int) :
    ((∀ n, (stores n).MayChat user i) →
      Arrives ChatHistory.stamp (fun n => (stores n).conversation i user) →
        ReadsAll ChatHistory.stamp (fun n => (stores n).conversation i user)
          fun n before => getChat (some user) i ⟨.int limit, beforeOf before⟩ (stores n)) ∧
    ((∀ n, (stores n).MayDiscuss user i) →
      Arrives Post.stamp (fun n => (stores n).discussion i) →
        ReadsAll Post.stamp (fun n => (stores n).discussion i)
          fun n before => (listDiscussion (some user) i ⟨.int limit, beforeOf before⟩
            (stores n)).1) := by
  constructor
  · intro hmay harrives
    refine readsAll_of_paginate
      (fun n => ascending ChatHistory.stamp ((stores n).conversation i user)) limit
      (fun n before => ?_) (fun n => (stores n).chatHistory.nodup_select _) harrives
    obtain ⟨hauth, hincident⟩ := hmay n
    obtain ⟨account, haccount⟩ := Option.isSome_iff_exists.mp hauth
    obtain ⟨incident, hincident⟩ := Option.isSome_iff_exists.mp hincident
    have huser : user = account.id := Option.some.inj (authenticated_id haccount).1
    unfold getChat
    rw [haccount, hincident, huser]
  · intro hmay harrives
    refine readsAll_of_paginate
      (fun n => ascending Post.createdAt ((stores n).discussion i)) limit
      (fun n before => ?_) (fun n => (stores n).posts.nodup_select _) harrives
    obtain ⟨status, messages, hread⟩ := hmay n
    unfold listDiscussion
    generalize (readDiscussion (some user) i).run (stores n).db = out at hread
    obtain ⟨response, db⟩ := out
    subst hread
    rfl

def chatDb : Db :=
  Db.start [] [.superAdmin 2 "super@map.ml"] (.new 1 (some "Fuite") "Bamako" "01-02-2025")

/-- Two questions at one time; a third one arrives after the first request. -/
def chatStores (n : Nat) : ChatStore where
  db := chatDb
  chatHistory :=
    let asked := (Table.empty.put ⟨8, some 1, some 2, .user, "Où ?", 100⟩).put
      ⟨5, some 1, some 2, .user, "Quand ?", 100⟩
    if n = 0 then asked else asked.put ⟨6, some 1, some 2, .user, "Pourquoi ?", 100⟩
  posts := Table.empty

theorem cursors_return_all_tied :
    ReadsAll ChatHistory.stamp (fun n => (chatStores n).conversation 1 2)
      fun n before => getChat (some 2) 1 ⟨.int 1, beforeOf before⟩ (chatStores n) := by
  have hmay : ∀ n, (chatStores n).MayChat 2 1 := fun _ => ⟨rfl, rfl⟩
  have hnext : ∀ n, (chatStores (n + 1)).conversation 1 2 = (chatStores 1).conversation 1 2 :=
    fun _ => rfl
  have hsub : ∀ n, ∀ m ∈ (chatStores n).conversation 1 2, m ∈ (chatStores 1).conversation 1 2 := by
    intro n m hm
    cases n with
    | zero => exact List.mem_append_left _ hm
    | succ n => exact hm
  refine (cursors_return_all chatStores 2 1 1).1 hmay ⟨fun n m hm => ?_, ?_⟩
  · rw [hnext]
    exact hsub n m hm
  · refine (List.finite_toSet ((chatStores 1).conversation 1 2)).subset fun m hm => ?_
    obtain ⟨⟨n, hm⟩, -⟩ := hm
    exact hsub n m hm

end Mapapi
