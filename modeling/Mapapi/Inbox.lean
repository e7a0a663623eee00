import Mapapi.Lib.Delivery
import Mapapi.Lib.Paging
import Mapapi.Consumers

/-!
# The notifications of a user

`NotificationViewSet` serves the notifications of whoever is signed in, page by page and
newest first, marks one of them or all of them as read, and counts them. A notification is
written by the program, and goes when its user, its collaboration or its incident is
deleted.

What a user is shown only depends on what the user has done and on what the user was sent
(`inbox_private`). Reading the pages one after the other shows every notification
(`inbox_read_through`), unless the pages are those of `?read=false` and each is marked as
read before the next one is asked for: that shows every other page (`unread_skimmed`). The
socket of a user is pushed new notifications, and nothing else (`inbox_live_iff`).
-/

namespace Mapapi

open Lib

/-! ## The table -/

abbrev NotificationId := Nat

structure StoredNotification extends Notification where
  id : NotificationId
  read : Bool
  deriving DecidableEq

instance : Keyed StoredNotification NotificationId := ⟨fun n => n.id⟩

/-- The rows in the order of their creation, so of `created_at`. -/
abbrev NotificationTable := Table StoredNotification

/-- What can be deleted under a notification. Its own deletion is no endpoint. -/
inductive Deleted where
  | user (u : UserId)
  | collaboration (id : CollaborationId)
  | incident (i : IncidentId)

def Deleted.takes (n : StoredNotification) : Deleted → Bool
  | user u => decide (n.user = u)
  | collaboration id => decide (n.colaboration = some id)
  | incident i => decide (n.incident = some i)

/-! ## The requests -/

/-- The value of `read` in a body, as `request.data.get('read', True)` returns it. Anything
else than a boolean or null is taken for its text. -/
inductive ReadValue where
  | absent
  | null
  | bool (b : Bool)
  | other (text : String)
  deriving DecidableEq

/-- The texts that count as true. All others count as false, misspelt ones
too. -/
def saysTrue (text : String) : Bool :=
  decide (text.toList.map Char.toLower ∈ ["1".toList, "true".toList, "yes".toList])

/-- The value of `read` in a body. A PATCH without it marks as read, which is
what clients use it for. -/
def asBool : ReadValue → Bool
  | .absent | .null => true
  | .bool b => b
  | .other text => saysTrue text

/-- `NotificationViewSet.get_queryset`, of the rows of the user: `?read=`, newest first. -/
def notificationQueryset (read : Option String) (rows : List StoredNotification) :
    List StoredNotification :=
  match read with
  | none => rows.reverse
  | some text => rows.reverse.filter fun n => n.read = saysTrue text

/-- `NotificationPagination`: 20 rows, or as many as `?page_size=` says, at most 100. -/
def notificationPageSize : Option Nat → Nat
  | none | some 0 => 20
  | some n => min n 100

/-- What is asked for. Pages are counted from 0. -/
inductive InboxRequest where
  | list (read : Option String) (pageSize : Option Nat) (page : Nat)
  | retrieve (read : Option String) (pk : NotificationId)
  | partialUpdate (read : Option String) (pk : NotificationId) (value : ReadValue)
  | markAllRead
  deriving DecidableEq

/-- What a client is answered. The counters of a page (`unread`, `read` and
`total`) are about all notifications of the user, whatever the filter of the
page. -/
inductive InboxReply where
  /-- Status 401. -/
  | unauthorized
  /-- Status 404: no such notification, or no such page. -/
  | notFound
  | one (row : StoredNotification)
  | page (rows : List StoredNotification) (count : Nat) (next : Bool)
      (unread read total : Nat)
  | marked (n : Nat)
  deriving DecidableEq

/-- `NotificationViewSet.list`: the counters are about all the rows of the user. -/
def listNotifications (read : Option String) (pageSize : Option Nat) (page : Nat)
    (rows : List StoredNotification) : InboxReply :=
  let size := notificationPageSize pageSize
  let found := notificationQueryset read rows
  if page = 0 ∨ page * size < found.length then
    let unread := (rows.filter fun n => !n.read).length
    let read := (rows.filter fun n => n.read).length
    .page (pageAt size page found) found.length (hasNext size page found) unread read
      (unread + read)
  else .notFound

def getNotification (read : Option String) (pk : NotificationId)
    (rows : List StoredNotification) : Option StoredNotification :=
  (notificationQueryset read rows).find? fun n => decide (n.id = pk)

def notificationsOf (u : UserId) (t : NotificationTable) : List StoredNotification :=
  t.select fun n => decide (n.user = u)

/-- The rows that a request of the user marks, and as what. -/
def InboxRequest.marks (rows : List StoredNotification) :
    InboxRequest → Option ((StoredNotification → Bool) × Bool)
  | partialUpdate read pk value =>
    (getNotification read pk rows).map fun _ => (fun n => decide (n.id = pk), asBool value)
  | markAllRead => some (fun n => !n.read, true)
  | _ => none

def InboxRequest.reply (rows : List StoredNotification) : InboxRequest → InboxReply
  | list read pageSize page => listNotifications read pageSize page rows
  | retrieve read pk =>
    match getNotification read pk rows with
    | none => .notFound
    | some row => .one row
  | partialUpdate read pk value =>
    match getNotification read pk rows with
    | none => .notFound
    | some row => .one { row with read := asBool value }
  | markAllRead => .marked (rows.filter fun n => !n.read).length

/-- A request of somebody, or a write of the program. -/
inductive InboxEvent where
  | request (auth : Option UserId) (request : InboxRequest)
  /-- `Notification.objects.create(...)`, with the id that has been drawn. -/
  | create (id : NotificationId) (notification : Notification)
  | delete (deleted : Deleted)

def markRows (u : UserId) (p : StoredNotification → Bool) (read : Bool)
    (t : NotificationTable) : NotificationTable :=
  t.updateWhere (fun n => decide (n.user = u) && p n) fun n => { n with read := read }

/-- The table after an event. An id that is taken makes the creation raise. -/
def InboxEvent.apply (t : NotificationTable) : InboxEvent → NotificationTable
  | request none _ => t
  | request (some u) asked =>
    match asked.marks (notificationsOf u t) with
    | none => t
    | some (p, read) => markRows u p read t
  | create id notification =>
    if (t.get? id).isSome then t else t.put { notification with id := id, read := false }
  | delete deleted => t.eraseWhere deleted.takes

def inboxReply (t : NotificationTable) : Option UserId → InboxRequest → InboxReply
  | none, _ => .unauthorized
  | some u, request => request.reply (notificationsOf u t)

def inboxRun (t : NotificationTable) (events : List InboxEvent) : NotificationTable :=
  exec InboxEvent.apply t events

/-! ## The rows of one user -/

/-- What an event does to the rows of the user `u`, by these rows alone. -/
def InboxEvent.own (u : UserId) (rows : List StoredNotification) :
    InboxEvent → List StoredNotification
  | request auth asked =>
    if auth = some u then
      match asked.marks rows with
      | none => rows
      | some (p, read) => rows.map fun n => if p n then { n with read := read } else n
    else rows
  | create id notification =>
    if notification.user = u then rows ++ [{ notification with id := id, read := false }]
    else rows
  | delete deleted => rows.filter fun n => !deleted.takes n

/-- The event is a request of the user, is about a notification of the user or deletes. -/
def InboxEvent.concerns (u : UserId) : InboxEvent → Bool
  | request auth _ => decide (auth = some u)
  | create _ notification => decide (notification.user = u)
  | delete _ => true

def InboxEvent.drawn : InboxEvent → Option NotificationId
  | create id _ => some id
  | _ => none

/-- No id is drawn twice, or that is taken. In the source ids are random
UUIDs. -/
def DrawnOnce (t : NotificationTable) (events : List InboxEvent) : Prop :=
  (events.filterMap InboxEvent.drawn).Nodup ∧
    ∀ id ∈ events.filterMap InboxEvent.drawn, t.get? id = none

section Own

variable {t : NotificationTable} {u : UserId} {event : InboxEvent} {events : List InboxEvent}
  {id : NotificationId}

/-- The rows of the user move by themselves. -/
theorem notificationsOf_apply (h : ∀ id, event.drawn = some id → t.get? id = none) :
    notificationsOf u (event.apply t) = event.own u (notificationsOf u t) := by
  cases event with
  | request auth asked =>
      cases auth with
      | none => rfl
      | some v =>
          have hmarks (p : StoredNotification → Bool) (read : Bool) :
              notificationsOf u (markRows v p read t) = if some v = some u then
                (notificationsOf u t).map fun n => if p n then { n with read := read } else n
              else notificationsOf u t := by
            refine (Table.select_updateWhere_map t ?_ ?_).trans ?_
            · exact fun _ => rfl
            split
            · rename_i hv
              obtain rfl := Option.some.inj hv
              refine List.map_congr_left fun n hn => ?_
              have hown : decide (n.user = v) = true := (List.mem_filter.mp hn).2
              rw [hown, Bool.true_and]
            · rename_i hv
              refine (List.map_congr_left fun n hn => ?_).trans (List.map_id _)
              have hown : n.user = u := of_decide_eq_true (List.mem_filter.mp hn).2
              have hother : decide (n.user = v) = false :=
                decide_eq_false fun huser => hv (congrArg some (huser.symm.trans hown))
              rw [hother, Bool.false_and]
              exact if_neg Bool.false_ne_true
          rw [InboxEvent.apply, InboxEvent.own]
          by_cases hv : some v = some u
          · obtain rfl := Option.some.inj hv
            rw [if_pos rfl]
            cases hasked : asked.marks (notificationsOf v t) with
            | none => rfl
            | some marked => exact (hmarks marked.1 marked.2).trans (if_pos rfl)
          · rw [if_neg hv]
            cases hasked : asked.marks (notificationsOf v t) with
            | none => rfl
            | some marked => exact (hmarks marked.1 marked.2).trans (if_neg hv)
  | create id notification =>
      have hfree : t.get? id = none := h id rfl
      rw [InboxEvent.apply, if_neg (by simp [hfree]), InboxEvent.own]
      unfold notificationsOf Table.select
      rw [Table.rows_put _ _ hfree, List.filter_append]
      by_cases hu : notification.user = u
      · rw [if_pos hu, List.filter_cons_of_pos (by simp [hu]), List.filter_nil]
      · rw [if_neg hu, List.filter_cons_of_neg (by simp [hu]), List.filter_nil, List.append_nil]
  | delete deleted =>
      change ((t.rows.filter fun n => !deleted.takes n).filter fun n => decide (n.user = u)) =
        (t.rows.filter fun n => decide (n.user = u)).filter fun n => !deleted.takes n
      rw [List.filter_filter, List.filter_filter]
      exact List.filter_congr fun n _ => Bool.and_comm ..

theorem own_of_not_concerns (h : event.concerns u = false) (rows : List StoredNotification) :
    event.own u rows = rows := by
  cases event with
  | request auth asked => exact if_neg (of_decide_eq_false h)
  | create id notification => exact if_neg (of_decide_eq_false h)
  | delete deleted => cases h

theorem get?_apply (hid : event.drawn ≠ some id) (hfree : t.get? id = none) :
    (event.apply t).get? id = none := by
  cases event with
  | request auth asked =>
      cases auth with
      | none => exact hfree
      | some v =>
          rw [InboxEvent.apply]
          split
          · exact hfree
          · unfold markRows
            rw [Table.get?_updateWhere, hfree]
            rfl
  | create id' notification =>
      rw [InboxEvent.apply]
      split
      · exact hfree
      · rw [Table.get?_put, if_neg fun heq => hid (congrArg some heq.symm)]
        exact hfree
  | delete deleted =>
      rw [InboxEvent.apply, Table.get?_eraseWhere, hfree]
      rfl

/-- Along a run that draws no id twice, every id is free when it is drawn. -/
theorem along_drawn (h : DrawnOnce t events) :
    Along InboxEvent.apply (fun t event => ∀ id, event.drawn = some id → t.get? id = none)
      t events := by
  induction events generalizing t with
  | nil => trivial
  | cons event events ih =>
      obtain ⟨hnodup, hfree⟩ := h
      cases hdrawn : event.drawn with
      | none =>
          rw [List.filterMap_cons_none hdrawn] at hnodup hfree
          refine ⟨fun id hid => (nomatch hdrawn.symm.trans hid), ih ⟨hnodup, fun id hid => ?_⟩⟩
          exact get?_apply (by rw [hdrawn]; nofun) (hfree id hid)
      | some id =>
          rw [List.filterMap_cons_some hdrawn] at hnodup hfree
          obtain ⟨hnew, hrest⟩ := List.nodup_cons.mp hnodup
          refine ⟨fun id' hid' => ?_, ih ⟨hrest, fun id' hid' => ?_⟩⟩
          · cases hdrawn.symm.trans hid'
            exact hfree id List.mem_cons_self
          · refine get?_apply ?_ (hfree id' (List.mem_cons_of_mem _ hid'))
            rw [hdrawn]
            rintro heq
            exact hnew (Option.some.inj heq ▸ hid')

theorem DrawnOnce.filter (h : DrawnOnce t events) (p : InboxEvent → Bool) :
    DrawnOnce t (events.filter p) := by
  have hsub := (List.filter_sublist (p := p) (l := events)).filterMap InboxEvent.drawn
  exact ⟨h.1.sublist hsub, fun id hid => h.2 id (hsub.subset hid)⟩

/-- The rows of the user after a run are those of a run by itself. Ids have to
be drawn once for this: a creation under an id that another user has would
fail, and so tell of it. -/
theorem notificationsOf_run (h : DrawnOnce t events) :
    notificationsOf u (inboxRun t events) =
      exec (InboxEvent.own u) (notificationsOf u t) events :=
  exec_view (fun _ _ hfree => notificationsOf_apply hfree) (along_drawn h)

/-- What a user is answered only depends on the requests of the user, on what
the user has been sent and on what has been deleted. The other events are left
out of the run by `Lib.exec_filter`, after the table has been cut down to the
rows of the user. -/
theorem inbox_private (h : DrawnOnce t events) (asked : InboxRequest) :
    inboxReply (inboxRun t events) (some u) asked =
      inboxReply (inboxRun t (events.filter fun event => event.concerns u)) (some u) asked := by
  have hown : exec (InboxEvent.own u) (notificationsOf u t)
      (events.filter fun event => event.concerns u) =
        exec (InboxEvent.own u) (notificationsOf u t) events :=
    exec_filter (fun rows event hother => own_of_not_concerns hother rows) _ _
  unfold inboxReply
  dsimp only
  rw [notificationsOf_run h, notificationsOf_run (h.filter _), hown]

end Own

def sentAndRead : List InboxEvent :=
  let told (u : UserId) : Notification :=
    { user := u, notifType := .deadlineWarning, message := "Anti-gel", colaboration := none
      incident := some 1 }
  [.create 1 (told 2), .create 2 (told 3), .request (some 2) (.partialUpdate none 1 .absent),
    .request (some 3) .markAllRead, .create 3 (told 2)]

theorem sentAndRead_drawn : DrawnOnce Table.empty sentAndRead :=
  ⟨by decide, fun _ _ => rfl⟩

theorem inbox_private_sentAndRead :
    inboxReply (inboxRun Table.empty sentAndRead) (some 2) .markAllRead = .marked 1 ∧
      inboxReply (inboxRun Table.empty sentAndRead) (some 2) .markAllRead =
        inboxReply (inboxRun Table.empty (sentAndRead.filter fun event => event.concerns 2))
          (some 2) .markAllRead :=
  ⟨by decide, inbox_private sentAndRead_drawn .markAllRead⟩

/-! ## Reading page by page -/

def InboxReply.rows : InboxReply → List StoredNotification
  | page rows .. => rows
  | _ => []

def InboxReply.hasNext : InboxReply → Bool
  | page _ _ next .. => next
  | _ => false

def notificationIds (u : UserId) (t : NotificationTable) : List NotificationId :=
  (notificationQueryset none (notificationsOf u t)).map fun n => n.id

section Pages

variable {t : NotificationTable} {u : UserId} {event : InboxEvent} {read : Option String}
  {pageSize : Option Nat} {n : Nat}

theorem rows_list : (inboxReply t (some u) (.list read pageSize n)).rows =
    pageAt (notificationPageSize pageSize) n (notificationQueryset read (notificationsOf u t)) := by
  unfold inboxReply InboxRequest.reply listNotifications
  dsimp only
  split
  · rfl
  · rename_i hpage
    refine (List.take_eq_nil_of_eq_nil ?_).symm
    rw [List.drop_eq_nil_iff]
    omega

theorem drop_of_last (h : (inboxReply t (some u) (.list none pageSize n)).hasNext = false) :
    (notificationIds u t).drop ((n + 1) * notificationPageSize pageSize) = [] := by
  have hlength : (notificationIds u t).length =
      (notificationQueryset none (notificationsOf u t)).length := List.length_map ..
  rw [List.drop_eq_nil_iff, hlength, Nat.succ_mul]
  unfold inboxReply InboxRequest.reply listNotifications at h
  dsimp only at h
  split at h
  · have hlast := of_decide_eq_false h
    rw [Nat.succ_mul] at hlast
    omega
  · omega

theorem notificationIds_eq (u : UserId) (t : NotificationTable) :
    notificationIds u t = ((notificationsOf u t).map fun n => n.id).reverse :=
  List.map_reverse

theorem map_id_own_request (auth : Option UserId) (asked : InboxRequest)
    (rows : List StoredNotification) :
    ((InboxEvent.request auth asked).own u rows).map (fun n => n.id) =
      rows.map fun n => n.id := by
  rw [InboxEvent.own]
  by_cases hown : auth = some u
  · rw [if_pos hown]
    cases asked.marks rows with
    | none => rfl
    | some marked =>
        rw [List.map_map]
        refine List.map_congr_left fun n _ => ?_
        simp only [Function.comp_apply]
        split <;> rfl
  · rw [if_neg hown]

/-- Nothing but a deletion takes an id from the list. -/
theorem notificationIds_suffix (hfree : ∀ id, event.drawn = some id → t.get? id = none)
    (hkeeps : ∀ deleted, event ≠ .delete deleted) :
    notificationIds u t <:+ notificationIds u (event.apply t) := by
  rw [notificationIds_eq, notificationIds_eq, notificationsOf_apply hfree]
  cases event with
  | request auth asked =>
      rw [map_id_own_request]
  | create id notification =>
      rw [InboxEvent.own]
      by_cases hown : notification.user = u
      · rw [if_pos hown, List.map_append, List.reverse_append]
        exact List.suffix_append _ _
      · rw [if_neg hown]
  | delete deleted => exact absurd rfl (hkeeps deleted)

/-- A client asks for one page after the other, and anything but a deletion
happens in between. When a reply has no next page, every notification that
there was at first has been shown. New ones come first, so what is ahead of
the reader moves back and is never passed. -/
theorem inbox_read_through {events : List (Option InboxEvent)}
    (hdrawn : DrawnOnce t (events.filterMap id))
    (hkeeps : ∀ deleted, some (.delete deleted) ∉ events)
    (hlast : let reader := exec (Reading.advance InboxEvent.apply (notificationIds u)
        (notificationPageSize pageSize)) (Reading.start t) events
      (inboxReply reader.source (some u) (.list none pageSize reader.next)).hasNext = false) :
    ∀ id ∈ notificationIds u t, id ∈ (exec (Reading.advance InboxEvent.apply
      (notificationIds u) (notificationPageSize pageSize)) (Reading.start t)
        (events ++ [none])).shown := by
  refine Reading.read_through ?_ ?_
  · have hfree := @Reading.along_source _ _ _ _ (notificationIds u)
      (notificationPageSize pageSize) (Reading.start t) events _ (along_drawn hdrawn)
    rw [along_append]
    refine ⟨along_iff.mpr fun past e rest hevents => ?_, trivial, trivial⟩
    cases e with
    | none => trivial
    | some event =>
        have hmem : some event ∈ events :=
          hevents ▸ List.mem_append_right _ List.mem_cons_self
        refine Reading.keepsAhead_of_suffix (notificationIds_suffix ?_ ?_)
        · exact along_iff.mp hfree past (some event) rest hevents event rfl
        · rintro deleted rfl
          exact hkeeps deleted hmem
  · rw [exec_snoc]
    exact drop_of_last hlast

/-- User 2 reads two notifications, one a page, while a third one comes: the first one is
shown twice, and the oldest one last. -/
theorem inbox_read_through_growing :
    let told : Notification :=
      { user := 2, notifType := .deadlineWarning, message := "Anti-gel", colaboration := none
        incident := some 1 }
    let shown := (exec (Reading.advance InboxEvent.apply (notificationIds 2) 1)
      (Reading.start (inboxRun Table.empty sentAndRead))
      [none, some (.create 4 told), none, none]).shown
    shown = [3, 3, 1] ∧
      ∀ id ∈ notificationIds 2 (inboxRun Table.empty sentAndRead), id ∈ shown := by
  intro told shown
  let events : List (Option InboxEvent) := [none, some (.create 4 told), none]
  have hdrawn : DrawnOnce (inboxRun Table.empty sentAndRead) (events.filterMap id) :=
    ⟨by decide, by decide⟩
  have hkeeps : ∀ deleted, some (.delete deleted) ∉ events := by simp [events]
  exact ⟨by decide, @inbox_read_through _ 2 (some 1) events hdrawn hkeeps (by decide)⟩

/-! ### Marking what has been shown -/

/-- What `?read=false` lists for a user, newest first. It shrinks while its
pages are read and marked. -/
def unreadNotifications (u : UserId) (t : NotificationTable) : List StoredNotification :=
  notificationQueryset (some "false") (notificationsOf u t)

/-- One PATCH for each notification of a page, as a client sends them. -/
def markShown (u : UserId) (rows : List StoredNotification) : List InboxEvent :=
  rows.map fun n => .request (some u) (.partialUpdate none n.id .absent)

/-- The table once the client has shown the first `n` pages of `?read=false`, and marked the
rows of each page before it asks for the next one. -/
def skimUnread (u : UserId) (pageSize : Option Nat) (t : NotificationTable) :
    Nat → NotificationTable
  | 0 => t
  | n + 1 =>
    let before := skimUnread u pageSize t n
    let shown := (inboxReply before (some u) (.list (some "false") pageSize n)).rows
    inboxRun before (markShown u shown)

theorem marks_partialUpdate {rows : List StoredNotification} (id : NotificationId) :
    (InboxEvent.request (some u) (.partialUpdate none id .absent)).own u rows =
      rows.map fun n => if n.id = id then { n with read := true } else n := by
  rw [InboxEvent.own, if_pos rfl, InboxRequest.marks, getNotification]
  cases hfound : (notificationQueryset none rows).find? fun n => decide (n.id = id) with
  | some row => simp [asBool]
  | none =>
      have hnone := List.find?_eq_none.mp hfound
      refine (List.map_congr_left fun n hn => ?_).trans (List.map_id _) |>.symm
      have hne := hnone n (List.mem_reverse.mpr hn)
      exact if_neg (by simpa using hne)

theorem exec_markShown (shown rows : List StoredNotification) :
    exec (InboxEvent.own u) rows (markShown u shown) =
      rows.map fun n => if n.id ∈ shown.map fun n => n.id then { n with read := true } else n := by
  induction shown generalizing rows with
  | nil => simp [markShown]
  | cons first shown ih =>
      change exec (InboxEvent.own u) ((InboxEvent.request (some u)
        (.partialUpdate none first.id .absent)).own u rows) (markShown u shown) = _
      rw [marks_partialUpdate, ih, List.map_map]
      refine List.map_congr_left fun n _ => ?_
      simp only [Function.comp_apply, List.map_cons, List.mem_cons]
      by_cases hfirst : n.id = first.id
      · simp [hfirst]
      · simp [hfirst]

theorem drawnOnce_markShown (shown : List StoredNotification) :
    DrawnOnce t (markShown u shown) := by
  have hnone : (markShown u shown).filterMap InboxEvent.drawn = [] := by
    unfold markShown
    rw [List.filterMap_map]
    exact List.filterMap_eq_nil_iff.mpr fun _ _ => rfl
  unfold DrawnOnce
  rw [hnone]
  exact ⟨List.nodup_nil, fun _ h => absurd h List.not_mem_nil⟩

theorem rows_unread : (inboxReply t (some u) (.list (some "false") pageSize n)).rows =
    pageAt (notificationPageSize pageSize) n (unreadNotifications u t) :=
  rows_list

/-- Marking a page as read takes exactly that page out of what is unread, one
request for each notification. Ids tell the notifications of one table apart. -/
theorem unread_markShown {shown : List StoredNotification}
    (hshown : ∀ n ∈ shown, n ∈ notificationsOf u t) :
    unreadNotifications u (inboxRun t (markShown u shown)) =
      (unreadNotifications u t).filter fun n => n ∉ shown := by
  have hfalse : saysTrue "false" = false := by decide
  have hids : ∀ n ∈ notificationsOf u t, n.id ∈ (shown.map fun n => n.id) ↔ n ∈ shown := by
    intro n hn
    constructor
    · intro hid
      obtain ⟨n', hmem, heq⟩ := List.mem_map.mp hid
      have hsame := List.inj_on_of_nodup_map t.nodup (List.mem_filter.mp (hshown n' hmem)).1
        (List.mem_filter.mp hn).1 heq
      exact hsame ▸ hmem
    · exact fun hmem => List.mem_map.mpr ⟨n, hmem, rfl⟩
  unfold unreadNotifications
  rw [notificationsOf_run (drawnOnce_markShown shown), exec_markShown]
  unfold notificationQueryset
  dsimp only
  rw [hfalse, ← List.map_reverse, List.filter_map, List.filter_filter]
  have hleft : ∀ n ∈ (notificationsOf u t).reverse,
      ((fun n : StoredNotification => decide (n.read = false)) ∘ fun n : StoredNotification =>
        if n.id ∈ shown.map fun n => n.id then { n with read := true } else n) n =
      (decide (n ∉ shown) && decide (n.read = false)) := by
    intro n hn
    have hiff := hids n (List.mem_reverse.mp hn)
    by_cases hmem : n ∈ shown
    · simp only [Function.comp_apply, if_pos (hiff.mpr hmem)]
      simp [hmem]
    · simp only [Function.comp_apply, if_neg fun h => hmem (hiff.mp h)]
      simp [hmem]
  rw [List.filter_congr hleft]
  refine (List.map_congr_left fun n hn => ?_).trans (List.map_id _)
  obtain ⟨hrow, hkept⟩ := List.mem_filter.mp hn
  have hnot : n ∉ shown := of_decide_eq_true (Bool.and_eq_true_iff.mp hkept).1
  exact if_neg fun h => hnot ((hids n (List.mem_reverse.mp hrow)).mp h)

theorem unread_skimUnread (n : Nat) :
    unreadNotifications u (skimUnread u pageSize t n) =
      skim (notificationPageSize pageSize) (unreadNotifications u t) n := by
  induction n with
  | zero => rfl
  | succ n ih =>
      have hmem {t : NotificationTable} {row : StoredNotification}
          (h : row ∈ unreadNotifications u t) :
          row ∈ notificationsOf u t := List.mem_reverse.mp (List.mem_filter.mp h).1
      have hnodup (t : NotificationTable) : (unreadNotifications u t).Nodup := by
        refine List.Nodup.filter _ (List.nodup_reverse.mpr ?_)
        exact (t.nodup_select _).of_map _
      rw [skimUnread, rows_unread, unread_markShown, filter_not_mem_pageAt (hnodup _), ih]
      · rfl
      · exact fun row hrow => hmem (List.mem_of_mem_drop (List.mem_of_mem_take hrow))

/-- A client who marks each page of `?read=false` as read before it asks for the next one
is shown every other page of the unread notifications, and the others stay unread. -/
theorem unread_skimmed (n : Nat) :
    (inboxReply (skimUnread u pageSize t n) (some u) (.list (some "false") pageSize n)).rows =
        pageAt (notificationPageSize pageSize) (2 * n) (unreadNotifications u t) ∧
      ∀ k < n, ∀ row ∈ pageAt (notificationPageSize pageSize) (2 * k + 1)
          (unreadNotifications u t),
        row ∈ unreadNotifications u (skimUnread u pageSize t n) := by
  refine ⟨?_, fun k hk row hrow => ?_⟩
  · rw [rows_unread, unread_skimUnread, pageAt_skim]
  · rw [unread_skimUnread, skim_eq]
    refine List.mem_append_left _ (List.mem_flatMap.mpr ⟨k, List.mem_range.mpr hk, hrow⟩)

end Pages

/-! ## The socket -/

/-- The channel layer between `ws_push_notification` and `NotificationConsumer`: a creation
is pushed to the group of its user, and nothing else is pushed. The payload is the row. -/
def notificationLayer :
    Broker NotificationTable InboxEvent (Option UserId) UserId UserId StoredNotification where
  apply event t := event.apply t
  publishes
    | .create id notification, t =>
      if (t.get? id).isSome then [] else [{ notification with id := id, read := false }]
    | _, _ => []
  topic payload := payload.user
  identify auth _ := auth

/-- The socket of a user as a feed of the library: the rows of the user, which
payloads only ever add to. -/
def inboxFeed (u : UserId) : notificationLayer.Feed (List StoredNotification) StoredNotification :=
  Broker.Feed.journal u (notificationsOf u) fun payload => [payload]

abbrev LiveInbox := notificationLayer.State ChannelId

abbrev LiveInboxEvent := notificationLayer.Event ChannelId

section Socket

open Broker

variable {s : LiveInbox} {channel : ChannelId} {u : UserId} {event : LiveInboxEvent}
  {events : List LiveInboxEvent}

/-- A creation is pushed to its user. -/
theorem inbox_published_iff :
    (inboxFeed u).Published s event ↔
      notificationsOf u (s.step event).store = notificationsOf u s.store ∨
        ∃ id notification, event = .write (.create id notification) := by
  refine journal_published_iff.trans ?_
  cases event with
  | join c credentials topic => simp [State.posts]
  | leave c => simp [State.posts]
  | take c => simp [State.posts]
  | write w =>
      cases w with
      | create id notification =>
          refine iff_of_true ?_ (Or.inr ⟨id, notification, rfl⟩)
          change notificationsOf u ((InboxEvent.create id notification).apply s.store) = _ ++
            ((notificationLayer.publishes (.create id notification) s.store).filter fun p =>
              decide (p.user = u)).flatMap fun p => [p]
          rw [List.flatMap_singleton', InboxEvent.apply]
          dsimp only [notificationLayer]
          cases hget : s.store.get? id with
          | some row => simp
          | none =>
              unfold notificationsOf Table.select
              simp only [Option.isSome_none, Bool.false_eq_true, if_false]
              rw [Table.rows_put _ _ hget, List.filter_append]
      | request auth asked =>
          have hposts : s.posts u (.write (.request auth asked)) = [] := rfl
          rw [hposts]
          simp
      | delete deleted =>
          have hposts : s.posts u (.write (.delete deleted)) = [] := rfl
          rw [hposts]
          simp

/-- What the socket of a user has sent and what waits for it are the notifications that have
come since it was connected, as they are in the table, at every moment: exactly as long as
none of the rows of the user is marked or deleted. -/
theorem inbox_live_iff (hnew : s.subscriber? channel = none)
    (hstays : ∀ event ∈ events, event ≠ .leave channel) :
    let connected : LiveInbox := s.join channel (some u) u
    (∀ pre post, events = pre ++ post →
        ∃ socket, (exec State.step connected pre).subscriber? channel = some socket ∧
          notificationsOf u s.store ++
              (collected State.step (State.gives channel) connected pre ++ socket.queue) =
            notificationsOf u (exec State.step connected pre).store) ↔
      ∀ pre event post, events = pre ++ event :: post →
        notificationsOf u ((exec State.step connected pre).step event).store =
            notificationsOf u (exec State.step connected pre).store ∨
          ∃ id notification, event = .write (.create id notification) := by
  intro connected
  have hsocket : connected.subscriber? channel = some (.fresh channel u u) :=
    subscriber?_join_self hnew rfl
  have hstore : connected.store = s.store := store_join
  have hdelivered := @journal_delivered_iff _ _ _ _ _ _ _ notificationLayer _ _ channel
    connected events _ _ u (notificationsOf u) (fun payload => [payload]) hsocket rfl rfl hstays
  simp only [List.flatMap_singleton', hstore] at hdelivered
  refine hdelivered.trans (along_iff.trans ?_)
  refine forall_congr' fun pre => forall_congr' fun event => forall_congr' fun post => ?_
  exact forall_congr' fun _ => inbox_published_iff

theorem inbox_live_sentAndRead :
    let s : LiveInbox := ⟨inboxRun Table.empty sentAndRead, []⟩
    let connected : LiveInbox := s.join 7 (some 2) 2
    let told : Notification :=
      { user := 2, notifType := .deadlineWarning, message := "Anti-gel", colaboration := none
        incident := some 1 }
    let events : List LiveInboxEvent :=
      [.write (.request (some 3) .markAllRead), .write (.create 4 told), .take 7]
    ∃ socket, (exec State.step connected events).subscriber? 7 = some socket ∧
      notificationsOf 2 s.store ++
          (collected State.step (State.gives 7) connected events ++ socket.queue) =
        notificationsOf 2 (exec State.step connected events).store := by
  intro s connected told events
  refine (@inbox_live_iff s 7 2 events rfl (by simp [events])).mpr
    (fun pre event post h => ?_) events [] rfl
  rcases pre with _ | ⟨first, _ | ⟨second, _ | ⟨third, pre⟩⟩⟩
  · obtain ⟨rfl, -⟩ := List.cons.inj h
    exact Or.inl rfl
  · obtain ⟨-, h⟩ := List.cons.inj h
    obtain ⟨rfl, -⟩ := List.cons.inj h
    exact Or.inr ⟨4, told, rfl⟩
  · obtain ⟨-, h⟩ := List.cons.inj h
    obtain ⟨-, h⟩ := List.cons.inj h
    obtain ⟨rfl, -⟩ := List.cons.inj h
    exact Or.inl rfl
  · simp [events] at h

end Socket

end Mapapi
