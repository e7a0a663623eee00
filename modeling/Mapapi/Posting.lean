import Mapapi.Consumers
import Mapapi.Leadership

/-!
# Reading a discussion and posting in it

`DiscussionMessageView` lets the same people read and post, by way of
`_get_user_collaboration`, which may store a row for them on the way. A super admin may
read any discussion; the branch for a super admin who posts never binds the
collaboration that the message is saved with.
-/

namespace Mapapi

open Lib

section Posting

variable {db db' : Db} {auth : Option UserId} {i : IncidentId} {user : User}
  {incident : Incident} {data : DiscussionData} {c : Collaboration}

/-! ## What a post stores -/

/-- The post is answered with 201 and has stored one message of the user, about the
incident and under a collaboration of the incident. -/
def PostsOnce (db : Db) (i : IncidentId) (user : User) (out : Response × Db) : Prop :=
  ∃ m c, out.1 = .ok 201 (.message m) ∧
    out.2.discussionMessages = db.discussionMessages ++ [m] ∧
    m.sender = user.id ∧ m.incident = i ∧
    c ∈ out.2.collaborations.rows ∧ c.id = m.collaboration ∧ c.incident = i

theorem storeMessage_posts (hlets : LetsIn db db' i user.id c)
    (hopen : incident.isResolved = false) (hrecipient : data.recipient ≠ .malformed) :
    PostsOnce db i user ((storeMessage i user data incident c).run db') := by
  obtain ⟨hincident, -⟩ := Db.collaboration?_key hlets.row
  have hc : c ∈ db'.collaborations.rows := Table.mem_of_get? hlets.row
  unfold storeMessage
  rw [refuseIf_passes hopen]
  unfold getRecipient
  cases hto : data.recipient with
  | malformed => exact absurd hto hrecipient
  | absent => exact ⟨_, c, rfl, congrArg (· ++ _) hlets.messages, rfl, rfl, hc, rfl, hincident⟩
  | uuid id => exact ⟨_, c, rfl, congrArg (· ++ _) hlets.messages, rfl, rfl, hc, rfl, hincident⟩

theorem storeMessage_malformed (hopen : incident.isResolved = false)
    (hrecipient : data.recipient = .malformed) :
    (storeMessage i user data incident c).run db = (.crash, db) := by
  unfold storeMessage
  rw [refuseIf_passes hopen]
  unfold getRecipient
  rw [hrecipient]
  rfl

theorem postDiscussion_superAdmin (hauth : db.authenticated auth = some user)
    (hsuper : isSuperAdmin user = true) (hinc : db.incidents.get? i = some incident)
    (hopen : incident.isResolved = false) (hvalid : discussionErrors data = []) :
    (postDiscussion auth i data).run db = (.crash, db) := by
  unfold postDiscussion
  rw [authenticate_passes hauth, refuseIf_passes (by rw [hvalid]; rfl), hsuper, if_pos rfl,
    Prog.run_bind, Prog.run_read, hinc]
  dsimp only
  rw [hopen]
  rfl

theorem not_postsOnce_crash : ¬ PostsOnce db i user (.crash, db') := by
  rintro ⟨m, c, hanswer, -⟩
  cases hanswer

/-- Whoever may read a discussion may also post in it, other than as a super admin and to
a recipient that is no identifier. -/
theorem readers_post_iff (hauth : db.authenticated auth = some user)
    (hinc : db.incidents.get? i = some incident) (hopen : incident.etat ≠ .resolved)
    (hread : ((readDiscussion auth i).run db).1.status = 200)
    (hvalid : discussionErrors data = []) :
    PostsOnce db i user ((postDiscussion auth i data).run db) ↔
      isSuperAdmin user = false ∧ data.recipient ≠ .malformed := by
  have huser := (authenticated_id hauth).2
  have hopen : incident.isResolved = false := decide_eq_false hopen
  cases hsuper : isSuperAdmin user with
  | true =>
      rw [postDiscussion_superAdmin hauth hsuper hinc hopen hvalid]
      exact iff_of_false not_postsOnce_crash fun h => by cases h.1
  | false =>
      unfold readDiscussion at hread
      rw [authenticate_passes hauth, hsuper, if_neg (by decide)] at hread
      have hmay := (getUserCollaboration_status huser fun _ => rfl).mp hread
      obtain ⟨c, db', hlets, hruns⟩ := getUserCollaboration_letsIn huser hinc hmay
      have hpost : (postDiscussion auth i data).run db =
          (storeMessage i user data incident c).run db' := by
        unfold postDiscussion
        rw [authenticate_passes hauth, refuseIf_passes (by rw [hvalid]; rfl), hsuper,
          if_neg (by decide)]
        exact hruns (storeMessage i user data)
      rw [hpost]
      by_cases hrecipient : data.recipient = .malformed
      · rw [storeMessage_malformed hopen hrecipient]
        exact iff_of_false not_postsOnce_crash fun h => h.2 hrecipient
      · exact iff_of_true (storeMessage_posts hlets hopen hrecipient) ⟨rfl, hrecipient⟩

end Posting

def posted (recipient : RawId) : DiscussionData :=
  { message := .value "On commence demain.", media := .absent, recipient := recipient }

/-- A colleague of the organisation in charge, who had no row, writes to nobody known. -/
theorem readers_post_colleague :
    PostsOnce (colleaguesStore.exec internalRun) 1 (.member 4 "agent@map.ml" .bureauAgent 1)
      ((postDiscussion (some 4) 1 (posted (.uuid 77))).run (colleaguesStore.exec internalRun)) :=
  (readers_post_iff (show (colleaguesStore.exec internalRun).authenticated (some 4) = some _ from
    rfl) rfl (by decide) rfl rfl).mpr ⟨rfl, by decide⟩

/-- A super admin reads the discussion and cannot post; nor can the colleague, to a
recipient that is no identifier. -/
theorem readers_cannot_post :
    (((readDiscussion (some 1) 1).run (colleaguesStore.exec internalRun)).1.status = 200 ∧
      ¬ PostsOnce (colleaguesStore.exec internalRun) 1 (.superAdmin 1 "super@map.ml")
        ((postDiscussion (some 1) 1 (posted .absent)).run
          (colleaguesStore.exec internalRun))) ∧
    ((readDiscussion (some 4) 1).run (colleaguesStore.exec internalRun)).1.status = 200 ∧
      ¬ PostsOnce (colleaguesStore.exec internalRun) 1 (.member 4 "agent@map.ml" .bureauAgent 1)
        ((postDiscussion (some 4) 1 (posted .malformed)).run
          (colleaguesStore.exec internalRun)) := by
  refine ⟨⟨rfl, ?_⟩, rfl, ?_⟩
  · rintro ⟨m, c, hanswer, -⟩
    cases hanswer
  · rintro ⟨m, c, hanswer, -⟩
    cases hanswer

end Mapapi
