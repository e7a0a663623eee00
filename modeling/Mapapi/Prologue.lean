import Mapapi.Lib.Protocol
import Mapapi.IncidentTasks

/-!
# What a view does before it writes

A view first looks at the store: who asks, whether the permission holds, which
row is meant. These checks read, and then either refuse the request or go on
(`Requests.lean`). So in every protocol that allows to read in the phase `t`
and to end there, a view follows it from `t` on as soon as the part behind the
checks does.

A protocol (`Lib.Protocol`) says in which order a program may read and write,
and what it may write. There is one for each of the concurrent results, and
each looks at another part of the same views. The lemmas here are stated for
all protocols, so that a result has to follow the writes of a view and not its
guards.
-/

namespace Mapapi

open Lib

section Prologue

variable {τ : Type} {R : τ → Db → (Db → Db) → τ → Prop} {E : View → τ → Prop} {t : τ}
  {auth : Option UserId} {user : User} {i : IncidentId} {pk : TaskId}
  (hread : ∀ db, R t db id t) (hend : ∀ response, E (pure response) t)

include hread hend

theorem follows_authenticate {view : User → View} (h : ∀ user, (view user).Follows R E t) :
    (authenticate auth view).Follows R E t := by
  refine Prog.follows_read fun db => ⟨t, hread db, ?_⟩
  split
  · exact Prog.follows_pure (hend _)
  · exact h _

omit hread in
theorem follows_permit {allowed : Bool} {message : String} {view : View}
    (h : view.Follows R E t) : (permit allowed message view).Follows R E t :=
  Prog.follows_ite (fun _ => h) fun _ => Prog.follows_pure (hend _)

omit hread in
theorem follows_refuseIf {refuse : Bool} {response : Response} {view : View}
    (h : refuse = false → view.Follows R E t) : (refuseIf refuse response view).Follows R E t := by
  refine Prog.follows_ite (fun _ => Prog.follows_pure (hend _)) fun hrefuse => h ?_
  simpa using hrefuse

theorem follows_getIncident {notFound : String} {view : Incident → View}
    (h : ∀ incident, incident.id = i → (view incident).Follows R E t) :
    (getIncident i notFound view).Follows R E t := by
  refine Prog.follows_read fun db => ⟨t, hread db, ?_⟩
  split
  · exact Prog.follows_pure (hend _)
  · rename_i incident hincident
    exact h incident (Table.key_of_get? hincident)

theorem follows_getTask {view : IncidentTask → View}
    (h : ∀ task, task.incident = i → (view task).Follows R E t) :
    (getTask i pk view).Follows R E t := by
  refine Prog.follows_read fun db => ⟨t, hread db, ?_⟩
  split
  · exact Prog.follows_pure (hend _)
  · rename_i task htask
    exact h task (of_decide_eq_true (Option.filter_eq_some_iff.mp htask).2)

omit hread in
theorem follows_validated {incident : Option Incident} {task : IncidentTask} {view : View}
    (h : view.Follows R E t) : (validated incident task view).Follows R E t := by
  unfold validated
  split
  · exact Prog.follows_pure (hend _)
  · exact h

omit hend in
theorem follows_isIncidentLeader :
    (isIncidentLeader user i).Follows R (Prog.Ended fun _ t' => t' = t) t := by
  refine Prog.follows_ite (fun _ => Prog.ended_pure rfl) fun _ => ?_
  refine Prog.follows_read fun db => ⟨t, hread db, ?_⟩
  split
  · exact Prog.ended_pure rfl
  · refine Prog.follows_read fun db => ⟨t, hread db, ?_⟩
    exact Prog.follows_ite (fun _ => Prog.ended_pure rfl) fun _ => Prog.ended_pure rfl

theorem follows_permitLeader {view : View} (h : view.Follows R E t) :
    (permitLeader user i view).Follows R E t := by
  refine Prog.follows_bind (follows_isIncidentLeader hread) fun allowed t' ht' => ?_
  subst ht'
  exact Prog.follows_ite (fun _ => h) fun _ => Prog.follows_pure (hend _)

omit hend in
theorem follows_isInternalOrgMember {incident : Incident} :
    (isInternalOrgMember incident user).Follows R (Prog.Ended fun _ t' => t' = t) t := by
  refine Prog.follows_ite (fun _ => ?_) fun _ => Prog.ended_pure rfl
  exact Prog.follows_read fun db => ⟨t, hread db, Prog.ended_pure rfl⟩

omit hend in
theorem follows_isIncidentLeaderOrContributor :
    (isIncidentLeaderOrContributor user i).Follows R (Prog.Ended fun _ t' => t' = t) t := by
  refine Prog.follows_ite (fun _ => Prog.ended_pure rfl) fun _ => ?_
  refine Prog.follows_read fun db => ⟨t, hread db, ?_⟩
  split
  · exact Prog.ended_pure rfl
  · refine Prog.follows_ite (fun _ => Prog.ended_pure rfl) fun _ => ?_
    refine Prog.follows_bind (follows_isInternalOrgMember hread) fun member t' ht' => ?_
    subst ht'
    refine Prog.follows_ite (fun _ => Prog.ended_pure rfl) fun _ => ?_
    exact Or.inr fun db => ⟨t', hread db, Prog.ended_pure rfl⟩

theorem follows_permitLeaderOrContributor {view : View} (h : view.Follows R E t) :
    (permitLeaderOrContributor user i view).Follows R E t := by
  refine Prog.follows_bind (follows_isIncidentLeaderOrContributor hread) fun allowed t' ht' => ?_
  subst ht'
  exact Prog.follows_ite (fun _ => h) fun _ => Prog.follows_pure (hend _)

end Prologue

end Mapapi
