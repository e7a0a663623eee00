import Mapapi.Acting
import Mapapi.Lib.Join

/-!
# The incidents somebody works on

`org_acting_q` (`services/incident_orgs.py`) is the filter behind
`/my-interventions/` and behind the scope `mine` of `/incident-filter/`. It is
evaluated by the database, over an incident joined with its field assignments,
its organisation assignments and its collaborations.

`acting_organisations` answers the same question the other way round, over
lists that are already loaded. The two agree: an incident passes the filter of a
user when the user is sent there as an agent, has taken it, or is a member of an
organisation that is listed. The list holds each organisation that is related to
the incident once, with the strongest of its relations.
-/

namespace Mapapi

open Lib

/-! ## org_acting_q -/

/-- A field assignment: an agent sent to an incident. -/
structure IncidentAssignment where
  id : Nat
  incident : IncidentId
  agent : UserId
  assignedBy : Option UserId
  deriving DecidableEq

instance : Keyed IncidentAssignment Nat := ⟨IncidentAssignment.id⟩

/-- A row of the joined query: the incident with one of its assignments of
each kind and one of its collaborations, or none where there are none. An
incident has as many of these as it has combinations, which is why the query
needs `distinct`. -/
structure JoinedRow where
  assignment : Option IncidentAssignment
  orgAssignment : Option IncidentOrgAssignment
  collaboration : Option Collaboration

/-- An incident, joined with the three tables the filter names. Each join is
an outer one and gives at least one row, a null where nothing matches. -/
def Db.joinedRows (db : Db) (assignments : Table IncidentAssignment) (incident : Incident) :
    List JoinedRow :=
  (leftJoin (assignments.select fun a => decide (a.incident = incident.id))).flatMap fun a =>
    (leftJoin (db.orgAssignments.select fun o => decide (o.incident = incident.id))).flatMap
      fun o =>
        (leftJoin (db.collaborationsOf incident.id)).map fun c => ⟨a, o, c⟩

def Db.memberOf (db : Db) (u : Option UserId) (organisation : Organisation) : Bool :=
  (db.user? u).any fun user => decide (user.organisationMember = some organisation.id)

/-- `org_acting_q`, on one combination of joined rows. The three joins are
independent, so the disjuncts may be met in different combinations; the
incident matches when some combination meets one. -/
def orgActingQ (db : Db) (user : User) (incident : Incident) (row : JoinedRow) : Bool :=
  decide (incident.takenBy = some user.id) ||
    row.assignment.any (fun a => decide (a.agent = user.id)) ||
    (db.organisationOf user).any fun org =>
      db.memberOf incident.takenBy org ||
        row.orgAssignment.any (fun o => decide (o.organisation = org.id ∧ o.status = .accepted)) ||
        row.collaboration.any fun c =>
          db.memberOf (some c.user) org && decide (c.status = .accepted)

/-- The incident matches the filter: some combination of joined rows does. The
joins are outer ones, so an incident without assignments or collaborations has
one combination, of nulls, and its own columns may still match. -/
def Db.matchesActing (db : Db) (assignments : Table IncidentAssignment) (user : User)
    (incident : Incident) : Bool :=
  (db.joinedRows assignments incident).any (orgActingQ db user incident)

theorem exists_joinedRows {db : Db} {assignments : Table IncidentAssignment}
    {incident : Incident} {p : JoinedRow → Prop} :
    (∃ row ∈ db.joinedRows assignments incident, p row) ↔
      ∃ a ∈ leftJoin (assignments.select fun a => decide (a.incident = incident.id)),
        ∃ o ∈ leftJoin (db.orgAssignments.select fun o => decide (o.incident = incident.id)),
          ∃ c ∈ leftJoin (db.collaborationsOf incident.id), p ⟨a, o, c⟩ := by
  unfold Db.joinedRows
  constructor
  · rintro ⟨row, hrow, hp⟩
    obtain ⟨a, ha, hrow⟩ := List.mem_flatMap.mp hrow
    obtain ⟨o, ho, hrow⟩ := List.mem_flatMap.mp hrow
    obtain ⟨c, hc, rfl⟩ := List.mem_map.mp hrow
    exact ⟨a, ha, o, ho, c, hc, hp⟩
  · rintro ⟨a, ha, o, ho, c, hc, hp⟩
    exact ⟨⟨a, o, c⟩, List.mem_flatMap.mpr ⟨a, ha, List.mem_flatMap.mpr
      ⟨o, ho, List.mem_map.mpr ⟨c, hc, rfl⟩⟩⟩, hp⟩

theorem organisationOf_stored {db : Db} {user : User} {org : Organisation}
    (h : db.organisationOf user = some org) : db.organisations.get? org.id = some org := by
  obtain ⟨o, -, hget⟩ := Option.bind_eq_some_iff.mp h
  have hid : org.id = o := Table.key_of_get? hget
  rwa [hid]

theorem stored_iff {db : Db} {o : OrganisationId} {organisation : Organisation}
    (hstored : db.organisations.get? organisation.id = some organisation) :
    (db.organisations.get? o).map Organisation.id = some organisation.id ↔
      o = organisation.id := by
  constructor
  · intro h
    obtain ⟨stored, hget, hid⟩ := Option.map_eq_some_iff.mp h
    exact (Table.key_of_get? hget).symm.trans hid
  · rintro rfl
    rw [hstored]
    rfl

theorem memberOf_iff {db : Db} {u : Option UserId} {organisation : Organisation}
    (hstored : db.organisations.get? organisation.id = some organisation) :
    db.memberOf u organisation = true ↔
      (db.organisationOfUser u).map Organisation.id = some organisation.id := by
  unfold Db.memberOf Db.organisationOfUser Db.organisationOf
  cases hu : db.user? u with
  | none => simp
  | some user =>
      cases horg : user.organisationMember with
      | none => simp [horg]
      | some o => simpa [horg] using (stored_iff hstored).symm

/-! ## What relates an organisation to an incident -/

/-- The relations of an organisation to an incident. -/
def Db.Related (db : Db) (incident : Incident) (o : OrganisationId) : ActingRelation → Prop
  | .leader => (db.organisationOfUser incident.takenBy).map Organisation.id = some o
  | .assigned => ∃ assignment ∈ db.orgAssignments.rows, assignment.incident = incident.id ∧
      assignment.status = .accepted ∧
        (db.organisations.get? assignment.organisation).map Organisation.id = some o
  | .collaborator => ∃ c ∈ db.collaborations.rows, c.incident = incident.id ∧
      c.status = .accepted ∧ (db.organisationOfUser (some c.user)).map Organisation.id = some o

/-- The list holds the organisations that are related to the incident, once each,
with the strongest of their relations. -/
structure ListsActing (found : List ActingOrganisation)
    (related : OrganisationId → ActingRelation → Prop) : Prop where
  nodup : (actingIds found).Nodup
  sound : ∀ entry ∈ found, related entry.organisation.id entry.relation
  strongest : ∀ o relation, related o relation →
    ∃ entry ∈ found, entry.organisation.id = o ∧ entry.relation.rank ≤ relation.rank

namespace ListsActing

variable {found : List ActingOrganisation} {related : OrganisationId → ActingRelation → Prop}

theorem nil : ListsActing [] fun _ _ => False :=
  ⟨List.nodup_nil, fun _ hentry => (nomatch hentry), fun _ _ h => h.elim⟩

theorem congr {related' : OrganisationId → ActingRelation → Prop} (h : ListsActing found related)
    (hiff : ∀ o relation, related o relation ↔ related' o relation) :
    ListsActing found related' where
  nodup := h.nodup
  sound entry hentry := (hiff _ _).mp (h.sound entry hentry)
  strongest o relation hrelated := h.strongest o relation ((hiff o relation).mpr hrelated)

theorem mem_ids (h : ListsActing found related) {o : OrganisationId} :
    o ∈ actingIds found ↔ ∃ relation, related o relation := by
  constructor
  · intro ho
    obtain ⟨entry, hentry, rfl⟩ := List.mem_map.mp ho
    exact ⟨entry.relation, h.sound entry hentry⟩
  · rintro ⟨relation, hrelated⟩
    obtain ⟨entry, hentry, rfl, -⟩ := h.strongest o relation hrelated
    exact List.mem_map_of_mem hentry

theorem entry_unique (h : ListsActing found related) {entry entry' : ActingOrganisation}
    (hentry : entry ∈ found) (hentry' : entry' ∈ found)
    (hid : entry.organisation.id = entry'.organisation.id) : entry = entry' :=
  List.inj_on_of_nodup_map h.nodup hentry hentry' hid

/-- Adding an organisation under a relation, in the way `actingOrganisations`
folds them: one that is already listed keeps the strongest of its relations, a
new one is appended. Absent organisations add nothing. The fold over the
collaborations is this lemma, again and again. -/
theorem add (h : ListsActing found related) (relation : ActingRelation)
    (organisation : Option Organisation) :
    ListsActing (addActing found relation organisation) fun o r =>
      related o r ∨ r = relation ∧ organisation.map Organisation.id = some o := by
  cases organisation with
  | none => exact ⟨h.nodup, fun entry hentry => Or.inl (h.sound entry hentry),
      fun o r hr => h.strongest o r (hr.resolve_right fun hnew => (nomatch hnew.2))⟩
  | some organisation =>
      refine ⟨nodup_actingIds_addActing found relation (some organisation) h.nodup, ?_, ?_⟩
      · intro entry hentry
        unfold addActing at hentry
        dsimp only at hentry
        split at hentry
        · rcases List.mem_append.mp hentry with hold | hnew
          · exact Or.inl (h.sound entry hold)
          · rw [List.mem_singleton] at hnew
            subst hnew
            exact Or.inr ⟨rfl, rfl⟩
        · split at hentry
          · obtain ⟨old, hold, rfl⟩ := List.mem_map.mp hentry
            split
            · exact Or.inr ⟨rfl, rfl⟩
            · exact Or.inl (h.sound old hold)
          · exact Or.inl (h.sound entry hentry)
      · intro o r hr
        unfold addActing
        dsimp only
        split
        · rcases hr with hr | ⟨rfl, ho⟩
          · obtain ⟨entry, hentry, hid, hrank⟩ := h.strongest o r hr
            exact ⟨entry, List.mem_append_left _ hentry, hid, hrank⟩
          · exact ⟨⟨organisation, r⟩, List.mem_append_right _ (List.mem_singleton_self _),
              Option.some.inj ho, Nat.le_refl _⟩
        · rename_i existing hexisting
          have hmem := List.mem_of_find?_eq_some hexisting
          have hid : existing.organisation.id = organisation.id := by
            simpa using List.find?_some hexisting
          split
          · rename_i hstronger
            have hlisted : (⟨organisation, relation⟩ : ActingOrganisation) ∈
                found.map fun entry =>
                  if entry.organisation.id = organisation.id then ⟨organisation, relation⟩
                  else entry :=
              List.mem_map.mpr ⟨existing, hmem, if_pos hid⟩
            rcases hr with hr | ⟨rfl, ho⟩
            · obtain ⟨entry, hentry, rfl, hrank⟩ := h.strongest o r hr
              by_cases hsame : entry.organisation.id = organisation.id
              · obtain rfl := h.entry_unique hentry hmem (hsame.trans hid.symm)
                exact ⟨_, hlisted, hsame.symm, Nat.le_trans (Nat.le_of_lt hstronger) hrank⟩
              · exact ⟨entry, List.mem_map.mpr ⟨entry, hentry, if_neg hsame⟩, rfl, hrank⟩
            · exact ⟨_, hlisted, Option.some.inj ho, Nat.le_refl _⟩
          · rename_i hweaker
            rcases hr with hr | ⟨rfl, ho⟩
            · exact h.strongest o r hr
            · exact ⟨existing, hmem, hid.trans (Option.some.inj ho), Nat.not_lt.mp hweaker⟩

theorem foldl {α : Type} (relation : ActingRelation) (organisation : α → Option Organisation)
    (l : List α) (h : ListsActing found related) :
    ListsActing (l.foldl (fun found a => addActing found relation (organisation a)) found)
      fun o r => related o r ∨
        r = relation ∧ ∃ a ∈ l, (organisation a).map Organisation.id = some o := by
  induction l generalizing found related with
  | nil => simpa using h
  | cons a l ih =>
      have hstep := ih (h.add relation (organisation a))
      simp only [List.exists_mem_cons_iff, and_or_left, ← or_assoc]
      exact hstep

end ListsActing

/-- What `acting_organisations` returns. -/
theorem listsActing_actingOrganisations (db : Db) (incident : Incident) :
    ListsActing (actingOrganisations db incident) (db.Related incident) := by
  have hlist := ((ListsActing.nil.add .leader (db.organisationOfUser incident.takenBy)).foldl
    .assigned (fun assignment : IncidentOrgAssignment =>
      db.organisations.get? assignment.organisation)
    (db.orgAssignments.select fun assignment =>
      decide (assignment.incident = incident.id ∧ assignment.status = .accepted)).reverse).foldl
    .collaborator (fun c : Collaboration => db.organisationOfUser (some c.user))
    (db.collaborations.select fun c =>
      decide (c.incident = incident.id ∧ c.status = .accepted))
  refine hlist.congr fun o relation => ?_
  cases relation <;> simp [Db.Related, Table.select, and_assoc]

/-! ## The filter and the list -/

theorem orgActingQ_iff {db : Db} {user : User} {incident : Incident} {row : JoinedRow} :
    orgActingQ db user incident row = true ↔
      (incident.takenBy = some user.id ∨
          (db.organisationOf user).any (fun org => db.memberOf incident.takenBy org) = true) ∨
        row.assignment.any (fun a => decide (a.agent = user.id)) = true ∨
        row.orgAssignment.any (fun o => (db.organisationOf user).any fun org =>
          decide (o.organisation = org.id ∧ o.status = .accepted)) = true ∨
        row.collaboration.any (fun c => (db.organisationOf user).any fun org =>
          db.memberOf (some c.user) org && decide (c.status = .accepted)) = true := by
  unfold orgActingQ
  cases db.organisationOf user with
  | none => simp
  | some org =>
      simp only [Option.any_some, Bool.or_eq_true, decide_eq_true_eq]
      tauto

/-- `org_acting_q` in terms of the rows, without the joins of the query: the
user is an assigned agent, or has taken the incident, or belongs to an
organisation that is related to it. That is what the Python function computes
from the rows. -/
theorem matchesActing_iff {db : Db} {assignments : Table IncidentAssignment} {user : User}
    {incident : Incident} :
    db.matchesActing assignments user incident = true ↔
      (∃ a ∈ assignments.rows, a.incident = incident.id ∧ a.agent = user.id) ∨
        incident.takenBy = some user.id ∨
          ∃ org, db.organisationOf user = some org ∧
            ∃ relation, db.Related incident org.id relation := by
  unfold Db.matchesActing
  rw [List.any_eq_true, exists_joinedRows]
  simp only [orgActingQ_iff]
  rw [exists_leftJoin_or]
  simp only [Table.select, Db.collaborationsOf, List.mem_filter, decide_eq_true_eq, and_assoc]
  cases horg : db.organisationOf user with
  | none =>
      simp only [Option.any_none, Bool.false_eq_true, and_false, exists_false, or_false,
        reduceCtorEq, false_and]
      exact or_comm
  | some org =>
      have hstored := organisationOf_stored horg
      simp only [Option.any_some, Bool.and_eq_true, decide_eq_true_eq, memberOf_iff hstored,
        ← stored_iff hstored, Option.some.injEq, exists_eq_left']
      constructor
      · rintro ((htaken | hleads) | hagent | ⟨o, ho, hinc, horg, haccepted⟩ |
          ⟨c, hc, hinc, horg, haccepted⟩)
        · exact Or.inr (Or.inl htaken)
        · exact Or.inr (Or.inr ⟨.leader, hleads⟩)
        · exact Or.inl hagent
        · exact Or.inr (Or.inr ⟨.assigned, o, ho, hinc, haccepted, horg⟩)
        · exact Or.inr (Or.inr ⟨.collaborator, c, hc, hinc, haccepted, horg⟩)
      · rintro (hagent | htaken | ⟨relation, hrelated⟩)
        · exact Or.inr (Or.inl hagent)
        · exact Or.inl (Or.inl htaken)
        · cases relation with
          | leader => exact Or.inl (Or.inr hrelated)
          | assigned =>
              obtain ⟨o, ho, hinc, haccepted, horg⟩ := hrelated
              exact Or.inr (Or.inr (Or.inl ⟨o, ho, hinc, horg, haccepted⟩))
          | collaborator =>
              obtain ⟨c, hc, hinc, haccepted, horg⟩ := hrelated
              exact Or.inr (Or.inr (Or.inr ⟨c, hc, hinc, horg, haccepted⟩))

/-- The filter lets through the incidents of the user's own, and those on which
the list names the user's organisation; and the list is what it says. -/
theorem org_acting_q_agrees (db : Db) (assignments : Table IncidentAssignment) (user : User)
    (incident : Incident) :
    (db.matchesActing assignments user incident = true ↔
      (∃ a ∈ assignments.rows, a.incident = incident.id ∧ a.agent = user.id) ∨
        incident.takenBy = some user.id ∨
          ∃ org, db.organisationOf user = some org ∧
            org.id ∈ actingIds (actingOrganisations db incident)) ∧
      (actingIds (actingOrganisations db incident)).Nodup ∧
      (∀ o, o ∈ actingIds (actingOrganisations db incident) ↔
        ∃ relation, db.Related incident o relation) ∧
      ∀ entry ∈ actingOrganisations db incident,
        db.Related incident entry.organisation.id entry.relation ∧
          ∀ relation, db.Related incident entry.organisation.id relation →
            entry.relation.rank ≤ relation.rank := by
  have hlists := listsActing_actingOrganisations db incident
  refine ⟨?_, hlists.nodup, fun o => hlists.mem_ids, fun entry hentry => ⟨hlists.sound entry hentry,
    fun relation hrelated => ?_⟩⟩
  · rw [matchesActing_iff]
    simp only [hlists.mem_ids]
  · obtain ⟨entry', hentry', hid, hrank⟩ := hlists.strongest _ relation hrelated
    obtain rfl := hlists.entry_unique hentry' hentry hid
    exact hrank

end Mapapi
