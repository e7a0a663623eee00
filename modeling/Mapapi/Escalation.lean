import Mapapi.Accounts

/-!
# No privilege escalation

Who is a super admin, and who administrates which organisation, is a matter of
three columns: the `Standing` of a user. `AccountMove` lists what a request to
the user and membership endpoints can do to a standing, with the guards that
the endpoint has checked.

The member endpoints let nobody rise without an admin of the organisation. The
user endpoints do: `POST /user/` stores the `org_role` and the
`organisation_member` that anybody sends, and `PUT /user/<id>` lets everybody
write these two and `is_superuser` on the own row. A run without such a request
(`AccountOp.Escalates`) escalates nobody.
-/

namespace Mapapi

open Lib

/-! ## Standings -/

/-- What an account may do by its own columns. Rights that come from a
collaboration are not rights of the account. -/
structure Standing where
  isSuperuser : Bool
  orgRole : Option OrgRole
  organisation : Option OrganisationId
  deriving DecidableEq

def Account.standing (account : Account) : Standing :=
  { isSuperuser := account.isSuperuser, orgRole := account.orgRole
    organisation := account.organisationMember }

namespace Directory

def standing (d : Directory) (u : UserId) : Option Standing :=
  (d.users.get? u).map Account.standing

def SuperAdmin (d : Directory) (u : UserId) : Prop :=
  ∃ account, d.users.get? u = some account ∧ getWebRole account.toUser = some .superAdmin

/-- An admin of the organisation by the columns, whether the account is active
or not. -/
def AdminOf (d : Directory) (u : UserId) (o : OrganisationId) : Prop :=
  ∃ account, d.users.get? u = some account ∧ account.orgRole = some .orgAdmin ∧
    account.organisationMember = some o

end Directory

/-! ## Moves -/

/-- What a request in the directory `d` can leave of the standing of a user.
Each move carries the guards that its endpoint has checked, as far as the laws
need them; a new field agent, who administrates nothing, carries none. -/
inductive AccountMove (d : Directory) : AccountOp → UserId → Option Standing → Prop where
  /-- Refused, or about somebody else, or about other columns. -/
  | stay {op u} : AccountMove d op u (d.standing u)
  | gone {op u} : AccountMove d op u none
  | create {auth id data zones} (hauth : auth = none ∨ d.authenticated auth ≠ none)
      (hvalid : userErrors id d data = []) (hfree : d.users.get? id = none) :
      AccountMove d (.createUser auth id data zones) id (some (data.create id).standing)
  | update {auth id data actor item} (hauth : d.authenticated auth = some actor)
      (hitem : d.users.get? id = some item) (hedit : canEditUser actor item = true)
      (hpassword : data.password ≠ .invalid) (hvalid : userPutErrors id d data = []) :
      AccountMove d (.updateUser auth id data) id (some (data.update item).standing)
  | add {auth pk id role actor member} (hauth : d.authenticated auth = some actor)
      (hmanages : managesMembers actor pk = true) (hmember : d.users.get? id = some member) :
      AccountMove d (.addMember auth pk (.uuid id) (.value role)) id
        (some { member.standing with orgRole := some role, organisation := some pk })
  /-- An office agent cannot make an admin of anybody. -/
  | setRole {auth pk id data role actor member} (hauth : d.authenticated auth = some actor)
      (hmember : d.memberOf pk id = some member)
      (hrole : managesMembers actor pk = true ∨ role ≠ .orgAdmin) :
      AccountMove d (.updateMember auth pk id data) id
        (some { member.standing with orgRole := some role })
  | agent {auth pk id data} :
      AccountMove d (.createAgent auth pk id data) id (some ⟨false, some .fieldAgent, some pk⟩)

variable {d : Directory} {u : UserId} {o : OrganisationId} {op : AccountOp}
  {auth : Option UserId} {actor : Account}

theorem superAdmin_iff :
    d.SuperAdmin u ↔ ∃ s, d.standing u = some s ∧ s.isSuperuser = true := by
  unfold Directory.SuperAdmin Directory.standing
  simp only [Option.map_eq_some_iff]
  constructor
  · rintro ⟨account, haccount, hrole⟩
    refine ⟨_, ⟨account, haccount, rfl⟩, ?_⟩
    rw [← decide_eq_true_iff (p := getWebRole account.toUser = some .superAdmin)] at hrole
    exact (isSuperAdmin_eq account.toUser).symm.trans hrole
  · rintro ⟨_, ⟨account, haccount, rfl⟩, hsuper⟩
    exact ⟨account, haccount, decide_eq_true_iff.mp ((isSuperAdmin_eq _).trans hsuper)⟩

theorem adminOf_iff :
    d.AdminOf u o ↔
      ∃ s, d.standing u = some s ∧ s.orgRole = some .orgAdmin ∧ s.organisation = some o := by
  unfold Directory.AdminOf Directory.standing
  simp only [Option.map_eq_some_iff]
  constructor
  · rintro ⟨account, haccount, hadmin⟩
    exact ⟨_, ⟨account, haccount, rfl⟩, hadmin⟩
  · rintro ⟨_, ⟨account, haccount, rfl⟩, hadmin⟩
    exact ⟨account, haccount, hadmin⟩

theorem standing_save (account : Account) (u : UserId) :
    (d.save account).standing u =
      if u = account.id then some account.standing else d.standing u := by
  unfold Directory.standing Directory.save
  rw [Table.get?_put]
  exact apply_ite (Option.map Account.standing) _ _ _

theorem standing_delete (id u : UserId) :
    (d.delete id).standing u = if u = id then none else d.standing u := by
  unfold Directory.standing Directory.delete
  rw [Table.get?_erase]
  exact apply_ite (Option.map Account.standing) _ _ _

theorem authenticated_account (h : d.authenticated auth = some actor) :
    auth = some actor.id ∧ d.users.get? actor.id = some actor := by
  unfold Directory.authenticated at h
  obtain ⟨hactor, -⟩ := Option.filter_eq_some_iff.mp h
  obtain ⟨u, rfl, huser⟩ := Option.bind_eq_some_iff.mp hactor
  obtain rfl : actor.id = u := Table.key_of_get? huser
  exact ⟨rfl, huser⟩

/-! ## Every request moves standings -/

theorem AccountMove.save (account : Account)
    (h : AccountMove d op account.id (some account.standing)) (u : UserId) :
    AccountMove d op u ((d.save account).standing u) := by
  rw [standing_save]
  split
  · rename_i hu
    rwa [hu]
  · exact .stay

theorem AccountMove.delete (id u : UserId) : AccountMove d op u ((d.delete id).standing u) := by
  rw [standing_delete]
  split
  · exact .gone
  · exact .stay

theorem AccountMove.signedIn {view : Account → Endpoint}
    (h : ∀ actor, d.authenticated auth = some actor →
      AccountMove d op u ((view actor d).2.standing u)) :
    AccountMove d op u ((Mapapi.signedIn auth view d).2.standing u) := by
  unfold Mapapi.signedIn
  split
  · exact .stay
  · rename_i actor hactor
    exact h actor hactor

theorem move_createUser (id : UserId) (data : UserData) (zones : Arg Unit) :
    AccountMove d (.createUser auth id data zones) u
      ((createUser auth id data zones d).2.standing u) := by
  unfold createUser
  split
  · exact .stay
  rename_i hauth
  have hknown : auth = none ∨ d.authenticated auth ≠ none := by tauto
  split
  · rename_i hvalid
    split
    · exact .stay
    rename_i hfree
    have hmove : AccountMove d (.createUser auth id data zones) id
        (some (data.create id).standing) :=
      .create hknown hvalid (by simpa using hfree)
    split
    · exact AccountMove.save (data.create id) hmove u
    · exact AccountMove.save (data.create id) hmove u
  · exact .stay

theorem move_updateUser (id : UserId) (data : UserData) :
    AccountMove d (.updateUser auth id data) u
      ((updateUser auth id data d).2.standing u) := by
  refine AccountMove.signedIn fun actor hauth => ?_
  split
  · exact .stay
  rename_i item hitem
  split
  · exact .stay
  rename_i hedit
  split
  · exact .stay
  rename_i hpassword
  split
  · rename_i hvalid
    have hid : (data.update item).id = id := Table.key_of_get? hitem
    refine AccountMove.save _ ?_ u
    rw [hid]
    exact .update hauth hitem (by simpa using hedit) hpassword hvalid
  · exact .stay

theorem move_deleteUser (id : UserId) :
    AccountMove d (.deleteUser auth id) u ((deleteUser auth id d).2.standing u) := by
  refine AccountMove.signedIn fun actor hauth => ?_
  split
  · exact .stay
  split
  · exact .stay
  · exact AccountMove.delete id u

theorem move_addMember (pk : OrganisationId) (userId : RawId) (orgRole : Arg OrgRole) :
    AccountMove d (.addMember auth pk userId orgRole) u
      ((addMember auth pk userId orgRole d).2.standing u) := by
  refine AccountMove.signedIn fun actor hauth => ?_
  split
  · exact .stay
  rename_i hmanages
  split
  · exact .stay
  split
  · exact .stay
  · exact .stay
  · exact .stay
  · exact .stay
  · exact .stay
  · rename_i id role
    split
    · exact .stay
    rename_i member hmember
    have hid : member.id = id := Table.key_of_get? hmember
    refine AccountMove.save _ ?_ u
    rw [hid]
    exact .add hauth (by simpa using hmanages) hmember

theorem standing_update (data : MemberData) (member : Account) :
    (data.update member).standing =
      { member.standing with orgRole := data.orgRole.toOption.or member.orgRole } :=
  rfl

/-- What a PATCH of a member does to the standing of any user: nothing, or it
writes the role that was sent into the row of a member of that organisation,
and the role of an admin only for somebody who manages its members. -/
theorem move_updateMember (pk : OrganisationId) (id : UserId) (data : MemberData) :
    AccountMove d (.updateMember auth pk id data) u
      ((updateMember auth pk id data d).2.standing u) := by
  refine AccountMove.signedIn fun actor hauth => ?_
  split
  · exact .stay
  split
  · exact .stay
  rename_i member hmember
  split
  · exact .stay
  split
  · exact .stay
  rename_i hallowed
  split
  · exact .stay
  split
  · have huser : d.users.get? id = some member := (Option.filter_eq_some_iff.mp hmember).1
    have hid : member.id = id := Table.key_of_get? huser
    refine AccountMove.save _ ?_ u
    rw [standing_update, show (data.update member).id = id from hid]
    cases hrole : data.orgRole.toOption with
    | none =>
        have hsame : some { member.standing with orgRole := none.or member.orgRole } =
            d.standing id := by
          rw [Directory.standing, huser]
          rfl
        rw [hsame]
        exact .stay
    | some role =>
        refine .setRole hauth hmember ?_
        cases hmanages : managesMembers actor pk with
        | true => exact Or.inl rfl
        | false =>
            have hdata : data.orgRole = .value role := by
              cases hdata : data.orgRole <;> rw [hdata] at hrole <;> cases hrole
              rfl
            rw [hdata] at hallowed
            right
            rintro rfl
            exact hallowed ⟨hmanages, nofun, nofun, nofun⟩
  · exact .stay

theorem move_removeMember (pk : OrganisationId) (id : UserId) :
    AccountMove d (.removeMember auth pk id) u
      ((removeMember auth pk id d).2.standing u) := by
  refine AccountMove.signedIn fun actor hauth => ?_
  split
  · exact .stay
  split
  · exact .stay
  split
  · exact .stay
  split
  · exact .stay
  · exact AccountMove.delete id u

theorem move_createAgent (pk : OrganisationId) (id : UserId) (data : AgentData) :
    AccountMove d (.createAgent auth pk id data) u
      ((createAgent auth pk id data d).2.standing u) := by
  refine AccountMove.signedIn fun actor hauth => ?_
  split
  · exact .stay
  split
  · exact .stay
  split
  · exact .stay
  split
  · exact .stay
  split
  · exact .stay
  split
  · exact .stay
  split
  · exact .stay
  · exact AccountMove.save (data.create id pk) .agent u

theorem step_accountMove (d : Directory) (op : AccountOp) (u : UserId) :
    AccountMove d op u ((d.step op).standing u) := by
  cases op with
  | createUser auth id data zones => exact move_createUser id data zones
  | updateUser auth id data => exact move_updateUser id data
  | deleteUser auth id => exact move_deleteUser id
  | addMember auth pk userId orgRole => exact move_addMember pk userId orgRole
  | updateMember auth pk id data => exact move_updateMember pk id data
  | removeMember auth pk id => exact move_removeMember pk id
  | createAgent auth pk id data => exact move_createAgent pk id data

/-! ## Safe steps -/

/-- Whoever sends the request has been an admin of that organisation before. -/
def AccountOp.IssuedByAdmin (d : Directory) (o : OrganisationId) (op : AccountOp) : Prop :=
  ∃ actor, op.auth = some actor ∧ d.AdminOf actor o

/-- Nobody becomes a super admin, and only an admin of an organisation makes
another one. -/
structure SafeStep (d : Directory) (op : AccountOp) : Prop where
  superAdmins : ∀ u, (d.step op).SuperAdmin u → d.SuperAdmin u
  orgAdmins : ∀ u o, ¬ d.AdminOf u o → (d.step op).AdminOf u o → op.IssuedByAdmin d o

/-- The two requests that escalate. `POST /user/` asks for a new admin of an
organisation; `PUT /user/<id>` makes a super admin of the target, or an admin of
an organisation that the target did not administrate. In both cases the request
is valid and allowed, and does not come from an admin of that organisation. -/
def AccountOp.Escalates (d : Directory) (op : AccountOp) : Prop :=
  match op with
  | createUser auth id data _ =>
    (auth = none ∨ d.authenticated auth ≠ none) ∧ userErrors id d data = [] ∧
      d.users.get? id = none ∧ data.orgRole = .value .orgAdmin ∧
        ∃ o, data.organisationMember = .value o ∧ ¬ op.IssuedByAdmin d o
  | updateUser auth id data =>
    ∃ actor item, d.authenticated auth = some actor ∧ d.users.get? id = some item ∧
      canEditUser actor item = true ∧ data.password ≠ .invalid ∧ userPutErrors id d data = [] ∧
      (item.isSuperuser = false ∧ data.isSuperuser = .value true ∨
        data.orgRole.overNullable item.orgRole = some .orgAdmin ∧
          ∃ o, data.organisationMember.overNullable item.organisationMember = some o ∧
            ¬ d.AdminOf id o ∧ ¬ op.IssuedByAdmin d o)
  | _ => False

theorem Arg.overNullable_none {α : Type} {a : α} {arg : Arg α} :
    arg.overNullable none = some a ↔ arg = .value a := by
  cases arg <;> simp [Arg.overNullable]

theorem Arg.over_eq_true {b : Bool} {arg : Arg Bool} :
    arg.over b = true ↔ arg = .value true ∨ (∀ a, arg ≠ .value a) ∧ b = true := by
  cases arg <;> simp [Arg.over]

theorem adminOf_of_manages {pk : OrganisationId} (hauth : d.authenticated auth = some actor)
    (hactor : ¬ d.SuperAdmin actor.id) (h : managesMembers actor pk = true) :
    d.AdminOf actor.id pk := by
  obtain ⟨-, huser⟩ := authenticated_account hauth
  unfold managesMembers at h
  rw [Bool.or_eq_true, Bool.and_eq_true, decide_eq_true_iff, isOrgAdmin_iff] at h
  rcases h with hsuper | ⟨hmember, -, hrole⟩
  · exact absurd ⟨actor, huser, decide_eq_true_iff.mp hsuper⟩ hactor
  · exact ⟨actor, huser, hrole, hmember⟩

/-- A request that is not one of the two that escalate is a safe step, unless
a super admin sends it. The rows before and after it are compared through
`AccountMove`, which says for each endpoint what of a user's standing it
writes: the endpoints for members give roles too, but only within an
organisation that the actor manages. -/
theorem safeStep_of_not_escalates (hactor : ∀ u, op.auth = some u → ¬ d.SuperAdmin u)
    (h : ¬ op.Escalates d) : SafeStep d op := by
  have hmanager : ∀ {actor : Account} {pk : OrganisationId},
      d.authenticated op.auth = some actor → managesMembers actor pk = true →
      op.IssuedByAdmin d pk := by
    intro actor pk hauth hmanages
    obtain ⟨hid, -⟩ := authenticated_account hauth
    exact ⟨actor.id, hid, adminOf_of_manages hauth (hactor _ hid) hmanages⟩
  refine ⟨fun u hafter => ?_, fun u o hbefore hafter => ?_⟩
  · rw [superAdmin_iff] at hafter ⊢
    obtain ⟨s, hs, hsuper⟩ := hafter
    have hmove := step_accountMove d op u
    rw [hs] at hmove
    generalize hnew : some s = new at hmove
    cases hmove with
    | stay => exact ⟨s, hnew.symm, hsuper⟩
    | gone => cases hnew
    | create => cases hnew; cases hsuper
    | @update auth id data actor item hauth hitem hedit hpassword hvalid =>
        cases hnew
        rcases Arg.over_eq_true.mp hsuper with hdata | ⟨-, hitemSuper⟩
        · by_cases hitemSuper : item.isSuperuser = true
          · exact ⟨item.standing, congrArg (Option.map Account.standing) hitem, hitemSuper⟩
          · exact absurd ⟨actor, item, hauth, hitem, hedit, hpassword, hvalid,
              Or.inl ⟨Bool.not_eq_true _ ▸ hitemSuper, hdata⟩⟩ h
        · exact ⟨item.standing, congrArg (Option.map Account.standing) hitem, hitemSuper⟩
    | @add auth pk id role actor member hauth hmanages hmember =>
        cases hnew
        exact ⟨member.standing, congrArg (Option.map Account.standing) hmember, hsuper⟩
    | @setRole auth pk id data role actor member hauth hmember hrole =>
        cases hnew
        have huser := (Option.filter_eq_some_iff.mp hmember).1
        exact ⟨member.standing, congrArg (Option.map Account.standing) huser, hsuper⟩
    | agent => cases hnew; cases hsuper
  · obtain ⟨s, hs, hrole, horganisation⟩ := adminOf_iff.mp hafter
    have hmove := step_accountMove d op u
    rw [hs] at hmove
    generalize hnew : some s = new at hmove
    cases hmove with
    | stay => exact absurd (adminOf_iff.mpr ⟨s, hnew.symm, hrole, horganisation⟩) hbefore
    | gone => cases hnew
    | create hauth hvalid hfree =>
        cases hnew
        by_contra hissued
        exact h ⟨hauth, hvalid, hfree, Arg.overNullable_none.mp hrole, o,
          Arg.overNullable_none.mp horganisation, hissued⟩
    | @update auth id data actor item hauth hitem hedit hpassword hvalid =>
        cases hnew
        by_contra hissued
        exact h ⟨actor, item, hauth, hitem, hedit, hpassword, hvalid,
          Or.inr ⟨hrole, o, horganisation, hbefore, hissued⟩⟩
    | add hauth hmanages hmember =>
        cases hnew
        obtain rfl := Option.some.inj horganisation
        exact hmanager hauth hmanages
    | @setRole auth pk id data role actor member hauth hmember hmanages =>
        cases hnew
        obtain ⟨-, hpk⟩ := Option.filter_eq_some_iff.mp hmember
        obtain rfl := Option.some.inj hrole
        have hsame : member.organisationMember = some pk := by simpa using hpk
        obtain rfl := Option.some.inj (hsame.symm.trans horganisation)
        exact hmanager hauth (hmanages.resolve_right fun hne => hne rfl)
    | agent => cases hnew; cases hrole

theorem createUser_accepted {id : UserId} {data : UserData} {zones : Arg Unit}
    (hauth : auth = none ∨ d.authenticated auth ≠ none) (hvalid : userErrors id d data = [])
    (hfree : d.users.get? id = none) :
    (createUser auth id data zones d).2 = d.save (data.create id) := by
  have hknown : ¬ (auth ≠ none ∧ d.authenticated auth = none) := by tauto
  unfold createUser
  rw [if_neg hknown, hvalid, hfree]
  dsimp only
  rw [if_neg (by simp)]
  split <;> rfl

theorem updateUser_accepted {id : UserId} {data : UserData} {item : Account}
    (hauth : d.authenticated auth = some actor) (hitem : d.users.get? id = some item)
    (hedit : canEditUser actor item = true) (hpassword : data.password ≠ .invalid)
    (hvalid : userPutErrors id d data = []) :
    (updateUser auth id data d).2 = d.save (data.update item) := by
  unfold updateUser signedIn
  simp only [hauth, hitem, hedit, hvalid, if_neg hpassword, Bool.true_eq_false, if_false]

/-- The condition is exact: a request that escalates is no safe step. -/
theorem AccountOp.Escalates.not_safeStep (h : op.Escalates d) : ¬ SafeStep d op := by
  intro hsafe
  cases op with
  | createUser auth id data zones =>
      obtain ⟨hauth, hvalid, hfree, hrole, o, horganisation, hissued⟩ := h
      have hbefore : ¬ d.AdminOf id o := by
        rintro ⟨account, haccount, -⟩
        rw [hfree] at haccount
        cases haccount
      refine hissued (hsafe.orgAdmins id o hbefore (adminOf_iff.mpr ?_))
      have hstep : d.step (.createUser auth id data zones) = d.save (data.create id) :=
        createUser_accepted hauth hvalid hfree
      rw [hstep, standing_save]
      exact ⟨_, if_pos rfl, Arg.overNullable_none.mpr hrole,
        Arg.overNullable_none.mpr horganisation⟩
  | updateUser auth id data =>
      obtain ⟨actor, item, hauth, hitem, hedit, hpassword, hvalid, h⟩ := h
      have hstep : d.step (.updateUser auth id data) = d.save (data.update item) :=
        updateUser_accepted hauth hitem hedit hpassword hvalid
      have hid : id = (data.update item).id := (Table.key_of_get? hitem).symm
      have hnew : (d.step (.updateUser auth id data)).standing id =
          some (data.update item).standing := by
        rw [hstep, standing_save, if_pos hid]
      rcases h with ⟨hitemSuper, hdata⟩ | ⟨hrole, o, horganisation, hbefore, hissued⟩
      · have hsuper := hsafe.superAdmins id (superAdmin_iff.mpr
          ⟨_, hnew, Arg.over_eq_true.mpr (Or.inl hdata)⟩)
        obtain ⟨s, hs, hsuper⟩ := superAdmin_iff.mp hsuper
        rw [Directory.standing, hitem] at hs
        cases hs
        exact absurd hsuper (Bool.not_eq_true _ ▸ hitemSuper)
      · exact hissued (hsafe.orgAdmins id o hbefore
          (adminOf_iff.mpr ⟨_, hnew, hrole, horganisation⟩))
  | deleteUser | addMember | updateMember | removeMember | createAgent => exact h

/-! ## Runs -/

/-- After a run from `d`, only those are super admins who were, and whenever
somebody became an admin of an organisation, the request came from one. -/
structure NoEscalation (d : Directory) (ops : List AccountOp) : Prop where
  superAdmins : ∀ u, (d.exec ops).SuperAdmin u → d.SuperAdmin u
  orgAdmins : ∀ before op after, ops = before ++ op :: after → ∀ u o,
    ¬ (d.exec before).AdminOf u o → (d.exec (before ++ [op])).AdminOf u o →
      op.IssuedByAdmin (d.exec before) o

/-- Nobody rises on the way, so the actors stay who they are. -/
theorem along_safeStep {ops : List AccountOp}
    (hactors : ∀ op ∈ ops, ∀ u, op.auth = some u → ¬ d.SuperAdmin u)
    (h : Along Directory.step (fun d op => ¬ op.Escalates d) d ops) :
    Along Directory.step SafeStep d ops := by
  induction ops generalizing d with
  | nil => trivial
  | cons op ops ih =>
      have hsafe := safeStep_of_not_escalates (hactors op List.mem_cons_self) h.1
      refine ⟨hsafe, ih (fun op' hop u hu hsuper => ?_) h.2⟩
      exact hactors op' (List.mem_cons_of_mem _ hop) u hu (hsafe.superAdmins u hsuper)

/-- In a run of requests that do not escalate, by users who are not super
admins, there is no escalation. That the actors stay what they are is part of
the induction (`along_safeStep`): nobody becomes a super admin on the way and
acts as one later. -/
theorem no_escalation (d : Directory) (ops : List AccountOp)
    (hactors : ∀ op ∈ ops, ∀ u, op.auth = some u → ¬ d.SuperAdmin u)
    (hclean : Along Directory.step (fun d op => ¬ op.Escalates d) d ops) :
    NoEscalation d ops := by
  have hsafe := along_safeStep hactors hclean
  refine ⟨?_, ?_⟩
  · exact hsafe.inv (I := fun d' => ∀ u, d'.SuperAdmin u → d.SuperAdmin u)
      (fun d' op hd hstep u hu => hd u (hstep.superAdmins u hu)) fun u hu => hu
  · intro before op after hops u o hbefore hafter
    have hstep := along_iff.mp hsafe before op after hops
    rw [Directory.exec, exec_snoc] at hafter
    exact hstep.orgAdmins u o hbefore hafter

def townDirectory : Directory where
  organisations := ⟨[{ id := 1, name := "Voirie" }], by decide⟩
  users := ⟨[
    { id := 2, email := "voirie@map.ml", isActive := true, isSuperuser := false
      orgRole := some .orgAdmin, organisationMember := some 1, organisation := none
      firstName := "Awa", lastName := "Diallo", phone := none },
    { id := 3, email := "moussa@map.ml", isActive := true, isSuperuser := false
      orgRole := none, organisationMember := none, organisation := none
      firstName := "Moussa", lastName := "Keita", phone := none }], by decide⟩

def UserData.empty : UserData :=
  { email := .absent, firstName := .absent, lastName := .absent, phone := .absent
    password := .absent, organisation := .absent, isActive := .absent, isSuperuser := .absent
    orgRole := .absent, organisationMember := .absent, otherErrors := [] }

def UserData.required : UserData :=
  { UserData.empty with
    email := .value "fanta@map.ml", firstName := .value "Fanta", lastName := .value "Traore"
    password := .value "secret" }

theorem no_escalation_promoted :
    let ops : List AccountOp :=
      [.createUser none 4 .required .absent, .addMember (some 2) 1 (.uuid 4) (.value .orgAdmin)]
    (townDirectory.exec ops).AdminOf 4 1 ∧ NoEscalation townDirectory ops := by
  intro ops
  have hpromoted : ((townDirectory.exec ops).standing 4) =
      some ⟨false, some .orgAdmin, some 1⟩ := by decide
  refine ⟨adminOf_iff.mpr ⟨_, hpromoted, rfl, rfl⟩, no_escalation townDirectory ops ?_ ?_⟩
  · intro op hop u hu hsuper
    have hadmin : u = 2 := by
      rcases List.mem_pair.mp hop with rfl | rfl <;> cases hu
      rfl
    obtain ⟨s, hs, hsuper⟩ := superAdmin_iff.mp hsuper
    rw [hadmin] at hs
    obtain rfl : ⟨false, some .orgAdmin, some 1⟩ = s := Option.some.inj hs
    cases hsuper
  · exact ⟨fun h => (nomatch h.2.2.2.1), fun h => h, trivial⟩

/-- User 3 makes a super admin of himself, and anybody an admin of organisation 1. -/
theorem self_promoted :
    (∀ op ∈ [AccountOp.updateUser (some 3) 3 { UserData.empty with isSuperuser := .value true }],
      ∀ u, op.auth = some u → ¬ townDirectory.SuperAdmin u) ∧
    ¬ NoEscalation townDirectory
      [.updateUser (some 3) 3 { UserData.empty with isSuperuser := .value true }] ∧
    ¬ NoEscalation townDirectory
      [.createUser none 4 { UserData.required with
        orgRole := .value .orgAdmin, organisationMember := .value 1 } .absent] := by
  have hplain : ¬ townDirectory.SuperAdmin 3 := by
    intro hsuper
    obtain ⟨s, hs, hsuper⟩ := superAdmin_iff.mp hsuper
    obtain rfl : ⟨false, none, none⟩ = s := Option.some.inj hs
    cases hsuper
  refine ⟨fun op hop u hu => ?_, fun h => hplain (h.superAdmins 3 ?_), fun h => ?_⟩
  · obtain rfl := List.mem_singleton.mp hop
    cases hu
    exact hplain
  · exact superAdmin_iff.mpr ⟨⟨true, none, none⟩, by decide, rfl⟩
  · have hstranger : ¬ townDirectory.AdminOf 4 1 := by
      rintro ⟨account, haccount, -⟩
      cases haccount
    obtain ⟨actor, hactor, -⟩ := h.orgAdmins [] _ [] rfl 4 1 hstranger
      (adminOf_iff.mpr ⟨⟨false, some .orgAdmin, some 1⟩, by decide, rfl, rfl⟩)
    cases hactor

end Mapapi
