import Mapapi.Lib.Alone
import Mapapi.PinLogin

/-!
# The last active admin of an organisation

`OrganisationMemberDetailView` refuses to demote or to remove the last active
admin of an organisation: it counts the other ones first. Three more endpoints can
take an admin away, and do not count: `members/add` moves a user to another
organisation or role, and `PUT` and `DELETE /user/<id>` change and delete one.

The count and the write are two actions, and a save writes the whole row as it was
read. So the requests run action by action here, and what the count protects is
lost when another request writes in between. What the database itself protects is
not lost: it refuses a save whose e-mail another user has got in the meantime
(`Directory.trySave`), and such a request ends in an error.

A request writes at most once, to one row, and what it writes is a function of
the row it has read (`AccountOp.leaves`). So at each turn there is one
question: does the turn write the row of the last active admin, and is what it
writes still an active admin.
-/

namespace Mapapi

open Lib

/-! ## Requests, action by action -/

/-- An endpoint as a program on the directory: each query is an action, and
other requests may come between any two. -/
abbrev Actions := Prog Directory Answer

def signedInActions (auth : Option UserId) (view : Account → Actions) : Actions := do
  match ← Prog.read fun d => d.authenticated auth with
  | none => pure .unauthorized
  | some actor => view actor

def saving (account : Account) (answer : Answer) : Actions := do
  if ← Prog.atomic (Directory.trySave account) then pure answer else pure .crash

/-- `user_api_view`, `PUT`. The e-mail and the organisation are looked up one after
the other. -/
def updateUserActions (auth : Option UserId) (id : UserId) (data : UserData) : Actions :=
  signedInActions auth fun actor => do
  match ← Prog.read fun d => d.users.get? id with
  | none => pure .notFound
  | some item =>
    if canEditUser actor item = false then
      pure (.error 403 "Vous n'avez pas les droits pour modifier cet utilisateur.")
    else if data.password = .invalid then pure .crash
    else do
      let users ← Prog.read Directory.users
      let organisations ← Prog.read Directory.organisations
      match userPutErrors id ⟨organisations, users⟩ data with
      | [] => saving (data.update item) (.user 200 (data.update item))
      | errors => pure (.invalid errors)

def deleteUserActions (auth : Option UserId) (id : UserId) : Actions :=
  signedInActions auth fun actor => do
  match ← Prog.read fun d => d.users.get? id with
  | none => pure .notFound
  | some item =>
    if canDeleteUser actor item = false then
      pure (.error 403 "Vous n'avez pas les droits pour supprimer cet utilisateur.")
    else do
      Prog.modify (Directory.delete id)
      pure .noContent

/-- `OrganisationMemberCreateView.post`. The user is read, given the
organisation and the role in memory, and saved as a whole; what he was before,
and where, is not looked at. -/
def addMemberActions (auth : Option UserId) (pk : OrganisationId) (userId : RawId)
    (orgRole : Arg OrgRole) : Actions :=
  signedInActions auth fun actor =>
  if managesMembers actor pk = false then
    pure (.error 403 "Seul un administrateur d'organisation peut gérer les membres.")
  else do
    match ← Prog.read fun d => d.organisations.get? pk with
    | none => pure (.error 404 "Organisation non trouvée.")
    | some _ =>
      match userId, orgRole with
      | .absent, _ | _, .absent | _, .null => pure (.error 400 "user_id et org_role sont requis.")
      | _, .invalid =>
        pure (.error 400 "Rôle invalide. Choix : org_admin, bureau_agent, field_agent.")
      | .malformed, .value _ => pure .crash
      | .uuid id, .value role => do
        match ← Prog.read fun d => d.users.get? id with
        | none => pure (.error 404 "Utilisateur non trouvé.")
        | some member =>
          let member' := { member with organisationMember := some pk, orgRole := some role }
          saving member' (.user 201 member')

/-- `OrganisationMemberDetailView.patch`: the row, the e-mail, the phone number and
the other admins are looked up one after the other. -/
def updateMemberActions (auth : Option UserId) (pk : OrganisationId) (id : UserId)
    (data : MemberData) : Actions :=
  signedInActions auth fun actor =>
  if managesMembers actor pk = false ∧ isBureauOf actor pk = false then
    pure (.error 403 "Droits insuffisants.")
  else do
    match ← Prog.read fun d => d.memberOf pk id with
    | none => pure (.error 404 "Membre non trouvé dans cette organisation.")
    | some member =>
      if managesMembers actor pk = false ∧ member.orgRole ≠ some .fieldAgent then
        pure (.error 403 "Un agent de bureau ne peut modifier qu'un agent de terrain.")
      else if managesMembers actor pk = false ∧ data.orgRole ≠ .absent ∧ data.orgRole ≠ .null ∧
          data.orgRole ≠ .value .fieldAgent then
        pure (.field 403 "Un agent de bureau ne peut pas changer le rôle d'un agent." "org_role"
          "Modification du rôle non autorisée.")
      else do
        match ← Prog.read fun d => data.emailProblem member d with
        | some answer => pure answer
        | none =>
          if data.firstName = .invalid ∨ data.lastName = .invalid then pure .crash
          else do
            match ← Prog.read fun d => data.phoneProblem member d with
            | some answer => pure answer
            | none => do
              match ← Prog.read fun d => data.roleProblem actor member d with
              | some answer => pure answer
              | none =>
                if (data.update member).fits then
                  saving (data.update member) (.user 200 (data.update member))
                else pure .crash

/-- `OrganisationMemberDetailView.delete`: the member is read, then the other
admins are counted, then the row is deleted by its id, whatever has become of
it. -/
def removeMemberActions (auth : Option UserId) (pk : OrganisationId) (id : UserId) : Actions :=
  signedInActions auth fun actor =>
  if managesMembers actor pk = false ∧ isBureauOf actor pk = false then
    pure (.error 403 "Droits insuffisants.")
  else do
    match ← Prog.read fun d => d.memberOf pk id with
    | none => pure (.error 404 "Membre non trouvé dans cette organisation.")
    | some member =>
      if managesMembers actor pk = false ∧ member.orgRole ≠ some .fieldAgent then
        pure (.error 403 "Un agent de bureau ne peut supprimer qu'un agent de terrain.")
      else do
        if ← Prog.read (lastActiveAdmin actor member) then
          pure (.error 400
            ("Impossible de retirer le dernier administrateur actif de l'organisation. " ++
              "Promouvez d'abord un autre membre en administrateur."))
        else do
          Prog.modify (Directory.delete id)
          pure (.text 200 "Agent supprimé avec succès de l'organisation.")

/-- The requests that can take an admin away. Creations cannot. -/
def AccountOp.ReachesAdmins : AccountOp → Prop
  | .updateUser .. | .deleteUser .. | .addMember .. | .updateMember .. | .removeMember .. => True
  | _ => False

/-- The actions of a request. The two endpoints that create users are one
action each: they take no admin away, so nothing depends on where they are
interrupted. -/
def AccountOp.actions : AccountOp → Actions
  | updateUser auth id data => updateUserActions auth id data
  | deleteUser auth id => deleteUserActions auth id
  | addMember auth pk userId orgRole => addMemberActions auth pk userId orgRole
  | updateMember auth pk id data => updateMemberActions auth pk id data
  | removeMember auth pk id => removeMemberActions auth pk id
  | op => Prog.atomic op.endpoint

/-! ## One request alone -/

/-- Alone, the actions end in `out`. Only where two users have one e-mail already, which
the constraint excludes, may a save be refused. -/
def EndsIn (p : Actions) (d : Directory) (out : Answer × Directory) : Prop :=
  p.run d = out ∨ ¬ d.EmailsDistinct ∧ p.run d = (.crash, d)

section Alone

variable {d : Directory} {auth : Option UserId}

theorem endsIn_saving {account : Account} {answer : Answer}
    (hfree : d.EmailsDistinct → d.emailTaken account = false) :
    EndsIn (saving account answer) d (answer, d.save account) := by
  unfold EndsIn saving Directory.trySave
  cases htaken : d.emailTaken account with
  | false => exact Or.inl (by simp [htaken])
  | true =>
      refine Or.inr ⟨fun hd => ?_, by simp [htaken]⟩
      rw [hfree hd] at htaken
      cases htaken

theorem endsIn_signedInActions {view : Account → Actions} {endpoint : Account → Endpoint}
    (h : ∀ actor, EndsIn (view actor) d (endpoint actor d)) :
    EndsIn (signedInActions auth view) d (signedIn auth endpoint d) := by
  unfold EndsIn signedInActions signedIn
  simp only [Prog.run_bind, Prog.run_read]
  cases d.authenticated auth with
  | none => exact Or.inl rfl
  | some actor => exact h actor

theorem endsIn_updateUserActions (id : UserId) (data : UserData) :
    EndsIn (updateUserActions auth id data) d (updateUser auth id data d) := by
  refine endsIn_signedInActions fun actor => ?_
  unfold EndsIn
  simp only [Prog.run_bind, Prog.run_read]
  cases hitem : d.users.get? id with
  | none => exact Or.inl rfl
  | some item =>
      dsimp only
      split
      · exact Or.inl rfl
      split
      · exact Or.inl rfl
      simp only [Prog.run_bind, Prog.run_read]
      cases hvalid : userPutErrors id d data with
      | nil => exact endsIn_saving fun hd => emailTaken_update_of_user hd hitem hvalid
      | cons error errors => exact Or.inl rfl

theorem endsIn_deleteUserActions (id : UserId) :
    EndsIn (deleteUserActions auth id) d (deleteUser auth id d) := by
  refine endsIn_signedInActions fun actor => ?_
  unfold EndsIn
  simp only [Prog.run_bind, Prog.run_read]
  cases d.users.get? id with
  | none => exact Or.inl rfl
  | some item =>
      dsimp only
      split <;> exact Or.inl rfl

theorem endsIn_addMemberActions (pk : OrganisationId) (userId : RawId) (orgRole : Arg OrgRole) :
    EndsIn (addMemberActions auth pk userId orgRole) d (addMember auth pk userId orgRole d) := by
  refine endsIn_signedInActions fun actor => ?_
  split
  · exact Or.inl rfl
  unfold EndsIn
  simp only [Prog.run_bind, Prog.run_read]
  cases d.organisations.get? pk with
  | none => exact Or.inl rfl
  | some organisation =>
      simp only [reduceCtorEq, if_false]
      cases userId with
      | absent => exact Or.inl rfl
      | malformed => cases orgRole <;> exact Or.inl rfl
      | uuid id =>
          cases orgRole with
          | absent | null | invalid => exact Or.inl rfl
          | value role =>
              simp only [Prog.run_bind, Prog.run_read]
              cases hmember : d.users.get? id with
              | none => exact Or.inl rfl
              | some member =>
                  obtain rfl : member.id = id := Table.key_of_get? hmember
                  exact endsIn_saving fun hd => emailTaken_of_kept hd hmember rfl rfl

/-- The program and the view of `Mapapi.Accounts` agree: run without
interruption, the reads and the write of a PATCH end in what the view makes of
the directory. So the interleavings are about the same endpoint. -/
theorem endsIn_updateMemberActions (pk : OrganisationId) (id : UserId) (data : MemberData) :
    EndsIn (updateMemberActions auth pk id data) d (updateMember auth pk id data d) := by
  refine endsIn_signedInActions fun actor => ?_
  split
  · exact Or.inl rfl
  unfold EndsIn
  simp only [Prog.run_bind, Prog.run_read]
  cases hmember : d.memberOf pk id with
  | none => exact Or.inl rfl
  | some member =>
      obtain rfl : member.id = id :=
        Table.key_of_get? (Option.filter_eq_some_iff.mp hmember).1
      dsimp only
      split
      · exact Or.inl rfl
      split
      · exact Or.inl rfl
      simp only [Prog.run_bind, Prog.run_read]
      unfold MemberData.problem
      cases hemail : data.emailProblem member d with
      | some answer => exact Or.inl rfl
      | none =>
          dsimp only [Option.none_or]
          split
          · exact Or.inl rfl
          simp only [Prog.run_bind, Prog.run_read, Option.none_or]
          cases data.phoneProblem member d with
          | some answer => exact Or.inl rfl
          | none =>
              simp only [Prog.run_bind, Prog.run_read, Option.none_or]
              cases data.roleProblem actor member d with
              | some answer => exact Or.inl rfl
              | none =>
                  dsimp only
                  split
                  · exact endsIn_saving fun hd => emailTaken_update_of_member hd
                      (Option.filter_eq_some_iff.mp hmember).1 hemail
                  · exact Or.inl rfl

theorem endsIn_removeMemberActions (pk : OrganisationId) (id : UserId) :
    EndsIn (removeMemberActions auth pk id) d (removeMember auth pk id d) := by
  refine endsIn_signedInActions fun actor => ?_
  split
  · exact Or.inl rfl
  unfold EndsIn
  simp only [Prog.run_bind, Prog.run_read]
  cases d.memberOf pk id with
  | none => exact Or.inl rfl
  | some member =>
      dsimp only
      split
      · exact Or.inl rfl
      simp only [Prog.run_bind, Prog.run_read]
      refine Or.inl ?_
      by_cases hlast : lastActiveAdmin actor member d = true <;> simp [hlast]

/-- A request that nothing interrupts is its endpoint. -/
theorem endsIn_actions (op : AccountOp) : EndsIn op.actions d (op.endpoint d) := by
  cases op with
  | createUser | createAgent => exact Or.inl rfl
  | updateUser auth id data => exact endsIn_updateUserActions id data
  | deleteUser auth id => exact endsIn_deleteUserActions id
  | addMember auth pk userId orgRole => exact endsIn_addMemberActions pk userId orgRole
  | updateMember auth pk id data => exact endsIn_updateMemberActions pk id data
  | removeMember auth pk id => exact endsIn_removeMemberActions pk id

theorem run_actions (hd : d.EmailsDistinct) (op : AccountOp) :
    op.actions.run d = op.endpoint d :=
  (endsIn_actions op).resolve_right fun h => h.1 hd

end Alone

/-! ## What a request may write -/

def AccountOp.target : AccountOp → Option UserId
  | updateUser _ id _ | deleteUser _ id | updateMember _ _ id _ | removeMember _ _ id => some id
  | addMember _ _ (.uuid id) _ => some id
  | _ => none

/-- What it leaves of the row it has read. -/
def AccountOp.leaves : AccountOp → Account → Option Account
  | updateUser _ _ data, item => some (data.update item)
  | addMember _ pk _ (.value role), item =>
    some { item with organisationMember := some pk, orgRole := some role }
  | updateMember _ _ _ data, item => some (data.update item)
  | _, _ => none

/-- The write of a request that has read this row. -/
def AccountOp.write (op : AccountOp) (item : Account) : Directory → Directory :=
  match op.leaves item with
  | some account => fun d => (d.trySave account).2
  | none => Directory.delete item.id

/-- The turn at which a request reads that row, counted from 0. -/
def AccountOp.rowTurn : AccountOp → Nat
  | addMember .. => 2
  | _ => 1

/-- The row that the request is about, as it is now. The request works on the
one it has read. -/
def AccountOp.row (op : AccountOp) (d : Directory) : Option Account :=
  op.target.bind d.users.get?

/-- How far a request has come: the number of its reads and the row it has read, or
the end. -/
inductive AccountOp.Phase where
  | reading (turns : Nat) (seen : Option Account)
  | written

/-- A request reads, its row at the turn for it, and then writes that row once. -/
def AccountOp.Protocol (op : AccountOp) :
    Phase → Directory → (Directory → Directory) → Phase → Prop
  | .reading n seen, d, write, t' =>
    (write = id ∧ t' = .reading (n + 1) (if n = op.rowTurn then op.row d else seen)) ∨
      ∃ item, seen = some item ∧ write = op.write item ∧ t' = .written
  | .written, _, _, _ => False

def AccountOp.Proper (op : AccountOp) (n : Nat) (seen : Option Account) (p : Actions) : Prop :=
  p.Follows op.Protocol (Prog.Ended fun _ _ => True) (.reading n seen)

section Follows

variable {op : AccountOp} {auth : Option UserId} {n : Nat} {seen : Option Account}

theorem proper_pure (answer : Answer) : op.Proper n seen (pure answer) :=
  Prog.follows_pure (Prog.ended_pure trivial)

theorem proper_read {α : Type} {f : Directory → α} {k : α → Actions}
    (h : ∀ d, op.Proper (n + 1) (if n = op.rowTurn then op.row d else seen) (k (f d))) :
    op.Proper n seen (Prog.read f >>= k) :=
  Or.inr fun d => ⟨_, Or.inl ⟨rfl, rfl⟩, h d⟩

theorem proper_write {item : Account} {f : Directory → Directory} (hf : f = op.write item)
    (hseen : seen = some item) (answer : Answer) :
    op.Proper n seen (Prog.modify f >>= fun _ => pure answer) :=
  Or.inr fun _ => ⟨.written, Or.inr ⟨item, hseen, hf, rfl⟩,
    Prog.follows_pure (Prog.ended_pure trivial)⟩

theorem proper_saving {item account : Account} (hleaves : op.leaves item = some account)
    (hseen : seen = some item) (answer : Answer) : op.Proper n seen (saving account answer) := by
  refine Or.inr fun d => ⟨.written, Or.inr ⟨item, hseen, ?_, rfl⟩, ?_⟩
  · unfold AccountOp.write
    rw [hleaves]
  · exact Prog.follows_ite (fun _ => Prog.follows_pure (Prog.ended_pure trivial))
      fun _ => Prog.follows_pure (Prog.ended_pure trivial)

theorem proper_ite {c : Prop} [Decidable c] {p q : Actions} (hp : c → op.Proper n seen p)
    (hq : ¬ c → op.Proper n seen q) : op.Proper n seen (if c then p else q) :=
  Prog.follows_ite hp hq

theorem proper_signedInActions {view : Account → Actions} (hturn : 0 < op.rowTurn)
    (h : ∀ actor, op.Proper 1 none (view actor)) :
    op.Proper 0 none (signedInActions auth view) := by
  refine proper_read fun d => ?_
  rw [if_neg (by omega)]
  cases d.authenticated auth with
  | none => exact proper_pure _
  | some actor => exact h actor

theorem row_of_memberOf {d : Directory} {pk : OrganisationId} {id : UserId} {member : Account}
    (h : d.memberOf pk id = some member) :
    d.users.get? id = some member ∧ member.organisationMember = some pk := by
  obtain ⟨hstored, hpk⟩ := Option.filter_eq_some_iff.mp h
  exact ⟨hstored, of_decide_eq_true hpk⟩

theorem proper_updateUserActions (id : UserId) (data : UserData) :
    (AccountOp.updateUser auth id data).Proper 0 none (updateUserActions auth id data) := by
  refine proper_signedInActions Nat.one_pos fun actor => proper_read fun d => ?_
  cases hitem : d.users.get? id with
  | none => exact proper_pure _
  | some item =>
      refine proper_ite (fun _ => proper_pure _) fun _ => ?_
      refine proper_ite (fun _ => proper_pure _) fun _ => ?_
      refine proper_read fun d' => proper_read fun d'' => ?_
      cases userPutErrors id ⟨d''.organisations, d'.users⟩ data with
      | nil => exact proper_saving rfl hitem _
      | cons error errors => exact proper_pure _

theorem proper_deleteUserActions (id : UserId) :
    (AccountOp.deleteUser auth id).Proper 0 none (deleteUserActions auth id) := by
  refine proper_signedInActions Nat.one_pos fun actor => proper_read fun d => ?_
  cases hitem : d.users.get? id with
  | none => exact proper_pure _
  | some item =>
      have hid : item.id = id := Table.key_of_get? hitem
      refine proper_ite (fun _ => proper_pure _) fun _ => ?_
      exact proper_write (congrArg Directory.delete hid.symm) hitem _

theorem proper_addMemberActions (pk : OrganisationId) (userId : RawId) (orgRole : Arg OrgRole) :
    (AccountOp.addMember auth pk userId orgRole).Proper 0 none
      (addMemberActions auth pk userId orgRole) := by
  refine proper_signedInActions Nat.two_pos fun actor => ?_
  refine proper_ite (fun _ => proper_pure _) fun _ => proper_read fun d => ?_
  cases d.organisations.get? pk with
  | none => exact proper_pure _
  | some organisation =>
      cases userId with
      | absent => exact proper_pure _
      | malformed => cases orgRole <;> exact proper_pure _
      | uuid id =>
          cases orgRole with
          | absent | null | invalid => exact proper_pure _
          | value role =>
              refine proper_read fun d' => ?_
              cases hmember : d'.users.get? id with
              | none => exact proper_pure _
              | some member => exact proper_saving rfl hmember _

theorem proper_updateMemberActions (pk : OrganisationId) (id : UserId) (data : MemberData) :
    (AccountOp.updateMember auth pk id data).Proper 0 none
      (updateMemberActions auth pk id data) := by
  refine proper_signedInActions Nat.one_pos fun actor => ?_
  refine proper_ite (fun _ => proper_pure _) fun _ => proper_read fun d => ?_
  cases hmember : d.memberOf pk id with
  | none => exact proper_pure _
  | some member =>
      refine proper_ite (fun _ => proper_pure _) fun _ => ?_
      refine proper_ite (fun _ => proper_pure _) fun _ => proper_read fun d' => ?_
      cases data.emailProblem member d' with
      | some answer => exact proper_pure _
      | none =>
          refine proper_ite (fun _ => proper_pure _) fun _ => proper_read fun d' => ?_
          cases data.phoneProblem member d' with
          | some answer => exact proper_pure _
          | none =>
              refine proper_read fun d' => ?_
              cases data.roleProblem actor member d' with
              | some answer => exact proper_pure _
              | none =>
                  refine proper_ite (fun _ => ?_) fun _ => proper_pure _
                  exact proper_saving rfl (row_of_memberOf hmember).1 _

theorem proper_removeMemberActions (pk : OrganisationId) (id : UserId) :
    (AccountOp.removeMember auth pk id).Proper 0 none (removeMemberActions auth pk id) := by
  refine proper_signedInActions Nat.one_pos fun actor => ?_
  refine proper_ite (fun _ => proper_pure _) fun _ => proper_read fun d => ?_
  cases hmember : d.memberOf pk id with
  | none => exact proper_pure _
  | some member =>
      have hstored := (row_of_memberOf hmember).1
      have hid : member.id = id := Table.key_of_get? hstored
      refine proper_ite (fun _ => proper_pure _) fun _ => proper_read fun d' => ?_
      refine proper_ite (fun _ => proper_pure _) fun _ => ?_
      exact proper_write (congrArg Directory.delete hid.symm) hstored _

theorem proper_actions (hop : op.ReachesAdmins) : op.Proper 0 none op.actions := by
  cases op with
  | createUser | createAgent => exact hop.elim
  | updateUser auth id data => exact proper_updateUserActions id data
  | deleteUser auth id => exact proper_deleteUserActions id
  | addMember auth pk userId orgRole => exact proper_addMemberActions pk userId orgRole
  | updateMember auth pk id data => exact proper_updateMemberActions pk id data
  | removeMember auth pk id => exact proper_removeMemberActions pk id

theorem once_of_proper {p : Actions} (h : op.Proper n seen p) :
    p.Follows (Prog.Once fun _ => True) (Prog.Ended fun _ _ => True) false := by
  refine Prog.Follows.map (fun t => match t with | .reading .. => false | .written => true) ?_ h
  intro t d write t' hallowed
  cases t with
  | written => exact hallowed.elim
  | reading n seen =>
      rcases hallowed with ⟨rfl, rfl⟩ | ⟨item, -, -, rfl⟩
      · exact Prog.once_read
      · exact Prog.once_write trivial

end Follows

/-! ## What a request leaves -/

section Leaves

variable {op : AccountOp} {d : Directory} {item account : Account}

theorem id_of_leaves (h : op.leaves item = some account) : account.id = item.id := by
  unfold AccountOp.leaves at h
  split at h <;> cases h <;> rfl

/-- The write of a request touches its own row only, or is refused. -/
theorem get?_write (hchanged : op.write item d ≠ d) (u : UserId) :
    (op.write item d).users.get? u = if u = item.id then op.leaves item else d.users.get? u := by
  unfold AccountOp.write at hchanged ⊢
  cases hleaves : op.leaves item with
  | none => exact Table.get?_erase ..
  | some account =>
      rw [hleaves] at hchanged
      dsimp only at hchanged ⊢
      unfold Directory.trySave at hchanged ⊢
      split at hchanged
      · exact absurd rfl hchanged
      · rename_i hfree
        rw [if_neg hfree, ← id_of_leaves hleaves]
        exact Table.get?_put ..

end Leaves

/-! ## Admins -/

def Account.isActiveAdminOf (o : OrganisationId) (account : Account) : Bool :=
  decide (account.organisationMember = some o ∧ account.orgRole = some .orgAdmin ∧
    account.isActive = true)

def Directory.IsAdmin (d : Directory) (o : OrganisationId) (id : UserId) : Prop :=
  (d.users.get? id).any (Account.isActiveAdminOf o) = true

/-- The organisation has an active admin. -/
def Directory.HasAdmin (d : Directory) (o : OrganisationId) : Prop := ∃ id, d.IsAdmin o id

/-- The user is the only active admin of the organisation: the count of the
others is the one that the views make. -/
def Directory.LastAdmin (d : Directory) (o : OrganisationId) (id : UserId) : Prop :=
  d.IsAdmin o id ∧ d.activeAdminCount (some o) id = 0

section Admins

variable {d : Directory} {o : OrganisationId} {id : UserId}

theorem isAdmin_iff :
    d.IsAdmin o id ↔ ∃ a, d.users.get? id = some a ∧ a.organisationMember = some o ∧
      a.orgRole = some .orgAdmin ∧ a.isActive = true := by
  unfold Directory.IsAdmin Account.isActiveAdminOf
  rw [Option.any_eq_true]
  simp only [decide_eq_true_eq]

theorem activeAdminCount_eq_zero :
    d.activeAdminCount (some o) id = 0 ↔ ∀ v, d.IsAdmin o v → v = id := by
  unfold Directory.activeAdminCount Table.select
  rw [List.length_eq_zero_iff, List.filter_eq_nil_iff]
  constructor
  · intro h v hv
    obtain ⟨a, hstored, horganisation, hrole, hactive⟩ := isAdmin_iff.mp hv
    have hid : a.id = v := Table.key_of_get? hstored
    by_contra hne
    refine h a (Table.mem_of_get? hstored) (decide_eq_true ⟨horganisation, hrole, hactive, ?_⟩)
    rwa [hid]
  · intro h a ha hadmin
    obtain ⟨horganisation, hrole, hactive, hne⟩ := of_decide_eq_true hadmin
    have hstored : d.users.get? a.id = some a := Table.get?_of_mem ha
    exact hne (h a.id (isAdmin_iff.mpr ⟨a, hstored, horganisation, hrole, hactive⟩))

theorem hasAdmin_save {account : Account} (h : account.isActiveAdminOf o = true) :
    (d.save account).HasAdmin o := by
  refine ⟨account.id, ?_⟩
  unfold Directory.IsAdmin Directory.save
  rw [show (d.users.put account).get? account.id = some account from
    (Table.get?_put ..).trans (if_pos rfl)]
  exact h

theorem hasAdmin_write_iff {op : AccountOp} {item : Account} (hlast : d.LastAdmin o item.id)
    (hchanged : op.write item d ≠ d) :
    (op.write item d).HasAdmin o ↔
      (op.leaves item).any (Account.isActiveAdminOf o) = true := by
  constructor
  · rintro ⟨v, hv⟩
    unfold Directory.IsAdmin at hv
    rw [get?_write hchanged] at hv
    split at hv
    · exact hv
    · rename_i hne
      exact absurd (activeAdminCount_eq_zero.mp hlast.2 v hv) hne
  · intro h
    refine ⟨item.id, ?_⟩
    unfold Directory.IsAdmin
    rwa [get?_write hchanged, if_pos rfl]

theorem hasAdmin_iff_rows :
    d.HasAdmin o ↔ d.users.rows.any (Account.isActiveAdminOf o) = true := by
  rw [List.any_eq_true]
  constructor
  · rintro ⟨id, h⟩
    obtain ⟨a, hstored, hadmin⟩ := Option.any_eq_true _ _ |>.mp h
    exact ⟨a, Table.mem_of_get? hstored, hadmin⟩
  · rintro ⟨a, ha, hadmin⟩
    have hstored : d.users.get? a.id = some a := Table.get?_of_mem ha
    exact ⟨a.id, Option.any_eq_true _ _ |>.mpr ⟨a, hstored, hadmin⟩⟩

instance : Decidable (d.HasAdmin o) := decidable_of_iff' _ hasAdmin_iff_rows

/-- A write that takes the admins away has taken the last one. -/
theorem lastAdmin_of_lost {op : AccountOp} {item : Account} (h : d.HasAdmin o)
    (hlost : ¬ (op.write item d).HasAdmin o) : d.LastAdmin o item.id := by
  have hchanged : op.write item d ≠ d := fun hsame => hlost (hsame.symm ▸ h)
  have honly : ∀ v, d.IsAdmin o v → v = item.id := by
    intro v hv
    by_contra hne
    refine hlost ⟨v, ?_⟩
    unfold Directory.IsAdmin
    rwa [get?_write hchanged, if_neg hne]
  obtain ⟨v, hv⟩ := h
  exact ⟨honly v hv ▸ hv, activeAdminCount_eq_zero.mpr honly⟩

end Admins

/-! ## Requests that count -/

/-- The endpoint counts the other admins, for this actor. -/
def AccountOp.Counts (d : Directory) : AccountOp → Prop
  | .updateMember auth .. | .removeMember auth .. =>
    ∀ actor, d.authenticated auth = some actor → isSuperAdmin actor.toUser = false
  | _ => False

section Counts

variable {d : Directory} {o : OrganisationId} {id : UserId} {actor member : Account}

theorem lastActiveAdmin_of_lastAdmin (hlast : d.LastAdmin o id)
    (hstored : d.users.get? id = some member) (hactor : isSuperAdmin actor.toUser = false) :
    lastActiveAdmin actor member d = true := by
  obtain ⟨a, ha, horganisation, hrole, hactive⟩ := isAdmin_iff.mp hlast.1
  obtain rfl := Option.some.inj (hstored.symm.trans ha)
  have hid : member.id = id := Table.key_of_get? hstored
  have hcount := hlast.2
  unfold lastActiveAdmin
  rw [horganisation, hid]
  simp [hactor, hrole, hactive, hcount]

/-- A `PATCH` that passes its checks leaves the last admin one. -/
theorem isActiveAdminOf_update {data : MemberData} (hlast : d.LastAdmin o id)
    (hstored : d.users.get? id = some member) (hactor : isSuperAdmin actor.toUser = false)
    (hproblem : data.problem actor member d = none) :
    (data.update member).isActiveAdminOf o = true := by
  have hguard := lastActiveAdmin_of_lastAdmin hlast hstored hactor
  obtain ⟨a, ha, horganisation, hrole, hactive⟩ := isAdmin_iff.mp hlast.1
  obtain rfl := Option.some.inj (hstored.symm.trans ha)
  unfold MemberData.problem at hproblem
  simp only [Option.or_eq_none_iff] at hproblem
  have hkept : data.orgRole.toOption.or member.orgRole = some .orgAdmin := by
    have hnone := hproblem.2.2.2
    unfold MemberData.roleProblem at hnone
    cases hdata : data.orgRole with
    | absent | null => exact hrole
    | invalid => simp [hdata] at hnone
    | value role =>
        simp only [hdata, hguard, and_true, ite_eq_right_iff, reduceCtorEq, imp_false,
          not_not] at hnone
        rw [hnone]
        rfl
  exact decide_eq_true ⟨horganisation, hkept, hactive⟩

theorem removeMember_cases {auth : Option UserId} {pk : OrganisationId} :
    (removeMember auth pk id d).2 = d ∨ ∃ actor member, d.authenticated auth = some actor ∧
      d.memberOf pk id = some member ∧ lastActiveAdmin actor member d = false := by
  unfold removeMember
  rcases signedIn_cases with h | ⟨actor, hauth, h⟩
  · exact Or.inl h
  · rw [h]
    split
    · exact Or.inl rfl
    cases hmember : d.memberOf pk id with
    | none => exact Or.inl rfl
    | some member =>
        dsimp only
        split
        · exact Or.inl rfl
        split
        · exact Or.inl rfl
        · rename_i hlast
          exact Or.inr ⟨actor, member, hauth, rfl, Bool.eq_false_iff.mpr hlast⟩

theorem step_of_counts {op : AccountOp} (hcounts : op.Counts d) (htarget : op.target = some id)
    (hlast : d.LastAdmin o id) : (d.step op).HasAdmin o := by
  have hkept : d.HasAdmin o := ⟨id, hlast.1⟩
  cases op with
  | createUser | createAgent | addMember | updateUser | deleteUser => exact hcounts.elim
  | updateMember auth pk target data =>
      obtain rfl := Option.some.inj htarget
      have hop : (AccountOp.updateMember auth pk target data).SetsPhoneOrRole := trivial
      rcases step_stores hop with h | ⟨account, hstores, h⟩
      · rwa [h]
      · cases hstores with
        | @patch _ _ _ _ actor member hauth hmember hactor hproblem hfits =>
            have hstored := (row_of_memberOf hmember).1
            have hadmin := isActiveAdminOf_update hlast hstored (hcounts actor hauth) hproblem
            rw [h]
            exact hasAdmin_save hadmin
  | removeMember auth pk target =>
      obtain rfl := Option.some.inj htarget
      rcases removeMember_cases with h | ⟨actor, member, hauth, hmember, hnotlast⟩
      · change (removeMember auth pk target d).2.HasAdmin o
        rwa [h]
      · have hstored := (row_of_memberOf hmember).1
        rw [lastActiveAdmin_of_lastAdmin hlast hstored (hcounts actor hauth)] at hnotlast
        cases hnotlast

end Counts

/-! ## Any interleaving -/

section Pools

variable {ι : Type} [DecidableEq ι]

/-- All the requests on one directory, in whatever order their actions come. -/
def pool (d : Directory) (requests : ι → AccountOp) : Pool Directory ι Answer :=
  ⟨d, fun i => (requests i).actions⟩

/-- The row that a request has read, at its turn for that. -/
def seenBy (d : Directory) (requests : ι → AccountOp) (past : List ι) (i : ι) : Option Account :=
  ((pool d requests).foundAt i (requests i).rowTurn past).bind (requests i).row

/-- The turn of `i` writes the row of the last active admin, and what the request
leaves of the row it has read is not an active admin. The endpoint does not count the
other admins, or another request has changed the directory since the first turn of `i`. -/
structure Lapse (d : Directory) (requests : ι → AccountOp) (o : OrganisationId)
    (past : List ι) (i : ι) : Prop where
  writes : ((pool d requests).exec (past ++ [i])).store ≠ ((pool d requests).exec past).store
  last : ∃ id, (requests i).target = some id ∧
    ((pool d requests).exec past).store.LastAdmin o id
  unseats : ((seenBy d requests past i).bind (requests i).leaves).any
    (Account.isActiveAdminOf o) = false
  unguarded : ¬ (requests i).Counts ((pool d requests).exec past).store ∨
    (pool d requests).Overtaken past i

variable {d : Directory} {requests : ι → AccountOp} {o : OrganisationId} {past : List ι} {i : ι}

theorem ended_of_written {op : AccountOp} {p : Actions}
    (h : p.Follows op.Protocol (Prog.Ended fun _ _ => True) .written) (d : Directory) :
    ∃ a, p = .done a := by
  rcases Prog.follows_cases h d with ⟨a, hend, -⟩ | ⟨write, next, t', -, hallowed, -⟩
  · exact ⟨a, hend⟩
  · exact hallowed.elim

/-- A request has ended, or it has read its row, if its turn for that has come. -/
theorem proper_exec (d : Directory) (past : List ι) (hop : (requests i).ReachesAdmins) :
    (∃ a, ((pool d requests).exec past).progs i = .done a) ∨
      (requests i).Proper (past.count i) (seenBy d requests past i)
        (((pool d requests).exec past).progs i) := by
  induction past using List.reverseRecOn with
  | nil => exact Or.inr (proper_actions hop)
  | append_singleton past k ih =>
      by_cases hk : k = i
      · subst hk
        rcases ih with ⟨a, hdone⟩ | hproper
        · exact Or.inl ⟨a, by rw [Pool.exec_snoc_done hdone, hdone]⟩
        · rcases Prog.follows_cases hproper ((pool d requests).exec past).store with
            ⟨a, hdone, -⟩ | ⟨write, next, t', hact, hallowed, hnext⟩
          · exact Or.inl ⟨a, by rw [Pool.exec_snoc_done hdone, hdone]⟩
          · rw [Pool.progs_exec_snoc hact]
            rcases hallowed with ⟨rfl, rfl⟩ | ⟨item, -, rfl, rfl⟩
            · refine Or.inr ?_
              unfold seenBy
              rw [Pool.foundAt_snoc, List.count_append, List.count_singleton_self]
              simp only [true_and]
              split at hnext
              · rename_i hturn
                rwa [if_pos hturn]
              · rename_i hturn
                rwa [if_neg hturn]
            · exact Or.inl (ended_of_written hnext d)
      · have hsame : ((pool d requests).exec (past ++ [k])).progs i =
            ((pool d requests).exec past).progs i :=
          Pool.progs_exec_snoc_of_ne hk
        have hcount : (past ++ [k]).count i = past.count i := by
          rw [List.count_append, List.count_singleton, if_neg (by simpa using hk), Nat.add_zero]
        unfold seenBy at ih ⊢
        rw [hsame, hcount, Pool.foundAt_snoc, if_neg (fun h => hk h.1)]
        exact ih

theorem target_of_seenBy {item : Account} (h : seenBy d requests past i = some item) :
    (requests i).target = some item.id := by
  obtain ⟨found, -, hrow⟩ := Option.bind_eq_some_iff.mp h
  obtain ⟨id, htarget, hstored⟩ := Option.bind_eq_some_iff.mp hrow
  have hid : item.id = id := Table.key_of_get? hstored
  rw [htarget, hid]

/-- A turn leaves the store, or is the write of the request; alone, the request does
what its endpoint does. -/
theorem turn_cases (d : Directory) (past : List ι) (hop : (requests i).ReachesAdmins) :
    ((pool d requests).exec (past ++ [i])).store = ((pool d requests).exec past).store ∨
      ∃ item, seenBy d requests past i = some item ∧
        ((pool d requests).exec (past ++ [i])).store =
          (requests i).write item ((pool d requests).exec past).store ∧
        (¬ (pool d requests).Overtaken past i →
          ((pool d requests).exec (past ++ [i])).store =
            ((pool d requests).exec past).store.step (requests i)) := by
  rcases proper_exec d past hop with ⟨a, hdone⟩ | hproper
  · rw [Pool.exec_snoc_done hdone]
    exact Or.inl rfl
  · rcases Prog.follows_cases hproper ((pool d requests).exec past).store with
      ⟨a, hdone, -⟩ | ⟨write, next, t', hact, hallowed, hnext⟩
    · rw [Pool.exec_snoc_done hdone]
      exact Or.inl rfl
    · rw [Pool.store_exec_snoc hact]
      rcases hallowed with ⟨rfl, -⟩ | ⟨item, hseen, rfl, rfl⟩
      · exact Or.inl rfl
      · by_cases hsame : (requests i).write item ((pool d requests).exec past).store =
            ((pool d requests).exec past).store
        · exact Or.inl hsame
        refine Or.inr ⟨item, hseen, rfl, fun hfree => ?_⟩
        obtain ⟨b, hend⟩ := ended_of_written hnext d
        rcases Pool.run_of_not_overtaken (once_of_proper (proper_actions hop)) hfree with
          ⟨a, hdone⟩ | ⟨-, hrun⟩
        · rw [hdone] at hact
          cases hact
        · rw [hact, Prog.run, hend] at hrun
          rcases endsIn_actions (d := ((pool d requests).exec past).store) (requests i) with
            halone | ⟨-, hrefused⟩
          · exact congrArg Prod.snd (hrun.trans halone)
          · exact absurd (congrArg Prod.snd (hrun.trans hrefused)) hsame

/-- A turn takes the last admin away exactly if it is a lapse. If the request
counts and nothing has changed since its first turn, it is as if it ran alone
now, and then it would have been refused. -/
theorem turn_hasAdmin_iff (hop : (requests i).ReachesAdmins)
    (hadmin : ((pool d requests).exec past).store.HasAdmin o) :
    ((pool d requests).exec (past ++ [i])).store.HasAdmin o ↔ ¬ Lapse d requests o past i := by
  constructor
  · intro h hlapse
    rcases turn_cases d past hop with hsame | ⟨item, hseen, hwrite, -⟩
    · exact hlapse.writes hsame
    · obtain ⟨id, htarget, hlast⟩ := hlapse.last
      have hid : item.id = id := Option.some.inj ((target_of_seenBy hseen).symm.trans htarget)
      have hunseats := hlapse.unseats
      have hchanged := hwrite ▸ hlapse.writes
      rw [hwrite, hasAdmin_write_iff (hid ▸ hlast) hchanged] at h
      rw [hseen, Option.bind_some, h] at hunseats
      cases hunseats
  · intro hfree
    by_contra hlost
    rcases turn_cases d past hop with hsame | ⟨item, hseen, hwrite, halone⟩
    · exact hlost (hsame ▸ hadmin)
    · have hlast := lastAdmin_of_lost hadmin (hwrite ▸ hlost)
      have htarget := target_of_seenBy hseen
      have hchanged : ((pool d requests).exec (past ++ [i])).store ≠
          ((pool d requests).exec past).store := fun hsame => hlost (hsame ▸ hadmin)
      refine hfree ⟨hchanged, ⟨item.id, htarget, hlast⟩, ?_, ?_⟩
      · rw [hseen, Option.bind_some, Bool.eq_false_iff]
        intro h
        exact hlost (hwrite ▸ (hasAdmin_write_iff hlast (hwrite ▸ hchanged)).mpr h)
      · by_contra hguarded
        rw [not_or, not_not] at hguarded
        have hkept := step_of_counts hguarded.1 htarget hlast
        rw [← halone hguarded.2] at hkept
        exact hlost hkept

/-- Along any interleaving the organisation keeps an active admin exactly if
no turn is a lapse. The induction is on the schedule, with `turn_hasAdmin_iff`
for the last turn. -/
theorem keeps_admin_iff (d : Directory) (requests : ι → AccountOp) (o : OrganisationId)
    (schedule : List ι) (hrequests : ∀ i ∈ schedule, (requests i).ReachesAdmins)
    (hadmin : d.HasAdmin o) :
    (∀ past rest, schedule = past ++ rest →
      ((pool d requests).exec past).store.HasAdmin o) ↔
    ∀ past i rest, schedule = past ++ i :: rest → ¬ Lapse d requests o past i := by
  constructor
  · intro h past i rest heq
    have hop : (requests i).ReachesAdmins := hrequests i (by simp [heq])
    exact (turn_hasAdmin_iff hop (h past _ heq)).mp (h (past ++ [i]) rest (by simp [heq]))
  · intro h past
    induction past using List.reverseRecOn with
    | nil =>
        intro rest _
        exact hadmin
    | append_singleton past i ih =>
        intro rest heq
        rw [List.append_assoc, List.singleton_append] at heq
        have hop : (requests i).ReachesAdmins := hrequests i (by simp [heq])
        exact (turn_hasAdmin_iff hop (ih _ heq)).mpr (h past i rest heq)

end Pools

theorem keeps_admin_refused :
    ((pool townDirectory fun _ : Unit => .removeMember (some 2) 1 2).exec
      [(), (), (), ()]).store.HasAdmin 1 := by
  refine (keeps_admin_iff townDirectory (fun _ : Unit => .removeMember (some 2) 1 2) 1
    [(), (), (), ()] (fun _ _ => trivial) (by decide)).mpr ?_ _ [] rfl
  intro past i rest heq hlapse
  rcases past with _ | ⟨_, _ | ⟨_, _ | ⟨_, _ | ⟨_, past⟩⟩⟩⟩
  · exact hlapse.writes rfl
  · exact hlapse.writes rfl
  · exact hlapse.writes rfl
  · exact hlapse.writes rfl
  · simp at heq

def MemberData.demotion : MemberData where
  email := .absent
  firstName := .absent
  lastName := .absent
  phone := .absent
  orgRole := .value .bureauAgent

def sharedDirectory : Directory :=
  townDirectory.step (.addMember (some 2) 1 (.uuid 3) (.value .orgAdmin))

/-- The only admin gives the role up with a `PUT`; two admins demote each other, and
each of the requests has counted the other one. -/
theorem loses_admin :
    (townDirectory.HasAdmin 1 ∧ ¬ townDirectory.SuperAdmin 2 ∧
      ¬ ((pool townDirectory fun _ : Unit =>
        .updateUser (some 2) 2 { UserData.empty with orgRole := .value .bureauAgent }).exec
          [(), (), (), (), ()]).store.HasAdmin 1) ∧
    (sharedDirectory.HasAdmin 1 ∧ ¬ sharedDirectory.SuperAdmin 2 ∧
      ¬ sharedDirectory.SuperAdmin 3 ∧
      ¬ ((pool sharedDirectory fun first : Bool =>
        if first then .updateMember (some 2) 1 3 .demotion
        else .updateMember (some 3) 1 2 .demotion).exec
          [true, false, true, false, true, false, true, false, true, false, true,
            false]).store.HasAdmin 1) := by
  have hplain : ∀ d : Directory, ∀ u, d.standing u = some ⟨false, some .orgAdmin, some 1⟩ →
      ¬ d.SuperAdmin u := by
    intro d u hstanding hsuper
    obtain ⟨s, hs, hsuper⟩ := superAdmin_iff.mp hsuper
    rw [hstanding] at hs
    obtain rfl := Option.some.inj hs
    cases hsuper
  refine ⟨⟨by decide, hplain _ 2 (by decide), by decide⟩,
    ⟨by decide, hplain _ 2 (by decide), hplain _ 3 (by decide), by decide⟩⟩

end Mapapi
