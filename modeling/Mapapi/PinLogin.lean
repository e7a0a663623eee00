import Mapapi.Escalation

/-!
# Signing in with a phone number

`AgentPinLoginView` looks a field agent up by phone number, with a `get` that
raises when two agents share it. No constraint of the database forbids that: a
phone number has to be unique among field agents only, and a user becomes one by
a change of the role as well as by a change of the number.

Creating a field agent checks the number, and so does a `PATCH` that sends one. A
`PATCH` that sends the role alone, the assignment of a user to an organisation and
the `PUT` of a user do not.
-/

namespace Mapapi

open Lib

/-! ## AgentPinLoginView -/

/-- The two exceptions of `objects.get`. The view catches the first one only. -/
inductive GetError where
  | doesNotExist
  | multipleObjectsReturned
  deriving DecidableEq

/-- The account is a field agent's, with this phone number. -/
def Account.signsInWith (phone : String) (account : Account) : Bool :=
  decide (account.phone = some phone ∧ account.orgRole = some .fieldAgent)

/-- The lookup of the login, over all organisations: a number does not say
which one the agent belongs to. -/
def Directory.pinUser (d : Directory) (phone : String) : Except GetError Account :=
  match d.users.select fun a => a.signsInWith phone && a.isActive with
  | [] => .error .doesNotExist
  | [account] => .ok account
  | _ => .error .multipleObjectsReturned

/-- No two field agents share a phone number. -/
def Directory.Unambiguous (d : Directory) : Prop :=
  ∀ phone, phone ≠ "" → ∀ a ∈ d.users.rows, ∀ b ∈ d.users.rows,
    a.signsInWith phone = true → b.signsInWith phone = true → a = b

theorem Directory.Unambiguous.pinUser {d : Directory} (hd : d.Unambiguous) {phone : String}
    (hphone : phone ≠ "") : d.pinUser phone ≠ .error .multipleObjectsReturned := by
  have hnodup : (d.users.select fun a => a.signsInWith phone && a.isActive).Nodup :=
    (d.users.nodup_select _).of_map _
  have hsame : ∀ a ∈ d.users.select (fun a => a.signsInWith phone && a.isActive),
      a ∈ d.users.rows ∧ a.signsInWith phone = true := by
    intro a ha
    obtain ⟨hmem, hsigns⟩ := List.mem_filter.mp ha
    exact ⟨hmem, ((Bool.and_eq_true ..).mp hsigns).1⟩
  unfold Directory.pinUser
  split
  · intro h
    cases h
  · intro h
    cases h
  · rename_i hnil hsingle
    generalize d.users.select (fun a => a.signsInWith phone && a.isActive) = found at *
    cases found with
    | nil => exact absurd rfl hnil
    | cons a rest =>
        cases rest with
        | nil => exact absurd rfl (hsingle a)
        | cons b rest =>
            obtain ⟨ha, hasigns⟩ := hsame a List.mem_cons_self
            obtain ⟨hb, hbsigns⟩ := hsame b (List.mem_cons_of_mem _ List.mem_cons_self)
            obtain rfl := hd phone hphone a ha b hb hasigns hbsigns
            exact absurd List.mem_cons_self (List.nodup_cons.mp hnodup).1

/-! ## What the four endpoints store -/

/-- The request passes the checks of its endpoint, and stores this row. -/
inductive Stores (d : Directory) : AccountOp → Account → Prop
  | update {auth id data actor item} (hauth : d.authenticated auth = some actor)
      (hitem : d.users.get? id = some item) (hedit : canEditUser actor item = true)
      (hpassword : data.password ≠ .invalid) (hvalid : userPutErrors id d data = []) :
      Stores d (.updateUser auth id data) (data.update item)
  | add {auth pk id role actor member} (hauth : d.authenticated auth = some actor)
      (hmanages : managesMembers actor pk = true) (horganisation : d.organisations.get? pk ≠ none)
      (hmember : d.users.get? id = some member) :
      Stores d (.addMember auth pk (.uuid id) (.value role))
        { member with organisationMember := some pk, orgRole := some role }
  | patch {auth pk id data actor member} (hauth : d.authenticated auth = some actor)
      (hmember : d.memberOf pk id = some member)
      (hactor : managesMembers actor pk = true ∨ isBureauOf actor pk = true ∧
        member.orgRole = some .fieldAgent ∧
          (data.orgRole = .absent ∨ data.orgRole = .null ∨ data.orgRole = .value .fieldAgent))
      (hproblem : data.problem actor member d = none) (hfits : (data.update member).fits = true) :
      Stores d (.updateMember auth pk id data) (data.update member)
  | agent {auth pk id data} (hfree : d.users.get? id = none)
      (hphone : ∀ a ∈ d.users.rows, a.signsInWith (data.phone.over "") = false) :
      Stores d (.createAgent auth pk id data) (data.create id pk)

def AccountOp.SetsPhoneOrRole : AccountOp → Prop
  | .createAgent .. | .addMember .. | .updateMember .. | .updateUser .. => True
  | _ => False

section Stores

variable {d : Directory} {op : AccountOp} {account : Account} {auth : Option UserId}

theorem signedIn_cases {view : Account → Endpoint} :
    (signedIn auth view d).2 = d ∨
      ∃ actor, d.authenticated auth = some actor ∧ (signedIn auth view d).2 = (view actor d).2 := by
  unfold signedIn
  cases hactor : d.authenticated auth with
  | none => exact Or.inl rfl
  | some actor => exact Or.inr ⟨actor, rfl, rfl⟩

theorem stores_updateUser (id : UserId) (data : UserData) :
    (updateUser auth id data d).2 = d ∨ ∃ account,
      Stores d (.updateUser auth id data) account ∧
        (updateUser auth id data d).2 = d.save account := by
  unfold updateUser
  rcases signedIn_cases with h | ⟨actor, hauth, h⟩
  · exact Or.inl h
  · rw [h]
    cases hitem : d.users.get? id with
    | none => exact Or.inl rfl
    | some item =>
        dsimp only
        split
        · exact Or.inl rfl
        · rename_i hedit
          split
          · exact Or.inl rfl
          · rename_i hpassword
            split
            · rename_i hvalid
              have hstores :=
                Stores.update hauth hitem (Bool.not_eq_false _ ▸ hedit) hpassword hvalid
              exact Or.inr ⟨_, hstores, rfl⟩
            · exact Or.inl rfl

theorem stores_addMember (pk : OrganisationId) (userId : RawId) (orgRole : Arg OrgRole) :
    (addMember auth pk userId orgRole d).2 = d ∨ ∃ account,
      Stores d (.addMember auth pk userId orgRole) account ∧
        (addMember auth pk userId orgRole d).2 = d.save account := by
  unfold addMember
  rcases signedIn_cases with h | ⟨actor, hauth, h⟩
  · exact Or.inl h
  · rw [h]
    dsimp only
    split
    · exact Or.inl rfl
    · rename_i hmanages
      split
      · exact Or.inl rfl
      · rename_i horganisation
        split
        · exact Or.inl rfl
        · exact Or.inl rfl
        · exact Or.inl rfl
        · exact Or.inl rfl
        · exact Or.inl rfl
        · rename_i id role
          split
          · exact Or.inl rfl
          · rename_i member hmember
            exact Or.inr ⟨_, .add hauth (Bool.not_eq_false _ ▸ hmanages) horganisation hmember, rfl⟩

/-- What a PATCH of a member stores, with everything that it has checked by
then. The lemmas on phones only use this, one for each endpoint. -/
theorem stores_updateMember (pk : OrganisationId) (id : UserId) (data : MemberData) :
    (updateMember auth pk id data d).2 = d ∨ ∃ account,
      Stores d (.updateMember auth pk id data) account ∧
        (updateMember auth pk id data d).2 = d.save account := by
  unfold updateMember
  rcases signedIn_cases with h | ⟨actor, hauth, h⟩
  · exact Or.inl h
  · rw [h]
    split
    · exact Or.inl rfl
    · rename_i hallowed
      cases hmember : d.memberOf pk id with
      | none => exact Or.inl rfl
      | some member =>
          dsimp only
          split
          · exact Or.inl rfl
          · rename_i hfield
            split
            · exact Or.inl rfl
            · rename_i hrole
              split
              · exact Or.inl rfl
              · rename_i hproblem
                split
                · rename_i hfits
                  refine Or.inr ⟨_, .patch hauth hmember ?_ hproblem hfits, rfl⟩
                  cases hmanages : managesMembers actor pk with
                  | true => exact Or.inl rfl
                  | false =>
                      rw [hmanages] at hallowed hfield hrole
                      exact Or.inr ⟨by simpa using hallowed, by simpa using hfield, by tauto⟩
                · exact Or.inl rfl

/-- Creating an agent checks the phone against all field agents, so what it
stores shares no number. -/
theorem stores_createAgent (pk : OrganisationId) (id : UserId) (data : AgentData) :
    (createAgent auth pk id data d).2 = d ∨ ∃ account,
      Stores d (.createAgent auth pk id data) account ∧
        (createAgent auth pk id data d).2 = d.save account := by
  unfold createAgent
  rcases signedIn_cases with h | ⟨actor, hauth, h⟩
  · exact Or.inl h
  · rw [h]
    split
    · exact Or.inl rfl
    split
    · exact Or.inl rfl
    split
    · exact Or.inl rfl
    split
    · exact Or.inl rfl
    split
    · exact Or.inl rfl
    split
    · exact Or.inl rfl
    · rename_i hphone
      split
      · exact Or.inl rfl
      · rename_i hfree
        refine Or.inr ⟨_, .agent ?_ ?_, rfl⟩
        · simpa using fun h => hfree (Or.inr h)
        · intro a ha
          rw [Bool.not_eq_true, List.any_eq_false] at hphone
          exact Bool.eq_false_iff.mpr (hphone a ha)

theorem step_stores (hop : op.SetsPhoneOrRole) :
    d.step op = d ∨ ∃ account, Stores d op account ∧ d.step op = d.save account := by
  cases op with
  | updateUser auth id data => exact stores_updateUser id data
  | addMember auth pk userId orgRole => exact stores_addMember pk userId orgRole
  | updateMember auth pk id data => exact stores_updateMember pk id data
  | createAgent auth pk id data => exact stores_createAgent pk id data
  | createUser | deleteUser | removeMember => exact hop.elim

theorem Stores.step (h : Stores d op account)
    (hop : ∀ auth pk id data, op ≠ .createAgent auth pk id data) :
    d.step op = d.save account := by
  cases h with
  | update hauth hitem hedit hpassword hvalid =>
      exact updateUser_accepted hauth hitem hedit hpassword hvalid
  | add hauth hmanages horganisation hmember =>
      unfold Directory.step AccountOp.endpoint addMember signedIn
      simp only [hauth, hmanages, hmember, horganisation, Bool.true_eq_false, if_false]
  | patch hauth hmember hactor hproblem hfits =>
      unfold Directory.step AccountOp.endpoint updateMember signedIn
      simp only [hauth, hmember, hproblem, hfits]
      rcases hactor with hmanages | ⟨hbureau, hfield, hrole⟩
      · simp [hmanages]
      · rw [if_neg (by simp [hbureau]), if_neg (by simp [hfield]), if_neg (by tauto)]
        rfl
  | agent => exact absurd rfl (hop _ _ _ _)

end Stores

/-! ## Sharing a phone number -/

/-- The request makes a field agent of a user with the phone number of another
one, or gives a field agent that number, and its endpoint does not look. The
number of a `PUT` is compared as its serializer leaves it, without the blanks
around it. -/
def AccountOp.SharesPhone (d : Directory) : AccountOp → Prop
  | .updateUser auth id data => ∃ actor item phone, d.authenticated auth = some actor ∧
      d.users.get? id = some item ∧ canEditUser actor item = true ∧ data.password ≠ .invalid ∧
      userPutErrors id d data = [] ∧ data.orgRole.overNullable item.orgRole = some .fieldAgent ∧
      data.phone.stripped.overNullable item.phone = some phone ∧ phone ≠ "" ∧
      d.phoneTaken id phone = true
  | .addMember auth pk userId orgRole => ∃ actor id member phone, userId = .uuid id ∧
      orgRole = .value .fieldAgent ∧ d.authenticated auth = some actor ∧
      managesMembers actor pk = true ∧ d.organisations.get? pk ≠ none ∧
      d.users.get? id = some member ∧ member.phone = some phone ∧ phone ≠ "" ∧
      d.phoneTaken id phone = true
  | .updateMember auth pk id data => ∃ actor member phone, d.authenticated auth = some actor ∧
      managesMembers actor pk = true ∧ d.memberOf pk id = some member ∧
      data.problem actor member d = none ∧ (data.update member).fits = true ∧
      data.orgRole = .value .fieldAgent ∧ (data.phone = .absent ∨ data.phone = .null) ∧
      member.phone = some phone ∧ phone ≠ "" ∧ d.phoneTaken id phone = true
  | _ => False

section Phones

variable {d : Directory} {op : AccountOp} {account : Account}

theorem phoneTaken_iff {id : UserId} {phone : String} :
    d.phoneTaken id phone = true ↔
      ∃ b ∈ d.users.rows, b.id ≠ id ∧ b.signsInWith phone = true := by
  simp only [Directory.phoneTaken, Directory.existsOther, Account.signsInWith, List.any_eq_true,
    Bool.and_eq_true, decide_eq_true_eq]

/-- Saving one row keeps the numbers apart, unless the row is another field agent's. -/
theorem unambiguous_save_iff (hd : d.Unambiguous) :
    (d.save account).Unambiguous ↔
      ∀ phone, phone ≠ "" → account.signsInWith phone = true →
        d.phoneTaken account.id phone = false := by
  constructor
  · intro h phone hphone hsigns
    by_contra htaken
    obtain ⟨b, hb, hne, hbsigns⟩ := phoneTaken_iff.mp (Bool.not_eq_false _ ▸ htaken)
    have hold : b ∈ (d.save account).users.rows := Table.mem_put_iff.mpr (Or.inr ⟨hb, hne⟩)
    obtain rfl := h phone hphone b hold account (Table.mem_put_self ..) hbsigns hsigns
    exact hne rfl
  · intro h phone hphone a ha b hb hasigns hbsigns
    have hclash : ∀ c ∈ d.users.rows, c.id ≠ account.id → c.signsInWith phone = true →
        account.signsInWith phone = true → False := by
      intro c hc hne hcsigns hsigns
      exact Bool.false_ne_true ((h phone hphone hsigns).symm.trans
        (phoneTaken_iff.mpr ⟨c, hc, hne, hcsigns⟩))
    rcases Table.mem_put_iff.mp ha with rfl | ⟨ha, hane⟩
    · rcases Table.mem_put_iff.mp hb with rfl | ⟨hb, hbne⟩
      · rfl
      · exact (hclash b hb hbne hbsigns hasigns).elim
    · rcases Table.mem_put_iff.mp hb with heq | ⟨hb, -⟩
      · exact (hclash a ha hane hasigns (heq ▸ hbsigns)).elim
      · exact hd phone hphone a ha b hb hasigns hbsigns

theorem signsInWith_iff {phone : String} :
    account.signsInWith phone = true ↔
      account.phone = some phone ∧ account.orgRole = some .fieldAgent := by
  simp [Account.signsInWith]

theorem phone_of_problem_none {actor member : Account} {data : MemberData} {phone : String}
    (hproblem : data.problem actor member d = none)
    (hupdated : data.phone.toOption.or member.phone = some phone)
    (hphone : phone ≠ "") (htaken : d.phoneTaken member.id phone = true) :
    (data.phone = .absent ∨ data.phone = .null) ∧ member.phone = some phone := by
  unfold MemberData.problem at hproblem
  have hsent : data.phoneProblem member d = none := by
    simp only [Option.or_eq_none_iff] at hproblem
    exact hproblem.2.2.1
  unfold MemberData.phoneProblem at hsent
  cases hdata : data.phone with
  | absent => exact ⟨Or.inl rfl, by simpa [hdata, Arg.toOption] using hupdated⟩
  | null => exact ⟨Or.inr rfl, by simpa [hdata, Arg.toOption] using hupdated⟩
  | invalid => simp [hdata] at hsent
  | value sent =>
      obtain rfl : sent = phone := by simpa [hdata, Arg.toOption] using hupdated
      simp [hdata, hphone, htaken] at hsent

/-- A stored row with the number of another field agent comes from such a request. -/
theorem sharesPhone_of_stores (hd : d.Unambiguous) (h : Stores d op account) {phone : String}
    (hphone : phone ≠ "") (hsigns : account.signsInWith phone = true)
    (htaken : d.phoneTaken account.id phone = true) : op.SharesPhone d := by
  obtain ⟨hnumber, hrole⟩ := signsInWith_iff.mp hsigns
  cases h with
  | @update auth id data actor item hauth hitem hedit hpassword hvalid =>
      have hid : item.id = id := Table.key_of_get? hitem
      exact ⟨actor, item, phone, hauth, hitem, hedit, hpassword, hvalid, hrole, hnumber, hphone,
        hid ▸ htaken⟩
  | @add auth pk id role actor member hauth hmanages horganisation hmember =>
      have hid : member.id = id := Table.key_of_get? hmember
      exact ⟨actor, id, member, phone, rfl, congrArg Arg.value (Option.some.inj hrole), hauth,
        hmanages, horganisation, hmember, hnumber, hphone, hid ▸ htaken⟩
  | @patch auth pk id data actor member hauth hmember hactor hproblem hfits =>
      obtain ⟨hstored, -⟩ := Option.filter_eq_some_iff.mp hmember
      have hid : member.id = id := Table.key_of_get? hstored
      obtain ⟨hsent, hold⟩ := phone_of_problem_none hproblem hnumber hphone htaken
      have hnew : member.orgRole ≠ some .fieldAgent := by
        intro hagent
        obtain ⟨b, hb, hne, hbsigns⟩ := phoneTaken_iff.mp htaken
        have hother : b.id ≠ member.id := hne
        obtain rfl := hd phone hphone b hb member (Table.mem_of_get? hstored) hbsigns
          (signsInWith_iff.mpr ⟨hold, hagent⟩)
        exact hother rfl
      have hmanages := hactor.resolve_right fun hbureau => hnew hbureau.2.1
      have hsentRole : data.orgRole = .value .fieldAgent := by
        change data.orgRole.toOption.or member.orgRole = some .fieldAgent at hrole
        cases hdata : data.orgRole with
        | absent | null | invalid => exact absurd (by simpa [hdata, Arg.toOption] using hrole) hnew
        | value role => simpa [hdata, Arg.toOption] using hrole
      exact ⟨actor, member, phone, hauth, hmanages, hmember, hproblem, hfits, hsentRole, hsent,
        hold, hphone, hid ▸ htaken⟩
  | @agent auth pk id data hfree hfresh =>
      obtain ⟨b, hb, -, hbsigns⟩ := phoneTaken_iff.mp htaken
      obtain rfl : data.phone.over "" = phone := Option.some.inj hnumber
      exact absurd hbsigns (Bool.eq_false_iff.mp (hfresh b hb))

/-- The condition is exact because such a request does store a second field
agent with the number: it passes its endpoint's own checks, and none of them
is about phones. -/
theorem stores_of_sharesPhone (h : op.SharesPhone d) :
    ∃ account phone, d.step op = d.save account ∧ phone ≠ "" ∧
      account.signsInWith phone = true ∧ d.phoneTaken account.id phone = true := by
  cases op with
  | updateUser auth id data =>
      obtain ⟨actor, item, phone, hauth, hitem, hedit, hpassword, hvalid, hrole, hnumber, hphone,
        htaken⟩ := h
      have hid : item.id = id := Table.key_of_get? hitem
      refine ⟨_, phone, (Stores.update hauth hitem hedit hpassword hvalid).step (by simp), hphone,
        signsInWith_iff.mpr ⟨hnumber, hrole⟩, ?_⟩
      rw [← hid] at htaken
      exact htaken
  | addMember auth pk userId orgRole =>
      obtain ⟨actor, id, member, phone, rfl, rfl, hauth, hmanages, horganisation, hmember, hnumber,
        hphone, htaken⟩ := h
      have hid : member.id = id := Table.key_of_get? hmember
      refine ⟨_, phone, (Stores.add hauth hmanages horganisation hmember).step (by simp), hphone,
        signsInWith_iff.mpr ⟨hnumber, rfl⟩, ?_⟩
      rw [← hid] at htaken
      exact htaken
  | updateMember auth pk id data =>
      obtain ⟨actor, member, phone, hauth, hmanages, hmember, hproblem, hfits, hrole, hsent,
        hnumber, hphone, htaken⟩ := h
      have hid : member.id = id := Table.key_of_get? (Option.filter_eq_some_iff.mp hmember).1
      have hstores := Stores.patch hauth hmember (Or.inl hmanages) hproblem hfits
      refine ⟨_, phone, hstores.step (by simp), hphone, signsInWith_iff.mpr ⟨?_, ?_⟩, ?_⟩
      · rcases hsent with hsent | hsent <;> simp [MemberData.update, hsent, Arg.toOption, hnumber]
      · simp [MemberData.update, hrole, Arg.toOption]
      · rw [← hid] at htaken
        exact htaken
  | createUser | deleteUser | removeMember | createAgent => exact h.elim

/-- One request keeps the numbers apart unless it is such a request. -/
theorem step_unambiguous_iff (hd : d.Unambiguous) (hop : op.SetsPhoneOrRole) :
    (d.step op).Unambiguous ↔ ¬ op.SharesPhone d := by
  constructor
  · intro h hshares
    obtain ⟨account, phone, hstep, hphone, hsigns, htaken⟩ := stores_of_sharesPhone hshares
    rw [hstep, unambiguous_save_iff hd] at h
    exact Bool.false_ne_true ((h phone hphone hsigns).symm.trans htaken)
  · intro h
    rcases step_stores hop with hsame | ⟨account, hstores, hstep⟩
    · rwa [hsame]
    · rw [hstep, unambiguous_save_iff hd]
      intro phone hphone hsigns
      by_contra htaken
      exact h (sharesPhone_of_stores hd hstores hphone hsigns (Bool.not_eq_false _ ▸ htaken))

end Phones

/-! ## Runs -/

/-- Along a run the numbers stay apart exactly if no request shares one, and
then the lookup of the login never finds two agents. Each request stores one
row at most, so the question is asked of one row and the others at a time. -/
theorem pin_login_unambiguous_iff (d : Directory) (ops : List AccountOp) (hd : d.Unambiguous)
    (hops : ∀ op ∈ ops, op.SetsPhoneOrRole) :
    ((∀ before after, ops = before ++ after → (d.exec before).Unambiguous) ↔
      Along Directory.step (fun d op => ¬ op.SharesPhone d) d ops) ∧
    (Along Directory.step (fun d op => ¬ op.SharesPhone d) d ops →
      ∀ before after phone, ops = before ++ after → phone ≠ "" →
        (d.exec before).pinUser phone ≠ .error .multipleObjectsReturned) := by
  have hiff : (∀ before after, ops = before ++ after → (d.exec before).Unambiguous) ↔
      Along Directory.step (fun d op => ¬ op.SharesPhone d) d ops := by
    refine along_iff_prefixes ?_ hops hd
    intro s op hop hs
    exact step_unambiguous_iff hs hop
  refine ⟨hiff, fun halong before after phone heq hphone => ?_⟩
  exact (hiff.mpr halong before after heq).pinUser hphone

def phoneDirectory (office field : String) : Directory where
  organisations := townDirectory.organisations
  users := (townDirectory.users.put
    { id := 3, email := "moussa@map.ml", isActive := true, isSuperuser := false
      orgRole := some .bureauAgent, organisationMember := some 1, organisation := none
      firstName := "Moussa", lastName := "Keita", phone := some office }).put
    { id := 4, email := "fanta@map.ml", isActive := true, isSuperuser := false
      orgRole := some .fieldAgent, organisationMember := some 1, organisation := none
      firstName := "Fanta", lastName := "Traore", phone := some field }

theorem phoneDirectory_unambiguous (office field : String) :
    (phoneDirectory office field).Unambiguous := by
  have honly : ∀ a ∈ (phoneDirectory office field).users.rows, a.orgRole = some .fieldAgent →
      (phoneDirectory office field).users.get? 4 = some a := by
    intro a ha hagent
    rcases Table.mem_put_iff.mp ha with rfl | ⟨ha, -⟩
    · exact (Table.get?_put ..).trans (if_pos rfl)
    · rcases Table.mem_put_iff.mp ha with rfl | ⟨ha, -⟩
      · cases hagent
      · rcases List.mem_pair.mp ha with rfl | rfl <;> cases hagent
  intro phone _ a ha b hb hasigns hbsigns
  have haget := honly a ha (signsInWith_iff.mp hasigns).2
  exact Option.some.inj (haget.symm.trans (honly b hb (signsInWith_iff.mp hbsigns).2))

theorem pin_login_unambiguous_own :
    ((phoneDirectory "76" "70").exec
      [.addMember (some 2) 1 (.uuid 3) (.value .fieldAgent)]).pinUser "70" ≠
        .error .multipleObjectsReturned := by
  refine (pin_login_unambiguous_iff (phoneDirectory "76" "70")
    [.addMember (some 2) 1 (.uuid 3) (.value .fieldAgent)] (phoneDirectory_unambiguous _ _)
    (fun op hop => ?_)).2 ⟨?_, trivial⟩ _ [] "70" rfl (by decide)
  · obtain rfl := List.mem_singleton.mp hop
    trivial
  · rintro ⟨actor, id, member, phone, huser, -, -, -, -, hmember, hphone, -, htaken⟩
    obtain rfl : 3 = id := RawId.uuid.inj huser
    obtain rfl := Option.some.inj hmember
    obtain rfl := Option.some.inj hphone
    exact absurd htaken (by decide)

/-- The office agent has the number of the field agent, and becomes one too. -/
theorem pin_login_ambiguous :
    (phoneDirectory "70" "70").Unambiguous ∧
      let d := (phoneDirectory "70" "70").exec
        [.addMember (some 2) 1 (.uuid 3) (.value .fieldAgent)]
      ¬ d.Unambiguous ∧ d.pinUser "70" = .error .multipleObjectsReturned := by
  have hraises : ((phoneDirectory "70" "70").exec
      [.addMember (some 2) 1 (.uuid 3) (.value .fieldAgent)]).pinUser "70" =
        .error .multipleObjectsReturned := rfl
  exact ⟨phoneDirectory_unambiguous _ _, fun h => h.pinUser (by decide) hraises, hraises⟩

/-- The serializer strips a number, so a blank before it makes no other number of it. -/
example : ((phoneDirectory "76" "70").exec
    [.updateUser (some 3) 3 { UserData.empty with
      phone := .value " 70", orgRole := .value .fieldAgent }]).pinUser
      "70" = .error .multipleObjectsReturned := rfl

end Mapapi
