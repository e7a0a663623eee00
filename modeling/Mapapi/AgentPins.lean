import Mapapi.Lib.Protocol
import Mapapi.Lib.Register
import Mapapi.Lib.Seen
import Mapapi.PinRequests

/-!
# The PIN of a field agent

Requests that store PINs, and requests that save the whole row of a user, are under way at
the same time. Two questions are asked of any interleaving. Which PIN lets somebody in who
is not told to change it? One that is there for one of four reasons (`unforced_login`); the
reason that the design has in mind is that the agent has chosen it, and given the old one.
And are the two columns what was set last? A view that has read a row before the PIN was
changed, and saves it afterwards, brings the old PIN back; that is the only way in which
they are not (`pins_last_set_iff`).

Both rest on what a request can do next, given the rows that it holds (`PinStep`), which is
proved once for each program.
-/

namespace Mapapi

open Lib

/-! ## What a request writes -/

section Steps

variable {ε : Type}

def PinOp.Flags (op : PinOp ε) (u : UserId) (mustChangePin : Bool) : Prop :=
  ∃ auth data, op = .updateUser auth u data (.value mustChangePin)

def PinOp.Creates (op : PinOp ε) (u : UserId) (pins : Pins ε) : Prop :=
  pins.code = none ∨ ∃ auth data code flag, op = .createElu auth u data (.value code) flag ∧
    pins.code = some code

/-- The columns that the request stores on a user: a PIN that was drawn, or the agent's own
choice. -/
def PinOp.StoresPins (op : PinOp ε) (u : UserId) (pins : Pins ε) : Prop :=
  pins.mustChange = true ∨ ∃ oldPin newPin salt,
    op = .changePin (some u) (some oldPin) (some newPin) salt

/-- What a request may do next when it holds the rows `held`, and what it holds then. -/
inductive PinStep (op : PinOp ε) (held : List (PinRow ε)) (s : PinStore ε) :
    (PinStore ε → PinStore ε) → List (PinRow ε) → Prop
  | read (rows : List (PinRow ε)) (hrows : ∀ row ∈ rows, row.pins = s.pins row.account.id) :
      PinStep op held s id (rows ++ held)
  | create {account pins} (hcreates : op.Creates account.id pins) :
      PinStep op held s (fun s => (s.create account pins).2) held
  | store {u pins held'} (hstores : op.StoresPins u pins)
      (hheld : ∀ row ∈ held', row ∈ held ∨
        s.has u = true ∧ row.account.id = u ∧ row.pins = pins) :
      PinStep op held s (PinStore.savePins u pins) held'
  | save {row account pins} (hrow : row ∈ held) (hid : account.id = row.account.id)
      (hcode : pins.code = row.pins.code)
      (hflag : pins.mustChange = row.pins.mustChange ∨ op.Flags row.account.id pins.mustChange) :
      PinStep op held s (PinStore.saveRow ⟨account, pins⟩) held

/-- The program does such steps until it ends. -/
def Steps {α : Type} (op : PinOp ε) (p : Prog (PinStore ε) α) (held : List (PinRow ε)) : Prop :=
  p.Follows (PinStep op) (Prog.Ended fun _ _ => True) held

variable {H : Hasher ε} {isDigit : Char → Bool} {op : PinOp ε} {held : List (PinRow ε)}

theorem steps_pure {α : Type} (a : α) : Steps op (pure a) held :=
  Prog.follows_pure (Prog.ended_pure trivial)

theorem steps_read {α β : Type} {f : PinStore ε → α} {k : α → Prog (PinStore ε) β}
    (h : ∀ s, Steps op (k (f s)) held) : Steps op (Prog.read f >>= k) held :=
  Prog.follows_read fun s => ⟨held, .read [] (by simp), h s⟩

theorem steps_readRow {α β : Type} {f : PinStore ε → α} {k : α → Prog (PinStore ε) β}
    (row : α → Option (PinRow ε))
    (hrow : ∀ s r, row (f s) = some r → r.pins = s.pins r.account.id)
    (h : ∀ s, Steps op (k (f s)) ((row (f s)).toList ++ held)) :
    Steps op (Prog.read f >>= k) held :=
  Prog.follows_read fun s =>
    ⟨_, .read (row (f s)).toList (fun r hr => hrow s r (Option.mem_toList.mp hr)), h s⟩

theorem steps_signedInPins {auth : Option UserId} {view : PinRow ε → Prog (PinStore ε) PinAnswer}
    (h : ∀ actor, auth = some actor.account.id →
      Steps op (view actor) (actor :: held)) :
    Steps op (signedInPins auth view) held := by
  refine steps_readRow id (fun s r hr => ?_) fun s => ?_
  · obtain ⟨account, -, rfl⟩ := Option.map_eq_some_iff.mp hr
    rfl
  · cases hactor : s.directory.authenticated auth with
    | none => exact steps_pure _
    | some actor => exact h (s.row actor) (authenticated_account hactor).1

theorem steps_passing {checks : List (Directory → Option Answer)}
    {rest : Prog (PinStore ε) PinAnswer} (h : Steps op rest held) :
    Steps op (passing checks rest) held := by
  induction checks with
  | nil => exact h
  | cons check checks ih =>
      refine steps_read fun s => ?_
      cases check s.directory with
      | some answer => exact steps_pure _
      | none => exact ih

theorem steps_savingRow {account : Account} {pins : Pins ε} {rest : Prog (PinStore ε) PinAnswer}
    (row : PinRow ε) (hrow : row ∈ held) (hid : account.id = row.account.id)
    (hcode : pins.code = row.pins.code)
    (hflag : pins.mustChange = row.pins.mustChange ∨ op.Flags row.account.id pins.mustChange)
    (h : Steps op rest held) : Steps op (savingRow ⟨account, pins⟩ rest) held :=
  Prog.follows_atomic fun _ => ⟨held, .save hrow hid hcode hflag,
    Prog.follows_ite (fun _ => h) fun _ => steps_pure _⟩

theorem steps_saveFound {find : Directory → Except Answer Account}
    {checks : Account → List (Directory → Option Answer)} {edit : Edit} {flag : Arg Bool}
    {answer : Account → Answer}
    (hflag : ∀ d account b, find d = .ok account → flag = .value b → op.Flags account.id b) :
    Steps op (saveFound find checks edit flag answer) held := by
  refine steps_readRow Except.toOption (fun s r hr => ?_) fun s => ?_
  · cases hfound : find s.directory with
    | error answer => rw [hfound] at hr; cases hr
    | ok account => rw [hfound] at hr; cases hr; rfl
  · cases hfound : find s.directory with
    | error answer => exact steps_pure _
    | ok account =>
        refine steps_passing (steps_savingRow (s.row account) List.mem_cons_self
          (edit.id_apply _) rfl ?_ (steps_pure _))
        cases flag with
        | value b => exact Or.inr (hflag s.directory account b hfound rfl)
        | absent => exact Or.inl rfl
        | null => exact Or.inl rfl
        | invalid => exact Or.inl rfl

theorem steps_generateAndSetPin {u : UserId} {draw : PinDraw}
    {k : Bool → Prog (PinStore ε) PinAnswer} (rows : List (PinRow ε))
    (hrows : ∀ row ∈ rows, row.account.id = u ∧ row.pins = draw.pins H)
    (htrue : Steps op (k true) (rows ++ held))
    (hfalse : Steps op (k false) held) :
    Steps op (generateAndSetPin H u draw >>= k) held := by
  refine Prog.follows_atomic fun s => ?_
  cases hhas : s.has u with
  | false => exact ⟨held, .store (Or.inl rfl) fun row hrow => Or.inl hrow, hfalse⟩
  | true =>
      refine ⟨rows ++ held, .store (Or.inl rfl) fun row hrow => ?_, htrue⟩
      rcases List.mem_append.mp hrow with hnew | hold
      · exact Or.inr ⟨hhas, hrows row hnew⟩
      · exact Or.inl hold

theorem steps_create {account : Account} {pins : Pins ε} {k : Bool → Prog (PinStore ε) PinAnswer}
    (hcreates : op.Creates account.id pins) (h : ∀ created, Steps op (k created) held) :
    Steps op (Prog.atomic (PinStore.create account pins) >>= k) held :=
  Prog.follows_atomic fun _ => ⟨held, .create hcreates, h _⟩

/-! ### Requests -/

theorem presentText_eq_some {text : Option String} {t : String}
    (h : presentText text = some t) : text = some t := by
  unfold presentText at h
  split at h
  · split at h
    · cases h
    · exact h
  · cases h

theorem steps_agentPinLogin (phone pin : Option String) :
    Steps op (agentPinLogin H phone pin) held := by
  unfold agentPinLogin
  split
  · refine steps_read fun s => ?_
    rcases (s.directory.pinUser _).map s.row with (_ | _) | user
    · exact steps_pure _
    · exact steps_pure _
    · rcases user with ⟨account, _ | code, mustChange⟩
      · exact steps_pure _
      · exact Prog.follows_ite (fun _ => steps_pure _) fun _ => steps_pure _
  · exact steps_pure _

theorem steps_agentChangePin (auth : Option UserId) (oldPin newPin : Option String) (salt : Nat) :
    Steps (.changePin auth oldPin newPin salt)
      (agentChangePin H isDigit auth oldPin newPin salt) [] := by
  refine steps_signedInPins fun user hauth => ?_
  split
  · rename_i oldPin newPin hold hnew
    obtain rfl := presentText_eq_some hold
    obtain rfl := presentText_eq_some hnew
    refine Prog.follows_ite (fun _ => steps_pure _) fun _ => ?_
    cases hcode : user.pins.code with
    | none => exact steps_pure _
    | some code =>
        refine Prog.follows_ite (fun _ => steps_pure _) fun _ => ?_
        refine Prog.follows_ite (fun _ => steps_pure _) fun _ => ?_
        refine Prog.follows_ite (fun _ => steps_pure _) fun _ => ?_
        refine Prog.follows_atomic fun s => ⟨[user], .store (Or.inr ⟨oldPin, newPin, salt,
          hauth ▸ rfl⟩) fun row hrow => Or.inl hrow, ?_⟩
        exact Prog.follows_ite (fun _ => steps_pure _) fun _ => steps_pure _
  · exact steps_pure _

theorem steps_addMemberPins (auth : Option UserId) (pk : OrganisationId) (userId : RawId)
    (orgRole : Arg OrgRole) (draw : PinDraw) :
    Steps op (addMemberPins H auth pk userId orgRole draw) held := by
  refine steps_signedInPins fun actor _ => ?_
  refine Prog.follows_ite (fun _ => steps_pure _) fun _ => steps_passing ?_
  split
  · exact steps_pure _
  · exact steps_pure _
  · exact steps_pure _
  · exact steps_pure _
  · exact steps_pure _
  · rename_i u role
    refine steps_readRow id (fun s r hr => ?_) fun s => ?_
    · obtain ⟨account, -, rfl⟩ := Option.map_eq_some_iff.mp hr
      rfl
    · cases hmember : s.directory.users.get? u with
      | none => exact steps_pure _
      | some member =>
          obtain rfl : member.id = u := Table.key_of_get? hmember
          refine Prog.follows_ite (fun _ => ?_) fun _ => ?_
          · refine steps_generateAndSetPin [⟨member, draw.pins H⟩] (fun row hrow => ?_) ?_
              (steps_pure _)
            · rw [List.mem_singleton.mp hrow]
              exact ⟨rfl, rfl⟩
            · exact Prog.follows_ite (fun _ => steps_savingRow ⟨member, draw.pins H⟩
                List.mem_cons_self rfl rfl (Or.inl rfl) (steps_pure _)) fun _ => steps_pure _
          · exact steps_savingRow (s.row member) List.mem_cons_self rfl rfl (Or.inl rfl)
              (steps_pure _)

theorem steps_createAgentPins (auth : Option UserId) (pk : OrganisationId) (id : UserId)
    (data : AgentData) (draw : PinDraw) :
    Steps op (createAgentPins H auth pk id data draw) held := by
  refine steps_signedInPins fun actor _ => steps_passing ?_
  refine steps_create (Or.inl rfl) fun created => ?_
  refine Prog.follows_ite (fun _ => ?_) fun _ => steps_pure _
  exact steps_generateAndSetPin [] (by simp) (steps_pure _) (steps_pure _)

theorem steps_createEluPins (auth : Option UserId) (id : UserId) (data : UserData)
    (pinCode : Arg ε) (mustChangePin : Arg Bool) :
    Steps (.createElu auth id data pinCode mustChangePin)
      (createEluPins auth id data pinCode mustChangePin) held := by
  refine steps_passing (steps_create ?_ fun created => ?_)
  · cases pinCode with
    | value code => exact Or.inr ⟨auth, data, code, mustChangePin, rfl, rfl⟩
    | absent => exact Or.inl rfl
    | null => exact Or.inl rfl
    | invalid => exact Or.inl rfl
  · refine Prog.follows_ite (fun _ => steps_saveFound fun _ _ _ _ h => ?_) fun _ => steps_pure _
    cases h

theorem steps_updatePointsPins : Steps op updatePointsPins held := by
  refine Prog.follows_read fun s => ⟨s.directory.users.rows.map s.row ++ held,
    .read _ fun row hrow => ?_, ?_⟩
  · obtain ⟨account, -, rfl⟩ := List.mem_map.mp hrow
    rfl
  · have hrows : ∀ rows : List (PinRow ε), rows ⊆ s.directory.users.rows.map s.row ++ held →
        Steps op (savingRows (pure (.plain (.text 200 "update success "))) rows)
          (s.directory.users.rows.map s.row ++ held) := by
      intro rows
      induction rows with
      | nil => exact fun _ => steps_pure _
      | cons row rows ih =>
          intro hrows
          obtain ⟨hrow, hrest⟩ := List.cons_subset.mp hrows
          exact steps_savingRow row hrow rfl rfl (Or.inl rfl) (ih hrest)
    exact hrows _ (List.subset_append_left ..)

theorem steps_program (op : PinOp ε) : Steps op (op.program H isDigit) [] := by
  have habsent {find : Directory → Except Answer Account} (d : Directory) (account : Account)
      (b : Bool) (_ : find d = .ok account) (h : (Arg.absent : Arg Bool) = .value b) :
      op.Flags account.id b := by cases h
  cases op with
  | login phone pin => exact steps_agentPinLogin phone pin
  | changePin auth oldPin newPin salt => exact steps_agentChangePin auth oldPin newPin salt
  | addMember auth pk userId orgRole draw => exact steps_addMemberPins auth pk userId orgRole draw
  | createAgent auth pk id data draw => exact steps_createAgentPins auth pk id data draw
  | createElu auth id data pinCode mustChangePin =>
      exact steps_createEluPins auth id data pinCode mustChangePin
  | updateUser auth u data mustChangePin =>
      refine steps_signedInPins fun actor _ => steps_saveFound fun d account b hfound hflag => ?_
      obtain rfl : account.id = u := by
        unfold orAnswer at hfound
        split at hfound
        · cases hfound
        · rename_i hget
          cases hfound
          exact Table.key_of_get? hget
      exact ⟨auth, data, by rw [hflag]⟩
  | updateMember auth pk id data =>
      refine steps_signedInPins fun actor _ => ?_
      exact Prog.follows_ite (fun _ => steps_pure _) fun _ => steps_saveFound habsent
  | updatePoints => exact steps_updatePointsPins
  | resave u =>
      unfold PinOp.program resaveUser
      exact steps_saveFound habsent

end Steps

/-! ## Where a PIN comes from -/

section Runs

variable {ε : Type} {H : Hasher ε} {isDigit : Char → Bool} {ι : Type} [DecidableEq ι]
  {s : PinStore ε} {ops : ι → PinOp ε} {past : List ι} {i : ι} {u : UserId} {code : ε}

/-- The user's own request `j` has stored the PIN `newPin`, as `code`. It read the row in its
first turn, right after `before`, and was given the PIN of that row; it stored the new one in
the turn right after `middle`. -/
structure Chooses (H : Hasher ε) (isDigit : Char → Bool) (s : PinStore ε) (ops : ι → PinOp ε)
    (past : List ι) (u : UserId) (code : ε) (j : ι) (newPin : String) (before middle : List ι) :
    Prop where
  first : j ∉ before
  reads : before ++ [j] <+: middle
  stores : middle ++ [j] <+: past
  acceptable : acceptablePin isDigit newPin = true
  next : (((pinPool H isDigit s ops).exec middle).progs j).Next
    (PinStore.savePins u ⟨some code, false⟩)
  stored : ((pinPool H isDigit s ops).exec (middle ++ [j])).store.pins u = ⟨some code, false⟩
  asked : ∃ oldPin salt old, ops j = .changePin (some u) (some oldPin) (some newPin) salt ∧
    code = H.make salt newPin ∧
      (((pinPool H isDigit s ops).exec before).store.pins u).code = some old ∧
        H.check oldPin old = true

/-- Why a user has this PIN, and is not to change it: it was so at the start; the user has
chosen it, and given the PIN that was stored; or a client has sent the PIN, or the flag. -/
inductive Unforced (H : Hasher ε) (isDigit : Char → Bool) (s : PinStore ε) (ops : ι → PinOp ε)
    (past : List ι) (u : UserId) (code : ε) : Prop
  | start (h : s.pins u = ⟨some code, false⟩)
  | chosen {j newPin before middle}
      (h : Chooses H isDigit s ops past u code j newPin before middle)
  | sent {j auth data flag} (hj : j ∈ past)
      (hop : ops j = .createElu auth u data (.value code) flag)
  | cleared {j auth data} (hj : j ∈ past) (hop : ops j = .updateUser auth u data (.value false))

theorem Unforced.mono {past' : List ι} (h : Unforced H isDigit s ops past u code)
    (hpast : past <+: past') : Unforced H isDigit s ops past' u code := by
  cases h with
  | start h => exact .start h
  | chosen h => exact .chosen { h with stores := h.stores.trans hpast }
  | sent hj hop => exact .sent (hpast.subset hj) hop
  | cleared hj hop => exact .cleared (hpast.subset hj) hop

/-- A change of the PIN reads the row first, checks what it is given against that row, and
stores the new PIN in its second turn, or does not store anything. -/
theorem changePin_next {oldPin newPin : String} {salt : Nat} {seen : List (PinStore ε)}
    {write : PinStore ε → PinStore ε}
    (h : ((agentChangePin H isDigit (some u) (some oldPin) (some newPin) salt).after seen).Next
      write) :
    write = id ∨ ∃ s₀ old, seen = [s₀] ∧ (s₀.pins u).code = some old ∧
      H.check oldPin old = true ∧ acceptablePin isDigit newPin = true ∧
        write = PinStore.savePins u ⟨some (H.make salt newPin), false⟩ := by
  unfold agentChangePin signedInPins at h
  cases seen with
  | nil =>
      obtain ⟨next, hact⟩ := h
      exact Or.inl (Prog.act.inj hact).1.symm
  | cons s₀ rest =>
      rw [Prog.after_cons, Prog.step_read] at h
      cases hactor : s₀.directory.authenticated (some u) with
      | none =>
          rw [hactor] at h
          exact (Prog.not_next_done h).elim
      | some account =>
          obtain rfl : u = account.id := Option.some.inj (authenticated_account hactor).1
          rw [hactor, Option.map_some] at h
          dsimp only at h
          split at h
          swap
          · exact (Prog.not_next_done h).elim
          rename_i oldPin' newPin' hold hnew
          cases presentText_eq_some hold
          cases presentText_eq_some hnew
          split at h
          · exact (Prog.not_next_done h).elim
          split at h
          · exact (Prog.not_next_done h).elim
          rename_i old hcode
          split at h
          · exact (Prog.not_next_done h).elim
          rename_i hcheck
          split at h
          · exact (Prog.not_next_done h).elim
          rename_i hdigits
          split at h
          · exact (Prog.not_next_done h).elim
          rename_i hweak
          rw [not_or, not_not, Bool.not_eq_false] at hdigits
          cases rest with
          | nil =>
              obtain ⟨next, hact⟩ := h
              refine Or.inr ⟨s₀, old, rfl, hcode, Bool.not_eq_false _ ▸ hcheck, ?_,
                (Prog.act.inj hact).1.symm⟩
              simp [acceptablePin, hdigits, hweak]
          | cons s₁ rest =>
              rw [Prog.after_cons, Prog.step_atomic] at h
              split at h <;> exact (Prog.not_next_done h).elim

/-- The rows that requests hold were stored at some moment. -/
theorem exec_held (H : Hasher ε) (isDigit : Char → Bool) (s : PinStore ε) (ops : ι → PinOp ε)
    (past : List ι) :
    ∃ held : ι → List (PinRow ε),
      (∀ j, ∀ row ∈ held j, ∃ before, before <+: past ∧
        ((pinPool H isDigit s ops).exec before).store.pins row.account.id = row.pins) ∧
      ∀ j, Steps (ops j) (((pinPool H isDigit s ops).exec past).progs j) (held j) := by
  have hgrows {past : List ι} {k : ι} {row : PinRow ε} (h : ∃ before, before <+: past ∧
      ((pinPool H isDigit s ops).exec before).store.pins row.account.id = row.pins) :
      ∃ before, before <+: past ++ [k] ∧
        ((pinPool H isDigit s ops).exec before).store.pins row.account.id = row.pins := by
    obtain ⟨before, hbefore, hpins⟩ := h
    exact ⟨before, hbefore.trans (List.prefix_append ..), hpins⟩
  refine @Pool.exec_own_phases _ _ _ _ (pinPool H isDigit s ops) _
    (fun j => PinStep (ops j)) (fun _ _ => True) (fun _ => [])
    (fun j => steps_program (ops j))
    (fun past held => ∀ j, ∀ row ∈ held j, ∃ before, before <+: past ∧
      ((pinPool H isDigit s ops).exec before).store.pins row.account.id = row.pins)
    (by simp) (fun past held k _ hstored _ j row hrow => hgrows (hstored j row hrow))
    (fun past held k write next held' hstored hact hstep j row hrow => ?_) past
  by_cases hj : j = k
  · subst hj
    rw [Function.update_self] at hrow
    cases hstep with
    | read rows hrows =>
        rcases List.mem_append.mp hrow with hnew | hold
        · exact ⟨past, List.prefix_append .., (hrows row hnew).symm⟩
        · exact hgrows (hstored j row hold)
    | create _ => exact hgrows (hstored j row hrow)
    | save _ _ _ _ => exact hgrows (hstored j row hrow)
    | store _ hheld =>
        rcases hheld row hrow with hold | ⟨hhas, hid, hpins⟩
        · exact hgrows (hstored j row hold)
        · refine ⟨past ++ [j], List.prefix_rfl, ?_⟩
          rw [Pool.store_exec_snoc hact, PinStore.pins_savePins, if_pos ⟨hid, hhas⟩, hpins]
  · rw [Function.update_of_ne hj] at hrow
    exact hgrows (hstored j row hrow)

/-- A change of the PIN that has changed what is stored. -/
theorem chooses_of_changed {oldPin newPin : String} {salt : Nat}
    (hop : ops i = .changePin (some u) (some oldPin) (some newPin) salt)
    (hchanged : ((pinPool H isDigit s ops).exec (past ++ [i])).store.pins u ≠
      ((pinPool H isDigit s ops).exec past).store.pins u)
    (hstored : ((pinPool H isDigit s ops).exec (past ++ [i])).store.pins u = ⟨some code, false⟩) :
    ∃ before, Chooses H isDigit s ops (past ++ [i]) u code i newPin before past := by
  have hprog : (pinPool H isDigit s ops).progs i =
      agentChangePin H isDigit (some u) (some oldPin) (some newPin) salt :=
    congrArg (PinOp.program H isDigit) hop
  rcases Pool.turn_cases (pinPool H isDigit s ops) past i with
    ⟨answer, -, hsame⟩ | ⟨write, hnext, hstore⟩
  · exact absurd (by rw [hsame]) hchanged
  have hturn := hnext
  rw [hprog] at hturn
  rcases changePin_next hturn with rfl | ⟨s₀, old, hseen, hold, hcheck, hacceptable, rfl⟩
  · exact absurd (by rw [hstore]; rfl) hchanged
  -- the row was read in the only turn before this one
  obtain ⟨before, hreads, hnone, rfl⟩ := Pool.seen_getElem?
    (show ((pinPool H isDigit s ops).seen i past)[0]? = some s₀ by rw [hseen]; rfl)
  have hfirst : i ∉ before := by
    rw [Pool.length_seen] at hnone
    exact List.count_eq_zero.mp hnone
  have hcode : code = H.make salt newPin := by
    rw [hstore, PinStore.pins_savePins] at hstored hchanged
    split at hstored
    · exact (Option.some.inj (Pins.mk.inj hstored).1).symm
    · rename_i hunsaved
      exact absurd (if_neg hunsaved) hchanged
  refine ⟨before, {
    first := hfirst
    reads := hreads
    stores := List.prefix_rfl
    acceptable := hacceptable
    next := ?_
    stored := hstored
    asked := ⟨oldPin, salt, old, hop, hcode, hold, hcheck⟩ }⟩
  rw [Pool.progs_exec, hcode]
  exact hnext

/-- Whatever PIN is stored as one that need not be changed is there for one of
the reasons. The induction is on the schedule: a turn either leaves the two
columns, or is one of the writes that `PinStep` lists, and the save of a whole
row writes what was stored before. -/
theorem unforced_of_stored (past : List ι) :
    ∀ before, before <+: past → ∀ u code,
      ((pinPool H isDigit s ops).exec before).store.pins u = ⟨some code, false⟩ →
        Unforced H isDigit s ops before u code := by
  induction past using List.reverseRecOn with
  | nil =>
      intro before hbefore u code h
      obtain rfl := List.prefix_nil.mp hbefore
      exact .start h
  | append_singleton past k ih =>
      intro before hbefore u code h
      rcases List.prefix_concat_iff.mp hbefore with rfl | hbefore
      swap
      · exact ih before hbefore u code h
      by_cases hsame : ((pinPool H isDigit s ops).exec (past ++ [k])).store.pins u =
          ((pinPool H isDigit s ops).exec past).store.pins u
      · exact (ih past List.prefix_rfl u code (hsame.symm.trans h)).mono (List.prefix_append ..)
      have hk : k ∈ past ++ [k] := List.mem_append_right _ List.mem_cons_self
      have hchanged := hsame
      obtain ⟨held, hstored, hsteps⟩ := exec_held H isDigit s ops past
      rcases Prog.follows_cases (hsteps k) ((pinPool H isDigit s ops).exec past).store with
        ⟨answer, hdone, -⟩ | ⟨write, next, held', hact, hstep, -⟩
      · exact absurd (by rw [Pool.exec_snoc_done hdone]) hsame
      rw [Pool.store_exec_snoc hact] at hsame
      have hafter := h
      rw [Pool.store_exec_snoc hact] at h
      cases hstep with
      | read rows hrows => exact absurd rfl hsame
      | @create account pins hcreates =>
          rw [PinStore.pins_create] at h hsame
          split at h
          · rename_i hu
            rcases hcreates with hnone | ⟨auth, data, code', flag, hop, hcode⟩
            · rw [h] at hnone
              cases hnone
            · rw [h] at hcode
              obtain rfl := Option.some.inj hcode
              exact .sent hk (hu.1 ▸ hop)
          · rename_i hu
            exact absurd (if_neg hu) hsame
      | @store v pins _ hstores _ =>
          rw [PinStore.pins_savePins] at h hsame
          split at h
          · rename_i hu
            rcases hstores with hforced | ⟨oldPin, newPin, salt, hop⟩
            · rw [h] at hforced
              cases hforced
            · obtain ⟨before, hchooses⟩ := chooses_of_changed (hu.1 ▸ hop) hchanged hafter
              exact .chosen hchooses
          · rename_i hu
            exact absurd (if_neg hu) hsame
      | @save row account pins hrow hid hcode hflag =>
          rw [PinStore.pins_saveRow] at h hsame
          split at h
          · rename_i hu
            obtain rfl : u = row.account.id := hu.1.trans hid
            rcases hflag with hkept | ⟨auth, data, hop⟩
            · obtain ⟨before, hbefore, hpins⟩ := hstored k row hrow
              refine (ih before hbefore row.account.id code ?_).mono
                (hbefore.trans (List.prefix_append ..))
              dsimp only at h
              rw [hpins, ← h]
              exact congrArg₂ Pins.mk hcode.symm hkept.symm
            · dsimp only at h
              rw [h] at hop
              exact .cleared hk hop
          · rename_i hu
            exact absurd (if_neg hu) hsame

/-! ## Signing in -/

/-- Tokens come from the store that the login has read, the only one it reads: they are for
the user who was found there, by a PIN that opens the one stored there. -/
theorem tokens_of_login {phone pin : Option String} {mustChangePin : Bool}
    {seen : List (PinStore ε)}
    (hresult : ((agentPinLogin H phone pin).after seen).result =
      some (.tokens u mustChangePin)) :
    ∃ found pin' code, seen[0]? = some found ∧ pin = some pin' ∧ H.check pin' code = true ∧
      found.pins u = ⟨some code, mustChangePin⟩ := by
  have hanswer {rest : List (PinStore ε)} (answer : PinAnswer)
      (h : ((pure answer : Prog (PinStore ε) PinAnswer).after rest).result =
        some (.tokens u mustChangePin)) : answer = .tokens u mustChangePin := by
    have hdone : (pure answer : Prog (PinStore ε) PinAnswer).after rest = .done answer :=
      Prog.after_done ..
    rw [hdone] at h
    exact Option.some.inj h
  unfold agentPinLogin at hresult
  split at hresult
  · rename_i phone' pin' hphone hpin
    cases seen with
    | nil => cases hresult
    | cons found rest =>
        rw [Prog.after_cons, Prog.step_read] at hresult
        dsimp only at hresult
        refine ⟨found, pin', ?_⟩
        cases hfound : found.directory.pinUser phone' with
        | error e =>
            rw [hfound] at hresult
            cases e with
            | doesNotExist => cases (hanswer _ hresult)
            | multipleObjectsReturned => cases (hanswer _ hresult)
        | ok account =>
            rw [hfound, Except.map] at hresult
            dsimp only at hresult
            cases hcode : (found.row account).pins.code with
            | none =>
                rw [hcode] at hresult
                cases (hanswer _ hresult)
            | some code =>
                rw [hcode] at hresult
                dsimp only at hresult
                split at hresult
                · rename_i hcheck
                  obtain ⟨rfl, rfl⟩ := PinAnswer.tokens.inj (hanswer _ hresult)
                  exact ⟨code, rfl, presentText_eq_some hpin, hcheck, congrArg₂ Pins.mk hcode rfl⟩
                · cases (hanswer _ hresult)
  · cases (hanswer _ hresult)

/-- The tokens of a login that has ended say which PIN was stored at its turn, however long
ago that was. -/
theorem stored_of_login {phone pin : Option String} {mustChangePin : Bool}
    (hop : ops i = .login phone pin)
    (hresult : ((pinPool H isDigit s ops).exec past).result i = some (.tokens u mustChangePin)) :
    ∃ before, before ++ [i] <+: past ∧ ∃ pin' code, pin = some pin' ∧ H.check pin' code = true ∧
      ((pinPool H isDigit s ops).exec before).store.pins u = ⟨some code, mustChangePin⟩ := by
  have hprog : ((pinPool H isDigit s ops).exec past).progs i =
      (agentPinLogin H phone pin).after ((pinPool H isDigit s ops).seen i past) := by
    rw [Pool.progs_exec]
    exact congrArg (Prog.after · _) (congrArg (PinOp.program H isDigit) hop)
  rw [Pool.result, hprog] at hresult
  obtain ⟨found, pin', code, hseen, hpin, hcheck, hpins⟩ := tokens_of_login hresult
  obtain ⟨before, hbefore, -, rfl⟩ := Pool.seen_getElem? hseen
  exact ⟨before, hbefore, pin', code, hpin, hcheck, hpins⟩

/-- Whoever signs in and is not told to change the PIN gives the PIN that was stored when the
login looked. That is a PIN of four digits which the user had chosen by then, with the PIN
that was stored when the user's request read the row; unless it was there at the start, or
was sent to `POST /elu/` with the user, or `must_change_pin` was sent to `PUT /user/<id>`. -/
theorem unforced_login {phone pin : Option String} (hop : ops i = .login phone pin)
    (hresult : ((pinPool H isDigit s ops).exec past).result i = some (.tokens u false)) :
    ∃ looked pin' code, looked ++ [i] <+: past ∧ pin = some pin' ∧ H.check pin' code = true ∧
      ((pinPool H isDigit s ops).exec looked).store.pins u = ⟨some code, false⟩ ∧
      (s.pins u = ⟨some code, false⟩ ∨
        (∃ j before middle, Chooses H isDigit s ops looked u code j pin' before middle) ∨
        (∃ j ∈ looked, ∃ auth data flag, ops j = .createElu auth u data (.value code) flag) ∨
        ∃ j ∈ looked, ∃ auth data, ops j = .updateUser auth u data (.value false)) := by
  obtain ⟨looked, hlooked, pin', code, hpin, hcheck, hstored⟩ := stored_of_login hop hresult
  refine ⟨looked, pin', code, hlooked, hpin, hcheck, hstored, ?_⟩
  cases unforced_of_stored looked looked List.prefix_rfl u code hstored with
  | start h => exact Or.inl h
  | @chosen j newPin before middle h =>
      have hsame : pin' = newPin := by
        obtain ⟨oldPin, salt, old, -, hcode, -⟩ := h.asked
        rw [hcode, H.check_make] at hcheck
        exact of_decide_eq_true hcheck
      exact Or.inr (Or.inl ⟨j, before, middle, hsame ▸ h⟩)
  | sent hj hop' => exact Or.inr (Or.inr (Or.inl ⟨_, hj, _, _, _, hop'⟩))
  | cleared hj hop' => exact Or.inr (Or.inr (Or.inr ⟨_, hj, _, _, hop'⟩))

end Runs

/-- Salted texts, without a hash. -/
def plainHasher : Hasher (Nat × String) where
  make salt pin := (salt, pin)
  check pin code := decide (pin = code.2)
  check_make _ _ _ := rfl

/-- The field agent (4) has a PIN that was drawn. -/
def agentStore : PinStore (Nat × String) where
  directory := phoneDirectory "76" "70"
  pins u := if u = 4 then ⟨some (0, "4821"), true⟩ else ⟨none, false⟩

def agentRequests : Fin 4 → PinOp (Nat × String)
  | 0 => .changePin (some 4) (some "4821") (some "7305") 1
  | 1 => .updateMember (some 2) 1 4
      { email := .absent, firstName := .value "Fatou", lastName := .absent, phone := .absent
        orgRole := .absent }
  | 2 => .login (some "70") (some "7305")
  | 3 => .login (some "70") (some "4821")

/-- The agent signs in with the PIN that was chosen: the request read the row first of all,
and stored the PIN in the turn before the login looked. -/
theorem unforced_login_chosen :
    ∃ looked code j before middle, looked ++ [2] <+: ([0, 0, 2] : List (Fin 4)) ∧
      Chooses plainHasher Char.isDigit agentStore agentRequests looked 4 code j "7305" before
        middle := by
  have hresult : ((pinPool plainHasher Char.isDigit agentStore agentRequests).exec
      [0, 0, 2]).result 2 = some (.tokens 4 false) := by decide
  have hop : agentRequests 2 = .login (some "70") (some "7305") := rfl
  obtain ⟨looked, pin, code, hlooked, hpin, -, -, hstart | ⟨j, before, middle, hchooses⟩ |
    ⟨j, hj, auth, data, flag, hop⟩ | ⟨j, hj, auth, data, hop⟩⟩ := unforced_login hop hresult
  · cases congrArg Pins.mustChange hstart
  · cases hpin
    exact ⟨looked, code, j, before, middle, hlooked, hchooses⟩
  · have hturn := (hlooked.subset (List.mem_append_left _ hj))
    simp only [List.mem_cons, List.not_mem_nil, or_false] at hturn
    rcases hturn with rfl | rfl | rfl <;> cases hop
  · have hturn := (hlooked.subset (List.mem_append_left _ hj))
    simp only [List.mem_cons, List.not_mem_nil, or_false] at hturn
    rcases hturn with rfl | rfl | rfl <;> cases hop

/-! ## The PIN that was set last -/

section LastSet

variable {ε : Type} {H : Hasher ε} {isDigit : Char → Bool} {ι : Type} [DecidableEq ι]
  {s : PinStore ε} {ops : ι → PinOp ε} {past : List ι} {i : ι} {u : UserId}

/-- The next turn of `i` stores these columns of the user, by the `UPDATE` of the two columns
or with a row that it creates. -/
def SetsPins (u : UserId) (pins : Pins ε) (c : Pool (PinStore ε) ι PinAnswer) (i : ι) : Prop :=
  c.store.has u = true ∧ (c.progs i).Next (PinStore.savePins u pins) ∨
    ∃ account, account.id = u ∧ (c.store.create account pins).1 = true ∧
      (c.progs i).Next fun s => (s.create account pins).2

theorem pins_of_sets {c : Pool (PinStore ε) ι PinAnswer} {pins : Pins ε}
    (h : SetsPins u pins c i) : (c.step i).store.pins u = pins := by
  rcases h with ⟨hhas, next, hact⟩ | ⟨account, rfl, hcreated, next, hact⟩
  · rw [Pool.store_step_act hact, PinStore.pins_savePins, if_pos ⟨rfl, hhas⟩]
  · rw [Pool.store_step_act hact, PinStore.pins_create, if_pos ⟨rfl, hcreated⟩]

omit [DecidableEq ι] in
theorem not_sets_saveRow {c : Pool (PinStore ε) ι PinAnswer} {row : PinRow ε} {pins : Pins ε}
    (hsave : (c.progs i).Next (PinStore.saveRow row)) : ¬ SetsPins u pins c i := by
  obtain ⟨next, hact⟩ := hsave
  rintro (⟨-, next', hact'⟩ | ⟨account, -, -, next', hact'⟩)
  · exact PinStore.saveRow_ne_savePins (Prog.act.inj (hact.symm.trans hact')).1
  · exact PinStore.saveRow_ne_create (Prog.act.inj (hact.symm.trans hact')).1

/-- A turn sets what it changes exactly if a whole row that it saves, and that the database
takes, has the columns that are stored. -/
theorem sets_or_keeps_iff {c : Pool (PinStore ε) ι PinAnswer} {op : PinOp ε}
    {held : List (PinRow ε)} (hsteps : Steps op (c.progs i) held) :
    (∀ u, (∃ pins, SetsPins u pins c i) ∨ (c.step i).store.pins u = c.store.pins u) ↔
      ∀ row, (c.progs i).Next (PinStore.saveRow row) → c.store.accepts row = true →
        c.store.pins row.account.id = row.pins := by
  constructor
  · intro h row hsave haccepts
    rcases h row.account.id with ⟨pins, hsets⟩ | hkept
    · exact absurd hsets (not_sets_saveRow hsave)
    · obtain ⟨next, hact⟩ := hsave
      rw [Pool.store_step_act hact, PinStore.pins_saveRow, if_pos ⟨rfl, haccepts⟩] at hkept
      exact hkept.symm
  · intro h u
    rcases Prog.follows_cases hsteps c.store with
      ⟨answer, hdone, -⟩ | ⟨write, next, held', hact, hstep, -⟩
    · rw [Pool.step_done hdone]
      exact Or.inr rfl
    rw [Pool.store_step_act hact]
    cases hstep with
    | read _ _ => exact Or.inr rfl
    | @create account pins _ =>
        rw [PinStore.pins_create]
        split
        · rename_i hu
          exact Or.inl ⟨pins, Or.inr ⟨account, hu.1.symm, hu.2, next, hact⟩⟩
        · exact Or.inr rfl
    | @store v pins _ _ _ =>
        rw [PinStore.pins_savePins]
        split
        · rename_i hu
          exact Or.inl ⟨pins, Or.inl ⟨hu.1 ▸ hu.2, next, hu.1 ▸ hact⟩⟩
        · exact Or.inr rfl
    | @save row account pins _ _ _ _ =>
        rw [PinStore.pins_saveRow]
        split
        · rename_i hu
          have hfound := h ⟨account, pins⟩ ⟨next, hact⟩ hu.2
          rw [hu.1]
          exact Or.inr hfound.symm
        · exact Or.inr rfl

theorem stored_of_saveRow {row : PinRow ε}
    (hsave : (((pinPool H isDigit s ops).exec past).progs i).Next (PinStore.saveRow row)) :
    ∃ before, before <+: past ∧
      (((pinPool H isDigit s ops).exec before).store.pins row.account.id).code =
        row.pins.code := by
  obtain ⟨next, hact⟩ := hsave
  obtain ⟨held, hstored, hsteps⟩ := exec_held H isDigit s ops past
  rcases Prog.follows_cases (hsteps i) ((pinPool H isDigit s ops).exec past).store with
    ⟨answer, hdone, -⟩ | ⟨write, next', held', hact', hstep, -⟩
  · cases hact.symm.trans hdone
  obtain ⟨hwrite, -⟩ := Prog.act.inj (hact.symm.trans hact')
  cases hstep with
  | read _ _ => exact absurd hwrite PinStore.saveRow_ne_id
  | create _ => exact absurd hwrite PinStore.saveRow_ne_create
  | store _ _ => exact absurd hwrite PinStore.saveRow_ne_savePins
  | @save read account pins hread hid hcode _ =>
      obtain rfl := PinStore.saveRow_injective hwrite
      obtain ⟨before, hbefore, hpins⟩ := hstored i read hread
      refine ⟨before, hbefore, ?_⟩
      dsimp only
      rw [hid, hpins, hcode]

/-- The PIN columns of every user are those that were set last, all along a run, exactly if
every save of a whole row that is not refused finds the columns that it writes. The PIN that
it writes is one that was stored before. -/
theorem pins_last_set_iff (H : Hasher ε) (isDigit : Char → Bool) (s : PinStore ε)
    (ops : ι → PinOp ε) (schedule : List ι) :
    ((∀ past rest, schedule = past ++ rest → ∀ u,
        LastSet Pool.step (fun c u => c.store.pins u) SetsPins (pinPool H isDigit s ops) past u
          (((pinPool H isDigit s ops).exec past).store.pins u)) ↔
      ∀ past i rest, schedule = past ++ i :: rest → ∀ row,
        (((pinPool H isDigit s ops).exec past).progs i).Next (PinStore.saveRow row) →
          ((pinPool H isDigit s ops).exec past).store.accepts row = true →
            ((pinPool H isDigit s ops).exec past).store.pins row.account.id = row.pins) ∧
    ∀ past i row, (((pinPool H isDigit s ops).exec past).progs i).Next (PinStore.saveRow row) →
      ∃ before, before <+: past ∧
        (((pinPool H isDigit s ops).exec before).store.pins row.account.id).code =
          row.pins.code := by
  refine ⟨?_, fun past i row hsave => stored_of_saveRow hsave⟩
  refine (lastSet_iff fun (c : Pool (PinStore ε) ι PinAnswer) i u pins
    (hsets : SetsPins u pins c i) => pins_of_sets hsets).trans (along_iff.trans ?_)
  refine forall_congr' fun past => forall_congr' fun i => forall_congr' fun rest =>
    forall_congr' fun _ => ?_
  obtain ⟨held, -, hsteps⟩ := exec_held H isDigit s ops past
  exact sets_or_keeps_iff (hsteps i)

end LastSet

/-- The admin has read the row before the PIN was changed, and saves it afterwards: the old PIN
opens again. -/
example : ((pinPool plainHasher Char.isDigit agentStore agentRequests).exec
    [1, 1, 0, 0, 1, 1, 1, 1, 1, 1, 1, 1, 3]).result 3 = some (.tokens 4 true) := by decide

end Mapapi
