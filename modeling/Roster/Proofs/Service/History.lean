/-
Roster.Proofs.Service.History — what was published once stays.

`Office.writes` says which rows a call writes, read off the call, its answer and
the tables after it; a call that fails writes none. Every call turns the tables
into others by saves at just these places, each once (`wrote_carry`, §2), and a
saved row says what the stored one does wherever a row must not change. So
whatever identifiers are drawn, nothing is lost in any run of calls, and versions
count the calls that wrote a row (§4): an identifier that is taken already makes
the call fail (`conflict_of_collides`, §3).
-/
import Mathlib.Data.List.Nodup
import Roster.Proofs.Service.Registration
import Roster.Proofs.Store.Growth

namespace Roster

open Store (State Row Place)
open World (idle amid)

namespace Store.State

/-! ## §1 What a call writes -/

/-- The row of the account that an address finds. -/
def accountPlaces (s : State) (email : String) : List Place :=
  ((s.userByEmail? (normalizeEmail email)).map fun u => Place.user u.id).toList

/-- The membership of a user in a workspace. -/
def memberPlaces (s : State) (workspace user : Uuid) : List Place :=
  ((s.pair? user workspace).map fun m => Place.membership m.id).toList

end Store.State

namespace Service

/-- Whose memberships a change writes: the actor's where ownership is handed over, the target's. -/
def Change.subjects (s : State) (actor : Uuid) (wish : Change) : List Uuid :=
  (if wish.handsOver then [actor] else []) ++ (wish.target s actor).toList

/-- The rows that a call with the given answer has written; `t` is what it left. -/
def Command.places (o : Office) (w : World) (t : State) : (c : Command) → c.Answer → List Place
  | .signup _ email _, _ | .login email _, _ => t.accountPlaces email
  | .refresh token, _ =>
    (o.issuer.validate w.supply.readClock.1 token .refresh).toList.map fun c => .user c.sub
  | .create _ _ owner, workspace => .workspace workspace :: t.memberPlaces workspace owner.user
  | .update workspace _ _ _, _ | .delete workspace _, _ => [.workspace workspace]
  | .change workspace actor wish, _ =>
    (wish.subjects t actor.user).flatMap (t.memberPlaces workspace)
  | .details .., _ | .list .., _ | .check .., _ | .count .., _ => []

namespace Office

/-- The rows that a call writes; none if it fails. -/
def writes (o : Office) (c : Command) (w : World) : List Place :=
  match (o.carry c w).1 with
  | .ok answer => c.places o w (o.carry c w).2.published answer
  | .error _ => []

/-- How many of the calls write the row. -/
def writers (o : Office) (p : Place) : List Command → World → Nat
  | [], _ => 0
  | c :: rest, w => (if p ∈ o.writes c w then 1 else 0) + o.writers p rest (o.carry c w).2

/-- The call saves rows at the places that it writes, and at each once. -/
def Wrote (o : Office) (c : Command) (s : State) (supply : Supply) : Prop :=
  s.Becomes (o.writes c (idle s supply)) (o.carry c (idle s supply)).2.published ∧
    (o.writes c (idle s supply)).Nodup

variable {o : Office} {c : Command} {s t : State} {supply : Supply}

/-- A call that fails writes nothing. -/
theorem Wrote.of_error {f : Failure} (refused : (o.carry c (idle s supply)).1 = .error f) :
    o.Wrote c s supply := by
  rw [Wrote, writes, refused, Command.published_of_error o refused]
  exact ⟨.done s, .nil⟩

theorem Wrote.of_run {answer : c.Answer} {later : Supply}
    (run : o.carry c (idle s supply) = (.ok answer, idle t later))
    (becomes : s.Becomes (c.places o (idle s supply) t answer) t)
    (nodup : (c.places o (idle s supply) t answer).Nodup) : o.Wrote c s supply := by
  rw [Wrote, writes, run]
  exact ⟨becomes, nodup⟩

end Office

/-! ## §2 Calls -/

variable {s t : State} {supply : Supply} {workspace : Uuid} {actor : Identity}

/-- Renewing a session writes the account. -/
theorem becomes_honouring (h : s.Sound) {u : User} (hu : u ∈ s.users.rows) (token : String) :
    s.Becomes [.user u.id] (s.put (.user (u.honouring token))) := by
  refine .single (Credentials.admits_honouring h hu token) fun v hv e => ?_
  obtain rfl := Store.Table.eq_of_mem hv hu e
  exact ⟨rfl, rfl, rfl, rfl⟩

/-- The account that was saved last is the one that its address finds. -/
theorem accountPlaces_put {u : User} {email : String} (registry : Registry (s.put (.user u)))
    (address : u.email = normalizeEmail email) :
    (s.put (.user u)).accountPlaces email = [.user u.id] := by
  have found := (State.userByEmail?_eq_some registry.sound registry.normal).2
    ⟨State.mem_put_user.2 (.inl rfl), address⟩
  rw [State.accountPlaces, found]
  rfl

/-- The membership that was saved last is the one of its pair. -/
theorem memberPlaces_put {m : Membership} (sound : (s.put (.membership m)).Sound) :
    (s.put (.membership m)).memberPlaces m.workspace m.user = [.membership m.id] := by
  have found : (s.put (.membership m)).pair? m.user m.workspace = some m.saved :=
    sound.pair?_eq_some.2 ⟨State.mem_put_membership.2 (.inl rfl), rfl, rfl⟩
  rw [State.memberPlaces, found]
  rfl

theorem wrote_signup (h : Registry s) (o : Office) (name email password : String) :
    o.Wrote (.signup name email password) s supply := by
  have after := h.carry o (.signup name email password) supply
  rcases Credentials.signup_cases o.issuer o.hasher s supply name email password with
    ⟨f, later, run⟩ | ⟨text, admits, run⟩
  · exact .of_error (congrArg Prod.fst run)
  · let u := Credentials.opening supply.drawSalt.2 name email text
    rw [Office.carry, Command.action, run] at after
    have places : (s.put (.user u)).accountPlaces email = [.user u.id] :=
      accountPlaces_put after (normalizeEmail_normalizeEmail email)
    have free : s.row? (.user u.id) = none := h.sound.free_of_admits admits rfl
    refine Office.Wrote.of_run run ?_ ?_
    · rw [Command.places, places]
      exact .single admits (State.continues_of_free free)
    · rw [Command.places, places]
      exact List.nodup_singleton _

theorem wrote_login (h : Registry s) (o : Office) (email password : String) :
    o.Wrote (.login email password) s supply := by
  have after := h.carry o (.login email password) supply
  have run : o.carry (.login email password) (idle s supply) = _ :=
    Credentials.run_login h.sound email password
  cases found : s.opened? o.hasher email password with
  | none =>
    rw [found] at run
    exact .of_error (congrArg Prod.fst run)
  | some u =>
    rw [found] at run
    rw [run] at after
    obtain ⟨hu, address⟩ :=
      (State.userByEmail?_eq_some h.sound h.normal).1 (opened?_eq_some found)
    have places := accountPlaces_put after address
    refine Office.Wrote.of_run run ?_ ?_
    · rw [Command.places, places]
      exact becomes_honouring h.sound hu _
    · rw [Command.places, places]
      exact List.nodup_singleton _

theorem wrote_refresh (h : s.Sound) (o : Office) (token : String) :
    o.Wrote (.refresh token) s supply := by
  have run : o.carry (.refresh token) (idle s supply) = _ := Credentials.run_refresh h token
  cases found : s.bearer? o.issuer supply.readClock.1 token with
  | none =>
    rw [found] at run
    exact .of_error (congrArg Prod.fst run)
  | some u =>
    rw [found] at run
    obtain ⟨c, valid, user, -⟩ := bearer?_eq_some.1 found
    obtain ⟨hu, same⟩ := Store.Table.find?_eq_some.1 user
    have places : ((o.issuer.validate supply.readClock.1 token .refresh).toList.map
        fun c => Place.user c.sub) = [.user u.id] := by
      rw [valid]
      exact congrArg (fun id => [Place.user id]) same.symm
    refine Office.Wrote.of_run run ?_ ?_
    · show s.Becomes ((o.issuer.validate supply.readClock.1 token .refresh).toList.map _) _
      rw [places]
      exact becomes_honouring h hu _
    · show ((o.issuer.validate supply.readClock.1 token .refresh).toList.map _).Nodup
      rw [places]
      exact List.nodup_singleton _

theorem wrote_create (h : s.Sound) (o : Office) (name : String) (type : WorkspaceType)
    (owner : Identity) : o.Wrote (.create name type owner) s supply := by
  rcases create_cases s supply name type owner with ⟨later, run⟩ | ⟨hw, hm, later, run⟩
  · exact .of_error (congrArg Prod.fst run)
  · let w := founded supply name type
    let m := founder supply owner.user
    have sound := h.put_workspace hw
    have places : ((s.put (.workspace w)).put (.membership m)).memberPlaces w.id owner.user =
        [.membership m.id] := memberPlaces_put (sound.put_membership hm)
    have freeW : s.row? (.workspace w.id) = none := h.free_of_admits hw rfl
    have freeM : (s.put (.workspace w)).row? (.membership m.id) = none :=
      sound.free_of_admits hm rfl
    refine Office.Wrote.of_run (c := .create name type owner) run ?_ ?_
    · rw [Command.places, places]
      exact .save hw (State.continues_of_free freeW)
        (.single hm (State.continues_of_free freeM))
    · rw [Command.places, places]
      simp

/-- A workspace that is stored already is saved again. -/
theorem becomes_workspace {w x : Workspace} (hw : w ∈ s.workspaces.rows) (id : x.id = w.id)
    (version : x.version = w.version) (created : x.created = w.created) :
    s.Becomes [.workspace w.id] (s.put (.workspace x)) := by
  rw [← id]
  refine .single (admits_workspace hw id version) fun y hy e => ?_
  obtain rfl := Store.Table.eq_of_mem hy hw (e.trans id)
  exact created

theorem wrote_update (o : Office) (actor : Identity) (name : String) (type : WorkspaceType) :
    o.Wrote (.update workspace actor name type) s supply := by
  have run : o.carry (.update workspace actor name type) (idle s supply) = _ :=
    run_update name type
  cases e : s.authorize workspace actor .updateWorkspace
      "Only owner or admin can update the workspace" with
  | error f =>
    rw [e] at run
    exact .of_error (congrArg Prod.fst run)
  | ok w =>
    rw [e] at run
    obtain ⟨hw, rfl, -⟩ := mem_of_workspace? (State.authorize_eq_ok e)
    exact .of_run run (becomes_workspace hw rfl rfl rfl) (List.nodup_singleton _)

theorem wrote_delete (o : Office) (actor : Identity) :
    o.Wrote (.delete workspace actor) s supply := by
  have run : o.carry (.delete workspace actor) (idle s supply) = _ := run_delete
  cases e : s.authorize workspace actor .deleteWorkspace
      "Only the owner can delete the workspace" with
  | error f =>
    rw [e] at run
    exact .of_error (congrArg Prod.fst run)
  | ok w =>
    rw [e] at run
    obtain ⟨hw, rfl, -⟩ := mem_of_workspace? (State.authorize_eq_ok e)
    exact .of_run run (becomes_workspace hw rfl rfl rfl) (List.nodup_singleton _)

/-- The acting owner steps down in the row that they have. -/
theorem Enacts.becomes {wish : Change} {acting m : Membership} {role : Role}
    (e : Enacts s supply workspace actor wish acting role m) (h : s.Sound)
    (admits : (s.yielded acting role).Admits (.membership m)) :
    s.Becomes ((if wish.handsOver then [.membership acting.id] else []) ++ [.membership m.id])
      ((s.yielded acting role).put (.membership m)) := by
  have last : (s.yielded acting role).Becomes [.membership m.id]
      ((s.yielded acting role).put (.membership m)) :=
    .single admits fun n hn same => by
      obtain ⟨user, place⟩ := e.continues h admits n hn same
      exact ⟨user.symm, place.symm⟩
  obtain ⟨ha, -, -, -⟩ := mem_of_membership? h e.acts
  rw [e.handsOver]
  unfold State.yielded at last ⊢
  by_cases owner : role = .owner
  · rw [if_pos owner] at last
    rw [if_pos owner, if_pos (Role.isOwner_iff.2 owner)]
    refine .save (admits_stepDown h ha) (fun n hn same => ?_) last
    rw [Store.Table.eq_of_mem hn ha same]
    exact ⟨rfl, rfl⟩
  · rw [if_neg owner] at last
    rw [if_neg owner, if_neg (mt Role.isOwner_iff.1 owner)]
    exact last

/-- A row that is preserved is the one of its pair. -/
theorem memberPlaces_of_preserved (sound : t.Sound) (preserved : State.Preserved s t)
    {m : Membership} (hm : m ∈ s.memberships.rows) :
    t.memberPlaces m.workspace m.user = [.membership m.id] := by
  obtain ⟨n, hn, id, user, place⟩ := preserved.memberships m hm
  rw [State.memberPlaces, sound.pair?_eq_some.2 ⟨hn, user, place⟩, ← id]
  rfl

/-- The rows of which a change speaks are the ones that it saves. -/
theorem Enacts.places {wish : Change} {acting m : Membership} {role : Role}
    (e : Enacts s supply workspace actor wish acting role m) (h : s.Sound)
    (admits : (s.yielded acting role).Admits (.membership m)) :
    let t := (s.yielded acting role).put (.membership m)
    (wish.subjects t actor.user).flatMap (t.memberPlaces workspace) =
      (if wish.handsOver then [.membership acting.id] else []) ++ [.membership m.id] := by
  intro t
  have sound : t.Sound := (e.yields h).sound.put_membership admits
  have users : t.users = s.users := (e.yields h).users
  -- The places are read off the tables afterwards, where the accounts are still the same.
  have target : wish.target t actor.user = some m.user := by
    rw [← e.target]
    cases wish <;> simp only [Change.target, State.userByEmail?, users]
  have written : t.memberPlaces workspace m.user = [.membership m.id] :=
    e.place ▸ memberPlaces_put sound
  obtain ⟨ha, hau, haw, -⟩ := mem_of_membership? h e.acts
  have yielded : t.memberPlaces workspace actor.user = [.membership acting.id] :=
    hau ▸ haw ▸ memberPlaces_of_preserved sound (e.becomes h admits).preserved ha
  rw [Change.subjects, target, List.flatMap_append, Option.toList_some, List.flatMap_singleton,
    written]
  split
  · rw [List.flatMap_singleton, yielded]
  · rfl

/-- The acting owner steps down in another row than the target's. -/
theorem Enacts.id_ne {wish : Change} {acting m : Membership} {role : Role}
    (e : Enacts s supply workspace actor wish acting role m) (h : s.Sound)
    (admits : (s.yielded acting role).Admits (.membership m)) (handsOver : wish.handsOver = true) :
    acting.id ≠ m.id := by
  intro same
  obtain ⟨ha, hau, -, -⟩ := mem_of_membership? h e.acts
  obtain ⟨n, hn, hid⟩ := (e.yields h).ids acting ha
  obtain ⟨o, ho, oid, ou, -⟩ := (e.yields h).origin n hn
  -- One row for both would make the target the acting user, whom ownership is not handed to.
  have user := (e.continues h admits n hn (hid.trans same)).1
  have owner := Role.isOwner_iff.1 (e.handsOver ▸ handsOver)
  obtain rfl := Store.Table.eq_of_mem ho ha (oid.symm.trans hid)
  exact e.other owner (user.symm.trans (ou.trans hau))

theorem wrote_change (h : s.Sound) (o : Office) (workspace : Uuid) (actor : Identity)
    (wish : Change) : o.Wrote (.change workspace actor wish) s supply := by
  rcases change_enacted h supply workspace actor wish with
    ⟨f, -, run⟩ | ⟨v, -, acting, role, m, later, e, -, run⟩
  · exact .of_error (congrArg Prod.fst run)
  · have run : o.carry (.change workspace actor wish) (idle s supply) = _ := run
    by_cases admits : (s.yielded acting role).Admits (.membership m)
    · rw [run_lastSave admits] at run
      have becomes := e.becomes h admits
      have places := e.places h admits
      refine Office.Wrote.of_run (c := .change workspace actor wish) run ?_ ?_
      · rw [Command.places, places]
        exact becomes
      · rw [Command.places, places]
        split
        · rename_i handsOver
          simpa using e.id_ne h admits handsOver
        · exact List.nodup_singleton _
    · rw [Action.run_saveMembership_refused admits] at run
      exact .of_error (congrArg Prod.fst run)

/-- A call that only looks at what is stored writes nothing. -/
theorem wrote_reading (o : Office) {c : Command} (reads : c.isReading = true) :
    o.Wrote c s supply := by
  have same := Command.published_of_isReading o reads (idle s supply)
  have nothing (t : State) (answer : c.Answer) : c.places o (idle s supply) t answer = [] := by
    cases c <;> first | rfl | cases reads
  cases answered : (o.carry c (idle s supply)).1 with
  | error f => exact .of_error answered
  | ok answer =>
    rw [Office.Wrote, Office.writes, answered, same]
    simp only [nothing]
    exact ⟨.done s, .nil⟩

/-- Every call saves rows at the places that it writes. -/
theorem wrote_carry (h : Registry s) (o : Office) (c : Command) (supply : Supply) :
    o.Wrote c s supply := by
  cases c with
  | signup name email password => exact wrote_signup h o name email password
  | login email password => exact wrote_login h o email password
  | refresh token => exact wrote_refresh h.sound o token
  | create name type owner => exact wrote_create h.sound o name type owner
  | update workspace actor name type => exact wrote_update o actor name type
  | delete workspace actor => exact wrote_delete o actor
  | change workspace actor wish => exact wrote_change h.sound o workspace actor wish
  | details _ _ | list _ | check _ _ _ | count _ => exact wrote_reading o rfl

/-! ## §3 Identifiers that are taken -/

/-- The call is to add a row, and an identifier that it draws for one is that of a stored row. -/
def Office.Collides (o : Office) (w : World) : Command → Prop
  | .signup _ email password =>
    (∃ text, o.hasher.hash w.supply.drawSalt.1 password = .ok text) ∧
      w.published.userByEmail? (normalizeEmail email) = none ∧ SignupTaken w.published w.supply
  | .create .. =>
    (∃ x ∈ w.published.workspaces.rows, x.id = w.supply.drawId.1) ∨
      ∃ m ∈ w.published.memberships.rows, m.id = w.supply.drawId.2.drawId.1
  | .change workspace actor wish =>
    (∃ v, w.published.roll.decide workspace actor.user wish = .ok v) ∧
      (∃ user, wish.target w.published actor.user = some user ∧
        w.published.pair? user workspace = none) ∧ Taken w.published w.supply
  | _ => False

/-- A stored row is not overwritten by one that is new. -/
theorem conflict_of_collides (h : s.Sound) (o : Office) {c : Command}
    (collides : o.Collides (idle s supply) c) :
    (o.carry c (idle s supply)).1 = .error .conflict := by
  cases c with
  | signup name email password =>
    obtain ⟨⟨text, hashed⟩, unknown, taken⟩ := collides
    rcases signup_cases_of_hash h supply name email hashed with
      ⟨v, known, -⟩ | ⟨-, ⟨-, later, run⟩ | ⟨free, -⟩⟩
    · rw [show s.userByEmail? _ = none from unknown] at known
      cases known
    · exact congrArg Prod.fst run
    · exact absurd taken free
  | create name type owner =>
    rcases create_cases s supply name type owner with ⟨later, run⟩ | ⟨hw, hm, -⟩
    · exact congrArg Prod.fst run
    · rcases collides with ⟨x, hx, hid⟩ | ⟨n, hn, hid⟩
      · exact absurd hid ((Store.Table.carries_zero h.workspaceVersions).1 hw x hx)
      · exact absurd hm ((h.put_workspace hw).not_admits_taken rfl hn hid)
  | change workspace actor wish =>
    obtain ⟨⟨v, decided⟩, ⟨user, target, new⟩, taken⟩ := collides
    rcases change_enacted h supply workspace actor wish with
      ⟨f, refused, -⟩ | ⟨v, -, acting, role, m, later, e, -, run⟩
    · exact absurd (refused.symm.trans decided) nofun
    · obtain rfl : m.user = user := Option.some.inj (e.target.symm.trans target)
      rw [Office.carry, Command.action, run,
        Action.run_saveMembership_refused (e.not_admits h new taken)]
  | _ => exact absurd collides not_false

/-! ## §4 Runs of calls -/

/-- Any calls: all rows stay, and each has been saved by the calls that wrote it. -/
theorem grown_after (h : Registry s) (o : Office) (cs : List Command) (supply : Supply) :
    State.Preserved s (o.after cs (idle s supply)).published ∧
      ∀ p, (o.after cs (idle s supply)).published.stamp p =
        s.stamp p + o.writers p cs (idle s supply) := by
  induction cs generalizing s supply with
  | nil => exact ⟨.refl s, fun p => (Int.add_zero _).symm⟩
  | cons c cs ih =>
    obtain ⟨t, later, e, -⟩ := o.after_idle [c] s supply
    have e : (o.carry c (idle s supply)).2 = idle t later := e
    obtain ⟨becomes, nodup⟩ := wrote_carry h o c supply
    have registry := h.carry o c supply
    rw [e, World.idle_published] at becomes registry
    obtain ⟨preserved, stamps⟩ := ih registry later
    rw [Office.after_cons, e]
    refine ⟨becomes.preserved.trans preserved, fun p => ?_⟩
    -- The call saved the row once or not at all, since its places are distinct.
    rw [stamps, becomes.stamp, Office.writers, e, nodup.count]
    push_cast
    omega

/--
Whatever identifiers are drawn, also taken ones: all that was published after
some calls is there after more of them, with the same values where these must
not change. A pair of user and workspace has one membership, which is the same
at all times. The version of a row is the number of calls that wrote it. Where
an identifier is drawn that is taken, the call is a conflict and changes nothing.
-/
theorem history_preserved (o : Office) (supply : Supply) (cs ds : List Command) :
    let start := idle .empty supply
    let w := o.after cs start
    let v := o.after ds w
    w.published.Preserved v.published ∧
    (∀ m ∈ w.published.memberships.rows, ∀ n ∈ w.published.memberships.rows,
      m.user = n.user → m.workspace = n.workspace → m = n) ∧
    (∀ m ∈ w.published.memberships.rows, ∀ n ∈ v.published.memberships.rows,
      m.user = n.user → m.workspace = n.workspace → n.id = m.id) ∧
    (∀ p, w.published.stamp p = o.writers p cs start) ∧
    ∀ c, o.Collides w c →
      (o.carry c w).1 = .error .conflict ∧ (o.carry c w).2.published = w.published := by
  intro start w v
  obtain ⟨s, later, there, registry⟩ := o.reached cs supply
  have here : w = idle s later := there
  obtain ⟨preserved, -⟩ := grown_after registry o ds later
  have sound := ((registry.after o ds later).1).sound
  have stamps := (grown_after Registry.empty o cs supply).2
  simp only [v, here]
  refine ⟨preserved, registry.sound.pairs, fun m hm n hn user place => ?_, fun p => ?_,
    fun c collides => ?_⟩
  · obtain ⟨x, hx, id, xu, xw⟩ := preserved.memberships m hm
    rw [← sound.pairs x hx n hn (xu.trans user) (xw.trans place), id]
  · have empty : State.empty.stamp p = 0 := by
      rw [State.stamp, State.row?_empty]
      rfl
    have := stamps p
    rwa [there, empty, Int.zero_add] at this
  · have conflict := conflict_of_collides registry.sound o collides
    exact ⟨conflict, Command.published_of_error o conflict⟩

/-- Where all identifiers are one, nobody signs up and nobody founds a workspace after the first. -/
theorem history_preserved_collision :
    let supply : Supply := { Supply.counting with id := fun _ => .ofNat 0 }
    let founder : Identity := ⟨.ofNat 0, "n@b"⟩
    let cs : List Command := [.signup "N" "n@b" "p", .create "Acme" .team founder]
    let w := Office.small.after cs (idle .empty supply)
    (Office.small.carry (.signup "M" "m@b" "q") w).1 = .error .conflict ∧
      (Office.small.carry (.create "Bolt" .team founder) w).1 = .error .conflict := by
  intro supply founder cs w
  obtain ⟨-, -, -, -, collision⟩ := history_preserved .small supply cs []
  have user : Office.small.Collides w (.signup "M" "m@b" "q") :=
    ⟨⟨"q", rfl⟩, by decide +kernel, by decide +kernel⟩
  have workspace : Office.small.Collides w (.create "Bolt" .team founder) :=
    .inl (by decide +kernel)
  exact ⟨(collision _ user).1, (collision _ workspace).1⟩

end Service

end Roster
