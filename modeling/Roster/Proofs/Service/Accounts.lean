/-
Roster.Proofs.Service.Accounts — signing up and in leave workspaces alone.

Of all rows, these calls save accounts only, wherever they run and whatever they
are told. So however they end, the tables of workspaces and of memberships are
what they were (`sameApart_of_isSignIn`).
-/
import Roster.Proofs.Service.Failures

namespace Roster

open Store (State Row)

/-- The same workspaces and memberships, whatever the accounts. -/
structure Store.State.SameApartFromUsers (s t : State) : Prop where
  workspaces : s.workspaces = t.workspaces
  memberships : s.memberships = t.memberships

namespace Request

/-- The request leaves workspaces and memberships alone. -/
def IsAboutAccounts : Request → Prop
  | store (.saveWorkspace _) | store (.saveMembership _) => False
  | _ => True

theorem exists_user_of_saved {r : Request} (h : r.IsAboutAccounts) :
    ∀ x ∈ r.saved?, ∃ u, x = Row.user u := by
  intro x hx
  cases r with
  | store c =>
    cases c with
    | saveUser u => exact ⟨u, (Option.some.inj hx).symm⟩
    | saveWorkspace _ | saveMembership _ => cases h
    | _ => cases hx
  | _ => cases hx

end Request

namespace Service

open Action

namespace Credentials

open Token (Issuer)

theorem asks_renew (issuer : Issuer) (user : User) :
    (renew issuer user).Asks Request.IsAboutAccounts := by
  refine .bind (asks_perform (Issuer.asks_issuePair trivial trivial issuer user)) fun pair => ?_
  exact .bind (asks_store trivial) fun _ => .bind (asks_store trivial) fun _ => asks_pure pair

theorem asks_hashPassword (hasher : Password.Hasher) (password : String) :
    (hashPassword hasher password).Asks Request.IsAboutAccounts := by
  refine .bind (asks_perform (Program.asks_request trivial)) fun salt => ?_
  cases hasher.hash salt password with
  | ok text => exact asks_pure text
  | error detail => exact asks_throw _

theorem asks_signup (issuer : Issuer) (hasher : Password.Hasher) (name email password : String) :
    (signup issuer hasher name email password).Asks Request.IsAboutAccounts := by
  refine .bind (asks_hashPassword hasher password) fun text => ?_
  refine .bind (asks_store trivial) fun _ => .bind (asks_store trivial) fun known => ?_
  refine .bind (asks_require _ _) fun _ => ?_
  refine .bind (asks_perform (Program.asks_request trivial)) fun id => ?_
  refine .bind (asks_perform (Program.asks_request trivial)) fun now => ?_
  refine .bind (asks_store trivial) fun user => ?_
  refine .bind (asks_perform (Issuer.asks_issuePair trivial trivial issuer user)) fun pair => ?_
  exact .bind (asks_store trivial) fun _ => asks_pure pair

theorem asks_login (issuer : Issuer) (hasher : Password.Hasher) (email password : String) :
    (login issuer hasher email password).Asks Request.IsAboutAccounts := by
  refine .bind (asks_store trivial) fun _ => .bind (asks_store trivial) fun found => ?_
  refine .bind (asks_orFail _ _) fun user => .bind (asks_require _ _) fun _ => ?_
  exact asks_renew issuer user

theorem asks_refresh (issuer : Issuer) (token : String) :
    (refresh issuer token).Asks Request.IsAboutAccounts := by
  refine .bind (asks_perform (Program.asks_request trivial)) fun now => ?_
  refine .bind (asks_orFail _ _) fun claims => ?_
  refine .bind (asks_store trivial) fun _ => .bind (asks_store trivial) fun found => ?_
  refine .bind (asks_orFail _ _) fun user => .bind (asks_require _ _) fun _ => ?_
  exact asks_renew issuer user

end Credentials

theorem Command.asks_of_isSignIn (o : Office) {c : Command} (h : c.isSignIn = true) :
    (c.action o).Asks Request.IsAboutAccounts := by
  cases c with
  | signup name email password => exact Credentials.asks_signup _ _ _ _ _
  | login email password => exact Credentials.asks_login _ _ _ _
  | refresh token => exact Credentials.asks_refresh _ _
  | _ => cases h

/-- Workspaces and memberships stay as they are, however the call ends. -/
theorem Command.sameApart_of_isSignIn (o : Office) {c : Command} (h : c.isSignIn = true)
    {w : World} (closed : w.working = none) :
    (o.carry c w).2.published.SameApartFromUsers w.published := by
  have start : w.Holds fun s => s.SameApartFromUsers w.published :=
    ⟨⟨rfl, rfl⟩, fun t ht => by simp [closed] at ht⟩
  have step (v : World) (r : Request) (about : r.IsAboutAccounts)
      (hv : v.Holds fun s => s.SameApartFromUsers w.published) :
      (v.answer r).2.Holds fun s => s.SameApartFromUsers w.published := by
    refine hv.answer_saving fun s x hx hs _ => ?_
    obtain ⟨u, rfl⟩ := Request.exists_user_of_saved about x hx
    exact ⟨hs.workspaces, hs.memberships⟩
  exact ((Command.asks_of_isSignIn o h).passes step start _ (Program.end_mem_passes _ _)).1

end Service

end Roster
