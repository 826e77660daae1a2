/-
Roster.Proofs.Service.Addresses — an account is found under its address, however spelled.

The call that signs up brings the address into normal form, the account that it
makes does so again, and the store takes the lower case of what it holds and of
what it is asked for. All of that comes to one form: the key of an account is
the normal form of the address that it was made from (`MadeFrom.emailKey`, §1).

Nothing is asked of the other accounts, whose addresses may be stored in any
form: that no two have one key is kept by every save that the store admits. So
the equivalence of §2 holds at every point of any programs that run at the same
time, and under the calls of the service, where each account goes back to a
signing up (`address_canonical`, §3).
-/
import Roster.Proofs.Service.Registration
import Roster.Proofs.Service.Upholding

namespace Roster

open Store (State)
open World (idle)

/-! ## §1 Where an account comes from -/

namespace User

variable {u : User} {email : String}

/-- The account was made from the address; it may have been saved since, and have got a session. -/
def MadeFrom (email : String) (u : User) : Prop :=
  ∃ id created name passwordHash refreshFingerprint version,
    u = { fresh id created name email passwordHash with refreshFingerprint, version }

/-- Of what makes an account, only the address tells where it comes from. -/
theorem madeFrom_iff : u.MadeFrom email ↔ u.email = normalizeEmail email := by
  constructor
  · rintro ⟨id, created, name, passwordHash, refreshFingerprint, version, rfl⟩
    rfl
  · intro address
    refine ⟨u.id, u.created, u.name, u.passwordHash, u.refreshFingerprint, u.version, ?_⟩
    rw [fresh, ← address]

/-- The lower case that the store takes changes nothing. -/
theorem MadeFrom.emailKey (h : u.MadeFrom email) : u.emailKey = normalizeEmail email := by
  rw [User.emailKey, madeFrom_iff.1 h, lowercase_normalizeEmail]

end User

/-! ## §2 Look-ups -/

/-- A stored account is found by the spellings of its address, and by nothing else. -/
theorem Store.State.Sound.finds_iff {s : State} (h : s.Sound) {u : User}
    (hu : u ∈ s.users.rows) {email given : String} (made : u.MadeFrom email) :
    s.userByEmail? (normalizeEmail given) = some u ↔
      normalizeEmail given = normalizeEmail email := by
  rw [h.unique.userByEmail?_iff, made.emailKey, lowercase_normalizeEmail]
  exact ⟨fun found => found.2.symm, fun same => ⟨hu, same.symm⟩⟩

/-- What a look-up answers to the program that holds the unit of work. -/
theorem Pool.answer_findUserByEmail {ι : Type} [DecidableEq ι] {α : ι → Type} {m : Pool α}
    {i : ι} {t : State} (holds : m.tx = some (i, t)) (email : String) :
    ((m.world i).answer (.store (.findUserByEmail email))).1 = .ok (t.userByEmail? email) := by
  rw [Pool.world, held_eq_some.2 holds]
  rfl

/-! ## §3 Runs -/

namespace Service

variable {o : Office} {cs : List Command} {supply : Supply}

/-- The account that one of the calls has opened is stored, made from the address of that call. -/
theorem exists_madeFrom_of_signedUp {email text : String} {id : Uuid}
    (h : o.SignedUp cs (idle .empty supply) email id text) :
    ∃ u ∈ (o.after cs (idle .empty supply)).published.users.rows,
      u.id = id ∧ u.MadeFrom email := by
  obtain ⟨u, hu, rfl, address, -⟩ := (registered_iff_signedUp o cs supply email id text).2 h
  exact ⟨u, hu, rfl, User.madeFrom_iff.2 address⟩

/-- All stored accounts were made by signing up. -/
theorem exists_signup_of_stored {u : User}
    (hu : u ∈ (o.after cs (idle .empty supply)).published.users.rows) :
    ∃ name email password, .signup name email password ∈ cs ∧ u.MadeFrom email := by
  have normal := (Registry.empty.after o cs supply).1.normal u hu
  have registered : State.Registered _ u.id (normalizeEmail u.email) u.passwordHash :=
    ⟨u, hu, rfl, normal.symm, rfl⟩
  obtain ⟨before, c, after, split, opens⟩ :=
    (registered_iff_signedUp o cs supply u.email u.id u.passwordHash).1 registered
  cases c with
  | signup name email password =>
    have address : u.email = normalizeEmail email := normal.symm.trans opens.2.1.symm
    refine ⟨name, email, password, ?_, User.madeFrom_iff.2 address⟩
    rw [split]
    exact List.mem_append_right _ List.mem_cons_self
  | _ => cases opens

/--
Every text has one normal form: taking it again changes nothing, and its lower
case is itself. So an account made from an address is found under the normal
form of a text exactly if that is the normal form of its address: in any unit
of work of programs that run at the same time, whatever they save and wherever
they are cancelled; and after any calls of the service, where all accounts are
made by signing up and every successful signing up leaves its account.
-/
theorem address_canonical :
    (∀ text, normalizeEmail (normalizeEmail text) = normalizeEmail text ∧
      Text.lowercase (normalizeEmail text) = normalizeEmail text) ∧
    (∀ {ι : Type} [DecidableEq ι] {α : ι → Type} (programs : (i : ι) → Program (α i))
      (draws : ι → Supply) (events : List (Event ι)),
      let m := (Pool.start programs draws .empty).play events
      ∀ i t, m.tx = some (i, t) → ∀ u ∈ t.users.rows, ∀ email, u.MadeFrom email → ∀ given,
        ((m.world i).answer (.store (.findUserByEmail (normalizeEmail given)))).1 = .ok (some u) ↔
          normalizeEmail given = normalizeEmail email) ∧
    ∀ (o : Office) (cs : List Command) (supply : Supply),
      let start := idle .empty supply
      let s := (o.after cs start).published
      (∀ u ∈ s.users.rows, ∃ name email password,
        .signup name email password ∈ cs ∧ u.MadeFrom email) ∧
      ∀ email id text, o.SignedUp cs start email id text → ∃ u ∈ s.users.rows,
        u.id = id ∧ u.MadeFrom email ∧ ∀ given,
          s.userByEmail? (normalizeEmail given) = some u ↔
            normalizeEmail given = normalizeEmail email := by
  refine ⟨fun text => ⟨normalizeEmail_normalizeEmail text, lowercase_normalizeEmail text⟩, ?_, ?_⟩
  · intro ι _ α programs draws events m i t holds u hu email made given
    have tables : m.Holds State.Sound :=
      (Pool.Holds.start programs draws State.Sound.empty).play (fun _ _ h a => h.put a) events
    rw [Pool.answer_findUserByEmail holds, Except.ok.injEq]
    exact (tables.working i t holds).finds_iff hu made
  · intro o cs supply start s
    have sound : s.Sound := o.sound_after cs supply
    refine ⟨fun u hu => exists_signup_of_stored hu, fun email id text signedUp => ?_⟩
    obtain ⟨u, hu, same, made⟩ := exists_madeFrom_of_signedUp signedUp
    exact ⟨u, hu, same, made, fun given => sound.finds_iff hu made⟩

/--
A sigma is final before the `@`, the dotted capital I becomes two characters, and
spaces of other scripts are trimmed. Who signs up in capitals is found in another
mixture of cases, but not with a sigma that is spelled as in the middle of a word.
-/
theorem address_canonical_sigma :
    let address := "\u00A0ΟΔΟΣ@İ.GR\u3000"
    let u := User.fresh (.ofNat 7) ⟨0⟩ "N" address "p"
    let client : Work := ⟨[.save (.user u)], true⟩
    let m := (Pool.start (fun _ : Unit => client.program) (fun _ => .counting) .empty).play
      [.advance (), .advance ()]
    let look given := ((m.world ()).answer (.store (.findUserByEmail (normalizeEmail given)))).1
    let cs : List Command := [.signup "N" address "p", .login "οδοΣ@İ.gr" "p"]
    normalizeEmail address = "οδος@i\u0307.gr" ∧
      look "οδοΣ@İ.gr" = .ok (some u.saved) ∧ look "οδοσ@İ.gr" ≠ .ok (some u.saved) ∧
      ∃ v, v.id = .ofNat 0 ∧ (Office.small.after cs (idle .empty .counting)).published.userByEmail?
        (normalizeEmail "οδοΣ@İ.gr") = some v := by
  intro address u client m look cs
  obtain ⟨-, programs, calls⟩ := address_canonical
  have spelled : normalizeEmail "οδοΣ@İ.gr" = normalizeEmail address := by decide +kernel
  have other : normalizeEmail "οδοσ@İ.gr" ≠ normalizeEmail address := by decide +kernel
  have holds : m.tx = some ((), State.empty.put (.user u)) := rfl
  have made : u.saved.MadeFrom address := ⟨_, _, _, _, _, _, rfl⟩
  have stored : u.saved ∈ (State.empty.put (.user u)).users.rows := List.mem_cons_self
  have found (given : String) := programs (fun _ : Unit => client.program) (fun _ => .counting)
    [.advance (), .advance ()] () _ holds u.saved stored address made given
  have signedUp : Office.small.SignedUp cs (idle .empty .counting) address (.ofNat 0) "p" :=
    ⟨[], _, _, rfl, ⟨_, rfl⟩, rfl, rfl, rfl⟩
  obtain ⟨v, -, id, -, finds⟩ := (calls .small cs .counting).2 address _ _ signedUp
  exact ⟨by decide +kernel, (found "οδοΣ@İ.gr").2 spelled,
    fun shown => other ((found "οδοσ@İ.gr").1 shown), v, id, (finds "οδοΣ@İ.gr").2 spelled⟩

end Service

end Roster
