/-
Roster.Proofs.Store.Versions — no update is lost.

A client may keep a copy of a row over many units of work and save it at last
with other contents. The version that it was read with then stands for all of
its contents: along what is committed, a row that differs from an earlier one
at its place has a higher version (`Revised`, §1). That is shown for the steps
of a unit of work (§2) and for units of work one after another (§3). A copy
from a unit of work that was dropped is as good, unless the row had been saved
there before. So where the copy is accepted, the row it replaces is the one
that was copied (`no_lost_update`, §4).
-/
import Roster.Proofs.Store.Clients

namespace Roster

open Store (State Row Place)
open World (idle amid)

namespace Store.State

variable {s t u : State} {p : Place} {r : Row}

/-! ## §1 Versions stand for contents -/

/-- The version of the row at a place; zero stands for no row. -/
def stamp (s : State) (p : Place) : Int := ((s.row? p).map Row.version).getD 0

theorem stamp_of_row? (h : s.row? p = some r) : s.stamp p = r.version := by simp [stamp, h]

theorem row?_user {v : User} (h : v ∈ s.users.rows) : s.row? (.user v.id) = some (.user v) :=
  congrArg (Option.map Row.user) (Table.find?_eq_some.2 ⟨h, rfl⟩)

theorem row?_workspace {w : Workspace} (h : w ∈ s.workspaces.rows) :
    s.row? (.workspace w.id) = some (.workspace w) :=
  congrArg (Option.map Row.workspace) (Table.find?_eq_some.2 ⟨h, rfl⟩)

theorem row?_membership {m : Membership} (h : m ∈ s.memberships.rows) :
    s.row? (.membership m.id) = some (.membership m) :=
  congrArg (Option.map Row.membership) (Table.find?_eq_some.2 ⟨h, rfl⟩)

/-- The row at the place has a higher version if it was written, and is the same if not. -/
def Revised (p : Place) (written : Prop) (s t : State) : Prop :=
  (written ∧ s.stamp p < t.stamp p) ∨ (¬written ∧ t.row? p = s.row? p)

theorem Revised.refl (p : Place) (s : State) : Revised p False s s := .inr ⟨id, rfl⟩

theorem Revised.trans {a b : Prop} (h : Revised p a s t) (k : Revised p b t u) :
    Revised p (a ∨ b) s u := by
  have same {x y : State} (e : y.row? p = x.row? p) : y.stamp p = x.stamp p := by simp [stamp, e]
  rcases h with ⟨wrote, lt⟩ | ⟨spared, e⟩ <;> rcases k with ⟨wrote', lt'⟩ | ⟨spared', e'⟩
  · exact .inl ⟨.inl wrote, Int.lt_trans lt lt'⟩
  · exact .inl ⟨.inl wrote, same e' ▸ lt⟩
  · exact .inl ⟨.inr wrote', same e ▸ lt'⟩
  · exact .inr ⟨fun w => w.elim spared spared', e'.trans e⟩

theorem Revised.of_iff {a b : Prop} (h : Revised p a s t) (e : a ↔ b) : Revised p b s t := by
  rwa [← propext e]

/-- An admitted row is the next version at its place. -/
theorem revised_put (a : s.Admits r) (p : Place) : Revised p (r.place = p) s (s.put r) := by
  by_cases e : r.place = p
  · subst e
    refine .inl ⟨rfl, ?_⟩
    have expected : s.stamp r.place = r.version := a.version
    rw [stamp_of_row? (s.row?_put_self r), expected, Row.version_saved]
    omega
  · exact .inr ⟨e, s.row?_put_of_ne (Ne.symm e)⟩

/-- Where the version is the one from before, nothing was written. -/
theorem Revised.unwritten {a : Prop} (h : Revised p a s t) (e : t.stamp p = s.stamp p) :
    ¬a ∧ t.row? p = s.row? p := by
  rcases h with ⟨-, lt⟩ | same
  · omega
  · exact same

end Store.State

/-! ## §2 Steps of a unit of work -/

/-- The row that a lookup answers with, if it looks for one. -/
def Call.found : (c : Call) → c.Result → Option Row
  | findUserByEmail _, u => u.map .user
  | findUser _, u => u.map .user
  | findWorkspace _ _, w => w.map .workspace
  | findMembership _ _ _, m => m.map .membership
  | _, _ => none

namespace Deed

/-- The step saves a row at the place. -/
def Saves (p : Place) (w : World) : Deed → Prop
  | find _ _ => False
  | save r => r.place = p ∧ (w.save r).1 = .ok ()

/-- The step hands the client a copy of a row: one that was found, or one as its save left it. -/
def Yields (w : World) (r : Row) : Deed → Prop
  | find c _ => ∃ x, (w.answer (.store c)).1 = .ok x ∧ c.found x = some r
  | save q => (w.save q).1 = .ok () ∧ (w.save q).2.1 = r

end Deed

namespace Work

open Store.State (Revised)

variable {s t : State} {supply : Supply} {p : Place} {r : Row}

/-- The surroundings once a unit of work has begun. -/
def opened (w : World) : World := (w.answer (.store .begin)).2

/-- The surroundings after more steps of the unit of work that is open. -/
def within (deeds : List Deed) (w : World) : World := ((steps false deeds).runOpen w).2

/-- One of the steps saves a row at the place. -/
def Writes (p : Place) : List Deed → World → Prop
  | [], _ => False
  | d :: rest, w => d.Saves p w ∨ Writes p rest (within [d] w)

@[simp] theorem within_nil (w : World) : within [] w = w := rfl

theorem within_cons (d : Deed) (rest : List Deed) (w : World) :
    within (d :: rest) w = within rest (within [d] w) := rfl

theorem within_append (a b : List Deed) (w : World) :
    within (a ++ b) w = within b (within a w) := by
  induction a generalizing w with
  | nil => rfl
  | cons d a ih => exact ih (within [d] w)

/-- A save succeeds exactly if its row is admitted. -/
theorem save_ok_iff : ((amid s t supply).save r).1 = .ok () ↔ t.Admits r := by
  by_cases a : t.Admits r
  · simp [World.save_admitted a, a]
  · obtain ⟨e, he⟩ := World.save_refused (s := s) supply a
    simp [he, a]

theorem within_save (a : t.Admits r) :
    within [.save r] (amid s t supply) = amid s (t.put r) supply := by
  obtain ⟨x, hx, -⟩ := World.answer_save_admitted (s := s) supply a
  exact congrArg Prod.snd hx

theorem within_find {c : Call} (h : c.isLookup) :
    within [.find c h] (amid s t supply) = amid s t supply := World.answer_lookup h

/-- A step revises the places at which it saves. -/
theorem revised_step (s t : State) (supply : Supply) (d : Deed) :
    ∃ t', within [d] (amid s t supply) = amid s t' supply ∧
      ∀ p, Revised p (d.Saves p (amid s t supply)) t t' := by
  cases d with
  | find c h => exact ⟨t, within_find h, fun p => .refl p t⟩
  | save r =>
    by_cases a : t.Admits r
    · refine ⟨t.put r, within_save a, fun p => (State.revised_put a p).of_iff ?_⟩
      simp [Deed.Saves, save_ok_iff, a]
    · obtain ⟨e, he⟩ := World.answer_save_refused (s := s) supply a
      refine ⟨t, congrArg Prod.snd he, fun p => (Revised.refl p t).of_iff ?_⟩
      simp [Deed.Saves, save_ok_iff, a]

/-- And so do all steps together. -/
theorem revised_within (s t : State) (supply : Supply) (deeds : List Deed) :
    ∃ t', within deeds (amid s t supply) = amid s t' supply ∧
      ∀ p, Revised p (Writes p deeds (amid s t supply)) t t' := by
  induction deeds generalizing t with
  | nil => exact ⟨t, rfl, fun p => .refl p t⟩
  | cons d rest ih =>
    obtain ⟨t₁, e₁, first⟩ := revised_step s t supply d
    obtain ⟨t₂, e₂, others⟩ := ih t₁
    refine ⟨t₂, ?_, fun p => ?_⟩
    · rw [within_cons, e₁, e₂]
    · rw [Writes, e₁]
      exact (first p).trans (others p)

/-- A lookup answers with a row that is stored at its place. -/
theorem row?_of_found {c : Call} (h : c.isLookup) {x : c.Result}
    (answered : ((amid s t supply).answer (.store c)).1 = .ok x) (found : c.found x = some r) :
    t.row? r.place = some r := by
  cases c with
  | findUserByEmail email =>
    cases answered
    obtain ⟨u, hu, rfl⟩ := Option.map_eq_some_iff.1 found
    exact State.row?_user (List.mem_of_find?_eq_some hu)
  | findUser id =>
    cases answered
    obtain ⟨u, hu, rfl⟩ := Option.map_eq_some_iff.1 found
    exact State.row?_user (Store.Table.find?_eq_some.1 hu).1
  | findWorkspace id filter =>
    cases answered
    obtain ⟨w, hw, rfl⟩ := Option.map_eq_some_iff.1 found
    have hw := (Option.filter_eq_some_iff.1 hw).1
    exact State.row?_workspace (Store.Table.find?_eq_some.1 hw).1
  | findMembership user workspace filter =>
    cases answered
    obtain ⟨m, hm, rfl⟩ := Option.map_eq_some_iff.1 found
    exact State.row?_membership (List.mem_of_find?_eq_some (Option.filter_eq_some_iff.1 hm).1)
  | countMembers _ | listDetails _ _ => cases found
  | healthCheck | begin | commit | saveUser _ | saveWorkspace _ | saveMembership _ => cases h

/-- Right after the step, the working copy holds the row that the client has a copy of. -/
theorem row?_of_yields {d : Deed} (h : d.Yields (amid s t supply) r) :
    ∃ t', within [d] (amid s t supply) = amid s t' supply ∧ t'.row? r.place = some r := by
  cases d with
  | find c look =>
    obtain ⟨x, answered, found⟩ := h
    exact ⟨t, within_find look, row?_of_found look answered found⟩
  | save q =>
    obtain ⟨ok, held⟩ := h
    have a := save_ok_iff.1 ok
    rw [World.save_admitted a] at held
    refine ⟨t.put q, within_save a, ?_⟩
    have place : r.place = q.place := by
      rw [← held]
      cases q <;> rfl
    rw [place, State.row?_put_self]
    exact congrArg some held

/-! ## §3 Units of work one after another -/

/-- One of the units of work saves a row at the place and commits. -/
def Publishes (p : Place) : List Work → World → Prop
  | [], _ => False
  | k :: rest, w => (k.commits = true ∧ Writes p k.deeds (opened w)) ∨
      Publishes p rest (k.program.run w).2

/-- A commit publishes the working copy that its steps lead to. -/
theorem run_of_within {deeds : List Deed}
    (e : within deeds (amid s s supply) = amid s t supply) :
    ((program ⟨deeds, true⟩).run (idle s supply)).2 = idle t supply := by
  obtain ⟨t', left, published⟩ := run_committed (s := s) supply deeds
  have same : t = t' := Option.some.inj ((congrArg World.working e).symm.trans left)
  rw [published, same]

/-- A unit of work revises the places at which it saves, if it commits. -/
theorem revised_run (s : State) (supply : Supply) (k : Work) :
    ∃ t, (k.program.run (idle s supply)).2 = idle t supply ∧
      ∀ p, Revised p (k.commits = true ∧ Writes p k.deeds (opened (idle s supply))) s t := by
  obtain ⟨deeds, commits⟩ := k
  cases commits with
  | false => exact ⟨s, run_dropped deeds, fun p => (Revised.refl p s).of_iff (by simp)⟩
  | true =>
    obtain ⟨t, e, revised⟩ := revised_within s s supply deeds
    exact ⟨t, run_of_within e, fun p => (revised p).of_iff ⟨fun h => ⟨rfl, h⟩, And.right⟩⟩

theorem revised_serve (s : State) (supply : Supply) (works : List Work) :
    ∃ t, serve works (idle s supply) = idle t supply ∧
      ∀ p, Revised p (Publishes p works (idle s supply)) s t := by
  induction works generalizing s with
  | nil => exact ⟨s, rfl, fun p => .refl p s⟩
  | cons k rest ih =>
    obtain ⟨t₁, e₁, first⟩ := revised_run s supply k
    obtain ⟨t₂, e₂, others⟩ := ih t₁
    refine ⟨t₂, ?_, fun p => ?_⟩
    · show serve rest (k.program.run (idle s supply)).2 = _
      rw [e₁, e₂]
    · rw [Publishes, e₁]
      exact (first p).trans (others p)

/-! ## §4 Copies -/

/-- Where a copy is accepted, its version is the one that is stored. -/
theorem stamp_of_save {x : Row} (ok : ((amid s t supply).save x).1 = .ok ()) :
    t.stamp x.place = x.version := (save_ok_iff.1 ok).version

/-- The row at the place of `r` in the working copy is `r`. -/
def Stores (r : Row) (w : World) : Prop := ∃ t ∈ w.working, t.row? r.place = some r

/-- A copy that is accepted after revisions from where it was made was not revised at all. -/
theorem stores_of_accepted {x : Row} {a : Prop} (stored : s.row? r.place = some r)
    (revised : Revised r.place a s t) (place : x.place = r.place) (version : x.version = r.version)
    (ok : ((amid u t supply).save x).1 = .ok ()) :
    ¬a ∧ Stores r (amid u t supply) := by
  have now : t.stamp r.place = r.version := by rw [← place, stamp_of_save ok, version]
  obtain ⟨not, same⟩ := revised.unwritten (now.trans (State.stamp_of_row? stored).symm)
  exact ⟨not, t, rfl, same.trans stored⟩

/-- The tables that a unit of work starts from have the row already, if the unit did not save it. -/
theorem row?_of_unwritten {deeds : List Deed} (e : within deeds (amid s s supply) = amid s t supply)
    (not : ¬Writes p deeds (amid s s supply)) : s.row? p = t.row? p := by
  obtain ⟨t', e', revised⟩ := revised_within s s supply deeds
  have same : t' = t := Option.some.inj (congrArg World.working (e'.symm.trans e))
  rcases revised p with ⟨wrote, -⟩ | ⟨-, same'⟩
  · exact absurd wrote not
  · exact (same ▸ same').symm

/-- The same, over units of work that end and the steps of another one. -/
theorem stores_of_accepted_later (supply : Supply) {x : Row} {a : Prop}
    (stored : s.row? r.place = some r) (revised : Revised r.place a s t)
    (place : x.place = r.place) (version : x.version = r.version)
    {between : List Work} {deeds : List Deed}
    (ok : ((within deeds (opened (serve between (idle t supply)))).save x).1 = .ok ()) :
    ¬a ∧ ¬Publishes r.place between (idle t supply) ∧
      ¬Writes r.place deeds (opened (serve between (idle t supply))) ∧
      Stores r (within deeds (opened (serve between (idle t supply)))) := by
  obtain ⟨t₁, e₁, ended⟩ := revised_serve t supply between
  have begun : opened (serve between (idle t supply)) = amid t₁ t₁ supply := congrArg opened e₁
  obtain ⟨t₂, e₂, stepped⟩ := revised_within t₁ t₁ supply deeds
  rw [begun, e₂] at ok ⊢
  have all := (revised.trans (ended r.place)).trans (stepped r.place)
  obtain ⟨not, stores⟩ := stores_of_accepted stored all place version ok
  exact ⟨fun h => not (.inl (.inl h)), fun h => not (.inl (.inr h)), fun h => not (.inr h), stores⟩

theorem within_sound (h : s.Sound) (supply : Supply) (deeds : List Deed) :
    ∃ t, within deeds (amid s s supply) = amid s t supply ∧ t.Sound := by
  obtain ⟨t, e, -⟩ := revised_within s s supply deeds
  have start : (amid s s supply).Holds State.Sound := ⟨h, fun t ht => Option.some.inj ht ▸ h⟩
  have holds := start.passes (fun _ _ h a => h.put a) (steps false deeds) _
    (Program.end_mem_passes _ _)
  exact ⟨t, e, holds.2 t (congrArg World.working e)⟩

section Copies

variable {earlier later deeds : List Deed} {d : Deed} {x : Row} {between : List Work}

/-- The working copy before the step that hands out `r`, and after it. -/
theorem exists_copied (yields : d.Yields (within earlier (opened (idle s supply))) r) :
    ∃ t₀ t₁, within earlier (amid s s supply) = amid s t₀ supply ∧
      within [d] (amid s t₀ supply) = amid s t₁ supply ∧ t₁.row? r.place = some r := by
  obtain ⟨t₀, e₀, -⟩ := revised_within s s supply earlier
  have begun : within earlier (opened (idle s supply)) = amid s t₀ supply := e₀
  rw [begun] at yields
  obtain ⟨t₁, e₁, stored⟩ := row?_of_yields yields
  exact ⟨t₀, t₁, e₀, e₁, stored⟩

/-- A copy that is accepted in the unit of work that it is from. -/
theorem accepted_in_unit (yields : d.Yields (within earlier (opened (idle s supply))) r)
    (place : x.place = r.place) (version : x.version = r.version) :
    let copied := within (earlier ++ [d]) (opened (idle s supply))
    ((within later copied).save x).1 = .ok () →
      ¬Writes r.place later copied ∧ Stores r (within later copied) := by
  obtain ⟨t₀, t₁, e₀, e₁, stored⟩ := exists_copied yields
  obtain ⟨t₂, e₂, rest⟩ := revised_within s t₁ supply later
  intro copied ok
  have copied_eq : copied = amid s t₁ supply := by
    show within (earlier ++ [d]) (amid s s supply) = _
    rw [within_append, e₀, e₁]
  rw [copied_eq, e₂] at ok ⊢
  exact stores_of_accepted stored (rest _) place version ok

/-- A copy that is accepted after its unit of work was committed. -/
theorem accepted_after_commit (yields : d.Yields (within earlier (opened (idle s supply))) r)
    (place : x.place = r.place) (version : x.version = r.version) :
    let ended := ((program ⟨earlier ++ d :: later, true⟩).run (idle s supply)).2
    let again := opened (serve between ended)
    ((within deeds again).save x).1 = .ok () →
      ¬Writes r.place later (within (earlier ++ [d]) (opened (idle s supply))) ∧
        ¬Publishes r.place between ended ∧ ¬Writes r.place deeds again ∧
        Stores r (within deeds again) := by
  obtain ⟨t₀, t₁, e₀, e₁, stored⟩ := exists_copied yields
  obtain ⟨t₂, e₂, rest⟩ := revised_within s t₁ supply later
  have copied : within (earlier ++ [d]) (opened (idle s supply)) = amid s t₁ supply := by
    show within (earlier ++ [d]) (amid s s supply) = _
    rw [within_append, e₀, e₁]
  have all : within (earlier ++ d :: later) (amid s s supply) = amid s t₂ supply := by
    rw [within_append, within_cons, e₀, e₁, e₂]
  intro ended
  have ended_eq : ended = idle t₂ supply := run_of_within all
  rw [ended_eq, copied]
  exact stores_of_accepted_later supply stored (rest _) place version

/--
A copy that is accepted after its unit of work was dropped. Nothing of that unit
stayed, but what it found before it saved the row was there already.
-/
theorem accepted_after_drop (yields : d.Yields (within earlier (opened (idle s supply))) r)
    (place : x.place = r.place) (version : x.version = r.version)
    (found : ∃ c look, d = .find c look)
    (unsaved : ¬Writes r.place earlier (opened (idle s supply))) :
    let ended := ((program ⟨earlier ++ d :: later, false⟩).run (idle s supply)).2
    let again := opened (serve between ended)
    ((within deeds again).save x).1 = .ok () →
      ¬Publishes r.place between ended ∧ ¬Writes r.place deeds again ∧
        Stores r (within deeds again) := by
  obtain ⟨t₀, t₁, e₀, e₁, stored⟩ := exists_copied yields
  obtain ⟨c, look, rfl⟩ := found
  have same : t₁ = t₀ := Option.some.inj
    (congrArg World.working (e₁.symm.trans (within_find look)))
  have before : s.row? r.place = some r := (row?_of_unwritten e₀ unsaved).trans (same ▸ stored)
  intro ended
  have ended_eq : ended = idle s supply := run_dropped _
  rw [ended_eq]
  exact fun ok => (stores_of_accepted_later supply before (.refl _ s) place version ok).2

end Copies

/-- Where there is a row, its version is above zero. -/
theorem row?_of_accepted_zero (h : s.Sound) {deeds : List Deed} {x : Row} (zero : x.version = 0)
    (ok : ((within deeds (amid s s supply)).save x).1 = .ok ()) :
    ∀ t ∈ (within deeds (amid s s supply)).working, t.row? x.place = none := by
  obtain ⟨t, e, sound⟩ := within_sound h supply deeds
  rw [e] at ok ⊢
  rintro _ ⟨⟩
  have stamp := stamp_of_save ok
  cases hr : t.row? x.place with
  | none => rfl
  | some y =>
    have := sound.versions hr
    rw [State.stamp_of_row? hr] at stamp
    omega

/--
On a store that was empty at first, the client gets a copy `r` at step `d` of a
unit of work, and later saves `x`: the copy with any changes, but with its
identifier and version. If that succeeds in the same unit of work, no step in
between saved the row, and what `x` replaces is `r` itself. The same is true of
a later unit of work if the first one was committed, or if `d` found the row
before the first one saved it: none of the steps in between that count saved
the row. And what has version zero is only accepted where there is no row.
-/
theorem no_lost_update (supply : Supply) :
    (∀ (before : List Work) (earlier later : List Deed) (d : Deed) (r x : Row),
      let start := serve before (idle .empty supply)
      let copied := within (earlier ++ [d]) (opened start)
      d.Yields (within earlier (opened start)) r → x.place = r.place → x.version = r.version →
        (((within later copied).save x).1 = .ok () →
          ¬Writes r.place later copied ∧ Stores r (within later copied)) ∧
        ∀ (commits : Bool) (between : List Work) (deeds : List Deed),
          let ended := ((program ⟨earlier ++ d :: later, commits⟩).run start).2
          let again := opened (serve between ended)
          commits = true ∨ (∃ c look, d = .find c look) ∧ ¬Writes r.place earlier (opened start) →
          ((within deeds again).save x).1 = .ok () →
            (commits = true → ¬Writes r.place later copied) ∧ ¬Publishes r.place between ended ∧
              ¬Writes r.place deeds again ∧ Stores r (within deeds again)) ∧
    ∀ (works : List Work) (deeds : List Deed) (x : Row),
      let now := within deeds (opened (serve works (idle .empty supply)))
      x.version = 0 → (now.save x).1 = .ok () → ∀ t ∈ now.working, t.row? x.place = none := by
  refine ⟨?_, ?_⟩
  · intro before earlier later d r x
    obtain ⟨s, hs, -⟩ := revised_serve .empty supply before
    rw [hs]
    intro start copied yields place version
    refine ⟨accepted_in_unit yields place version, ?_⟩
    intro commits between deeds ended again fair ok
    cases commits with
    | true =>
      obtain ⟨spared, others⟩ := accepted_after_commit yields place version ok
      exact ⟨fun _ => spared, others⟩
    | false =>
      obtain ⟨found, unsaved⟩ := fair.resolve_left nofun
      exact ⟨nofun, accepted_after_drop yields place version found unsaved ok⟩
  · intro works deeds x now zero ok
    obtain ⟨s, hs, sound, -⟩ := serve_idle supply works State.Sound.empty State.Bounded.empty
    have now_eq : now = within deeds (amid s s supply) := by
      show within deeds (opened (serve works _)) = _
      rw [hs]
      rfl
    rw [now_eq] at ok ⊢
    exact row?_of_accepted_zero sound zero ok

/--
A copy is found in a unit of work that saves the workspace afterwards and is then
dropped; with another name, the copy is still accepted.
-/
theorem no_lost_update_dropped :
    let fresh : Workspace := .fresh (.ofNat 1) ⟨0⟩ "N" .personal
    let r : Row := (Row.workspace fresh).saved
    let x : Row := .workspace { fresh with name := "M", version := 1 }
    let start := serve [⟨[.save (.workspace fresh)], true⟩] (idle .empty .counting)
    let d : Deed := .find (.findWorkspace (.ofNat 1) .all) rfl
    let ended := ((program ⟨[] ++ d :: [.save r], false⟩).run start).2
    let between : List Work := [⟨[.save (.workspace (.fresh (.ofNat 2) ⟨0⟩ "K" .personal))], true⟩]
    let again := opened (serve between ended)
    d.Yields (within [] (opened start)) r ∧ ((within [] again).save x).1 = .ok () ∧
      ¬Publishes r.place between ended ∧ Stores r (within [] again) := by
  intro fresh r x start d ended between again
  have yields : d.Yields (within [] (opened start)) r := ⟨some _, rfl, rfl⟩
  have ok : ((within [] again).save x).1 = .ok () := rfl
  have copy := (no_lost_update .counting).1 [⟨[.save (.workspace fresh)], true⟩] [] [.save r] d r x
    yields rfl rfl
  obtain ⟨-, spared, -, stores⟩ := copy.2 false between [] (.inr ⟨⟨_, rfl, rfl⟩, id⟩) ok
  exact ⟨yields, ok, spared, stores⟩

end Work

end Roster
