/-
Roster.Proofs.Service.Deletion — a deleted workspace is dead for good.

To every call that acts on it, or looks at it, a deleted workspace is as one
that does not exist (`Dead`, §1). The calls that do not act on it leave it alone,
as any other workspace they are not about; and no new workspace takes its place,
since its row is still there (`spared_deleted`, §2). So its row, its memberships
and their number stay as they were at the deletion, whatever is called later
(`deleted_frozen`).
-/
import Mathlib.Data.List.Nodup
import Roster.Proofs.Service.Views

namespace Roster

open Store (State Row)
open World (idle)
open Service (Office Command)

/-! ## §1 A workspace that nobody finds -/

namespace Store.State

variable {s t : State} {workspace user : Uuid} {x : Workspace}

theorem find?_of_mem_workspaces (hx : x ∈ s.workspaces.rows) :
    s.workspaces.find? x.id = some x := Table.find?_eq_some.2 ⟨hx, rfl⟩

theorem workspace?_of_deleted (hx : x ∈ s.workspaces.rows) (dead : x.isActive = false) :
    s.workspace? x.id .active = none := by
  cases found : s.workspace? x.id .active with
  | none => rfl
  | some y =>
    obtain ⟨hy, same, lives⟩ := workspace?_active.1 found
    rw [Table.eq_of_mem hy hx same, dead] at lives
    cases lives

/-- No list of details has it. -/
theorem ne_of_mem_detailsFor (missing : s.workspace? workspace .active = none)
    {only : Option Uuid} {d : WorkspaceDetails} (hd : d ∈ s.detailsFor user only) :
    d.workspace ≠ workspace := by
  rintro rfl
  obtain ⟨m, -, created, joined⟩ := mem_detailsFor.1 hd
  obtain ⟨x, found, -⟩ := details?_eq_some.1 joined
  rw [← workspace_of_details? joined, missing] at found
  cases found

theorem detailsFor_of_missing (missing : s.workspace? workspace .active = none) (user : Uuid) :
    s.detailsFor user (some workspace) = [] := by
  refine List.eq_nil_iff_forall_not_mem.2 fun d hd => ?_
  exact ne_of_mem_detailsFor missing hd (mem_detailsFor_some.1 hd).2

/-- A workspace that is spared by everyone keeps its row. -/
theorem Spared.mem_workspaces (k : s.Spared x.id (fun _ => False) t)
    (hx : x ∈ s.workspaces.rows) : x ∈ t.workspaces.rows :=
  (Table.find?_eq_some.1 (k.row.trans (find?_of_mem_workspaces hx))).1

/-- It keeps its memberships, none more and none less. -/
theorem Spared.mem_memberships (k : s.Spared workspace (fun _ => False) t) {m : Membership}
    (hw : m.workspace = workspace) : m ∈ t.memberships.rows ↔ m ∈ s.memberships.rows := by
  have rows : t.memberRow? workspace m.id = s.memberRow? workspace m.id := by
    rcases k.members m.id with e | ⟨n, now, -, -, -, left, -⟩
    · exact e
    · exact left.elim
  have stored (u : State) : u.memberRow? workspace m.id = some m ↔ m ∈ u.memberships.rows :=
    memberRow?_eq_some.trans ⟨fun h => h.1, fun h => ⟨h, rfl, hw⟩⟩
  rw [← stored, ← stored, rows]

theorem Spared.memberCount (k : s.Spared workspace (fun _ => False) t) :
    t.memberCount workspace = s.memberCount workspace := by
  have nodup (u : State) : (u.activeMembers workspace).Nodup :=
    (List.Nodup.of_map _ u.memberships.nodup).filter _
  refine ((List.perm_ext_iff_of_nodup (nodup t) (nodup s)).2 fun m => ?_).length_eq
  simp only [activeMembers, List.mem_filter, decide_eq_true_eq]
  exact and_congr_left fun h => k.mem_memberships h.1

end Store.State

namespace Service

open Store.State (workspace?_of_deleted ne_of_mem_detailsFor detailsFor_of_missing)

variable {s : State} {supply : Supply} {workspace : Uuid} {actor : Identity} {x : Workspace}

/-- The table refuses every change of it. -/
theorem decide_of_missing (missing : s.workspace? workspace .active = none) (user : Uuid)
    (wish : Change) : s.roll.decide workspace user wish = .error .workspaceNotFound := by
  have status : s.roll.status workspace ≠ .active := by
    intro lives
    obtain ⟨w, found⟩ := State.status_eq_active.1 lives
    rw [missing] at found
    cases found
  cases wish <;> rw [Roll.decide, Roll.enter, Roll.check, if_neg status] <;> rfl

theorem authorize_of_missing (missing : s.workspace? workspace .active = none) (p : Permission)
    (text : String) : s.authorize workspace actor p text = .error .workspaceNotFound := by
  rw [State.authorize, missing]

/-- How calls about the workspace are answered, none of which changes anything. -/
structure Dead (o : Office) (workspace : Uuid) (actor : Identity) (w : World) : Prop where
  change : ∀ wish, o.carry (.change workspace actor wish) w = (.error .workspaceNotFound, w)
  update : ∀ name type,
    o.carry (.update workspace actor name type) w = (.error .workspaceNotFound, w)
  delete : o.carry (.delete workspace actor) w = (.error .workspaceNotFound, w)
  check : ∀ permission, o.carry (.check workspace actor permission) w = (.ok false, w)
  details : o.carry (.details workspace actor) w =
    (.error (.notAMember "You are not a member of this workspace"), w)
  list : ∃ all, o.carry (.list actor) w = (.ok all, w) ∧ ∀ d ∈ all, d.workspace ≠ workspace

theorem dead_of_missing (h : s.Sound) (missing : s.workspace? workspace .active = none)
    (o : Office) (actor : Identity) : Dead o workspace actor (idle s supply) where
  change wish := by
    rcases change_enacted h supply workspace actor wish with ⟨f, decided, run⟩ | ⟨v, decided, -⟩
    · rw [decide_of_missing missing] at decided
      cases decided
      exact run
    · rw [decide_of_missing missing] at decided
      cases decided
  update name type := by
    rw [Office.carry, Command.action, run_update, authorize_of_missing missing]
  delete := by rw [Office.carry, Command.action, run_delete, authorize_of_missing missing]
  check permission := by
    rw [Office.carry, Command.action, run_checkPermission, missing]
    rfl
  details := by
    rw [Office.carry, Command.action, run_details, detailsFor_of_missing missing]
    rfl
  list := ⟨_, run_list, fun _ => ne_of_mem_detailsFor missing⟩

/-! ## §2 It stays as it is -/

/-- A call leaves a deleted workspace and its memberships alone. -/
theorem spared_deleted (h : s.Sound) (hx : x ∈ s.workspaces.rows) (dead : x.isActive = false)
    (o : Office) (c : Command) (supply : Supply) :
    s.Spared x.id (fun _ => False) (o.carry c (idle s supply)).2.published := by
  have missing := workspace?_of_deleted hx dead
  by_cases acts : ∃ user, c.ActsOn x.id user
  · obtain ⟨user, acts⟩ := acts
    cases c with
    | update w actor name type =>
      obtain ⟨rfl, -⟩ := acts
      rw [(dead_of_missing h missing o actor).update]
      exact .refl ..
    | delete w actor =>
      obtain ⟨rfl, -⟩ := acts
      rw [(dead_of_missing h missing o actor).delete]
      exact .refl ..
    | change w actor wish =>
      obtain ⟨rfl, -⟩ := acts
      rw [(dead_of_missing h missing o actor).change]
      exact .refl ..
    | _ => exact absurd acts not_false
  -- Nobody acts on it, and founding a workspace does not reuse an identifier that has a row.
  · have stored : s.roll.status x.id ≠ .absent := by
      show s.status x.id ≠ .absent
      rw [State.status, State.find?_of_mem_workspaces hx]
      simp [dead]
    exact spared_of_aloof h o c supply stored (fun user a => acts ⟨user, a⟩) _

/-- So do any calls. -/
theorem spared_after_deletion (h : s.Sound) (hx : x ∈ s.workspaces.rows)
    (dead : x.isActive = false) (o : Office) (cs : List Command) (supply : Supply) :
    s.Spared x.id (fun _ => False) (o.after cs (idle s supply)).published := by
  induction cs generalizing s supply with
  | nil => exact .refl ..
  | cons c cs ih =>
    obtain ⟨later, e⟩ := carry_idle o c s supply
    rw [Office.after_cons, e]
    have first := spared_deleted h hx dead o c supply
    exact first.trans (ih (o.sound_carry c supply h) (first.mem_workspaces hx) later)

/--
After any calls, let a workspace be deleted, and let any calls follow. Its row
and its memberships are still the same, and so is the number of its members. No
call changes it, whoever makes it: changes are refused as if it did not exist,
nobody is permitted anything in it, and nobody is shown it.
-/
theorem deleted_frozen (o : Office) (supply : Supply) (before after : List Command)
    (x : Workspace)
    (stored : x ∈ (o.after before (idle .empty supply)).published.workspaces.rows)
    (dead : x.isActive = false) :
    let w := o.after before (idle .empty supply)
    let v := o.after after w
    x ∈ v.published.workspaces.rows ∧
    (∀ m : Membership, m.workspace = x.id →
      (m ∈ v.published.memberships.rows ↔ m ∈ w.published.memberships.rows)) ∧
    o.carry (.count x.id) v = (.ok (w.published.memberCount x.id), v) ∧
    ∀ actor, Dead o x.id actor v := by
  intro w v
  have sound : w.published.Sound := o.sound_after before supply
  obtain ⟨s, later, there, -⟩ := o.after_idle before .empty supply
  have here : w = idle s later := there
  have stored : x ∈ w.published.workspaces.rows := stored
  simp only [v]
  rw [here] at sound stored ⊢
  rw [World.idle_published] at sound stored ⊢
  have spared := spared_after_deletion sound stored dead o after later
  obtain ⟨t, last, e, -⟩ := o.after_idle after s later
  have sound' : (o.after after (idle s later)).published.Sound :=
    o.after_keeps (fun c _ supply h => (c.action o).keeps (fun _ _ h a => h.put a) supply h) after
      later sound
  rw [e] at spared sound' ⊢
  have kept := spared.mem_workspaces stored
  refine ⟨kept, fun m hw => spared.mem_memberships hw, ?_, fun actor => ?_⟩
  · rw [Office.carry, Command.action, run_count, ← spared.memberCount]
    rfl
  · exact dead_of_missing sound' (workspace?_of_deleted kept dead) o actor

/-- To the founder who deleted it, a workspace is dead, whatever else they found later. -/
theorem deleted_frozen_founder :
    let founder : Identity := ⟨.ofNat 7, "f@b"⟩
    let before : List Command := [.create "Acme" .team founder, .delete (.ofNat 0) founder]
    let after : List Command := [.signup "N" "n@b" "p", .create "Bolt" .team founder]
    let w := Office.small.after before (idle .empty .counting)
    let v := Office.small.after after w
    ∃ x ∈ w.published.workspaces.rows, x.isActive = false ∧ Dead .small x.id founder v := by
  intro founder before after w v
  have deleted : ∃ x ∈ w.published.workspaces.rows, x.isActive = false := by decide +kernel
  obtain ⟨x, stored, dead⟩ := deleted
  obtain ⟨-, -, -, refused⟩ := deleted_frozen .small .counting before after x stored dead
  exact ⟨x, stored, dead, refused founder⟩

end Service

end Roster
