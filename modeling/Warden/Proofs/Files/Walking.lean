/-
Where steps lead.

# Contents

`FileSystem.Leads` says that steps lead from a place to another, without a
word about how one finds out: a step leads on from where it ends, or, if
there is a symbolic link, from where the link stands along its path, with
one link fewer left to follow. It is what a walk does (`leads_iff`).

What was walked does not depend on the steps that follow: one more step is
taken from where the others led (`Leads.walkOver_concat`). A step that
stays may be left out where another one follows, for that is taken from
the same directory (`walk_components`).

A directory is found (`Finds`) if the steps to it lead to something.

# What a walk looks at

`passedOver` lists the places that steps pass, and these are all that a
walk looks at: files that have the same there are walked alike
(`Leads.congr`).
-/
import Warden.Proofs.Path

namespace Warden

open Text Warden.Path

namespace FileSystem

/-- Steps lead from a place to another, over so many links at most. -/
inductive Leads (files : FileSystem) : Nat → Place → List Step → Place → Prop where
  | done {links : Nat} {place : Place} : Leads files links place [] place
  | next {links : Nat} {place middle goal : Place} {s : Step} {rest : List Step}
      (hstep : files.step place s = .ok middle) (hplain : files.link? middle = none)
      (hrest : Leads files links middle rest goal) : Leads files links place (s :: rest) goal
  | link {links : Nat} {place middle goal : Place} {s : Step} {rest : List Step} {dest : String}
      (hstep : files.step place s = .ok middle) (hlink : files.link? middle = some dest)
      (hrest : Leads files links place (steps dest ++ rest) goal) :
      Leads files (links + 1) place (s :: rest) goal

/-- Steps lead, over no more links than are followed, to something. -/
structure Finds (files : FileSystem) (l : List Step) (place : Place) : Prop where
  leads : files.Leads maxLinks (files.origin l) l place
  there : (files.node place).isSome = true

variable {files others : FileSystem} {links : Nat} {place middle goal : Place} {s : Step}
  {l rest : List Step} {name dest : String}

-- ================================================================= one step

/-- Every step but that to the root starts from a directory. -/
theorem step_eq_ok_iff {next : Place} :
    files.step place s = .ok next
      ↔ next = move place s ∧ (s ≠ .root → files.node place = some .directory)
        ∧ ∀ name, s = .into name → name.utf8ByteSize ≤ maxName := by
  cases s with
  | root => simp [step, move, eq_comm]
  | here => rcases hnode : files.node place with _ | _ | _ <;> simp [step, hnode, move, eq_comm]
  | up => rcases hnode : files.node place with _ | _ | _ <;> simp [step, hnode, move, eq_comm]
  | into name =>
      rcases hnode : files.node place with _ | _ | _
      · simp [step, hnode]
      · simp [step, hnode]
      · by_cases hlong : name.utf8ByteSize > maxName
        · simp [step, hnode, hlong]
        · simp [step, hnode, hlong, Nat.le_of_not_lt hlong, move, eq_comm]
      · simp [step, hnode]
      · simp [step, hnode]

/-- A step is decided by what is at its start. -/
theorem step_congr (h : others.node place = files.node place) (s : Step) :
    others.step place s = files.step place s := by
  simp only [step, h]

/-- Whether there is a link is decided by what is at the place. -/
theorem link?_congr (h : others.node place = files.node place) :
    others.link? place = files.link? place := by
  simp only [link?, h]

theorem link?_eq_some_iff : files.link? place = some dest ↔ files.node place = some (.link dest) := by
  rcases hnode : files.node place with _ | _ | _ | _ | _ <;> simp [link?, hnode]

/-- A directory is no link. -/
theorem link?_of_directory (h : files.node place = some .directory) : files.link? place = none := by
  simp only [link?, h]

/-- Where one cannot stay, one cannot go on. -/
theorem step_of_step_here_eq_error {e : ReadError} (h : files.step place .here = .error e)
    (hs : s ≠ .root) : files.step place s = .error e := by
  unfold step at h ⊢
  rcases hnode : files.node place with _ | _ | _ <;> cases s <;> simp_all

-- ================================================================ the walk

theorem walkOver_nil : files.walkOver links place [] = .ok place := by
  cases links <;> rfl

/-- A walk ends with the first step that fails. -/
theorem walkOver_of_error {e : ReadError} (hstep : files.step place s = .error e) :
    files.walkOver links place (s :: rest) = .error e := by
  cases links <;> simp [walkOver, walkWith, hstep, bind, Except.bind]

/-- A step to what is no link leads on from there. -/
theorem walkOver_of_plain (hstep : files.step place s = .ok middle)
    (hplain : files.link? middle = none) :
    files.walkOver links place (s :: rest) = files.walkOver links middle rest := by
  cases links <;> simp [walkOver, walkWith, hstep, hplain, bind, Except.bind]

/-- A step to a link leads on along its path, from where the link stands,
with one link fewer to follow. -/
theorem walkOver_of_link (hstep : files.step place s = .ok middle)
    (hlink : files.link? middle = some dest) :
    files.walkOver (links + 1) place (s :: rest)
      = files.walkOver links place (steps dest ++ rest) := by
  simp [walkOver, walkWith, hstep, hlink, bind, Except.bind]

/-- Where every link is followed as it leads, a walk ends where its steps
lead. -/
theorem leads_of_walkWith {follow : Place → List Step → Except ReadError Place}
    (hfollow : ∀ {place l goal}, follow place l = .ok goal →
      ∃ fewer, links = fewer + 1 ∧ files.Leads fewer place l goal) :
    ∀ {l place goal}, files.walkWith follow place l = .ok goal →
      files.Leads links place l goal := by
  intro l
  induction l with
  | nil =>
      intro place goal h
      cases h
      exact .done
  | cons s rest ih =>
      intro place goal h
      rw [walkWith] at h
      cases hstep : files.step place s with
      | error e =>
          rw [hstep] at h
          cases h
      | ok middle =>
          rw [hstep] at h
          simp only [bind, Except.bind] at h
          cases hlink : files.link? middle with
          | none =>
              rw [hlink] at h
              exact .next hstep hlink (ih h)
          | some dest =>
              rw [hlink] at h
              obtain ⟨fewer, rfl, hleads⟩ := hfollow h
              exact .link hstep hlink hleads

theorem leads_of_walkOver_eq_ok :
    files.walkOver links place l = .ok goal → files.Leads links place l goal := by
  induction links generalizing place l goal with
  | zero => exact leads_of_walkWith (by nofun)
  | succ links ih => exact leads_of_walkWith fun h => ⟨links, rfl, ih h⟩

/-- A walk over so many links ends where its steps lead over so many. -/
theorem leads_iff : files.walkOver links place l = .ok goal ↔ files.Leads links place l goal := by
  refine ⟨leads_of_walkOver_eq_ok, fun h => ?_⟩
  induction h with
  | done => exact walkOver_nil
  | next hstep hplain _ ih => rw [walkOver_of_plain hstep hplain, ih]
  | link hstep hlink _ ih => rw [walkOver_of_link hstep hlink, ih]

/-- One more step is taken from where the others lead. -/
theorem Leads.walkOver_concat (h : files.Leads links place l goal)
    (hplain : ∀ next, files.step goal s = .ok next → files.link? next = none) :
    files.walkOver links place (l ++ [s]) = files.step goal s := by
  induction h with
  | @done links place =>
      rw [List.nil_append]
      cases hstep : files.step place s with
      | error e => exact walkOver_of_error hstep
      | ok next => rw [walkOver_of_plain hstep (hplain next hstep), walkOver_nil]
  | next hstep hlink _ ih => rw [List.cons_append, walkOver_of_plain hstep hlink, ih hplain]
  | link hstep hlink _ ih =>
      rw [List.cons_append, walkOver_of_link hstep hlink, ← List.append_assoc, ih hplain]

/-- Steps that start elsewhere than at a link end there. -/
theorem Leads.link?_eq_none (h : files.Leads links place l goal)
    (hplain : files.link? place = none) : files.link? goal = none := by
  induction h with
  | done => exact hplain
  | next _ hmiddle _ ih => exact ih hmiddle
  | link _ _ _ ih => exact ih hplain

/-- To stay at the end takes a directory. -/
theorem Leads.directory_of_here (h : files.Leads links place l goal)
    (hlast : l.getLast? = some .here) : files.node goal = some .directory := by
  induction h with
  | done => cases hlast
  | @next links place middle goal s rest hstep _ hrest ih =>
      cases rest with
      | cons t later => exact ih (by rwa [List.getLast?_cons_cons] at hlast)
      | nil =>
          obtain rfl : s = .here := by simpa using hlast
          obtain ⟨rfl, hdirectory, -⟩ := step_eq_ok_iff.mp hstep
          cases hrest
          exact hdirectory (by decide)
  | @link links place middle goal s rest dest hstep hlink _ ih =>
      cases rest with
      | cons t later =>
          refine ih ?_
          rw [List.getLast?_cons_cons] at hlast
          rw [List.getLast?_append, hlast]
          rfl
      | nil =>
          obtain rfl : s = .here := by simpa using hlast
          obtain ⟨rfl, hdirectory, -⟩ := step_eq_ok_iff.mp hstep
          rw [link?_of_directory (hdirectory (by decide))] at hlink
          cases hlink

-- ========================================================= steps that stay

/-- From a place where one can stay, staying first changes nothing; from
another, the next step fails alike. -/
theorem walkOver_here (hs : s ≠ .root) :
    files.walkOver links place (.here :: s :: rest) = files.walkOver links place (s :: rest) := by
  cases hstep : files.step place .here with
  | error e => rw [walkOver_of_error hstep, walkOver_of_error (step_of_step_here_eq_error hstep hs)]
  | ok next =>
      obtain ⟨rfl, hdirectory, -⟩ := step_eq_ok_iff.mp hstep
      rw [walkOver_of_plain hstep (link?_of_directory (hdirectory (by decide)))]

/-- The step of the induction over the links: what is walked alike from
everywhere is so after any steps, if it is so wherever a link is followed. -/
theorem walkWith_append_congr {m : List Step} {follow : Place → List Step → Except ReadError Place}
    (hfollow : ∀ place p, follow place (p ++ l) = follow place (p ++ m))
    (h : ∀ place, files.walkWith follow place l = files.walkWith follow place m) :
    ∀ (p : List Step) (place : Place),
      files.walkWith follow place (p ++ l) = files.walkWith follow place (p ++ m) := by
  intro p
  induction p with
  | nil => exact h
  | cons s rest ih =>
      intro place
      simp only [List.cons_append, walkWith]
      cases hstep : files.step place s with
      | error e => rfl
      | ok middle =>
          simp only [bind, Except.bind]
          cases files.link? middle with
          | none => exact ih middle
          | some dest =>
              dsimp only
              rw [← List.append_assoc, ← List.append_assoc]
              exact hfollow place (steps dest ++ rest)

/-- Steps that are walked alike from everywhere may stand for each other
after any steps. -/
theorem walkOver_append_congr {m : List Step}
    (h : ∀ links place, files.walkOver links place l = files.walkOver links place m)
    (p : List Step) : files.walkOver links place (p ++ l) = files.walkOver links place (p ++ m) := by
  induction links generalizing place p with
  | zero =>
      refine walkWith_append_congr ?_ ?_ p place
      · exact fun _ _ => rfl
      · exact h 0
  | succ links ih =>
      refine walkWith_append_congr ?_ ?_ p place
      · exact fun _ p => ih p
      · exact h (links + 1)

/-- The steps that stay may be left out, but for one at the end. -/
theorem walkOver_filter (hroot : .root ∉ l) (hlast : l.getLast? ≠ some .here) :
    files.walkOver links place l = files.walkOver links place (l.filter (· ≠ .here)) := by
  induction l generalizing links place with
  | nil => rfl
  | cons s rest ih =>
      obtain ⟨-, hrest⟩ := not_or.mp (mt List.mem_cons.mpr hroot)
      by_cases hstay : s = .here
      case neg =>
        have hlater : rest.getLast? ≠ some .here := by
          intro heq
          rw [List.getLast?_cons, heq] at hlast
          exact hlast rfl
        rw [List.filter_cons_of_pos (by simpa using hstay)]
        exact walkOver_append_congr (fun _ _ => ih hrest hlater) [s]
      case pos =>
        subst hstay
        cases rest with
        | nil => exact absurd rfl hlast
        | cons t later =>
            have ht : t ≠ .root := fun heq => hrest (heq ▸ List.mem_cons_self)
            rw [List.getLast?_cons_cons] at hlast
            rw [List.filter_cons_of_neg (by simp), walkOver_here ht, ih hrest hlast]

/-- Unless a path ends in a step that stays, its components are walked as
its steps are. -/
theorem walk_components {path : String} (hlast : (steps path).getLast? ≠ some .here) :
    files.walk (components path) = files.walk (steps path) := by
  cases hsteps : steps path with
  | nil => rw [components, hsteps]; rfl
  | cons first rest =>
      rw [components_of_steps_eq_cons hsteps]
      have horigin : files.origin (first :: rest.filter (· ≠ .here)) = files.origin (first :: rest) := by
        cases first <;> rfl
      unfold walk
      rw [horigin]
      cases rest with
      | nil => rfl
      | cons second later =>
          rw [hsteps, List.getLast?_cons_cons] at hlast
          exact (walkOver_append_congr
            (fun _ _ => walkOver_filter (root_notMem_of_steps_eq_cons hsteps) hlast) [first]).symm

-- ====================================================== what is looked at

theorem passedOver_nil : files.passedOver links place [] = [place] := by
  cases links <;> rfl

/-- A step to what is no link passes nothing but where it starts. -/
theorem passedOver_of_plain (hplain : files.link? (move place s) = none) :
    files.passedOver links place (s :: rest)
      = place :: files.passedOver links (move place s) rest := by
  cases links <;> simp [passedOver, passedWith, hplain]

/-- A step to a link passes the link too. -/
theorem passedOver_of_link (hlink : files.link? (move place s) = some dest) :
    files.passedOver (links + 1) place (s :: rest)
      = place :: move place s :: files.passedOver links place (steps dest ++ rest) := by
  simp [passedOver, passedWith, hlink]

/-- Where steps start is passed. -/
theorem mem_passedOver_self : place ∈ files.passedOver links place l := by
  cases l with
  | nil => rw [passedOver_nil]; exact List.mem_cons_self
  | cons s rest => cases links <;> exact List.mem_cons_self

/-- Steps pass, at last, the place that they lead to. -/
theorem Leads.getLast?_passedOver (h : files.Leads links place l goal) :
    (files.passedOver links place l).getLast? = some goal := by
  induction h with
  | done => rw [passedOver_nil]; rfl
  | next hstep hplain _ ih =>
      obtain ⟨rfl, -, -⟩ := step_eq_ok_iff.mp hstep
      rw [passedOver_of_plain hplain, List.getLast?_cons, ih]
      rfl
  | link hstep hlink _ ih =>
      obtain ⟨rfl, -, -⟩ := step_eq_ok_iff.mp hstep
      rw [passedOver_of_link hlink, List.getLast?_cons, List.getLast?_cons, ih]
      rfl

/-- Where steps lead is passed. -/
theorem Leads.mem_passedOver (h : files.Leads links place l goal) :
    goal ∈ files.passedOver links place l :=
  List.mem_of_getLast? h.getLast?_passedOver

/-- A name that is stepped into is in a place that is passed. -/
theorem Leads.exists_mem_passedOver (h : files.Leads links place l goal)
    (hname : .into name ∈ l) : ∃ q ∈ files.passedOver links place l, name ∈ q := by
  have hstepped (place : Place) : name ∈ move place (.into name) :=
    List.mem_append_right _ List.mem_cons_self
  induction h with
  | done => cases hname
  | next hstep hplain _ ih =>
      obtain ⟨rfl, -, -⟩ := step_eq_ok_iff.mp hstep
      rw [passedOver_of_plain hplain]
      rcases List.mem_cons.mp hname with rfl | hlater
      · exact ⟨_, List.mem_cons_of_mem _ mem_passedOver_self, hstepped _⟩
      · obtain ⟨q, hq, hmem⟩ := ih hlater
        exact ⟨q, List.mem_cons_of_mem _ hq, hmem⟩
  | link hstep hlink _ ih =>
      obtain ⟨rfl, -, -⟩ := step_eq_ok_iff.mp hstep
      rw [passedOver_of_link hlink]
      rcases List.mem_cons.mp hname with rfl | hlater
      · exact ⟨_, List.mem_cons_of_mem _ List.mem_cons_self, hstepped _⟩
      · obtain ⟨q, hq, hmem⟩ := ih (List.mem_append_right _ hlater)
        exact ⟨q, List.mem_cons_of_mem _ (List.mem_cons_of_mem _ hq), hmem⟩

/-- Files that have the same at all the places that steps pass are walked
alike. -/
theorem Leads.congr (h : files.Leads links place l goal)
    (hsame : ∀ q ∈ files.passedOver links place l, others.node q = files.node q) :
    others.Leads links place l goal
      ∧ others.passedOver links place l = files.passedOver links place l := by
  induction h with
  | done => exact ⟨.done, by rw [passedOver_nil, passedOver_nil]⟩
  | @next links place middle goal s rest hstep hplain _ ih =>
      obtain ⟨rfl, -, -⟩ := step_eq_ok_iff.mp hstep
      rw [passedOver_of_plain hplain] at hsame ⊢
      have hmiddle : others.link? (move place s) = none := by
        rw [link?_congr (hsame _ (List.mem_cons_of_mem _ mem_passedOver_self)), hplain]
      obtain ⟨hleads, hpassed⟩ := ih fun q hq => hsame q (List.mem_cons_of_mem _ hq)
      refine ⟨.next ?_ hmiddle hleads, ?_⟩
      · rw [step_congr (hsame place List.mem_cons_self), hstep]
      · rw [passedOver_of_plain hmiddle, hpassed]
  | @link links place middle goal s rest dest hstep hlink _ ih =>
      obtain ⟨rfl, -, -⟩ := step_eq_ok_iff.mp hstep
      rw [passedOver_of_link hlink] at hsame ⊢
      have hmiddle : others.link? (move place s) = some dest := by
        rw [link?_congr (hsame _ (List.mem_cons_of_mem _ List.mem_cons_self)), hlink]
      obtain ⟨hleads, hpassed⟩ := ih fun q hq =>
        hsame q (List.mem_cons_of_mem _ (List.mem_cons_of_mem _ hq))
      refine ⟨.link ?_ hmiddle hleads, ?_⟩
      · rw [step_congr (hsame place List.mem_cons_self), hstep]
      · rw [passedOver_of_link hmiddle, hpassed]

/-- Where steps lead to something, all that they pass is there. Only the
first of them may be to the root, for that is taken from anywhere. -/
theorem Leads.isSome_of_mem_passedOver (h : files.Leads links place l goal)
    (hroot : .root ∉ l.tail) (hplace : (files.node place).isSome = true)
    (hgoal : (files.node goal).isSome = true) :
    ∀ q ∈ files.passedOver links place l, (files.node q).isSome = true := by
  induction h with
  | done =>
      intro q hq
      rw [passedOver_nil] at hq
      rwa [List.mem_singleton.mp hq]
  | @next links place middle goal s rest hstep hplain hrest ih =>
      obtain ⟨rfl, -, -⟩ := step_eq_ok_iff.mp hstep
      have hmiddle : (files.node (move place s)).isSome = true := by
        cases hrest with
        | done => exact hgoal
        | next hstep | link hstep =>
            have hne : _ ≠ Step.root := fun heq => hroot (heq ▸ List.mem_cons_self)
            rw [(step_eq_ok_iff.mp hstep).2.1 hne]
            rfl
      intro q hq
      rw [passedOver_of_plain hplain] at hq
      rcases List.mem_cons.mp hq with rfl | hq
      · exact hplace
      · exact ih (fun hmem => hroot (List.mem_of_mem_tail hmem)) hmiddle hgoal q hq
  | @link links place middle goal s rest dest hstep hlink _ ih =>
      obtain ⟨rfl, -, -⟩ := step_eq_ok_iff.mp hstep
      have hlater : Step.root ∉ (steps dest ++ rest).tail := by
        intro hmem
        cases hsteps : steps dest with
        | nil =>
            rw [hsteps, List.nil_append] at hmem
            exact hroot (List.mem_of_mem_tail hmem)
        | cons t later =>
            rw [hsteps] at hmem
            rcases List.mem_append.mp hmem with hmem | hmem
            · exact root_notMem_of_steps_eq_cons hsteps hmem
            · exact hroot hmem
      intro q hq
      rw [passedOver_of_link hlink] at hq
      rcases List.mem_cons.mp hq with rfl | hq
      · exact hplace
      rcases List.mem_cons.mp hq with rfl | hq
      · rw [link?_eq_some_iff.mp hlink]
        rfl
      · exact ih hlater hplace hgoal q hq

-- ===================================================================== ends

/-- Where steps lead is where they end. -/
theorem Finds.goal_eq (h : files.Finds l place) : files.goal l = place := by
  have hlast : (files.passed l).getLast? = some place := h.leads.getLast?_passedOver
  rw [goal, List.getLastD_eq_getLast?, hlast]
  rfl

/-- What is found is passed. -/
theorem Finds.mem_passed (h : files.Finds l place) : place ∈ files.passed l :=
  h.leads.mem_passedOver

/-- A path with a name of its own means the entry of this name in the
directory that is found. -/
theorem Finds.entry_eq {path : String} (h : files.Finds l place)
    (hname : components path = l ++ [.into name]) : files.entry path = place ++ [name] := by
  obtain ⟨hlast, -⟩ := name?_of_components hname
  have hfront : front path = l := (parent?_of_components hname (by simp)).2
  simp [entry, hlast, hfront, h.goal_eq]

/-- The step after the others does not change where they start. -/
theorem origin_concat (hs : s ≠ .root) : files.origin (l ++ [s]) = files.origin l := by
  cases l with
  | nil => cases s with
    | root => exact absurd rfl hs
    | here | up | into name => rfl
  | cons first rest => cases first <;> rfl

/-- One step from a directory that is found, but for what a link leads to. -/
theorem Finds.walk_concat (h : files.Finds l place) (hs : s ≠ .root)
    (hplain : files.link? (move place s) = none) :
    files.walk (l ++ [s]) = files.step place s := by
  unfold walk
  rw [origin_concat hs]
  refine h.leads.walkOver_concat fun next hnext => ?_
  rwa [(step_eq_ok_iff.mp hnext).1]

end FileSystem

end Warden
