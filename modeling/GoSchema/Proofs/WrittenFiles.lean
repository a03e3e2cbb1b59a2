import GoSchema.Command.Run
import GoSchema.Proofs.MemoryDisk

/-!
# What the written files hold

Sources are written one after the other, each to its path. When all are written, a path holds the text
of the last source whose path leads to the same place. A source is lost when a later one goes to the place
where it stood.

## What is proved

* `Ends.fills`: writing a source fills the place to which its path leads, and keeps what is at other places.
* `HoldsLast.cons` and `LastAt.cons`: how the last source at a place goes on when one more is written.
* `file_stays`, `holdsLast` and `read_eq`: what the disk holds when all sources are written, at their places and at
  all others.

The disk is the one in memory. A session that fails on the way is not followed further: what was written until then
stays written.
-/

namespace GoSchema.Command

/-! ### Sessions on a disk in memory -/

/-- On a disk in memory the session ends with this result. The states hold what was printed, and the disk. -/
def Ends {α : Type} (x : Session (StateM Memory) α) (before : String × Memory) (a : α)
    (after : String × Memory) : Prop :=
  (x.run.run before.1).run before.2 = ((.ok a, after.1), after.2)

variable {α β : Type} {before after : String × Memory}

theorem exists_ends {x : Session (StateM Memory) α}
    (h : ((x.run.run before.1).run before.2).1.1.isOk = true) : ∃ a after, Ends x before a after := by
  unfold Ends
  generalize (x.run.run before.1).run before.2 = result at h ⊢
  obtain ⟨⟨r, printed⟩, m⟩ := result
  cases r with
  | ok a => exact ⟨a, (printed, m), rfl⟩
  | error e => cases h

theorem ends_pure {a b : α} : Ends (pure a) before b after ↔ a = b ∧ before = after := by
  obtain ⟨printed, m⟩ := before
  obtain ⟨printed', m'⟩ := after
  constructor
  · intro h
    cases h
    exact ⟨rfl, rfl⟩
  · rintro ⟨rfl, h⟩
    cases h
    rfl

theorem ends_lift {action : StateM Memory α} {a : α} :
    Ends (liftM (liftM action : StateT String (StateM Memory) α)) before a after ↔
      action.run before.2 = (a, after.2) ∧ after.1 = before.1 := by
  change ((Except.ok (action.run before.2).1, before.1), (action.run before.2).2) = _ ↔ _
  rcases action.run before.2 with ⟨r, m⟩
  constructor
  · intro h
    obtain ⟨printed', m'⟩ := after
    cases h
    exact ⟨rfl, rfl⟩
  · rintro ⟨h, hprinted⟩
    cases h
    rw [hprinted]

theorem ends_bind {x : Session (StateM Memory) α} {f : α → Session (StateM Memory) β} {b : β} :
    Ends (x >>= f) before b after ↔ ∃ a between, Ends x before a between ∧ Ends (f a) between b after := by
  unfold Ends
  rw [ExceptT.run_bind, StateT.run_bind, StateT.run_bind]
  rcases hx : (x.run.run before.1).run before.2 with ⟨⟨r, printed⟩, m⟩
  cases r with
  | ok a =>
    constructor
    · intro h
      exact ⟨a, (printed, m), rfl, h⟩
    · rintro ⟨a', between, hr, h⟩
      cases hr
      exact h
  | error e =>
    constructor
    · intro h
      cases h
    · rintro ⟨a, between, hr, -⟩
      cases hr

theorem ends_attempt {action : StateM Memory (Except Fault α)} {failure : Fault → Failure} {a : α} :
    Ends (attempt action failure) before a after ↔
      action.run before.2 = (.ok a, after.2) ∧ after.1 = before.1 := by
  unfold attempt
  rw [ends_bind]
  constructor
  · rintro ⟨r, between, hlift, h⟩
    obtain ⟨haction, hprinted⟩ := ends_lift.mp hlift
    cases r with
    | ok a' =>
      obtain ⟨rfl, rfl⟩ := ends_pure.mp h
      exact ⟨haction, hprinted⟩
    | error e => cases h
  · intro h
    exact ⟨.ok a, after, ends_lift.mpr h, rfl⟩

variable {output path : String} {s : Source}

/-- The path to which a source is written. -/
def targetPath (output : String) (s : Source) : String := Path.join (targetDir output s) s.fileName

theorem makeDirs_of_run {m m' : Memory} {dir : String}
    (h : (Memory.disk.makeDirs dir).run m = (.ok (), m')) : m.makeDirs dir = .ok m' := by
  cases hmake : m.makeDirs dir <;> simp only [Memory.disk, StateT.run_bind, StateT.run_get, pure_bind, hmake] at h <;>
    cases h
  rfl

theorem write_of_run {m m' : Memory} {text : String}
    (h : (Memory.disk.write path text).run m = (.ok (), m')) : m.write path text = .ok m' := by
  cases hwrite : m.write path text <;> simp only [Memory.disk, StateT.run_bind, StateT.run_get, pure_bind, hwrite] at h <;>
    cases h
  rfl

theorem Ends.writeSource (h : Ends (writeSource Memory.disk output s) before path after) :
    ∃ m, before.2.makeDirs (targetDir output s) = .ok m ∧
      m.write (targetPath output s) s.contents = .ok after.2 := by
  obtain ⟨_, between, hdirs, h⟩ := ends_bind.mp h
  obtain ⟨_, between', hwrite, h⟩ := ends_bind.mp h
  obtain ⟨-, rfl⟩ := ends_pure.mp h
  exact ⟨between.2, makeDirs_of_run (ends_attempt.mp hdirs).1, write_of_run (ends_attempt.mp hwrite).1⟩

/-- Writing a source fills the place to which its path leads, and keeps what is at other places. -/
theorem Ends.fills (h : Ends (Command.writeSource Memory.disk output s) before path after) :
    before.2.KeepsDirectories after.2 ∧ ∃ target, after.2.placeOf (targetPath output s) = .ok target ∧
      (targetPath output s).endsWith "/" = false ∧ after.2.at? target = some (.file s.contents) ∧
      ∀ place o, place ≠ target → before.2.at? place = some o → after.2.at? place = some o := by
  obtain ⟨m, hdirs, hwrite⟩ := h.writeSource
  have hmade := Memory.makeDirs_keeps hdirs
  obtain ⟨target, hplace, hslash, hfree, hhome, hat⟩ := Memory.write_eq_ok hwrite
  have hkeeps : m.KeepsDirectories after.2 := by
    refine ⟨hhome, fun place hdir => ?_⟩
    rw [hat, if_neg, hdir]
    rintro rfl
    exact hfree hdir
  refine ⟨hmade.keepsDirectories.trans hkeeps, target, hkeeps.placeOf_eq hplace, hslash, ?_, ?_⟩
  · rw [hat, if_pos rfl]
  · intro place o hne ho
    rw [hat, if_neg hne]
    exact hmade.occupant place o ho

/-! ### The last source at a place -/

variable {m : Memory} {place : Place} {text : String} {sources : List Source} {paths : List String}

/-- The source at this position is the last one whose path leads to the place. -/
structure LastAt (m : Memory) (output : String) (place : Place) (sources : List Source) (position : Nat)
    (s : Source) : Prop where
  source : sources[position]? = some s
  leads : m.placeOf (targetPath output s) = .ok place
  last : ∀ later t, position < later → sources[later]? = some t → m.placeOf (targetPath output t) ≠ .ok place

/-- The place holds the text of the last source whose path leads to it. -/
def HoldsLast (m : Memory) (output : String) (place : Place) (sources : List Source) : Prop :=
  ∃ position s, LastAt m output place sources position s ∧ m.at? place = some (.file s.contents)

theorem LastAt.cons {k : Nat} {u : Source} (h : LastAt m output place sources k u) (s : Source) :
    LastAt m output place (s :: sources) (k + 1) u := by
  refine ⟨h.source, h.leads, fun later t hlt ht => ?_⟩
  obtain ⟨j, rfl⟩ : ∃ j, later = j + 1 := ⟨later - 1, by omega⟩
  exact h.last j t (by omega) ht

theorem HoldsLast.cons (h : HoldsLast m output place sources) (s : Source) :
    HoldsLast m output place (s :: sources) := by
  obtain ⟨k, u, hlast, hat⟩ := h
  exact ⟨k + 1, u, hlast.cons s, hat⟩

/-- The first source is the last one at its place if no other leads there. -/
theorem HoldsLast.first (hs : m.placeOf (targetPath output s) = .ok place)
    (hat : m.at? place = some (.file s.contents))
    (hnone : ∀ t ∈ sources, m.placeOf (targetPath output t) ≠ .ok place) :
    HoldsLast m output place (s :: sources) := by
  refine ⟨0, s, ⟨rfl, hs, fun later t hlt ht => ?_⟩, hat⟩
  obtain ⟨j, rfl⟩ : ∃ j, later = j + 1 := ⟨later - 1, by omega⟩
  exact hnone t (List.mem_of_getElem? ht)

theorem ends_mapM_cons {f : α → Session (StateM Memory) β} {a : α} {as : List α} {bs : List β}
    (h : Ends ((a :: as).mapM f) before bs after) :
    ∃ b rest between, Ends (f a) before b between ∧ Ends (as.mapM f) between rest after := by
  rw [List.mapM_cons] at h
  obtain ⟨b, between, hfirst, h⟩ := ends_bind.mp h
  obtain ⟨rest, between', hrest, h⟩ := ends_bind.mp h
  obtain ⟨-, rfl⟩ := ends_pure.mp h
  exact ⟨b, rest, between, hfirst, hrest⟩

namespace Ends

theorem keepsDirectories (h : Ends (sources.mapM (Command.writeSource Memory.disk output)) before paths after) :
    before.2.KeepsDirectories after.2 := by
  induction sources generalizing before paths with
  | nil =>
    obtain ⟨-, rfl⟩ := ends_pure.mp h
    exact .refl _
  | cons s sources ih =>
    obtain ⟨path, rest, between, hfirst, hrest⟩ := ends_mapM_cons h
    exact hfirst.fills.1.trans (ih hrest)

/-- A file stays as it is unless sources go to its place; then it holds the text of the last of them. -/
theorem file_stays (h : Ends (sources.mapM (Command.writeSource Memory.disk output)) before paths after)
    (hfile : before.2.at? place = some (.file text)) :
    (after.2.at? place = some (.file text) ∧ ∀ s ∈ sources, after.2.placeOf (targetPath output s) ≠ .ok place) ∨
      HoldsLast after.2 output place sources := by
  induction sources generalizing before paths text with
  | nil =>
    obtain ⟨-, rfl⟩ := ends_pure.mp h
    exact .inl ⟨hfile, by simp⟩
  | cons s sources ih =>
    obtain ⟨path, rest, between, hfirst, hrest⟩ := ends_mapM_cons h
    obtain ⟨-, target, hleads, -, htarget, hothers⟩ := hfirst.fills
    have hs : after.2.placeOf (targetPath output s) = .ok target := hrest.keepsDirectories.placeOf_eq hleads
    by_cases hplace : place = target
    · subst hplace
      rcases ih hrest htarget with ⟨hat, hnone⟩ | hlast
      · exact .inr (.first hs hat hnone)
      · exact .inr (hlast.cons s)
    · rcases ih hrest (hothers place _ hplace hfile) with ⟨hat, hnone⟩ | hlast
      · refine .inl ⟨hat, List.forall_mem_cons.mpr ⟨fun h => ?_, hnone⟩⟩
        exact hplace (Except.ok.inj (h.symm.trans hs))
      · exact .inr (hlast.cons s)

/-- When all sources are written, the path of each leads to a place that holds the text of the last
source there. -/
theorem holdsLast (h : Ends (sources.mapM (Command.writeSource Memory.disk output)) before paths after)
    (hs : s ∈ sources) :
    ∃ place, after.2.placeOf (targetPath output s) = .ok place ∧ (targetPath output s).endsWith "/" = false ∧
      HoldsLast after.2 output place sources := by
  induction sources generalizing before paths with
  | nil => cases hs
  | cons first sources ih =>
    obtain ⟨path, rest, between, hfirst, hrest⟩ := ends_mapM_cons h
    rcases List.mem_cons.mp hs with rfl | hs
    · obtain ⟨-, target, hleads, hslash, htarget, -⟩ := hfirst.fills
      have hplace := hrest.keepsDirectories.placeOf_eq hleads
      refine ⟨target, hplace, hslash, ?_⟩
      rcases hrest.file_stays htarget with ⟨hat, hnone⟩ | hlast
      · exact .first hplace hat hnone
      · exact hlast.cons s
    · obtain ⟨place, hplace, hslash, hlast⟩ := ih hrest hs
      exact ⟨place, hplace, hslash, hlast.cons first⟩

/-- When all sources are written, the path of each holds the text of the last source at its place. -/
theorem read_eq (h : Ends (sources.mapM (Command.writeSource Memory.disk output)) before paths after)
    (hs : s ∈ sources) :
    ∃ place k u, after.2.placeOf (targetPath output s) = .ok place ∧
      LastAt after.2 output place sources k u ∧ after.2.read (targetPath output s) = .ok u.contents := by
  obtain ⟨place, hplace, hslash, k, u, hlast, hat⟩ := h.holdsLast hs
  exact ⟨place, k, u, hplace, hlast, Memory.read_eq_ok.mpr ⟨place, hplace, hslash, hat⟩⟩

end Ends

end GoSchema.Command
