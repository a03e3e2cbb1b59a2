import GoSchema.Command.Memory
import GoSchema.Proofs.Except

/-!
# What stays on a disk

A path leads to a place by way of directories. Directories are never removed, so a path goes on leading to
the same place. Making directories leaves alone what is there. Writing a file fills the place to which its path
leads and leaves alone all other places, whatever paths lead to them.

## What is proved

* `Memory.KeepsDirectories` and `Memory.Keeps`: what stays from one disk to a later one. Both are kept along any
  number of steps, and a path leads to the same place on the later disk (`placeOf_eq`).
* `Memory.write_eq_ok`: a file that was written stands at the place to which its path leads, and all else is as it
  was.

The disk is a model of its own, with directories and files only. Links, rights and failures of a medium do not
occur.
-/

namespace GoSchema.Memory

variable {m m' m'' : Memory} {path : String} {place : Place}

/-- The place to which a path leads. -/
def placeOf (m : Memory) (path : String) : Except Fault Place := do
  let (place, name) ← m.locate path
  next place name

/-! ### Paths on a later disk -/

/-- Paths start where they did, and all directories are still there. -/
structure KeepsDirectories (m m' : Memory) : Prop where
  home : m'.home = m.home
  directory : ∀ place, m.at? place = some .directory → m'.at? place = some .directory

/-- Paths start where they did, and all that was there is still there. -/
structure Keeps (m m' : Memory) : Prop where
  home : m'.home = m.home
  occupant : ∀ place o, m.at? place = some o → m'.at? place = some o

theorem Keeps.refl (m : Memory) : m.Keeps m := ⟨rfl, fun _ _ h => h⟩

theorem Keeps.trans (h : m.Keeps m') (h' : m'.Keeps m'') : m.Keeps m'' :=
  ⟨h'.home.trans h.home, fun place o ho => h'.occupant place o (h.occupant place o ho)⟩

theorem Keeps.keepsDirectories (h : m.Keeps m') : m.KeepsDirectories m' :=
  ⟨h.home, fun place => h.occupant place .directory⟩

theorem KeepsDirectories.refl (m : Memory) : m.KeepsDirectories m := ⟨rfl, fun _ h => h⟩

theorem KeepsDirectories.trans (h : m.KeepsDirectories m') (h' : m'.KeepsDirectories m'') :
    m.KeepsDirectories m'' :=
  ⟨h'.home.trans h.home, fun place ho => h'.directory place (h.directory place ho)⟩

namespace KeepsDirectories

theorem walk_eq (h : m.KeepsDirectories m') {start : Place} {names : List String}
    (hwalk : m.walk start names = .ok place) : m'.walk start names = .ok place := by
  induction names generalizing start with
  | nil => exact hwalk
  | cons name names ih =>
    unfold walk at hwalk ⊢
    obtain ⟨step, hnext, hwalk⟩ := Except.bind_eq_ok.mp hwalk
    refine Except.bind_eq_ok.mpr ⟨step, hnext, ?_⟩
    cases hat : m.at? step with
    | none =>
      rw [hat] at hwalk
      cases hwalk
    | some o =>
      rw [hat] at hwalk
      cases o with
      | file text => cases hwalk
      | directory =>
        rw [h.directory step hat]
        exact ih hwalk

theorem locate_eq (h : m.KeepsDirectories m') {name : String} (hlocate : m.locate path = .ok (place, name)) :
    m'.locate path = .ok (place, name) := by
  unfold locate at hlocate ⊢
  by_cases hnul : path.toList.contains '\x00' = true
  · rw [if_pos hnul] at hlocate
    cases hlocate
  by_cases hlong : 4096 ≤ path.utf8ByteSize
  · rw [if_neg hnul, if_pos hlong] at hlocate
    cases hlocate
  by_cases hempty : path.isEmpty = true
  · rw [if_neg hnul, if_neg hlong, if_pos hempty] at hlocate
    cases hlocate
  rw [if_neg hnul, if_neg hlong, if_neg hempty] at hlocate ⊢
  obtain ⟨dir, hwalk, hlast⟩ := Except.bind_eq_ok.mp hlocate
  rw [h.home]
  exact Except.bind_eq_ok.mpr ⟨dir, h.walk_eq hwalk, hlast⟩

theorem placeOf_eq (h : m.KeepsDirectories m') (hplace : m.placeOf path = .ok place) :
    m'.placeOf path = .ok place := by
  obtain ⟨⟨dir, name⟩, hlocate, hnext⟩ := Except.bind_eq_ok.mp hplace
  exact Except.bind_eq_ok.mpr ⟨(dir, name), h.locate_eq hlocate, hnext⟩

end KeepsDirectories

/-! ### Making directories -/

theorem makeDir_keeps (h : m.makeDir path = .ok m') : m.Keeps m' := by
  obtain ⟨⟨dir, name⟩, _, h⟩ := Except.bind_eq_ok.mp h
  obtain ⟨target, _, h⟩ := Except.bind_eq_ok.mp h
  split_ifs at h with hfree
  cases h
  refine ⟨rfl, fun place o ho => ?_⟩
  -- Only the target is new among the directories, and nothing was there.
  have hne : place ≠ target := by
    rintro rfl
    simp [ho] at hfree
  unfold at? at ho ⊢
  simpa [hne] using ho

theorem makeBelow_keeps {paths : List String} (h : m.makeBelow paths = .ok m') : m.Keeps m' := by
  induction paths generalizing m m' with
  | nil =>
    cases h
    exact .refl m
  | cons path above ih =>
    -- A directory that cannot be made may be there already.
    have hthere {m₁ : Memory} {e : Fault} (hkeeps : m.Keeps m₁)
        (h : (if m₁.isDirectory path then .ok m₁ else .error e : Except Fault Memory) = .ok m') : m.Keeps m' := by
      split_ifs at h
      cases h
      exact hkeeps
    unfold makeBelow at h
    cases hmake : m.makeDir path with
    | ok m₁ =>
      rw [hmake] at h
      cases h
      exact makeDir_keeps hmake
    | error e =>
      rw [hmake] at h
      cases e with
      | notFound =>
        obtain ⟨m₁, habove, h⟩ := Except.bind_eq_ok.mp h
        obtain ⟨made, hmade, h⟩ := Except.bind_eq_ok.mp h
        cases hmade
        cases hagain : m₁.makeDir path with
        | ok m₂ =>
          rw [hagain] at h
          cases h
          exact (ih habove).trans (makeDir_keeps hagain)
        | error e =>
          rw [hagain] at h
          exact hthere (ih habove) h
      | _ => exact hthere (.refl m) h

theorem makeDirs_keeps (h : m.makeDirs path = .ok m') : m.Keeps m' := makeBelow_keeps h

/-! ### Reading and writing -/

theorem lookup_replace (files : List (Place × String)) (target : Place) (text : String) (place : Place) :
    (files.map fun f => if f.1 = target then (target, text) else f).lookup place =
      if place = target then (files.lookup target).map fun _ => text else files.lookup place := by
  induction files with
  | nil => simp
  | cons f files ih =>
    obtain ⟨there, old⟩ := f
    by_cases hthere : there = target <;> by_cases hplace : place = target
    · simp [hthere, hplace]
    · simp [hthere, hplace, ih, List.lookup_cons, beq_false_of_ne]
    · subst hplace
      simp [hthere, ih, List.lookup_cons, beq_false_of_ne (Ne.symm hthere)]
    · simp [hthere, hplace, ih, List.lookup_cons]

theorem lookup_of_at? {text : String} (h : m.at? place = some (.file text)) :
    m.files.lookup place = some text := by
  unfold at? at h
  split_ifs at h
  · cases h
  · simpa using h

/-- Filling a place that no directory takes. -/
theorem at?_of_lookup {files : List (Place × String)} {target : Place} {text : String}
    (hfree : m.at? target ≠ some .directory)
    (hfiles : ∀ place, files.lookup place = if place = target then some text else m.files.lookup place)
    (place : Place) :
    { m with files }.at? place = if place = target then some (.file text) else m.at? place := by
  unfold at? at hfree ⊢
  dsimp only
  rw [hfiles]
  by_cases hplace : place = target
  · subst hplace
    rw [if_pos rfl, if_pos rfl, if_neg]
    · rfl
    · intro htaken
      exact hfree (if_pos htaken)
  · rw [if_neg hplace, if_neg hplace]

/-- A file that was written stands at the place to which its path leads; all else is as it was. -/
theorem write_eq_ok {text : String} (h : m.write path text = .ok m') :
    ∃ target, m.placeOf path = .ok target ∧ path.endsWith "/" = false ∧ m.at? target ≠ some .directory ∧
      m'.home = m.home ∧
      ∀ place, m'.at? place = if place = target then some (.file text) else m.at? place := by
  obtain ⟨⟨dir, name⟩, hlocate, h⟩ := Except.bind_eq_ok.mp h
  obtain ⟨target, hnext, h⟩ := Except.bind_eq_ok.mp h
  have hplace : m.placeOf path = .ok target := Except.bind_eq_ok.mpr ⟨(dir, name), hlocate, hnext⟩
  by_cases hslash : path.endsWith "/" = true
  · rw [if_pos hslash] at h
    cases h
  rw [if_neg hslash] at h
  refine ⟨target, hplace, Bool.of_not_eq_true hslash, ?_⟩
  cases hat : m.at? target with
  | none =>
    rw [hat] at h
    cases h
    have hfree : m.at? target ≠ some .directory := by simp [hat]
    have hnone : m.files.lookup target = none := by
      unfold at? at hat
      split_ifs at hat
      exact Option.map_eq_none_iff.mp hat
    refine ⟨by simp, rfl, at?_of_lookup hfree fun place => ?_⟩
    by_cases hplace : place = target
    · simp [hplace, List.lookup_append, hnone]
    · simp [hplace, List.lookup_append, List.lookup_cons, beq_false_of_ne]
  | some o =>
    rw [hat] at h
    cases o with
    | directory => cases h
    | file old =>
      cases h
      have hfree : m.at? target ≠ some .directory := by simp [hat]
      refine ⟨by simp, rfl, at?_of_lookup hfree fun place => ?_⟩
      rw [lookup_replace, lookup_of_at? hat]
      rfl

theorem read_eq_ok {text : String} :
    m.read path = .ok text ↔
      ∃ place, m.placeOf path = .ok place ∧ path.endsWith "/" = false ∧ m.at? place = some (.file text) := by
  unfold read occupant placeOf
  constructor
  · intro h
    obtain ⟨o, ho, h⟩ := Except.bind_eq_ok.mp h
    obtain ⟨⟨dir, name⟩, hlocate, ho⟩ := Except.bind_eq_ok.mp ho
    obtain ⟨place, hnext, ho⟩ := Except.bind_eq_ok.mp ho
    refine ⟨place, Except.bind_eq_ok.mpr ⟨(dir, name), hlocate, hnext⟩, ?_⟩
    cases hat : m.at? place with
    | none =>
      rw [hat] at ho
      cases ho
    | some there =>
      rw [hat] at ho
      cases there with
      | directory =>
        cases ho
        cases h
      | file text' =>
        dsimp only at ho
        split_ifs at ho with hslash
        cases ho
        cases h
        exact ⟨Bool.of_not_eq_true hslash, rfl⟩
  · rintro ⟨place, hplace, hslash, hat⟩
    obtain ⟨⟨dir, name⟩, hlocate, hnext⟩ := Except.bind_eq_ok.mp hplace
    refine Except.bind_eq_ok.mpr ⟨.file text, ?_, rfl⟩
    refine Except.bind_eq_ok.mpr ⟨(dir, name), hlocate, Except.bind_eq_ok.mpr ⟨place, hnext, ?_⟩⟩
    rw [hat]
    simp [hslash]

end GoSchema.Memory
