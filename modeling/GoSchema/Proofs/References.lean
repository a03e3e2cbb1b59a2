import GoSchema.Proofs.DeclarationLines
import GoSchema.Proofs.WholeRun

/-!
# References between files

Runs for different files share nothing, and yet the code of one refers to what the code of another declares.
It does so by the same name: both take it from the schema alone. Before the name stands the alias of the other
package, which is registered for its import path before any code is written, or nothing if the import path is
the same.

## What is proved

* `Env.Registers` and `registers_of_ofFile`: each import path has one alias in a run, and the path of every file of
  another package has one.
* `Env.Names` says of names for all entities that whatever the run prints for types and values is written with them.
  The texts are set out here once more, by `Program.spelling?` and `Program.converted?`, which take the names from
  outside. The names of the references are such names (`Env.names_nameOf`), and there are no others for an entity that
  can be referred to (`Env.Names.eq_text`).
* `Program.writes_as_declared`: what a run writes for an entity is its alias or nothing, and then the identifier that
  the run for the owner has on the line that declares the entity.

That the alias is listed in the import block is not said here but where the used packages are followed, and that the
declared identifiers differ from each other where names are claimed.
-/

namespace GoSchema

open Go

/-! ### Registered packages -/

namespace Go

theorem subset_register (packages : List Package) (path name : String) :
    packages ⊆ register packages path name := by
  unfold register
  split_ifs
  · exact List.Subset.refl _
  · exact List.subset_append_left _ _

theorem exists_mem_register (packages : List Package) (path name : String) :
    ∃ k ∈ register packages path name, k.path = path := by
  unfold register
  split_ifs with h
  · simpa using h
  · exact ⟨⟨path, name⟩, by simp, rfl⟩

/-- No path is registered twice. -/
def Distinct (packages : List Package) : Prop := (packages.map Package.path).Nodup

theorem distinct_nil : Distinct [] := List.nodup_nil

theorem Distinct.register {packages : List Package} (h : Distinct packages) (path name : String) :
    Distinct (register packages path name) := by
  unfold Go.register
  split_ifs with hpath
  · exact h
  · rw [Distinct, List.map_append, List.nodup_append]
    refine ⟨h, List.nodup_singleton _, ?_⟩
    rintro a ha b hb rfl
    obtain ⟨k, hk, rfl⟩ := List.mem_map.mp ha
    obtain rfl := List.mem_singleton.mp hb
    exact hpath (List.any_eq_true.mpr ⟨k, hk, beq_self_eq_true _⟩)

theorem Distinct.foldl_register {packages : List Package} (h : Distinct packages) (ks : List Package) :
    Distinct (ks.foldl (fun ps k => Go.register ps k.path k.name) packages) := by
  induction ks generalizing packages with
  | nil => exact h
  | cons k ks ih => exact ih (h.register k.path k.name)

theorem Distinct.eq_of_path_eq {packages : List Package} (h : Distinct packages) {k k' : Package}
    (hk : k ∈ packages) (hk' : k' ∈ packages) (hpath : k.path = k'.path) : k = k' :=
  List.inj_on_of_nodup_map h hk hk' hpath

theorem Distinct.aliasOf_eq {packages : List Package} (h : Distinct packages) {k : Package} (hk : k ∈ packages) :
    aliasOf packages k.path = k.name := by
  unfold aliasOf
  cases hfind : packages.find? (·.path == k.path) with
  | none => exact absurd (beq_self_eq_true k.path) (List.find?_eq_none.mp hfind k hk)
  | some k' =>
    have hpath : k'.path = k.path := by simpa using List.find?_some hfind
    rw [h.eq_of_path_eq (List.mem_of_find?_eq_some hfind) hk hpath]

end Go

theorem nameFiles_registers {names : Name.Namespace} {packages : List Package} (h : Distinct packages)
    (fs : List File) : Distinct (nameFiles names packages fs).2 ∧ packages ⊆ (nameFiles names packages fs).2 ∧
      ∀ f ∈ fs, ∃ k ∈ (nameFiles names packages fs).2, k.path = f.importPath := by
  induction fs generalizing names packages with
  | nil => exact ⟨h, List.Subset.refl _, by simp⟩
  | cons f fs ih =>
    obtain ⟨hdistinct, hsub, hfiles⟩ := ih (h.register f.importPath _)
    refine ⟨hdistinct, List.Subset.trans (subset_register _ _ _) hsub, List.forall_mem_cons.mpr ⟨?_, hfiles⟩⟩
    obtain ⟨k, hk, hpath⟩ := exists_mem_register packages f.importPath _
    exact ⟨k, hsub hk, hpath⟩

namespace Env

variable {env : Env} {p : Program} {file : Ref .file} {self f : File} {o : Options}

/-- The packages of the run: each path has one name, and those of the other files are among them. -/
structure Registers (env : Env) : Prop where
  self : env.program.file? env.file = some env.self
  distinct : Distinct env.packages
  files : ∀ f ∈ foreignFiles env.program env.file env.self, ∃ k ∈ env.packages, k.path = f.importPath

theorem registers_of_ofFile {claims : Claims} (hself : p.file? file = some self)
    (h : Env.ofFile p file self o = .ok (env, claims)) :
    env.program = p ∧ env.file = file ∧ env.self = self ∧ env.Registers := by
  obtain ⟨ambient, -, h⟩ := Except.bind_eq_ok.mp h
  cases h
  obtain ⟨hdistinct, -, hfiles⟩ :=
    nameFiles_registers (distinct_nil.foldl_register _) (foreignFiles p file self)
  exact ⟨rfl, rfl, rfl, hself, hdistinct, hfiles⟩

theorem mem_foreignFiles {r : Ref .file} (hf : p.file? r = some f) (hself : p.file? file = some self)
    (hpath : f.importPath ≠ self.importPath) : f ∈ foreignFiles p file self := by
  have hne : r.toNat ≠ file.toNat := by
    intro heq
    rw [Program.file?, heq] at hf
    rw [Program.file?, hf] at hself
    exact hpath (congrArg File.importPath (Option.some.inj hself))
  refine List.mem_map.mpr ⟨(f, r.toNat), List.mem_filter.mpr ⟨?_, ?_⟩, rfl⟩
  · exact List.mem_zipIdx_iff_getElem?.mpr hf
  · simp [hne, hpath]

/-- This is how the run writes the name of a declaration of a file: behind the alias that is registered for
the path under which the file is imported, or alone if the run has this path too. -/
def Spells (env : Env) (f : File) (ident text : String) : Prop :=
  f.importPath = env.self.importPath ∧ text = ident ∨
    f.importPath ≠ env.self.importPath ∧ ∃ k ∈ env.packages, k.path = f.importPath ∧
      (∀ k' ∈ env.packages, k'.path = f.importPath → k' = k) ∧ text = k.name ++ "." ++ ident

theorem Registers.spells (h : env.Registers) {r : Ref .file} (hf : env.program.file? r = some f) (ident : String) :
    env.Spells f ident (Reference.text ⟨env.packageOf r, ident⟩) := by
  by_cases hpath : f.importPath = env.self.importPath
  · have hnone : env.packageOf r = none := by simp [packageOf, hf, hpath]
    exact .inl ⟨hpath, by rw [hnone]; rfl⟩
  · obtain ⟨k, hk, hkpath⟩ := h.files f (mem_foreignFiles hf h.self hpath)
    have hne : r ≠ env.file := by
      rintro rfl
      exact hpath (congrArg File.importPath (Option.some.inj (hf.symm.trans h.self)))
    have hsome : env.packageOf r = some k := by
      have hname : env.aliasOf f.importPath = k.name := hkpath ▸ h.distinct.aliasOf_eq hk
      rw [packageOf, if_neg hne, hf]
      dsimp only
      rw [if_neg hpath, hname, ← hkpath]
    refine .inr ⟨hpath, k, hk, hkpath, fun k' hk' hpath' => ?_, by rw [hsome]; rfl⟩
    exact h.distinct.eq_of_path_eq hk' hk (hpath'.trans hkpath.symm)

/-! ### References -/

/-- The reference to an entity. -/
def refTo (env : Env) : Entity → Except GenError Reference
  | .struct r => env.structRef r
  | .enum r => env.enumRef r
  | .typedef r => env.typedefRef r
  | .constant r => env.constantRef r
  | .item r position => env.enumItemRef r position

theorem reference_eq {name : String} {a : Annotations} (hf : env.program.file? file = some f)
    (ha : OverrideValid a) : env.reference file name a = .ok ⟨env.packageOf file, goName name a⟩ := by
  simp only [reference, pathOf, hf, Option.map_some, present, identifier_eq_ok.mpr ⟨ha, rfl⟩]
  rfl

/-- What a file declares can be referred to if its names are valid, and by the identifier of the entity. -/
theorem refTo_eq {e : Entity} (hf : env.program.file? file = some f) (hvalid : env.program.OverridesValid file)
    (howner : env.program.owner? e = some file) :
    ∃ ident, env.program.identOf? e = some ident ∧ env.refTo e = .ok ⟨env.packageOf file, ident⟩ := by
  cases e with
  | struct r =>
    obtain ⟨s, hs, rfl⟩ := Option.map_eq_some_iff.mp howner
    have ha := hvalid.structs s (by simp [Program.structsOf, List.mem_of_getElem? hs])
    exact ⟨goName s.name s.annotations, by simp [Program.identOf?, hs],
      Except.bind_eq_ok.mpr ⟨s, present_eq_ok.mpr hs, reference_eq hf ha⟩⟩
  | enum r =>
    obtain ⟨e, he, rfl⟩ := Option.map_eq_some_iff.mp howner
    have ha := (hvalid.enums e (by simp [Program.enumsOf, List.mem_of_getElem? he])).1
    exact ⟨goName e.name e.annotations, by simp [Program.identOf?, he],
      Except.bind_eq_ok.mpr ⟨e, present_eq_ok.mpr he, reference_eq hf ha⟩⟩
  | typedef r =>
    obtain ⟨t, ht, rfl⟩ := Option.map_eq_some_iff.mp howner
    have ha := hvalid.typedefs t (by simp [Program.typedefsOf, List.mem_of_getElem? ht])
    exact ⟨goName t.name t.annotations, by simp [Program.identOf?, ht],
      Except.bind_eq_ok.mpr ⟨t, present_eq_ok.mpr ht, reference_eq hf ha⟩⟩
  | constant r =>
    obtain ⟨c, hc, rfl⟩ := Option.map_eq_some_iff.mp howner
    have ha := hvalid.constants c (by simp [Program.constantsOf, List.mem_of_getElem? hc])
    exact ⟨goName c.name c.annotations, by simp [Program.identOf?, hc],
      Except.bind_eq_ok.mpr ⟨c, present_eq_ok.mpr hc, reference_eq hf ha⟩⟩
  | item r position =>
    obtain ⟨e, he, howner⟩ := Option.bind_eq_some_iff.mp howner
    obtain ⟨item, hitem, howner⟩ := Option.bind_eq_some_iff.mp howner
    obtain rfl : e.file = file := Option.some.inj howner
    obtain ⟨ha, hitems⟩ := hvalid.enums e (by simp [Program.enumsOf, List.mem_of_getElem? he])
    refine ⟨itemName (goName e.name e.annotations) item, by simp [Program.identOf?, he, hitem],
      Except.bind_eq_ok.mpr ⟨e, present_eq_ok.mpr he, ?_⟩⟩
    rw [hitem]
    refine Except.bind_eq_ok.mpr ⟨f.path, by simp [pathOf, hf, present], Except.bind_eq_ok.mpr
      ⟨_, identifier_eq_ok.mpr ⟨ha, rfl⟩, Except.bind_eq_ok.mpr ⟨_, itemIdent_eq_ok.mpr ⟨?_, rfl⟩, rfl⟩⟩⟩
    exact hitems item (List.mem_of_getElem? hitem)

end Env

/-! ### Names in what is printed -/

/-- How a base type is written. -/
def Base.spelling : Base → String
  | .bool => "bool"
  | .i8 => "int8"
  | .i16 => "int16"
  | .i32 => "int32"
  | .i64 => "int64"
  | .double => "float64"
  | .string => "string"
  | .binary => "[]byte"

/-- What stands before the name of a typedef that is this type below all layers: structs are held by pointer. -/
def Ty.star : Ty → String
  | .struct _ => "*"
  | _ => ""

namespace Program

/-- How a type is written, where the entities have these names. -/
def spelling? (p : Program) (name : Entity → String) : Ty → Option String
  | .base b => some b.spelling
  | .list element => do
    let e ← p.spelling? name element
    return "[]" ++ e
  | .set element annotations => do
    let e ← p.spelling? name element
    let keyed ← p.isKeyedSet? element annotations
    return if keyed then "map[" ++ e ++ "]struct\x7b\x7d" else "[]" ++ e
  | .map key value => do
    let k ← p.spelling? name key
    let v ← p.spelling? name value
    let keyed ← p.isHashable? key
    return if keyed then "map[" ++ k ++ "]" ++ v else "[]struct\x7bKey " ++ k ++ "; Value " ++ v ++ "\x7d"
  | .enum r => some (name (.enum r))
  | .struct r => some ("*" ++ name (.struct r))
  | .typedef r => do
    let root ← p.rootType? (.typedef r)
    return root.star ++ name (.typedef r)

/-- How an expression is converted to typedefs, the innermost first. -/
def converted? (p : Program) (name : Entity → String) : List (Ref .typedef) → String → Option String
  | [], expr => some expr
  | layer :: inner, expr => do
    let expr ← p.converted? name inner expr
    let type ← p.spelling? name (.typedef layer)
    return "(" ++ type ++ ")(" ++ expr ++ ")"

end Program

namespace Env

/-- Whatever the run prints for types and values has these names for the entities. -/
structure Names (env : Env) (name : Entity → String) : Prop where
  type : ∀ ty, Gives (env.typeText ty) fun text => env.program.spelling? name ty = some text
  constant : ∀ site ty r, Gives (env.literal site ty (.constant r)) fun text => name (.constant r) = text
  /-- An item, as a value of a type that is its enum below all layers. -/
  item : ∀ site ty layers r item, env.program.layers? ty = some (layers, .enum r) →
    Gives (env.literal site ty (.enumItem r item)) fun text =>
      env.program.converted? name layers (name (.item r item.toNat)) = some text
  /-- A number, as a value of an enum. -/
  number : ∀ site ty layers r n, env.program.layers? ty = some (layers, .enum r) →
    Gives (env.literal site ty (.int n)) fun text =>
      env.program.converted? name layers (name (.enum r) ++ "(" ++ toString n.toInt ++ ")") = some text
  /-- A struct literal. -/
  struct : ∀ site ty layers r entries, env.program.layers? ty = some (layers, .struct r) →
    Gives (env.literal site ty (.map entries)) fun text => ∃ fields,
      env.program.converted? name layers ("&" ++ name (.struct r) ++ "\x7b" ++ fields ++ "\x7d") = some text
  /-- The item at a position, also one that no value reaches. -/
  position : ∀ r position, Gives (do refer (← env.enumItemRef r position)) fun text => name (.item r position) = text

/-- The run writes this text for the entity: it is the name of the entity in all that is printed. -/
def Writes (env : Env) (e : Entity) (written : String) : Prop := ∃ name, env.Names name ∧ name e = written

/-- The name of an entity that can be referred to. -/
def nameOf (env : Env) (e : Entity) : String :=
  match env.refTo e with
  | .ok ref => ref.text
  | .error _ => ""

variable {env : Env} {name : Entity → String}

theorem nameOf_eq (e : Entity) {ref : Reference} (h : env.refTo e = .ok ref) : env.nameOf e = ref.text := by
  rw [nameOf, h]

theorem text_of_refer {ref : Reference} {text : String} (h : Answers (refer ref) text) : ref.text = text := by
  obtain ⟨_, -, h⟩ := h.of_bind
  exact h.of_pure

theorem spelling?_goType {ty : Ty} {t : GoType} (h : env.goType ty = .ok t) :
    env.program.spelling? env.nameOf ty = some t.text := by
  induction ty generalizing t with
  | base b =>
    cases h
    cases b <;> rfl
  | list e ih =>
    obtain ⟨te, he, h⟩ := Except.bind_eq_ok.mp h
    cases h
    simp [Program.spelling?, ih he, GoType.text]
  | set e a ih =>
    obtain ⟨te, he, h⟩ := Except.bind_eq_ok.mp h
    obtain ⟨keyed, hkeyed, h⟩ := Except.bind_eq_ok.mp h
    cases h
    cases keyed <;> simp [Program.spelling?, ih he, present_eq_ok.mp hkeyed, GoType.text, ← String.toList_inj]
  | map k v ihk ihv =>
    obtain ⟨tk, hk, h⟩ := Except.bind_eq_ok.mp h
    obtain ⟨tv, hv, h⟩ := Except.bind_eq_ok.mp h
    obtain ⟨keyed, hkeyed, h⟩ := Except.bind_eq_ok.mp h
    cases h
    cases keyed <;>
      simp [Program.spelling?, ihk hk, ihv hv, present_eq_ok.mp hkeyed, GoType.text, ← String.toList_inj]
  | enum r =>
    obtain ⟨ref, href, h⟩ := Except.bind_eq_ok.mp h
    cases h
    exact congrArg some (nameOf_eq (.enum r) href)
  | struct r =>
    obtain ⟨ref, href, h⟩ := Except.bind_eq_ok.mp h
    cases h
    exact congrArg (fun text => some ("*" ++ text)) (nameOf_eq (.struct r) href)
  | typedef r =>
    obtain ⟨ref, href, h⟩ := Except.bind_eq_ok.mp h
    obtain ⟨byReference, hreference, h⟩ := Except.bind_eq_ok.mp h
    cases h
    obtain ⟨root, hroot, hmatch⟩ := Except.bind_eq_ok.mp hreference
    have hname := nameOf_eq (.typedef r) href
    rw [Program.spelling?, present_eq_ok.mp hroot]
    cases root <;> cases hmatch <;> simp [hname, GoType.text, Ty.star]

/-- A conversion is printed with the names of its layers. -/
theorem convert_gives (layers : List (Ref .typedef)) (expr : String) :
    Gives (env.convert layers expr) fun text => env.program.converted? env.nameOf layers expr = some text := by
  induction layers with
  | nil => exact .pure rfl
  | cons layer inner ih =>
    refine .bind fun text htext => .bind fun type htype => .pure ?_
    obtain ⟨t, ht, rfl⟩ := typeText_eq htype
    rw [Program.converted?, ih text htext, Option.bind_eq_bind, Option.bind_some, spelling?_goType ht]
    simp [toString]

/-- The references have the names that everything is printed with. -/
theorem names_nameOf : env.Names env.nameOf where
  type ty text h := by
    obtain ⟨t, ht, rfl⟩ := typeText_eq h
    exact spelling?_goType ht
  constant site ty r := by
    rw [literal]
    exact .bind fun ref href text htext => (nameOf_eq (.constant r) href.of_lift).trans (text_of_refer htext)
  item site ty layers r item hlayers := by
    rw [literal]
    refine .bind fun found hfound => ?_
    cases hlayers.symm.trans (present_eq_ok.mp hfound.of_lift)
    dsimp only
    rw [if_pos rfl]
    refine .bind fun ref href => .bind fun text htext => ?_
    obtain rfl := text_of_refer htext
    rw [nameOf_eq (.item r item.toNat) href.of_lift]
    exact convert_gives layers ref.text
  number site ty layers r n hlayers := by
    rw [literal]
    refine .bind fun found hfound => ?_
    cases hlayers.symm.trans (present_eq_ok.mp hfound.of_lift)
    dsimp only
    refine .bind fun expr hexpr => ?_
    obtain ⟨ref, href, hexpr⟩ := hexpr.of_bind
    obtain ⟨type, htype, hexpr⟩ := hexpr.of_bind
    obtain ⟨raw, hraw, hexpr⟩ := hexpr.of_bind
    obtain rfl := hexpr.of_pure
    obtain rfl := text_of_refer htype
    have htext : raw = toString n.toInt := by
      have hraw := hraw.of_lift
      unfold intLiteral at hraw
      split at hraw
      · exact (Except.ok.inj hraw).symm
      · cases hraw
    rw [nameOf_eq (.enum r) href.of_lift, htext]
    simpa [toString] using convert_gives layers (ref.text ++ "(" ++ toString n.toInt ++ ")")
  struct site ty layers r entries hlayers := by
    rw [literal]
    refine .bind fun found hfound => ?_
    cases hlayers.symm.trans (present_eq_ok.mp hfound.of_lift)
    refine .bind fun s hs => .bind fun ref href => .bind fun ident hident => .bind fun members _ => ?_
    obtain rfl := text_of_refer hident
    rw [nameOf_eq (.struct r) href.of_lift]
    intro text htext
    refine ⟨", ".intercalate members, ?_⟩
    have hconverted := convert_gives layers _ text htext
    simpa [composite, braced, String.append_assoc] using hconverted
  position r position := by
    exact .bind fun ref href text htext =>
      (nameOf_eq (.item r position) href.of_lift).trans (text_of_refer htext)

theorem answers_typeText {ty : Ty} {t : GoType} (h : env.goType ty = .ok t) : Answers (env.typeText ty) t.text := by
  have hrun (r : Run) : env.typeText ty r = .ok (t.text, t.paths.foldl Run.usePath r) := by
    rw [typeText, typeRef, h]
    rfl
  exact ⟨⟨.empty, [], [], [], []⟩, _, hrun _⟩

theorem answers_refer {x : Except GenError Reference} {ref : Reference} (h : x = .ok ref) :
    Answers (do refer (← x)) ref.text := by
  have hrun (r : Run) : (do refer (← x) : Emit String) r = .ok (ref.text, ref.paths.foldl Run.usePath r) := by
    rw [h]
    rfl
  exact ⟨⟨.empty, [], [], [], []⟩, _, hrun _⟩

/-- Names by which all that is printed can be read are those of the references. -/
theorem Names.eq_text (h : env.Names name) (hp : env.program.Sound) {e : Entity} {ref : Reference}
    (href : env.refTo e = .ok ref) : name e = ref.text := by
  cases e with
  | enum r =>
    have htype : env.goType (.enum r) = .ok (.named ref) := Except.bind_eq_ok.mpr ⟨ref, href, rfl⟩
    exact Option.some.inj (h.type _ _ (answers_typeText htype))
  | struct r =>
    have htype : env.goType (.struct r) = .ok (.pointer (.named ref)) := Except.bind_eq_ok.mpr ⟨ref, href, rfl⟩
    have hname := Option.some.inj (h.type _ _ (answers_typeText htype))
    simpa [GoType.text] using hname
  | typedef r =>
    obtain ⟨t, ht, -⟩ := Except.bind_eq_ok.mp href
    have hty : env.program.TypeInRange (.typedef r) :=
      Program.typeInRange_typedef.mpr (List.getElem?_eq_some_iff.mp (present_eq_ok.mp ht)).1
    obtain ⟨layers, root, hunfolds⟩ := hp.unfolds hty
    have hroot := hunfolds.rootType?_eq
    have hreference : env.isStructRooted (.typedef r) = .ok (root.star == "*") := by
      rw [isStructRooted, Env.root, hroot]
      cases root <;> rfl
    have htype : env.goType (.typedef r) =
        .ok (if root.star == "*" then .pointer (.named ref) else .named ref) :=
      Except.bind_eq_ok.mpr ⟨ref, href, Except.bind_eq_ok.mpr ⟨_, hreference, rfl⟩⟩
    have htext := h.type _ _ (answers_typeText htype)
    rw [Program.spelling?, hroot] at htext
    cases root <;> simpa [Ty.star, GoType.text] using htext
  | constant r =>
    refine h.constant (env.site "") (.base .bool) r ref.text ?_
    rw [literal]
    exact answers_refer href
  | item r position => exact h.position r position ref.text (answers_refer href)

end Env

namespace Program

/-- What a run refers to is written by the name under which the run for the owner declares it, behind the alias
of the owner's package where the packages differ. -/
theorem writes_as_declared {p : Program} {file owner : Ref .file} {o o' : Options} {source source' : Source}
    (h : p.generate file o = .ok source) (h' : p.generate owner o' = .ok source') :
    ∃ d d' f, p.draft file o = .ok d ∧ d.source = source ∧ p.draft owner o' = .ok d' ∧ d'.source = source' ∧
      p.file? owner = some f ∧ ∀ e, p.owner? e = some owner →
        ∃ ident text, p.identOf? e = some ident ∧ d'.Declares e ident ∧
          d.env.Spells f ident text ∧ ∀ written, d.env.Writes e written ↔ written = text := by
  obtain ⟨d, hd, rfl⟩ := generate_eq_ok.mp h
  obtain ⟨d', hd', rfl⟩ := generate_eq_ok.mp h'
  obtain ⟨self, _, _, _, hself, henv, -⟩ := draft_eq_env hd
  obtain ⟨f, _, _, _, hf, henv', -⟩ := draft_eq_env hd'
  obtain ⟨hp, -, -, hregisters⟩ := Env.registers_of_ofFile hself henv
  obtain ⟨hp', howner', -, -⟩ := Env.registers_of_ofFile hf henv'
  obtain ⟨_, _, -, -, hstarts, -⟩ := draft_eq_ok hd'
  have hvalid : p.OverridesValid owner := hp' ▸ howner' ▸ hstarts.valid
  have hsound := sound_of_draft hd
  refine ⟨d, d', f, hd, rfl, hd', rfl, hf, fun e he => ?_⟩
  obtain ⟨_, -, hcode⟩ := draft_code hd'
  have hcovers := Env.covers_of_declarationsCode hcode
  subst hp
  obtain ⟨ident, hident, href⟩ := Env.refTo_eq hf hvalid he
  refine ⟨ident, _, hident, ?_, hregisters.spells hf ident, fun written => ⟨fun h => ?_, ?_⟩⟩
  · exact hcovers.declares (hp' ▸ howner' ▸ he) (hp' ▸ hident)
  · obtain ⟨name, hnames, rfl⟩ := h
    exact hnames.eq_text hsound href
  · rintro rfl
    exact ⟨d.env.nameOf, Env.names_nameOf, Env.nameOf_eq e href⟩

/-- A program in which the constant of one file is an item of an enum of another. -/
def gallery : Program :=
  { Program.empty with
    files := [⟨"shop.thrift", "ex/shop", "shop"⟩, ⟨"paint.thrift", "ex/paint", "paint"⟩]
    constants := [⟨"wall", ⟨0⟩, .enum ⟨0⟩, .enumItem ⟨0⟩ 0, .empty⟩]
    enums := [⟨"color", ⟨1⟩, [⟨"red", 1, .empty⟩], Annotations.empty.insert nameKey "Hue"⟩] }

theorem writes_as_declared_gallery :
    ∃ d d', gallery.draft ⟨0⟩ {} = .ok d ∧ gallery.draft ⟨1⟩ {} = .ok d' ∧
      d'.Declares (.item ⟨0⟩ 0) "HueRed" ∧
      (∀ written, d.env.Writes (.item ⟨0⟩ 0) written ↔ written = "paint.HueRed") ∧
      ⟨0, "const Wall paint.Hue = paint.HueRed"⟩ ∈ d.code := by
  obtain ⟨d, hd, hself, halias, hline⟩ : ∃ d, gallery.draft ⟨0⟩ {} = .ok d ∧ d.env.self.importPath = "ex/shop" ∧
      (∀ k ∈ d.env.packages, k.path = "ex/paint" → k.name = "paint") ∧
      ⟨0, "const Wall paint.Hue = paint.HueRed"⟩ ∈ d.code :=
    exists_draft (by decide +kernel)
  obtain ⟨d', hd'⟩ : ∃ d, gallery.draft ⟨1⟩ {} = .ok d := exists_draft_of_isOk (by decide +kernel)
  obtain ⟨d₁, d₁', f, hd₁, -, hd₁', -, hf, hall⟩ :=
    writes_as_declared (generate_eq_ok.mpr ⟨d, hd, rfl⟩) (generate_eq_ok.mpr ⟨d', hd', rfl⟩)
  cases hd.symm.trans hd₁
  cases hd'.symm.trans hd₁'
  cases hf
  obtain ⟨ident, text, hident, hdeclares, hspells, hwrites⟩ := hall (.item ⟨0⟩ 0) rfl
  have hname : some "HueRed" = some ident := Eq.trans (by decide +kernel) hident
  cases hname
  obtain ⟨hpath, -⟩ | ⟨-, k, hk, hpath, -, rfl⟩ := hspells
  · rw [hself] at hpath
    exact absurd hpath (by decide)
  · rw [halias k hk hpath] at hwrites
    exact ⟨d, d', hd, hd', hdeclares, hwrites, hline⟩

end Program

end GoSchema
