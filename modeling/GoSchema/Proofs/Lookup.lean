import GoSchema.Generate.Source
import GoSchema.Proofs.Soundness

/-!
# Look-ups in sound programs

In a sound program every reference that a type or a value holds points to something, and every type has
a type below its typedef layers. So whatever the generator asks the program about a type that is there, it
gets an answer.

## What is proved

* `Program.Sound.unfolds`: below its typedef layers, every type that is there is one that is there and no typedef.
* `Program.Sound.rootType?_isSome`, `Program.Sound.isConstant?_isSome` and `Program.Sound.mangle_isSome`: the three
  questions that the generator asks of a program all have answers.

So the error for a reference that points to nothing is never the outcome of a look-up in a program that passes the
check. The emitters that make these look-ups are treated with the steps of a run.
-/

namespace GoSchema.Program

variable {p : Program} {ty : Ty}

theorem file?_isSome {r : Ref .file} (h : p.FileInRange r) : ∃ f, p.file? r = some f :=
  ⟨_, List.getElem?_eq_getElem h⟩

theorem enum?_isSome {r : Ref .enum} (h : p.TypeInRange (.enum r)) :
    ∃ e ∈ p.enums, p.enum? r = some e :=
  have hlt := typeInRange_enum.mp h
  ⟨_, List.getElem_mem hlt, List.getElem?_eq_getElem hlt⟩

theorem struct?_isSome {r : Ref .struct} (h : p.TypeInRange (.struct r)) :
    ∃ s ∈ p.structs, p.struct? r = some s :=
  have hlt := typeInRange_struct.mp h
  ⟨_, List.getElem_mem hlt, List.getElem?_eq_getElem hlt⟩

theorem typedef?_isSome {r : Ref .typedef} (h : p.TypeInRange (.typedef r)) :
    ∃ t ∈ p.typedefs, p.typedef? r = some t :=
  have hlt := typeInRange_typedef.mp h
  ⟨_, List.getElem_mem hlt, List.getElem?_eq_getElem hlt⟩

theorem constant?_isSome {r : Ref .constant} (h : p.ValueInRange (.constant r)) :
    ∃ c ∈ p.constants, p.constant? r = some c :=
  have hlt := valueInRange_constant.mp h
  ⟨_, List.getElem_mem hlt, List.getElem?_eq_getElem hlt⟩

namespace Sound

/-- Below its typedef layers, every type that is there is one that is there. -/
theorem unfolds (hp : p.Sound) (hty : p.TypeInRange ty) :
    ∃ layers root, p.Unfolds ty layers root := by
  cases ty with
  | typedef r =>
    obtain ⟨t, hmem, ht⟩ := typedef?_isSome hty
    obtain ⟨layers, root, h⟩ := hp.grounded t hmem
    exact ⟨r :: layers, root, .layer ht h⟩
  | _ => exact ⟨[], _, .stop rfl⟩

theorem root_inRange (hp : p.Sound) {layers : List (Ref .typedef)} {root : Ty}
    (h : p.Unfolds ty layers root) (hty : p.TypeInRange ty) : p.TypeInRange root := by
  induction h with
  | stop _ => exact hty
  | layer ht _ ih => exact ih (hp.typedefs _ (List.mem_of_getElem? ht)).2

theorem layer_inRange {layers : List (Ref .typedef)} {root : Ty}
    (h : p.Unfolds ty layers root) {r : Ref .typedef} (hr : r ∈ layers) : p.TypeInRange (.typedef r) :=
  typeInRange_typedef.mpr (h.lt_of_mem hr)

/-- The type below all layers, with what the generator relies on: it is there, and no typedef. -/
theorem rootType?_isSome (hp : p.Sound) (hty : p.TypeInRange ty) :
    ∃ root, p.rootType? ty = some root ∧ p.TypeInRange root ∧ root.isTypedef = false := by
  obtain ⟨layers, root, h⟩ := hp.unfolds hty
  exact ⟨root, h.rootType?_eq, hp.root_inRange h hty, h.root_not_typedef⟩

theorem isHashable?_isSome (hp : p.Sound) (hty : p.TypeInRange ty) :
    ∃ b, p.isHashable? ty = some b := by
  obtain ⟨root, hroot, _⟩ := hp.rootType?_isSome hty
  exact ⟨root.isScalar, by rw [isHashable?, hroot, Option.map_some]⟩

theorem isKeyedSet?_isSome (hp : p.Sound) (hty : p.TypeInRange ty) (a : Annotations) :
    ∃ b, p.isKeyedSet? ty a = some b := by
  unfold isKeyedSet?
  split_ifs
  · exact ⟨false, rfl⟩
  · exact hp.isHashable?_isSome hty

/-- Whether a value can be a Go constant is settled: every reference on the way leads to a constant. -/
theorem isConstant?_isSome (hp : p.Sound) (n : Nat) (hty : p.TypeInRange ty) {v : Value}
    (hv : p.ValueInRange v) : ∃ b, p.isConstant? n ty v = some b := by
  induction n generalizing ty v with
  | zero => exact ⟨false, rfl⟩
  | succ n ih =>
    obtain ⟨root, hroot, _⟩ := hp.rootType?_isSome hty
    simp only [isConstant?, hroot, Option.bind_eq_bind, Option.bind_some]
    split_ifs
    · cases v with
      | constant r =>
        obtain ⟨c, hmem, hc⟩ := constant?_isSome hv
        simp only [hc, Option.bind_some]
        exact ih (hp.constants c hmem).2.1 (hp.constants c hmem).2.2
      | _ => exact ⟨_, rfl⟩
    · exact ⟨false, rfl⟩

/-- Every type that is there has a symbol, whatever was given one before. -/
theorem mangle_isSome (hp : p.Sound) (hty : p.TypeInRange ty) (s : Symbols) :
    ∃ m s', Symbols.mangle p ty s = (some m, s') := by
  induction ty generalizing s with
  | base b => exact ⟨_, _, rfl⟩
  | list e ih =>
    obtain ⟨m, s', hm⟩ := ih (typeInRange_list.mp hty) s
    simp [Symbols.mangle, hm]
  | set e a ih =>
    obtain ⟨m, s', hm⟩ := ih (typeInRange_set.mp hty) s
    obtain ⟨keyed, hkeyed⟩ := hp.isKeyedSet?_isSome (typeInRange_set.mp hty) a
    simp [Symbols.mangle, hm, hkeyed]
  | map k v ihk ihv =>
    obtain ⟨mk, s₁, hk⟩ := ihk (typeInRange_map.mp hty).1 s
    obtain ⟨mv, s₂, hv⟩ := ihv (typeInRange_map.mp hty).2 s₁
    simp [Symbols.mangle, hk, hv]
  | enum r =>
    obtain ⟨e, _, he⟩ := enum?_isSome hty
    simp [Symbols.mangle, he]
  | struct r =>
    obtain ⟨d, _, hd⟩ := struct?_isSome hty
    simp [Symbols.mangle, hd]
  | typedef r =>
    obtain ⟨t, _, ht⟩ := typedef?_isSome hty
    simp [Symbols.mangle, ht]

end Sound

end GoSchema.Program
