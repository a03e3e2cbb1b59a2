import GoSchema.Proofs.FieldNumbers

/-!
# The numbers of arguments

The arguments of a function are numbered from 1 on, in the order in which they are declared. A number has 16 bits, and
so has the sum that it is computed with: the position of the argument is cut to 16 bits, and 1 is added to it. A check
of the program keeps the declared numbers of the arguments apart, so that a function has at most 65536 arguments, as
many as there are numbers. Negative numbers may be declared, too, and only 32767 numbers are above 0.

Up to this many arguments, the numbers are 1, 2, 3 and so on, and nothing is cut off. With one more, the sum for the
last argument leaves the range, and the numbers go on with the least one (`Program.arguments_numbered_iff`).

## What is proved

* `toInt_argumentId_eq_ite`: the number for every position up to 65535. From position 32767 on, the numbers go on
  with the least one.
* `Function.numberedInOrder_iff`: the fields of the arguments are numbered in order exactly if there are at most
  32767 of them, and exactly then nothing is lost in the sums.
* `Program.arguments_numbered_iff` says the same of all functions of a program that passes the check, and
  `Program.concert_numbers_run_out` shows a program that passes it and goes beyond.

A sum that leaves the range wraps around here, in all that is generated with it. That a generator could also stop
at such a sum is not modelled.
-/

namespace GoSchema

/-! ### Numbers of 16 bits -/

/-- The number for a position is computed without loss: nothing of the position is cut off, and the sum is in range. -/
def FitsNumber (position : Nat) : Prop :=
  (Int16.ofNat position).toInt = position ∧ (Int16.ofNat position).toInt + 1 ≤ Int16.maxValue.toInt

theorem fitsNumber_iff {position : Nat} : FitsNumber position ↔ position < 32767 := by
  have hmax : Int16.maxValue.toInt = 32767 := rfl
  rw [FitsNumber, hmax]
  constructor
  · rintro ⟨hposition, hsum⟩
    omega
  · intro hlt
    have hposition : (Int16.ofNat position).toInt = position := Int16.toInt_ofNat_of_lt (by omega)
    exact ⟨hposition, by omega⟩

theorem toInt_argumentId_eq_bmod (position : Nat) :
    (argumentId position).toInt = ((position : Int) + 1).bmod 65536 := by
  rw [argumentId, Int16.toInt_add, Int16.toInt_ofNat']
  simp

/-- From position 32767 on, the numbers go on with the least one. -/
theorem toInt_argumentId_eq_ite {position : Nat} (h : position < 65536) :
    (argumentId position).toInt = if position < 32767 then (position : Int) + 1 else (position : Int) + 1 - 65536 := by
  rw [toInt_argumentId_eq_bmod, Int.bmod_def]
  split_ifs <;> omega

theorem toInt_argumentId_eq_succ_iff {position : Nat} :
    (argumentId position).toInt = (position : Int) + 1 ↔ position < 32767 := by
  rw [toInt_argumentId_eq_bmod, Int.bmod_def]
  split_ifs <;> omega

namespace Function

variable {f : Function}

/-- The fields of the arguments have the numbers 1, 2, 3 and so on, in the order of the arguments. -/
def NumberedInOrder (f : Function) : Prop :=
  f.argumentFields.map (fun a => a.id.toInt) = (List.range f.arguments.length).map fun i : Nat => (i : Int) + 1

theorem numberedInOrder_iff_forall :
    f.NumberedInOrder ↔ ∀ i < f.arguments.length, (argumentId i).toInt = (i : Int) + 1 := by
  have hnumbers : f.argumentFields.map (fun a => a.id.toInt) =
      (List.range f.arguments.length).map fun i => (argumentId i).toInt := by
    rw [← Function.comp_def Int16.toInt Field.id, ← List.map_map, ids_argumentFields, List.map_map]
    rfl
  rw [NumberedInOrder, hnumbers, List.map_inj_left]
  simp only [List.mem_range]

/-- The numbers run out after 32767 arguments. -/
theorem numberedInOrder_iff : f.NumberedInOrder ↔ f.arguments.length ≤ 32767 := by
  simp only [numberedInOrder_iff_forall, toInt_argumentId_eq_succ_iff]
  exact forall_lt_iff_le

theorem forall_fitsNumber_iff : (∀ i < f.arguments.length, FitsNumber i) ↔ f.arguments.length ≤ 32767 := by
  simp only [fitsNumber_iff]
  exact forall_lt_iff_le

theorem getElem?_argumentFields {i : Nat} {a : Field} (h : f.arguments[i]? = some a) :
    f.argumentFields[i]? = some { a with id := argumentId i, required := true, default := none } := by
  rw [argumentFields, List.getElem?_map, List.getElem?_zipIdx, h]
  simp

end Function

namespace Program

/-! ### Programs that pass the check -/

/-- In a program that passes the check, no function has more arguments than there are numbers. The fields of the
arguments stand in the order of the arguments, and have the numbers 1, 2, 3 and so on exactly if there are at most
32767 arguments, which is when nothing is cut off and no sum leaves the range. The arguments behind these get the
numbers from the least one on. -/
theorem arguments_numbered_iff {p : Program} (hp : p.check = .ok ()) {s : Service} (hs : s ∈ p.services)
    {f : Function} (hf : f ∈ s.functions) :
    f.arguments.length ≤ 65536 ∧
      (f.NumberedInOrder ↔ f.arguments.length ≤ 32767) ∧
      ((∀ i < f.arguments.length, FitsNumber i) ↔ f.arguments.length ≤ 32767) ∧
      ∀ i a, f.arguments[i]? = some a →
        f.argumentFields[i]? = some { a with id := argumentId i, required := true, default := none } ∧
        (argumentId i).toInt = if i < 32767 then (i : Int) + 1 else (i : Int) + 1 - 65536 := by
  obtain ⟨-, -, hfunctions⟩ := (sound_of_check hp).services s hs
  have hlength : f.arguments.length ≤ 65536 := by
    have hle := length_le_of_nodup_numbers (hfunctions f hf).arguments.ids
    rwa [List.length_map] at hle
  refine ⟨hlength, Function.numberedInOrder_iff, Function.forall_fitsNumber_iff, fun i a ha => ?_⟩
  obtain ⟨hi, -⟩ := List.getElem?_eq_some_iff.mp ha
  exact ⟨Function.getElem?_argumentFields ha, toInt_argumentId_eq_ite (Nat.lt_of_lt_of_le hi hlength)⟩

/-- A function with this many arguments. -/
def chorus (n : Nat) : Function :=
  { name := "sing"
    arguments := (List.range n).map fun i => ⟨argumentId i, "v", .base .bool, false, none, .empty⟩
    reply := none
    oneway := false
    annotations := .empty }

/-- A program with this function. -/
def concert (n : Nat) : Program :=
  { Program.empty with
    files := [⟨"a.thrift", "ex/a", "a"⟩]
    services := [⟨"Hall", ⟨0⟩, none, [chorus n], .empty⟩] }

/-- There may be as many arguments as there are numbers. -/
theorem check_concert {n : Nat} (h : n ≤ 65536) : (concert n).check = .ok () := by
  have harguments : (concert n).FieldsSound (chorus n).arguments := by
    refine ⟨?_, ?_, ?_⟩
    · rw [chorus, List.map_map, List.nodup_map_iff_inj_on List.nodup_range]
      intro i hi j hj hij
      rw [List.mem_range] at hi hj
      exact argumentId_inj (by omega) (by omega) hij
    · simp [chorus]
    · simp [chorus]
  refine check_of_sound ⟨nofun, nofun, nofun, nofun, ?_, nofun, ?_⟩
  · intro s hs
    obtain rfl := List.mem_singleton.mp hs
    refine ⟨Nat.zero_lt_one, nofun, fun f hf => ?_⟩
    obtain rfl := List.mem_singleton.mp hf
    exact ⟨harguments, nofun, nofun⟩
  · intro a hcycle
    obtain ⟨b, ⟨c, r, hget, -⟩, -⟩ := Relation.TransGen.head'_iff.mp hcycle
    simp [concert, Program.empty] at hget

theorem length_arguments_chorus (n : Nat) : (chorus n).arguments.length = n := by simp [chorus]

theorem arguments_numbered_iff_concert :
    (concert 32767).check = .ok () ∧ (chorus 32767).NumberedInOrder ∧
      ∀ i < (chorus 32767).arguments.length, FitsNumber i := by
  have hcheck : (concert 32767).check = .ok () := check_concert (by decide)
  obtain ⟨-, hnumbers, hfits, -⟩ := arguments_numbered_iff hcheck List.mem_cons_self List.mem_cons_self
  have hlength := length_arguments_chorus 32767
  exact ⟨hcheck, hnumbers.mpr hlength.le, hfits.mpr hlength.le⟩

/-- The last of 32768 arguments gets the least number. -/
theorem concert_numbers_run_out :
    (concert 32768).check = .ok () ∧ ¬ (chorus 32768).NumberedInOrder ∧
      (chorus 32768).arguments.length = 32768 ∧ ¬ FitsNumber 32767 ∧
      ((chorus 32768).argumentFields.map fun a => a.id.toInt)[32767]? = some (-32768) := by
  have hlength := length_arguments_chorus 32768
  refine ⟨check_concert (by decide), fun hnumbers => ?_, hlength, fun hfits => ?_, ?_⟩
  · have hfew := Function.numberedInOrder_iff.mp hnumbers
    omega
  · exact absurd (fitsNumber_iff.mp hfits) (by decide)
  · have hlast : (chorus 32768).arguments[32767]? =
        some ⟨argumentId 32767, "v", .base .bool, false, none, .empty⟩ := by
      rw [chorus, List.getElem?_map, List.getElem?_range (by decide)]
      rfl
    rw [List.getElem?_map, Function.getElem?_argumentFields hlast, Option.map_some, toInt_argumentId_eq_ite (by decide)]
    rfl

end Program

end GoSchema
