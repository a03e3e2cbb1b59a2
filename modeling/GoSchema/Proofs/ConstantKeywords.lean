import GoSchema.Proofs.ConstantReferences

/-!
# Constants and variables

A constant of the schema is declared with `const` where Go allows it, and with `var` otherwise. Which of the two is
settled for each constant by itself, in the run for its own file, by following references for a bounded number of
steps. All the same the runs agree: a constant that is another constant is a Go constant exactly if its own type
allows it and the other one is a Go constant. So no Go constant is made from a variable.

What carries this is that the bound is never met. The constants that references pass are all different, so there are
no more of them than constants in the program (`Program.Follows.length_le`), and with more steps than these the
answer is always the same (`Program.Follows.isConstant?_eq`).

## What is proved

* `Program.Follows.length_le` and `Program.Follows.isConstant?_eq`, as said above.
* `Program.isGoConstant?_of_reference`: a constant that is another one is a Go constant exactly if its type allows
  it and the other one is a Go constant.
* `Program.const_iff_const`: the keyword is read off the line that declares the constant, in the code for its own
  file. Two runs that know nothing of each other print keywords that agree in this way, along references of any
  length.

Only the keyword is looked at. Whether the value that is printed behind it is one that Go evaluates at compile time
is said by the form of the value (`Value.IsNonFinite`, `Program.ScalarRooted`) and not by a semantics of Go.
-/

namespace GoSchema

open Relation

/-- A double that is infinite or no number. -/
def Value.IsNonFinite (v : Value) : Prop := ∃ d, v = .double d ∧ d.isFinite = false

/-- The code declares the constant, with this keyword. -/
def Draft.DeclaresWith (d : Draft) (c : Constant) (keyword : String) : Prop :=
  ∃ part, Answers (d.env.constantCode c) part ∧ part <:+: d.code ∧ ∃ type value : String,
    part = Go.line s!"{keyword} {goName c.name c.annotations} {type} = {value}" ++ Go.blank

namespace Program

/-- Below its typedefs the type is a base type other than binary, or an enum. -/
def ScalarRooted (p : Program) (ty : Ty) : Prop :=
  ∃ layers root, p.Unfolds ty layers root ∧ ((∃ b, b ≠ .binary ∧ root = .base b) ∨ ∃ r, root = .enum r)

variable {p : Program} {o o' : Options} {d d' : Draft} {a b r : Ref .constant} {c c' last : Constant}
  {rs : List (Ref .constant)} {ty root : Ty} {v : Value} {layers : List (Ref .typedef)}

theorem Unfolds.scalarRooted_iff (h : p.Unfolds ty layers root) : p.ScalarRooted ty ↔ root.isScalar = true := by
  constructor
  · rintro ⟨layers', root', h', hroot⟩
    obtain ⟨rfl, rfl⟩ := h.unique h'
    rcases hroot with ⟨b, hb, rfl⟩ | ⟨r, rfl⟩
    · cases b <;> simp_all [Ty.isScalar]
    · rfl
  · intro hscalar
    refine ⟨layers, root, h, ?_⟩
    cases root with
    | base b => exact .inl ⟨b, by rintro rfl; simp [Ty.isScalar] at hscalar, rfl⟩
    | enum r => exact .inr ⟨r, rfl⟩
    | _ => simp [Ty.isScalar] at hscalar

/-! ### One step -/

theorem isConstant?_of_written (hp : p.Sound) (hty : p.TypeInRange ty) (hv : v.isReference = false) (n : Nat) :
    p.isConstant? (n + 1) ty v = some true ↔ p.ScalarRooted ty ∧ ¬ v.IsNonFinite := by
  obtain ⟨layers, root, hl⟩ := hp.unfolds hty
  rw [hl.scalarRooted_iff]
  cases v with
  | constant r => cases hv
  | _ => cases hscalar : root.isScalar <;> simp [isConstant?, hl.rootType?_eq, hscalar, Value.IsNonFinite]

theorem isConstant?_of_reference (hp : p.Sound) (hty : p.TypeInRange ty) (hc : p.constant? r = some c) (n : Nat) :
    p.isConstant? (n + 1) ty (.constant r) = some true ↔
      p.ScalarRooted ty ∧ p.isConstant? n c.type c.value = some true := by
  obtain ⟨layers, root, hl⟩ := hp.unfolds hty
  rw [hl.scalarRooted_iff, isConstant?, hl.rootType?_eq]
  cases hscalar : root.isScalar <;> simp [hscalar, hc]

/-! ### The bound is never met -/

/-- What is passed after the first constant is mentioned by it, directly or through others. -/
theorem Follows.mentioned (h : p.Follows r rs last) :
    ∀ r' ∈ rs, r' = r ∨ TransGen p.Mentions r.toNat r'.toNat := by
  induction h with
  | stop _ _ => exact fun r' hr' => .inl (List.mem_singleton.mp hr')
  | next hc hv _ ih =>
    have hstep := mentions_of_value_eq hc hv
    intro r' hr'
    rcases List.mem_cons.mp hr' with rfl | hr'
    · exact .inl rfl
    · rcases ih r' hr' with rfl | hreach
      · exact .inr (.single hstep)
      · exact .inr (.head hstep hreach)

theorem Follows.nodup (hp : p.Sound) (h : p.Follows r rs last) : rs.Nodup := by
  induction h with
  | stop _ _ => exact List.nodup_singleton _
  | next hc hv h ih =>
    refine List.nodup_cons.mpr ⟨fun hmem => ?_, ih⟩
    have hstep := mentions_of_value_eq hc hv
    rcases h.mentioned _ hmem with rfl | hreach
    · exact hp.acyclic _ (.single hstep)
    · exact hp.acyclic _ (.head hstep hreach)

theorem Follows.lt_of_mem (h : p.Follows r rs last) : ∀ r' ∈ rs, r'.toNat < p.constants.length := by
  induction h with
  | stop hc _ => simpa using (List.getElem?_eq_some_iff.mp hc).1
  | next hc _ _ ih => exact List.forall_mem_cons.mpr ⟨(List.getElem?_eq_some_iff.mp hc).1, ih⟩

/-- References pass at most as many constants as there are. -/
theorem Follows.length_le (hp : p.Sound) (h : p.Follows r rs last) : rs.length ≤ p.constants.length := by
  have hnodup := (h.nodup hp).map Ref.toNat_injective
  have hlt : ∀ i ∈ rs.map Ref.toNat, i < p.constants.length := by simpa using h.lt_of_mem
  simpa using Cycle.length_le_of_nodup_of_lt hnodup hlt

/-- With enough steps for all constants that are passed, the number of steps does not matter. -/
theorem Follows.isConstant?_eq (h : p.Follows r rs last) (hc : p.constant? r = some c) {m n : Nat}
    (hm : rs.length ≤ m) (hn : rs.length ≤ n) :
    p.isConstant? m c.type c.value = p.isConstant? n c.type c.value := by
  induction h generalizing c m n with
  | @stop r c' hc' hv =>
    cases hc.symm.trans hc'
    obtain ⟨m, rfl⟩ := Nat.exists_eq_add_one.mpr hm
    obtain ⟨n, rfl⟩ := Nat.exists_eq_add_one.mpr hn
    cases hvalue : c'.value with
    | constant r =>
      rw [hvalue] at hv
      cases hv
    | _ => simp [isConstant?]
  | @next r r' c' last rs hc' hv h ih =>
    cases hc.symm.trans hc'
    rw [List.length_cons] at hm hn
    obtain ⟨m, rfl⟩ := Nat.exists_eq_add_one.mpr (Nat.lt_of_lt_of_le (Nat.succ_pos _) hm)
    obtain ⟨n, rfl⟩ := Nat.exists_eq_add_one.mpr (Nat.lt_of_lt_of_le (Nat.succ_pos _) hn)
    rw [hv]
    cases hnext : p.constant? r' with
    | none => simp [isConstant?, hnext]
    | some next => simp only [isConstant?, hnext, Option.bind_eq_bind, Option.bind_some,
        ih hnext (Nat.le_of_succ_le_succ hm) (Nat.le_of_succ_le_succ hn)]

/-- A constant that is another one is a Go constant exactly if its type allows it and the other one is. -/
theorem isGoConstant?_of_reference (hp : p.Sound) (hc : p.constant? a = some c) (hv : c.value = .constant b)
    (hc' : p.constant? b = some c') :
    p.isGoConstant? c = some true ↔ p.ScalarRooted c.type ∧ p.isGoConstant? c' = some true := by
  obtain ⟨-, hty, hrange⟩ := hp.constants c (List.mem_of_getElem? hc)
  obtain ⟨rs, last, h⟩ := hp.exists_follows (hv ▸ hrange)
  have hlength := h.length_le hp
  rw [isGoConstant?, hv, isConstant?_of_reference hp hty hc', isGoConstant?,
    h.isConstant?_eq hc' hlength (Nat.le_succ_of_le hlength)]

/-! ### What is printed -/

theorem declaresWith_iff (hc : p.constant? r = some c) (hd : p.draft c.file o = .ok d) (keyword : Bool) :
    d.DeclaresWith c (constantKeyword keyword) ↔ p.isGoConstant? c = some keyword := by
  obtain ⟨rfl, hfile, hcovers⟩ := draft_covers hd
  constructor
  · rintro ⟨part, hpart, -, type, value, hdeclared⟩
    obtain ⟨type', value', keyword', -, hkeyword, hprinted⟩ := Env.answers_constantCode hpart
    -- The two keywords begin with different letters.
    have hhead := congrArg (fun code : Go.Code => code.head?.map fun l => l.text.toList.head?)
      (hdeclared.symm.trans hprinted)
    rw [hkeyword]
    cases keyword <;> cases keyword' <;> simp [Go.line, constantKeyword, toString] at hhead ⊢
  · intro hkeyword
    obtain ⟨part, hpart, hwithin⟩ := hcovers.constants r c hc hfile.symm
    obtain ⟨type, value, keyword', -, hkeyword', hprinted⟩ := Env.answers_constantCode hpart
    cases hkeyword.symm.trans hkeyword'
    exact ⟨part, hpart, hwithin, type, value, hprinted⟩

/-- A value that is written out and accepted at a type of scalars mentions no constant. -/
theorem not_hasPart_of_scalarRooted (haccepts : p.Accepts ty v) (hv : v.isReference = false)
    (hty : p.ScalarRooted ty) : ¬ v.HasPart (.constant r) := by
  obtain ⟨layers, root, hl, hroot⟩ := hty
  have hfits := (hl.fits_iff hv).mp haccepts
  intro hpart
  rcases hroot with ⟨b, hb, rfl⟩ | ⟨e, rfl⟩
  · cases hfits <;> cases hpart
    cases hv
  · cases hfits <;> cases hpart
    cases hv

/-- The runs for the files of constants agree on what is a Go constant. Where there is code for its file, a constant is
declared with `const` or with `var`, and not with both. If its value is another constant, it is declared with `const`
exactly if its type is one of scalars and the other one is declared with `const`, by the run for the file of that one.
Otherwise it is declared with `const` exactly if its type is one of scalars and its value no double that is infinite or no
number. So a constant declared with `const` mentions only such. -/
theorem const_iff_const (hc : p.constant? a = some c) (hd : p.draft c.file o = .ok d) :
    ((d.DeclaresWith c "const" ∨ d.DeclaresWith c "var") ∧
      ¬ (d.DeclaresWith c "const" ∧ d.DeclaresWith c "var")) ∧
    (∀ b c' o' d', c.value = .constant b → p.constant? b = some c' → p.draft c'.file o' = .ok d' →
      (d.DeclaresWith c "const" ↔ p.ScalarRooted c.type ∧ d'.DeclaresWith c' "const")) ∧
    (c.value.isReference = false →
      (d.DeclaresWith c "const" ↔ p.ScalarRooted c.type ∧ ¬ c.value.IsNonFinite)) ∧
    (d.DeclaresWith c "const" → ∀ b c' o' d', c.value.HasPart (.constant b) → p.constant? b = some c' →
      p.draft c'.file o' = .ok d' → d'.DeclaresWith c' "const" ∧ ¬ d'.DeclaresWith c' "var") := by
  have hp := sound_of_draft hd
  obtain ⟨-, hty, hrange⟩ := hp.constants c (List.mem_of_getElem? hc)
  have hconst {a c o d} (hc : p.constant? a = some c) (hd : p.draft c.file o = .ok d) :
      d.DeclaresWith c "const" ↔ p.isGoConstant? c = some true := declaresWith_iff hc hd true
  have hvar {a c o d} (hc : p.constant? a = some c) (hd : p.draft c.file o = .ok d) :
      d.DeclaresWith c "var" ↔ p.isGoConstant? c = some false := declaresWith_iff hc hd false
  have hwritten : c.value.isReference = false →
      (d.DeclaresWith c "const" ↔ p.ScalarRooted c.type ∧ ¬ c.value.IsNonFinite) := fun hv =>
    (hconst hc hd).trans (isConstant?_of_written hp hty hv _)
  refine ⟨?_, fun b c' o' d' hv hc' hd' => ?_, hwritten, fun hdeclared b c' o' d' hpart hc' hd' => ?_⟩
  · obtain ⟨keyword, hkeyword⟩ := hp.isConstant?_isSome (p.constants.length + 1) hty hrange
    rw [hconst hc hd, hvar hc hd, isGoConstant?, hkeyword]
    cases keyword <;> simp
  · rw [hconst hc hd, hconst hc' hd']
    exact isGoConstant?_of_reference hp hc hv hc'
  · have hconst' : p.isGoConstant? c' = some true := by
      cases hv : c.value.isReference with
      | true =>
        obtain ⟨r, hr⟩ := Value.isReference_iff.mp hv
        rw [hr] at hpart
        cases hpart
        exact ((isGoConstant?_of_reference hp hc hr hc').mp ((hconst hc hd).mp hdeclared)).2
      | false =>
        have hscalar := ((hwritten hv).mp hdeclared).1
        exact absurd hpart (not_hasPart_of_scalarRooted (accepts_of_draft hc hd) hv hscalar)
    rw [hconst hc' hd', hvar hc' hd', hconst']
    simp

theorem const_iff_const_tally :
    ∃ d d', tallyProgram.draft ⟨0⟩ { noZap := true } = .ok d ∧ tallyProgram.draft ⟨1⟩ { noZap := true } = .ok d' ∧
      d'.DeclaresWith ⟨"base", ⟨1⟩, .base .i32, .int 5, .empty⟩ "const" ∧
      d.DeclaresWith ⟨"first", ⟨0⟩, .typedef ⟨0⟩, .constant ⟨0⟩, .empty⟩ "const" ∧
      d.DeclaresWith ⟨"tallies", ⟨0⟩, .list (.typedef ⟨0⟩), .list [.constant ⟨1⟩, .int 7], .empty⟩ "var" := by
  obtain ⟨⟨d, hd⟩, d', hd'⟩ := exists_draft_tally
  have hscalar : tallyProgram.ScalarRooted (.base .i32) := ⟨[], _, .stop rfl, .inl ⟨.i32, nofun, rfl⟩⟩
  have htally : tallyProgram.ScalarRooted (.typedef ⟨0⟩) :=
    ⟨[⟨0⟩], _, .layer rfl (.stop rfl), .inl ⟨.i32, nofun, rfl⟩⟩
  have hlist : ¬ tallyProgram.ScalarRooted (.list (.typedef ⟨0⟩)) := by
    rw [(Unfolds.stop rfl).scalarRooted_iff]
    simp [Ty.isScalar]
  have hbase : d'.DeclaresWith ⟨"base", ⟨1⟩, .base .i32, .int 5, .empty⟩ "const" :=
    ((const_iff_const (a := ⟨0⟩) (p := tallyProgram) rfl hd').2.2.1 rfl).mpr ⟨hscalar, nofun⟩
  have hfirst : d.DeclaresWith ⟨"first", ⟨0⟩, .typedef ⟨0⟩, .constant ⟨0⟩, .empty⟩ "const" :=
    ((const_iff_const (a := ⟨1⟩) (p := tallyProgram) rfl hd).2.1 ⟨0⟩ _ _ d' rfl rfl hd').mpr ⟨htally, hbase⟩
  have htallies := const_iff_const (a := ⟨2⟩) (p := tallyProgram) rfl hd
  exact ⟨d, d', hd, hd', hbase, hfirst, htallies.1.1.resolve_left fun h => hlist ((htallies.2.2.1 rfl).mp h).1⟩

end Program

end GoSchema
