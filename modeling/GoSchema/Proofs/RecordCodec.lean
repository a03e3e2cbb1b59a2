import GoSchema.Proofs.DeclarationLines
import GoSchema.Proofs.WholeRun

/-!
# Encoders and decoders of records

The methods of a record that write and read the wire format, taken apart: what they are put together from, and
that the code of the record has both of them.

## What is proved

* `Env.toWire_eq_ok` and `Env.fromWire_eq_ok`: the encoder and the decoder, with the pieces that they are made of
  and the runs in which these were put together.
* `Env.recordCode_eq_ok`: the code of a record has both, the decoder right behind the encoder.
* `Env.structCode_record`, `Env.functionCode_records` and `Program.function_part`: where the records of structs and
  of functions stand in the code of a file.

The statements inside are left as they are. What they compare, encode and set is read in the modules about wire
tags, field numbers and defaults.
-/

namespace GoSchema

open Go

/-- The encoder of a record: absent fields take their defaults, and then the fields are written one after the
other. -/
def encoder (r : Record) (wire : String) (count : Nat) (defaults encoders check : Code) : Code :=
  func s!"(v *{r.ident}) ToWire() ({wire}.Value, error)"
    (encoderLocals wire count
      ++ spaced defaults
      ++ encoders
      ++ check
      ++ line (s!"return {wire}.NewValueStruct({wire}.Struct" ++ braced "Fields: fields[:i]" ++ "), nil"))

/-- The local variables of the decoder. -/
def decoderLocals (ms : List Member) : Code :=
  (if ms.isEmpty then [] else line "var err error" ++ blank)
    ++ spaced (lines ((ms.filterMap Member.flag).map fun f => f ++ " := false"))

/-- The decoder of a record: a loop that branches on the numbers of the fields that arrive, and then absent
fields take their defaults. -/
def decoder (r : Record) (wire : String) (ms : List Member) (branches defaults after : Code) : Code :=
  func s!"(v *{r.ident}) FromWire(w {wire}.Value) error"
    (decoderLocals ms
      ++ forLoop "_, field := range w.GetStruct().Fields" (switch "field.ID" branches)
      ++ blank
      ++ spaced defaults
      ++ after)

namespace Env

variable {env : Env} {r : Record} {ms : List Member} {run run' : Run} {code : Code}

theorem toWire_eq_ok (h : env.toWire r ms run = .ok (code, run')) :
    ∃ wire run₀ defaults run₁ encoders run₂ check, env.wire run = .ok (wire, run₀) ∧
      env.fillDefaults ms run₀ = .ok (defaults, run₁) ∧
      ms.mapM (env.encodeMember r wire) run₁ = .ok (encoders, run₂) ∧
      (run' = run₂ ∨ ∃ fmt, env.package "fmt" run₂ = .ok (fmt, run')) ∧
      code = toWireComment r ms ++ encoder r wire ms.length defaults encoders.flatten check := by
  obtain ⟨wire, run₀, hwire, h⟩ := Emit.bind_eq_ok.mp h
  obtain ⟨defaults, run₁, hdefaults, h⟩ := Emit.bind_eq_ok.mp h
  obtain ⟨encoders, run₂, hencoders, h⟩ := Emit.bind_eq_ok.mp h
  dsimp only at h
  split_ifs at h with hunion
  · obtain ⟨fmt, run₃, hfmt, h⟩ := Emit.bind_eq_ok.mp h
    cases h
    exact ⟨wire, run₀, defaults, run₁, encoders, run₂, _, hwire, hdefaults, hencoders, .inr ⟨fmt, hfmt⟩, rfl⟩
  · cases h
    exact ⟨wire, run₀, defaults, run₁, encoders, _, _, hwire, hdefaults, hencoders, .inl rfl, rfl⟩

theorem fromWire_eq_ok (h : env.fromWire r ms run = .ok (code, run')) :
    ∃ wire run₀ branches run₁ defaults run₂ after, env.wire run = .ok (wire, run₀) ∧
      ms.mapM env.decodeMember run₀ = .ok (branches, run₁) ∧
      env.fillDefaults ms run₁ = .ok (defaults, run₂) ∧
      decoder r wire ms branches.flatten defaults after <:+: code := by
  obtain ⟨wire, run₀, hwire, h⟩ := Emit.bind_eq_ok.mp h
  obtain ⟨branches, run₁, hbranches, h⟩ := Emit.bind_eq_ok.mp h
  obtain ⟨defaults, run₂, hdefaults, h⟩ := Emit.bind_eq_ok.mp h
  obtain ⟨checks, run₃, -, h⟩ := Emit.bind_eq_ok.mp h
  have hinside (count : Code) :
      decoder r wire ms branches.flatten defaults (checks.flatten ++ count ++ line "return nil") <:+:
        func s!"(v *{r.ident}) FromWire(w {wire}.Value) error"
          (decoderLocals ms
            ++ forLoop "_, field := range w.GetStruct().Fields" (switch "field.ID" branches.flatten)
            ++ blank ++ spaced defaults ++ checks.flatten ++ count ++ line "return nil") := by
    simp only [decoder, List.append_assoc, List.infix_rfl]
  dsimp only at h
  by_cases hunion : r.isUnion = true
  · rw [if_pos hunion] at h
    obtain ⟨fmt, run₄, -, h⟩ := Emit.bind_eq_ok.mp h
    obtain ⟨count, run₅, -, h⟩ := Emit.bind_eq_ok.mp h
    cases h
    exact ⟨wire, run₀, branches, run₁, defaults, run₂, _, hwire, hbranches, hdefaults,
      List.infix_append_of_infix_right (hinside count)⟩
  · rw [if_neg hunion] at h
    obtain ⟨count, run₄, -, h⟩ := Emit.bind_eq_ok.mp h
    cases h
    exact ⟨wire, run₀, branches, run₁, defaults, run₂, _, hwire, hbranches, hdefaults,
      List.infix_append_of_infix_right (hinside count)⟩

/-- The code of a record begins with the Go struct and the encoder; the decoder is put together right after the
encoder. -/
theorem recordCode_eq_ok (h : env.recordCode r ms run = .ok (code, run')) :
    ∃ toWire run₁ fromWire run₂, env.toWire r ms run = .ok (toWire, run₁) ∧
      env.fromWire r ms run₁ = .ok (fromWire, run₂) ∧ structType r ms ++ toWire <+: code ∧ fromWire <:+: code := by
  obtain ⟨toWire, run₁, htoWire, h⟩ := Emit.bind_eq_ok.mp h
  obtain ⟨fromWire, run₂, hfromWire, h⟩ := Emit.bind_eq_ok.mp h
  obtain ⟨string, run₃, -, h⟩ := Emit.bind_eq_ok.mp h
  obtain ⟨equals, run₄, -, h⟩ := Emit.bind_eq_ok.mp h
  obtain ⟨log, run₅, -, h⟩ := Emit.bind_eq_ok.mp h
  obtain ⟨accessors, run₆, -, h⟩ := Emit.bind_eq_ok.mp h
  have hparts (before after : Code) :
      before ++ toWire <+: before ++ toWire ++ (fromWire ++ after) ∧
        fromWire <:+: before ++ toWire ++ (fromWire ++ after) :=
    ⟨List.prefix_append _ _, List.infix_append' _ _ _⟩
  refine ⟨toWire, run₁, fromWire, run₂, htoWire, hfromWire, ?_⟩
  dsimp only at h
  cases henvelope : r.envelope with
  | none | some _ =>
    rw [henvelope] at h
    obtain ⟨envelope, run₇, -, h⟩ := Emit.bind_eq_ok.mp h
    cases h
    simpa only [List.append_assoc] using hparts (structType r ms) _

/-- The code of a struct of the schema is that of its record. -/
theorem structCode_record {s : Struct} (h : Answers (env.structCode s) code) :
    ∃ ms, Answers (env.layout (s.record (goName s.name s.annotations))) ms ∧
      Answers (env.recordCode (s.record (goName s.name s.annotations)) ms) code := by
  obtain ⟨ident, hident, h⟩ := h.of_bind
  obtain ⟨ms, hms, h⟩ := h.of_bind
  obtain ⟨-, rfl⟩ := identifier_eq_ok.mp hident.of_lift
  exact ⟨ms, hms, h⟩

/-- The code of a function has that of its arguments record and, if the function answers, that of its
result. -/
theorem functionCode_records {names : FunctionNames} {f : Function} (h : Answers (env.functionCode names f) code) :
    (∃ ms part, Answers (env.layout (f.argsRecord names.args)) ms ∧
        Answers (env.recordCode (f.argsRecord names.args) ms) part ∧ part <:+: code) ∧
      ∀ ident ∈ names.result, ∃ ms part, Answers (env.layout (f.resultRecord ident)) ms ∧
        Answers (env.recordCode (f.resultRecord ident) ms) part ∧ part <:+: code := by
  obtain ⟨argMembers, hargMembers, h⟩ := h.of_bind
  obtain ⟨argsCode, hargsCode, h⟩ := h.of_bind
  dsimp only at h
  cases hresult : names.result with
  | none =>
    rw [hresult] at h
    obtain ⟨parts, -, h⟩ := h.of_bind
    rw [← h.of_pure]
    refine ⟨⟨argMembers, argsCode, hargMembers, hargsCode, List.infix_append' [] _ _⟩, ?_⟩
    intro ident hident
    cases hident
  | some result =>
    rw [hresult] at h
    obtain ⟨resultMembers, hresultMembers, h⟩ := h.of_bind
    obtain ⟨resultCode, hresultCode, h⟩ := h.of_bind
    obtain ⟨parts, -, h⟩ := h.of_bind
    obtain ⟨more, -, h⟩ := h.of_bind
    rw [← h.of_pure]
    refine ⟨⟨argMembers, argsCode, hargMembers, hargsCode, ?_⟩, ?_⟩
    · rw [List.append_assoc]
      exact List.infix_append' [] _ _
    · intro ident hident
      cases hident
      exact ⟨resultMembers, resultCode, hresultMembers, hresultCode, List.infix_append _ _ _⟩

theorem result_functionNames {s : Service} {f : Function} {names : FunctionNames}
    (h : env.functionNames s f = .ok names) : names.result.isSome = !f.oneway := by
  obtain ⟨service, -, h⟩ := Except.bind_eq_ok.mp h
  obtain ⟨function, -, h⟩ := Except.bind_eq_ok.mp h
  cases h
  cases f.oneway <;> rfl

/-- Every function of a service of the file has its part in the code of the declarations. -/
theorem function_part {functions : FunctionTable} (hfunctions : env.functionTable = .ok functions)
    (h : Answers (env.declarationsCode functions) code) {s : Service} (hs : s ∈ env.program.services)
    (hfile : s.file = env.file) {f : Function} (hf : f ∈ s.functions) :
    ∃ names part, env.functionNames s f = .ok names ∧ Answers (env.functionCode names f) part ∧ part <:+: code := by
  obtain ⟨constants, -, h⟩ := h.of_bind
  obtain ⟨enums, -, h⟩ := h.of_bind
  obtain ⟨typedefs, -, h⟩ := h.of_bind
  obtain ⟨structs, -, h⟩ := h.of_bind
  obtain ⟨services, hservices, h⟩ := h.of_bind
  obtain rfl := h.of_pure
  obtain ⟨i, hi⟩ := Program.exists_numbered (List.mem_filter.mpr ⟨hs, decide_eq_true hfile⟩)
  obtain ⟨j, hj⟩ := exists_mem_zipIdx hf
  obtain ⟨service, hservice, hanswer⟩ := hservices.of_mapM _ hi
  obtain ⟨parts, hparts, hanswer⟩ := hanswer.of_bind
  obtain rfl := hanswer.of_pure
  obtain ⟨part, hpart, hanswer⟩ := hparts.of_mapM _ hj
  obtain ⟨names, hfound, hcode⟩ := hanswer.of_bind
  obtain ⟨names', hfound', hnames⟩ := names_of_functionTable hfunctions hi hj
  obtain rfl : names' = names := Except.ok.inj (hfound'.symm.trans hfound.of_lift)
  refine ⟨names', part, hnames, hcode, (List.infix_of_mem_flatten hpart).trans (List.infix_of_mem_flatten ?_)⟩
  exact List.mem_append_right _ hservice

end Env

/-- The code for a file has the parts for all that the file declares. -/
theorem Program.draft_covers {p : Program} {file : Ref .file} {o : Options} {d : Draft}
    (hd : p.draft file o = .ok d) : d.env.program = p ∧ d.env.file = file ∧ d.env.Covers d.code := by
  obtain ⟨self, names, -, ⟨hprogram, hfile, -⟩, -⟩ := draft_eq_ok hd
  obtain ⟨functions, -, hcode⟩ := draft_code hd
  exact ⟨hprogram, hfile, Env.covers_of_declarationsCode hcode⟩

/-- The code for a file has a part for each function of its services, under the names of the function. -/
theorem Program.function_part {p : Program} {file : Ref .file} {o : Options} {d : Draft}
    (hd : p.draft file o = .ok d) {s : Service} (hs : s ∈ p.services) (hfile : s.file = file) {f : Function}
    (hf : f ∈ s.functions) :
    ∃ names part, d.env.functionNames s f = .ok names ∧ Answers (d.env.functionCode names f) part ∧
      part <:+: d.code := by
  obtain ⟨hprogram, hown, -⟩ := draft_covers hd
  obtain ⟨functions, hfunctions, hcode⟩ := draft_code hd
  exact Env.function_part hfunctions hcode (hprogram ▸ hs) (hfile.trans hown.symm) hf

end GoSchema
