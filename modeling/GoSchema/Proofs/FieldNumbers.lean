import GoSchema.Proofs.Layout
import GoSchema.Proofs.RecordCodec
import GoSchema.Proofs.SymbolReading
import GoSchema.Proofs.WholeRun
import Mathlib.Data.Fintype.Card

/-!
# The numbers of the fields of arguments and results

The decoder of a record branches on the number of a field, so two fields with one number would give the
branches of a Go switch one label, which Go refuses. A check of the program keeps the numbers of a struct apart.
The records that a function needs are put together from groups that were checked one by one: arguments are
numbered anew, and the value of a result takes the number 0 in front of the exceptions.

Arguments never share a number, not even where the numbers overflow, since there are no more arguments than
numbers. Results do, if the function gives a value and one of its exceptions has the number 0
(`Program.numbers_of_function_records`).

## What is proved

* `Function.nodup_ids_argumentFields` and `Function.nodup_ids_resultFields`: when the numbers of the two records
  are different, by the fields of the function alone.
* `Env.recordCode_decodes`: the decoder in the code of a record has one branch for each field, labelled by its
  number.
* `Program.numbers_of_function_records` joins both for every function of a program that passes the check, in the
  code for the file of its service. `Program.store_has_label_twice` shows the one case in which a label comes
  twice.

That Go refuses a switch with one label twice is known of Go and not modelled. The structs of the schema need no
such statement: the check of a program compares their numbers directly.
-/

namespace GoSchema

open Go

/-! ### Numbers of arguments and results -/

theorem toString_int_injective : Function.Injective fun i : Int => toString i := by
  have hsign (m n : Nat) : toString m ≠ "-" ++ toString (n + 1) := by
    intro h
    have hmem : '-' ∈ (toString m).toList := by simp [h]
    have hdigit := isDigit_of_mem_toString hmem
    exact absurd hdigit (by decide)
  intro i j h
  cases i with
  | ofNat m =>
    cases j with
    | ofNat n => exact congrArg Int.ofNat (Name.Namespace.toString_injective h)
    | negSucc n => exact absurd h (hsign m n)
  | negSucc m =>
    cases j with
    | ofNat n => exact absurd h.symm (hsign n m)
    | negSucc n =>
      have hsucc := Name.Namespace.toString_injective ((String.append_right_inj "-").mp h)
      exact congrArg Int.negSucc (Nat.succ.inj hsucc)

/-- The label of the branch for a field with this number. -/
def caseLabel (id : Int16) : String := "case " ++ toString id.toInt

theorem caseLabel_injective : Function.Injective caseLabel := by
  intro a b h
  exact Int16.toInt_inj.mp (toString_int_injective ((String.append_right_inj "case ").mp h))

/-- There are 65536 numbers. -/
theorem length_le_of_nodup_numbers {ids : List Int16} (h : ids.Nodup) : ids.length ≤ 65536 := by
  have hinj : Function.Injective fun id : Int16 => id.toBitVec.toFin := by
    intro a b hab
    exact Int16.toBitVec_inj.mp (BitVec.toFin_inj.mp hab)
  have hcard := (h.map hinj).length_le_card
  rwa [List.length_map, Fintype.card_fin] at hcard

theorem argumentId_inj {i j : Nat} (hi : i < 65536) (hj : j < 65536) (h : argumentId i = argumentId j) :
    i = j := by
  have hofNat : Int16.ofNat i = Int16.ofNat j := by simpa [argumentId] using h
  have hbits := congrArg (fun id => id.toBitVec.toNat) hofNat
  simpa [Nat.mod_eq_of_lt hi, Nat.mod_eq_of_lt hj] using hbits

namespace Function

variable {f : Function}

theorem ids_argumentFields (f : Function) :
    f.argumentFields.map Field.id = (List.range f.arguments.length).map argumentId := by
  rw [argumentFields, List.map_map]
  have hsnd : (Field.id ∘ fun a : Field × Nat =>
      { a.1 with id := argumentId a.2, required := true, default := none }) = argumentId ∘ Prod.snd := rfl
  rw [hsnd, ← List.map_map, List.zipIdx_map_snd, ← List.range_eq_range']

/-- Arguments that had different numbers have different numbers again. -/
theorem nodup_ids_argumentFields (h : (f.arguments.map Field.id).Nodup) :
    (f.argumentFields.map Field.id).Nodup := by
  have hlength := length_le_of_nodup_numbers h
  rw [List.length_map] at hlength
  rw [ids_argumentFields, List.nodup_map_iff_inj_on List.nodup_range]
  intro i hi j hj hij
  rw [List.mem_range] at hi hj
  exact argumentId_inj (by omega) (by omega) hij

/-- The function gives a value, and one of its exceptions has the number of the value. -/
def ThrowsZero (f : Function) : Prop :=
  ∃ reply ∈ f.reply, reply.returns.isSome ∧ ∃ e ∈ reply.exceptions, e.id = 0

theorem ids_resultFields {reply : Reply} (h : f.reply = some reply) :
    f.resultFields.map Field.id =
      (reply.returns.toList.map fun _ => (0 : Int16)) ++ reply.exceptions.map Field.id := by
  rw [resultFields, h]
  simp [Function.comp_def]

/-- The numbers of a result are distinct but for the one clash that the exceptions alone do not show. -/
theorem nodup_ids_resultFields
    (h : ∀ reply, f.reply = some reply → (reply.exceptions.map Field.id).Nodup) :
    (f.resultFields.map Field.id).Nodup ↔ ¬ f.ThrowsZero := by
  cases hreply : f.reply with
  | none => simp [resultFields, ThrowsZero, hreply]
  | some reply =>
    rw [ids_resultFields hreply]
    cases hreturns : reply.returns with
    | none => simp [ThrowsZero, hreply, hreturns, h reply hreply]
    | some ty => simp [ThrowsZero, hreply, hreturns, h reply hreply]

end Function

/-! ### The switch of a decoder -/

/-- The branches of a decoder for fields with these bodies, labelled with the numbers of the fields. -/
def numberedBranches (fields : List Field) (bodies : List Code) : Code :=
  (List.zipWith (fun f body => caseOf (caseLabel f.id) body) fields bodies).flatten

/-- In the code, the decoder of a record has one branch for each of its fields, in order. -/
def DecodesByNumber (r : Record) (code : Code) : Prop :=
  ∃ (wire : String) (ms : List Member) (bodies : List Code) (defaults after : Code),
    bodies.length = r.fields.length ∧
      decoder r wire ms (numberedBranches r.fields bodies) defaults after <:+: code

namespace Env

variable {env : Env} {r : Record}

/-- The members of a record have the numbers of its fields. -/
theorem ids_layout {ms : List Member} (h : Answers (env.layout r) ms) :
    ms.map Member.id = r.fields.map Field.id := by
  obtain ⟨laid, names, hlaid, rfl⟩ := members_of_layout h
  rw [map_assignFlags fun _ _ => rfl]
  exact map_of_laysOut (fun _ _ hm => hm.eqs.1) (laysOut_members hlaid)

theorem decodeMember_branch (m : Member) :
    Gives (env.decodeMember m) fun code => ∃ body, code = caseOf (caseLabel m.id) body := by
  refine .bind fun tag _ => .bind fun decoded _ => ?_
  dsimp only
  cases m.holding with
  | pointer => exact .bind fun type _ => .bind fun read _ => .pure ⟨_, rfl⟩
  | value | nilable => exact .bind fun read _ => .pure ⟨_, rfl⟩

/-- The branches for members are those for the fields that they come from. -/
theorem decodeMember_branches {fields : List Field} {ms : List Member}
    (hids : ms.map Member.id = fields.map Field.id) :
    Gives (ms.mapM env.decodeMember) fun branches => ∃ bodies : List Code, bodies.length = fields.length ∧
      branches.flatten = numberedBranches fields bodies := by
  induction ms generalizing fields with
  | nil =>
    cases fields with
    | nil => exact .pure ⟨[], rfl, rfl⟩
    | cons f fields => cases hids
  | cons m ms ih =>
    cases fields with
    | nil => cases hids
    | cons f fields =>
      obtain ⟨hid, hrest⟩ := List.cons.inj hids
      rw [List.mapM_cons]
      refine .bind fun branch hbranch => .bind fun rest hrests => .pure ?_
      obtain ⟨body, rfl⟩ := decodeMember_branch m branch hbranch
      obtain ⟨bodies, hlength, hflatten⟩ := ih hrest rest hrests
      exact ⟨body :: bodies, by simp [hlength], by simp [hflatten, hid, numberedBranches]⟩

/-- The code of a record has a decoder that branches on the numbers of its fields. -/
theorem recordCode_decodes {ms : List Member} (hms : Answers (env.layout r) ms) {part code : Code}
    (hpart : Answers (env.recordCode r ms) part) (hinside : part <:+: code) : DecodesByNumber r code := by
  obtain ⟨run, run', hpart⟩ := hpart
  obtain ⟨_, _, fromWire, _, -, hfromWire, -, hwithin⟩ := recordCode_eq_ok hpart
  obtain ⟨wire, _, branches, _, defaults, _, after, -, hbranches, -, hdecoder⟩ := fromWire_eq_ok hfromWire
  obtain ⟨bodies, hlength, hflatten⟩ := decodeMember_branches (ids_layout hms) branches ⟨_, _, hbranches⟩
  rw [hflatten] at hdecoder
  exact ⟨wire, ms, bodies, defaults, after, hlength, hdecoder.trans (hwithin.trans hinside)⟩

end Env

/-! ### Functions of a program -/

theorem nodup_labels_iff {fields : List Field} :
    (fields.map fun f => caseLabel f.id).Nodup ↔ (fields.map Field.id).Nodup := by
  rw [← List.nodup_map_iff caseLabel_injective, List.map_map]
  rfl

namespace Program

/-- The decoders of the records of a function in the code for the file of its service. -/
theorem decoders_of_function {p : Program} {s : Service} (hs : s ∈ p.services) {f : Function}
    (hf : f ∈ s.functions) {o : Options} {d : Draft} (hd : p.draft s.file o = .ok d) :
    ∃ names, d.env.functionNames s f = .ok names ∧ names.result.isSome = !f.oneway ∧
      DecodesByNumber (f.argsRecord names.args) d.code ∧
      ∀ ident ∈ names.result, DecodesByNumber (f.resultRecord ident) d.code := by
  obtain ⟨names, part, hnames, hpart, hinside⟩ := function_part hd hs rfl hf
  obtain ⟨⟨ms, args, hms, hargs, hwithin⟩, hresults⟩ := Env.functionCode_records hpart
  refine ⟨names, hnames, Env.result_functionNames hnames, ?_, ?_⟩
  · exact Env.recordCode_decodes hms hargs (hwithin.trans hinside)
  · intro ident hident
    obtain ⟨ms, result, hms, hresult, hwithin⟩ := hresults ident hident
    exact Env.recordCode_decodes hms hresult (hwithin.trans hinside)

/-- In a program that passes the check, the fields of the arguments of a function have different numbers, and
those of its result have, unless the function gives a value and throws an exception with the number 0. The
decoders of both records branch on these numbers, so that is when a decoder has a label twice. -/
theorem numbers_of_function_records {p : Program} (hp : p.check = .ok ()) {s : Service} (hs : s ∈ p.services)
    {f : Function} (hf : f ∈ s.functions) :
    (f.argumentFields.map Field.id).Nodup ∧
    ((f.resultFields.map Field.id).Nodup ↔ ¬ f.ThrowsZero) ∧
    (f.argumentFields.map fun a => caseLabel a.id).Nodup ∧
    ((f.resultFields.map fun e => caseLabel e.id).Nodup ↔ ¬ f.ThrowsZero) ∧
    ∀ (o : Options) (d : Draft), p.draft s.file o = .ok d →
      ∃ names, d.env.functionNames s f = .ok names ∧ names.result.isSome = !f.oneway ∧
        DecodesByNumber (f.argsRecord names.args) d.code ∧
        ∀ ident ∈ names.result, DecodesByNumber (f.resultRecord ident) d.code := by
  obtain ⟨-, -, hfunctions⟩ := (sound_of_check hp).services s hs
  have hsound := hfunctions f hf
  have hargs := Function.nodup_ids_argumentFields hsound.arguments.ids
  have hresult := Function.nodup_ids_resultFields fun reply hreply => (hsound.exceptions reply hreply).ids
  exact ⟨hargs, hresult, nodup_labels_iff.mpr hargs, nodup_labels_iff.trans hresult,
    fun o d hd => decoders_of_function hs hf hd⟩

/-- A function that looks up a key and gives a number, or throws an exception with the number `thrown`. -/
def lookup (thrown : Int16) : Function :=
  { name := "get"
    arguments := [⟨7, "key", .base .string, false, none, .empty⟩, ⟨3, "limit", .base .i32, false, none, .empty⟩]
    reply := some ⟨some (.base .i64), [⟨thrown, "gone", .struct ⟨0⟩, false, none, .empty⟩]⟩
    oneway := false
    annotations := .empty }

/-- A service with this function. -/
def keeper (thrown : Int16) : Service := ⟨"Store", ⟨0⟩, none, [lookup thrown], .empty⟩

/-- A program with this service. -/
def store (thrown : Int16) : Program :=
  { Program.empty with
    files := [⟨"a.thrift", "ex/a", "a"⟩]
    structs := [⟨"Gone", ⟨0⟩, .exception, [], false, .empty⟩]
    services := [keeper thrown] }

theorem numbers_of_function_records_store :
    (store 1).check = .ok () ∧ ((lookup 1).argumentFields.map Field.id).Nodup ∧
      ((lookup 1).resultFields.map Field.id).Nodup ∧
      ∃ d names, (store 1).draft ⟨0⟩ {} = .ok d ∧ d.env.functionNames (keeper 1) (lookup 1) = .ok names ∧
        DecodesByNumber ((lookup 1).argsRecord names.args) d.code ∧ names.result.isSome ∧
        ∀ ident ∈ names.result, DecodesByNumber ((lookup 1).resultRecord ident) d.code := by
  have hcheck : (store 1).check = .ok () := rfl
  obtain ⟨hargs, hresult, -, -, hdecoders⟩ :=
    numbers_of_function_records hcheck (s := keeper 1) List.mem_cons_self (f := lookup 1) List.mem_cons_self
  obtain ⟨d, hd⟩ : ∃ d, (store 1).draft ⟨0⟩ {} = .ok d := exists_draft_of_isOk (by decide +kernel)
  obtain ⟨names, hnames, hanswers, hargsDecoder, hresultDecoder⟩ := hdecoders {} d hd
  refine ⟨hcheck, hargs, hresult.mpr ?_, d, names, hd, hnames, hargsDecoder, hanswers, hresultDecoder⟩
  rintro ⟨reply, hreply, -, e, he, hid⟩
  cases hreply
  obtain rfl := List.mem_singleton.mp he
  cases hid

/-- With the number 0 for the exception, the decoder of the result has two branches with one label. -/
theorem store_has_label_twice :
    (store 0).check = .ok () ∧ (lookup 0).resultFields.map Field.id = [0, 0] ∧
      ∃ d names, (store 0).draft ⟨0⟩ {} = .ok d ∧ (store 0).generate ⟨0⟩ {} = .ok d.source ∧
        d.env.functionNames (keeper 0) (lookup 0) = .ok names ∧ names.result.isSome ∧
        (∀ ident ∈ names.result, DecodesByNumber ((lookup 0).resultRecord ident) d.code) ∧
        d.code.count ⟨2, "case 0:"⟩ = 2 := by
  obtain ⟨d, hd, hcount⟩ : ∃ d, (store 0).draft ⟨0⟩ {} = .ok d ∧ d.code.count ⟨2, "case 0:"⟩ = 2 :=
    exists_draft (by decide +kernel)
  obtain ⟨names, hnames, hanswers, -, hresult⟩ :=
    decoders_of_function (s := keeper 0) List.mem_cons_self (f := lookup 0) List.mem_cons_self hd
  exact ⟨rfl, rfl, d, names, hd, generate_eq_ok.mpr ⟨d, hd, rfl⟩, hnames, hanswers, hresult, hcount⟩

end Program

end GoSchema
