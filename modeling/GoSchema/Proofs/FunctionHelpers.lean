import GoSchema.Proofs.FieldNumbers
import GoSchema.Proofs.RecordPrinting
import GoSchema.Proofs.WireTags

/-!
# The helper of a function

The helper of a function that answers moves between the value or error of a Go call and the result union. Three places
decide whether there is a value. The fields of the union and its right to be empty follow from the signature of the
function. The helper looks at the union alone: it takes the first member for the value, if that has the name `success`
and the number 0.

So the helper agrees with the signature, but for a function without value whose first exception has this name and this
number. There the exception is handed out as a value and is not recognized as an error (`Program.helper_of_function`).

## What is proved

* `Env.resultHelper_eq`: what the helper makes of a result depends on its first field alone.
* `Env.resultHelper_serves`: unless the function misleads, this is what its signature asks for.
* `Env.recordCode_counts`: the encoder and the decoder of the result count its fields, and allow none exactly if
  the function gives no value.
* `Program.helper_of_function`: in the code for the file of its service, the helper of a function serves its
  signature exactly if the function does not mislead. `Program.harbour_hands_out_exception` shows one that does.

The functions of the helper are read as texts with named parts. What a caller does with them is not modelled.
-/

namespace GoSchema

open Go

/-! ### Signatures -/

namespace Function

/-- The type of the value that a function gives, if it gives one. -/
def returns? (f : Function) : Option Ty := f.reply.bind Reply.returns

/-- The exceptions that a function declares. -/
def exceptions (f : Function) : List Field := (f.reply.map Reply.exceptions).getD []

/-- The field of a result that holds a value of this type. -/
def valueField (ty : Ty) : Field := ⟨0, successField, ty, false, none, .empty⟩

/-- The field of a result that holds this exception. -/
def errorField (e : Field) : Field := { e with default := none }

/-- The field has the name and the number of the one that holds a value. -/
def IsValueLike (e : Field) : Prop := e.name = successField ∧ e.id = 0

instance (e : Field) : Decidable (IsValueLike e) := inferInstanceAs (Decidable (_ ∧ _))

theorem isValueLike_valueField (ty : Ty) : IsValueLike (valueField ty) := ⟨rfl, rfl⟩

/-- The function gives no value, and its first exception looks like one. -/
def Misleads (f : Function) : Prop := f.returns? = none ∧ ∃ e ∈ f.exceptions.head?, IsValueLike e

theorem resultFields_eq (f : Function) :
    f.resultFields = f.returns?.toList.map valueField ++ f.exceptions.map errorField := by
  unfold resultFields returns? exceptions
  cases f.reply <;> rfl

theorem isVoid_iff (f : Function) : f.isVoid = true ↔ f.returns? = none := by
  unfold isVoid returns?
  cases f.reply with
  | none => simp
  | some reply => cases hreturns : reply.returns <;> simp [hreturns]

theorem head_resultFields (f : Function) :
    (∃ field ∈ f.resultFields.head?, IsValueLike field) ↔ f.returns?.isSome ∨ f.Misleads := by
  rw [resultFields_eq]
  cases hreturns : f.returns? with
  | some ty => simp [isValueLike_valueField]
  | none => simp [Misleads, hreturns, IsValueLike, errorField]

/-- Behind a first field that looks like a value stand the exceptions, without the one that it may be itself. -/
theorem tail_resultFields {f : Function} (h : ∃ field ∈ f.resultFields.head?, IsValueLike field) :
    (f.Misleads → f.resultFields.tail = f.exceptions.tail.map errorField) ∧
      (¬ f.Misleads → f.resultFields.tail = f.exceptions.map errorField) := by
  constructor
  · rintro ⟨hnone, -⟩
    simp [resultFields_eq, hnone]
  · intro hmisleads
    obtain ⟨ty, hty⟩ := Option.isSome_iff_exists.mp ((head_resultFields f).mp h |>.resolve_right hmisleads)
    simp [resultFields_eq, hty]

end Function

/-! ### Members of unions -/

namespace Env

variable {env : Env} {r : Record} {ms : List Member}

theorem assignFlags_of_union (hunion : r.isUnion = true) {fields : List Field}
    (h : List.Forall₂ (env.LaysOut r) fields ms) (names : Name.Namespace) : assignFlags names ms = ms := by
  induction h with
  | nil => rfl
  | cons hm _ ih =>
    obtain ⟨-, -, -, -, hrequired⟩ := hm.eqs
    rw [assignFlags, hrequired, hunion, Bool.not_true, Bool.and_false, if_neg Bool.false_ne_true, ih]

/-- No member of a union is required, so none has a flag: they are the fields laid out, and nothing else. -/
theorem laysOut_union (hunion : r.isUnion = true) (h : Answers (env.layout r) ms) :
    List.Forall₂ (env.LaysOut r) r.fields ms := by
  obtain ⟨laid, names, hlaid, rfl⟩ := members_of_layout h
  have hfields := laysOut_members hlaid
  rwa [assignFlags_of_union hunion hfields]

/-! ### What the helper makes of the members -/

/-- The case of the helper for an exception. -/
def exceptionCase (env : Env) (e : Field) : Except GenError ExceptionCase := do
  return ⟨goName e.name e.annotations, (← env.goType e.type).text⟩

theorem mapM_errorField (env : Env) (fields : List Field) :
    (fields.map Function.errorField).mapM env.exceptionCase = fields.mapM env.exceptionCase := by
  rw [List.mapM_map]
  rfl

theorem exceptionCases_of_laysOut {fields : List Field} (h : List.Forall₂ (env.LaysOut r) fields ms)
    {cases : List ExceptionCase}
    (hcases : Answers (ms.mapM fun m => return ExceptionCase.mk m.ident (← env.typeText m.type)) cases) :
    fields.mapM env.exceptionCase = .ok cases := by
  induction h generalizing cases with
  | nil =>
    obtain rfl := hcases.of_pure
    rfl
  | cons hm _ ih =>
    rw [List.mapM_cons] at hcases
    obtain ⟨first, hfirst, hcases⟩ := hcases.of_bind
    obtain ⟨rest, hrest, hcases⟩ := hcases.of_bind
    obtain rfl := hcases.of_pure
    obtain ⟨text, htext, hfirst⟩ := hfirst.of_bind
    obtain rfl := hfirst.of_pure
    obtain ⟨t, ht, rfl⟩ := typeText_eq htext
    obtain ⟨-, -, hident, htype, -⟩ := hm.eqs
    rw [htype] at ht
    rw [List.mapM_cons, exceptionCase, ht, ih hrest, hident]
    rfl

/-- The functions of the helper move the first member of the result as the value of the function. -/
def MovesFirst (env : Env) (f : Function) (names : FunctionNames) (result errors : String)
    (cases : List ExceptionCase) (response : HelperParts) : Prop :=
  ∃ field m t, f.resultFields.head? = some field ∧ env.LaysOut (f.resultRecord result) field m ∧
    env.goType field.type = .ok t ∧ response = valueResponseParts names result errors t.text m cases

/-- What the helper of a function does with results, by the signature of the function. -/
structure ServesResult (env : Env) (f : Function) (names : FunctionNames) (result errors : String)
    (cases : List ExceptionCase) (response : HelperParts) : Prop where
  value : env.MovesFirst f names result errors cases response ↔ f.returns?.isSome ∨ f.Misleads
  void : f.returns? = none → ¬ f.Misleads → response = voidResponseParts names result errors cases
  exceptions : ¬ f.Misleads → f.exceptions.mapM env.exceptionCase = .ok cases
  misled : f.Misleads → f.exceptions.tail.mapM env.exceptionCase = .ok cases

end Env

/-- A function that takes a value and an error does not have the type of one that takes an error. -/
theorem valueResponseParts_ne_void (names : FunctionNames) (result errors type : String) (m : Member)
    (cases : List ExceptionCase) :
    valueResponseParts names result errors type m cases ≠ voidResponseParts names result errors cases := by
  intro h
  have hfields := congrArg (fun parts : HelperParts => parts.fields.head?) h
  have htext : s!"WrapResponse func({type}, error) (*{result}, error)" =
      s!"WrapResponse func(error) (*{result}, error)" := by
    simpa [valueResponseParts, voidResponseParts, line] using hfields
  have hlength := congrArg (fun text => text.toList.length) htext
  simp [toString] at hlength
  omega

/-- In the code, a result is refused by the number of its fields, by the encoder and by the decoder. -/
def RefusesCounts (test bound result : String) (code : Code) : Prop :=
  let message := s!"{result} should have {bound} one field: got %v fields"
  ∀ count ∈ ["i", "count"], ∃ fmt zero : String,
    indent (ifThen s!"{count} {test} 1" (line s!"return {zero}{fmt}.Errorf(\"{message}\", {count})")) <:+: code

namespace Env

variable {env : Env} {f : Function} {code : Code}

theorem resultHelper_gives (names : FunctionNames) (result : String) (ms : List Member) :
    Gives (env.resultHelper names result ms) fun parts => ∃ errors cases response,
      parts = [isExceptionParts names cases, response] ∧
      Answers ((splitResult ms).2.mapM fun m => return ExceptionCase.mk m.ident (← env.typeText m.type)) cases ∧
      ((∃ m type, (splitResult ms).1 = some m ∧ Answers (env.typeText m.type) type ∧
          response = valueResponseParts names result errors type m cases) ∨
        ((splitResult ms).1 = none ∧ response = voidResponseParts names result errors cases)) := by
  unfold resultHelper
  obtain ⟨success, thrown⟩ := splitResult ms
  refine .bind fun cases hcases => ?_
  dsimp only
  refine .ite (.bind fun errors _ => ?_) (.bind fun errors _ => ?_)
  all_goals
    cases success with
    | some m =>
      refine .bind fun type htype => .bind fun response hresponse => .pure ?_
      exact ⟨errors, cases, response, rfl, hcases, .inl ⟨m, type, rfl, htype, hresponse.of_pure.symm⟩⟩
    | none =>
      refine .bind fun response hresponse => .pure ?_
      exact ⟨errors, cases, response, rfl, hcases, .inr ⟨rfl, hresponse.of_pure.symm⟩⟩

/-- What the helper makes of a result depends on the first field alone. -/
theorem resultHelper_eq {names : FunctionNames} {result : String} {r : Record} {ms : List Member} {fields : List Field}
    (hms : List.Forall₂ (env.LaysOut r) fields ms) {parts : List HelperParts}
    (h : Answers (env.resultHelper names result ms) parts) :
    ∃ errors cases response, parts = [isExceptionParts names cases, response] ∧
      ((∃ field rest m t, fields = field :: rest ∧ Function.IsValueLike field ∧ env.LaysOut r field m ∧
          env.goType field.type = .ok t ∧ rest.mapM env.exceptionCase = .ok cases ∧
          response = valueResponseParts names result errors t.text m cases) ∨
        ((∀ field ∈ fields.head?, ¬ Function.IsValueLike field) ∧ fields.mapM env.exceptionCase = .ok cases ∧
          response = voidResponseParts names result errors cases)) := by
  obtain ⟨errors, cases, response, hparts, hcases, hresponse⟩ := resultHelper_gives names result ms parts h
  refine ⟨errors, cases, response, hparts, ?_⟩
  cases hms with
  | nil =>
    obtain ⟨m, type, hm, -⟩ | ⟨-, hresponse⟩ := hresponse
    · cases hm
    · exact .inr ⟨nofun, exceptionCases_of_laysOut (r := r) .nil hcases, hresponse⟩
  | @cons field m rest ms hm hrest =>
    obtain ⟨hid, hname, -, htype, -⟩ := hm.eqs
    have hsuccess : m.isSuccess = true ↔ Function.IsValueLike field := by
      simp [Member.isSuccess, Function.IsValueLike, hid, hname]
    by_cases hvalue : Function.IsValueLike field
    · rw [splitResult, if_pos (hsuccess.mpr hvalue)] at hcases hresponse
      obtain ⟨m', type, hm', htext, hresponse⟩ | ⟨hnone, -⟩ := hresponse
      · obtain rfl := Option.some.inj hm'
        obtain ⟨t, ht, rfl⟩ := typeText_eq htext
        exact .inl ⟨field, rest, m, t, rfl, hvalue, hm, htype ▸ ht, exceptionCases_of_laysOut hrest hcases, hresponse⟩
      · cases hnone
    · rw [splitResult, if_neg (mt hsuccess.mp hvalue)] at hcases hresponse
      obtain ⟨m', type, hm', -⟩ | ⟨-, hresponse⟩ := hresponse
      · cases hm'
      · exact .inr ⟨by simpa using hvalue, exceptionCases_of_laysOut (.cons hm hrest) hcases, hresponse⟩

/-- The helper is the one for the signature of the function. -/
theorem resultHelper_serves {names : FunctionNames} {result : String} {ms : List Member}
    (hms : Answers (env.layout (f.resultRecord result)) ms) {parts : List HelperParts}
    (h : Answers (env.resultHelper names result ms) parts) :
    ∃ errors cases response, parts = [isExceptionParts names cases, response] ∧
      env.ServesResult f names result errors cases response := by
  obtain ⟨errors, cases, response, hparts, hresponse⟩ := resultHelper_eq (laysOut_union rfl hms) h
  refine ⟨errors, cases, response, hparts, ?_⟩
  obtain ⟨field, rest, m, t, hfields, hvalue, hm, ht, hcases, rfl⟩ | ⟨hplain, hcases, rfl⟩ := hresponse
  · have hhead : f.resultFields.head? = some field := congrArg List.head? hfields
    have htail : f.resultFields.tail = rest := congrArg List.tail hfields
    have hsignature := f.head_resultFields.mp ⟨field, hhead, hvalue⟩
    obtain ⟨hmisled, hexceptions⟩ := Function.tail_resultFields ⟨field, hhead, hvalue⟩
    refine ⟨iff_of_true ⟨field, m, t, hhead, hm, ht, rfl⟩ hsignature, ?_, ?_, ?_⟩
    · intro hnone hmisleads
      simp [hnone, hmisleads] at hsignature
    · intro hmisleads
      rwa [← mapM_errorField, ← hexceptions hmisleads, htail]
    · intro hmisleads
      rwa [← mapM_errorField, ← hmisled hmisleads, htail]
  · have hsignature := mt f.head_resultFields.mpr fun ⟨field, hfield, hvalue⟩ => hplain field hfield hvalue
    obtain ⟨hnone, hmisleads⟩ := not_or.mp hsignature
    have hfields : f.resultFields = f.exceptions.map Function.errorField := by
      simp [Function.resultFields_eq, Option.not_isSome_iff_eq_none.mp hnone]
    refine ⟨iff_of_false ?_ hsignature, fun _ _ => rfl, ?_, fun h => absurd h hmisleads⟩
    · rintro ⟨field, m, t, -, -, -, hvoid⟩
      exact valueResponseParts_ne_void _ _ _ _ _ _ hvoid.symm
    · intro _
      rw [← mapM_errorField, ← hfields]
      exact hcases

theorem toWire_counts {r : Record} {ms : List Member} (hunion : r.isUnion = true)
    (h : Answers (env.toWire r ms) code) :
    ∃ fmt zero : String, indent (unionCheck r fmt "i" zero) <:+: code := by
  obtain ⟨wire, -, h⟩ := h.of_bind
  obtain ⟨defaults, -, h⟩ := h.of_bind
  obtain ⟨encoders, -, h⟩ := h.of_bind
  dsimp only at h
  rw [if_pos hunion] at h
  obtain ⟨fmt, -, h⟩ := h.of_bind
  obtain ⟨check, hcheck, h⟩ := h.of_bind
  rw [← h.of_pure, ← hcheck.of_pure]
  refine ⟨fmt, s!"{wire}.Value" ++ braced "" ++ ", ", List.infix_append_of_infix_right (indent_infix_func ?_ _)⟩
  exact List.infix_append_of_infix_left (List.infix_append_of_infix_right (List.infix_append' [] _ _))

theorem fromWire_counts {r : Record} {ms : List Member} (hunion : r.isUnion = true)
    (h : Answers (env.fromWire r ms) code) :
    ∃ fmt zero : String, indent (unionCheck r fmt "count" zero) <:+: code := by
  obtain ⟨wire, -, h⟩ := h.of_bind
  obtain ⟨branches, -, h⟩ := h.of_bind
  obtain ⟨defaults, -, h⟩ := h.of_bind
  obtain ⟨checks, -, h⟩ := h.of_bind
  dsimp only at h
  rw [if_pos hunion] at h
  obtain ⟨fmt, -, h⟩ := h.of_bind
  obtain ⟨check, hcheck, h⟩ := h.of_bind
  rw [← h.of_pure, ← hcheck.of_pure]
  refine ⟨fmt, "", List.infix_append_of_infix_right (indent_infix_func ?_ _)⟩
  exact List.infix_append_of_infix_left (List.infix_append_of_infix_right (List.infix_append _ _ _))

/-- The encoder and the decoder of a union count its fields. -/
theorem recordCode_counts {r : Record} {ms : List Member} (hunion : r.isUnion = true)
    (h : Answers (env.recordCode r ms) code) :
    ∀ count ∈ ["i", "count"], ∃ fmt zero : String, indent (unionCheck r fmt count zero) <:+: code := by
  obtain ⟨run, run', h⟩ := h
  obtain ⟨toWire, run₁, fromWire, run₂, htoWire, hfromWire, hfirst, hthen⟩ := recordCode_eq_ok h
  intro count hcount
  obtain rfl | rfl := List.mem_pair.mp hcount
  · obtain ⟨fmt, zero, hinside⟩ := toWire_counts hunion ⟨_, _, htoWire⟩
    exact ⟨fmt, zero, hinside.trans ((List.suffix_append _ _).isInfix.trans hfirst.isInfix)⟩
  · obtain ⟨fmt, zero, hinside⟩ := fromWire_counts hunion ⟨_, _, hfromWire⟩
    exact ⟨fmt, zero, hinside.trans hthen⟩

/-- The helper of a function that answers. -/
theorem functionCode_helper {names : FunctionNames} (h : Answers (env.functionCode names f) code) {result : String}
    (hresult : names.result = some result) : ∃ ms args more, Answers (env.layout (f.resultRecord result)) ms ∧
      Answers (env.resultHelper names result ms) more ∧ helperCode names f.name (args :: more) <:+: code := by
  obtain ⟨argMembers, -, h⟩ := h.of_bind
  obtain ⟨argsCode, -, h⟩ := h.of_bind
  dsimp only at h
  rw [hresult] at h
  obtain ⟨ms, hms, h⟩ := h.of_bind
  obtain ⟨resultCode, -, h⟩ := h.of_bind
  obtain ⟨args, -, h⟩ := h.of_bind
  obtain ⟨more, hmore, h⟩ := h.of_bind
  rw [← h.of_pure]
  exact ⟨ms, args, more, hms, hmore, (List.suffix_append _ _).isInfix⟩

end Env

/-! ### Functions of a program -/

theorem Env.resultCode_refuses {env : Env} {f : Function} {result : String} {ms : List Member} {code : Code}
    (h : Answers (env.recordCode (f.resultRecord result) ms) code) :
    (f.returns? = none → RefusesCounts ">" "at most" result code) ∧
      (f.returns? ≠ none → RefusesCounts "!=" "exactly" result code) := by
  have hcounts : RefusesCounts (if f.isVoid then ">" else "!=") (if f.isVoid then "at most" else "exactly") result
      code := by
    intro count hcount
    obtain ⟨fmt, zero, hinside⟩ := recordCode_counts rfl h count hcount
    exact ⟨fmt, zero, hinside⟩
  constructor
  · intro hnone
    rwa [f.isVoid_iff.mpr hnone] at hcounts
  · intro hsome
    rwa [Bool.eq_false_iff.mpr (mt f.isVoid_iff.mp hsome)] at hcounts

theorem RefusesCounts.mono {test bound result : String} {part code : Code} (h : RefusesCounts test bound result part)
    (hinside : part <:+: code) : RefusesCounts test bound result code := by
  intro count hcount
  obtain ⟨fmt, zero, hpart⟩ := h count hcount
  exact ⟨fmt, zero, hpart.trans hinside⟩

namespace Program

/-- Let a function of the program answer. Its helper moves the first member of the result as a value if the function
gives a value, and recognizes the exceptions in order. Both fail for a function without value that the helper takes for
one with a value. The result may be empty if the function gives no value. -/
theorem helper_of_function {p : Program} {s : Service} (hs : s ∈ p.services) {f : Function} (hf : f ∈ s.functions)
    (hanswers : f.oneway = false) {o : Options} {d : Draft} (hd : p.draft s.file o = .ok d) :
    ∃ names result errors args cases response,
      d.env.functionNames s f = .ok names ∧ names.result = some result ∧
      helperCode names f.name [args, isExceptionParts names cases, response] <:+: d.code ∧
      d.env.ServesResult f names result errors cases response ∧
      (f.returns? = none → RefusesCounts ">" "at most" result d.code) ∧
      (f.returns? ≠ none → RefusesCounts "!=" "exactly" result d.code) := by
  obtain ⟨names, part, hnames, hpart, hinside⟩ := function_part hd hs rfl hf
  obtain ⟨-, hrecords⟩ := Env.functionCode_records hpart
  have hresult := Env.result_functionNames hnames
  rw [hanswers, Bool.not_false, Option.isSome_iff_exists] at hresult
  obtain ⟨result, hresult⟩ := hresult
  obtain ⟨ms, args, more, hms, hmore, hwithin⟩ := Env.functionCode_helper hpart hresult
  obtain ⟨errors, cases, response, rfl, hserves⟩ := Env.resultHelper_serves hms hmore
  obtain ⟨_, record, -, hrecord, hrecordInside⟩ := hrecords result hresult
  obtain ⟨hempty, hone⟩ := Env.resultCode_refuses hrecord
  have hrecordCode := hrecordInside.trans hinside
  exact ⟨names, result, errors, args, cases, response, hnames, hresult, hwithin.trans hinside, hserves,
    fun h => (hempty h).mono hrecordCode, fun h => (hone h).mono hrecordCode⟩

/-- A function without value that throws an exception with this number and this name. -/
def ping (id : Int16) (name : String) : Function :=
  { name := "ping"
    arguments := []
    reply := some ⟨none, [⟨id, name, .struct ⟨0⟩, false, none, .empty⟩]⟩
    oneway := false
    annotations := .empty }

/-- A service with this function. -/
def beacon (f : Function) : Service := ⟨"Beacon", ⟨0⟩, none, [f], .empty⟩

/-- A program with this service. -/
def harbour (f : Function) : Program :=
  { Program.empty with
    files := [⟨"a.thrift", "ex/a", "a"⟩]
    structs := [⟨"Gone", ⟨0⟩, .exception, [], false, .empty⟩]
    services := [beacon f] }

theorem helper_of_function_ping :
    (ping 1 "gone").oneway = false ∧ (ping 1 "gone").returns? = none ∧ ¬ (ping 1 "gone").Misleads ∧
      ∃ d names result errors args case, (harbour (ping 1 "gone")).draft ⟨0⟩ { noZap := true } = .ok d ∧
        d.env.functionNames (beacon (ping 1 "gone")) (ping 1 "gone") = .ok names ∧ names.result = some result ∧
        helperCode names "ping"
          [args, isExceptionParts names [case], voidResponseParts names result errors [case]] <:+: d.code ∧
        d.env.exceptionCase ⟨1, "gone", .struct ⟨0⟩, false, none, .empty⟩ = .ok case ∧
        RefusesCounts ">" "at most" result d.code := by
  have hmisleads : ¬ (ping 1 "gone").Misleads := by
    rintro ⟨-, e, he, -, hid⟩
    obtain rfl := Option.some.inj he
    cases hid
  obtain ⟨d, hd⟩ : ∃ d, (harbour (ping 1 "gone")).draft ⟨0⟩ { noZap := true } = .ok d :=
    exists_draft_of_isOk (by decide +kernel)
  obtain ⟨names, result, errors, args, cases, response, hnames, hresult, hinside, hserves, hempty, -⟩ :=
    helper_of_function (s := beacon (ping 1 "gone")) List.mem_cons_self (f := ping 1 "gone") List.mem_cons_self rfl hd
  obtain rfl := hserves.void rfl hmisleads
  obtain ⟨case, hcase, hcases⟩ := Except.bind_eq_ok.mp (hserves.exceptions hmisleads)
  cases hcases
  exact ⟨rfl, rfl, hmisleads, d, names, result, errors, args, case, hd, hnames, hresult, hinside, hcase, hempty rfl⟩

/-- An exception of a function without value, named `success` and numbered 0, is taken for a value: the helper hands it
out beside an error, and does not recognize it as an exception. -/
theorem harbour_hands_out_exception :
    (harbour (ping 0 "success")).check = .ok () ∧ (ping 0 "success").returns? = none ∧
      ∃ d, (harbour (ping 0 "success")).draft ⟨0⟩ { noZap := true } = .ok d ∧
        (harbour (ping 0 "success")).generate ⟨0⟩ { noZap := true } = .ok d.source ∧
        ⟨1, "WrapResponse func(*Gone, error) (*Beacon_Ping_Result, error)"⟩ ∈ d.code ∧
        "case *Gone:" ∉ d.code.map Line.text := by
  obtain ⟨d, hd, hwrap, hcase⟩ : ∃ d, (harbour (ping 0 "success")).draft ⟨0⟩ { noZap := true } = .ok d ∧
      ⟨1, "WrapResponse func(*Gone, error) (*Beacon_Ping_Result, error)"⟩ ∈ d.code ∧
      "case *Gone:" ∉ d.code.map Line.text :=
    exists_draft (by decide +kernel)
  exact ⟨rfl, rfl, d, hd, generate_eq_ok.mpr ⟨d, hd, rfl⟩, hwrap, hcase⟩

end Program

end GoSchema
