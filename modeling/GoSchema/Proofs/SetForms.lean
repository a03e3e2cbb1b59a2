import GoSchema.Proofs.Layout
import GoSchema.Proofs.RecordCodec

/-!
# The forms of sets

The annotation `go.type` of a set has one value with a meaning, which asks for a sequence. Every other value is passed
over when the form of the set is chosen, as if it were not there, so it has to be refused before. `checkSets` does so for
one type, at any depth (`checkSets_eq_ok_iff`), and is called by hand for each type that a declaration brings: nowhere
is it left out (`Program.set_forms_supported`). What a function would answer is not looked at if it does not answer.

## What is proved

* `checkSets_eq_ok_iff`: a type is let through exactly if all sets in it have a supported form.
* `Program.isKeyedSet?_eq_true_iff`: a set with a supported form is a Go map exactly if its form is left open and
  its elements can be keys.
* `Program.set_forms_supported`: where there is code for a file, this holds of every set at any depth of every type
  that its declarations bring (`Program.DeclaresType`).

Types that are only mentioned belong to the declarations that bring them, in whatever file these are. They are
checked there, and nothing is said about files without code.
-/

namespace GoSchema

/-- The form of the set is left open, or a sequence is asked for. -/
def Annotations.FormSupported (a : Annotations) : Prop := a.get? typeKey = none ∨ a.get? typeKey = some sliceForm

/-- All sets in the type, at any depth, have a form that is supported. -/
def Ty.FormsSupported (ty : Ty) : Prop := ∀ element a, ty.HasPart (.set element a) → a.FormSupported

/-! ### One type -/

theorem Ty.formsSupported_list {e : Ty} : (Ty.list e).FormsSupported ↔ e.FormsSupported := by
  constructor
  · exact fun h element a hpart => h element a (.element hpart)
  · rintro h element a ⟨⟩
    exact h element a ‹_›

theorem Ty.formsSupported_set {e : Ty} {a : Annotations} :
    (Ty.set e a).FormsSupported ↔ a.FormSupported ∧ e.FormsSupported := by
  constructor
  · exact fun h => ⟨h e a (.self _), fun element a' hpart => h element a' (.member hpart)⟩
  · rintro ⟨ha, he⟩ element a' hpart
    cases hpart with
    | self => exact ha
    | member hpart => exact he element a' hpart

theorem Ty.formsSupported_map {k v : Ty} : (Ty.map k v).FormsSupported ↔ k.FormsSupported ∧ v.FormsSupported := by
  constructor
  · exact fun h => ⟨fun element a hpart => h element a (.key hpart), fun element a hpart => h element a (.value hpart)⟩
  · rintro ⟨hk, hv⟩ element a hpart
    cases hpart with
    | key hpart => exact hk element a hpart
    | value hpart => exact hv element a hpart

/-- A type is let through exactly if all sets in it have a supported form. -/
theorem checkSets_eq_ok_iff {site : Site} {ty : Ty} : checkSets site ty = .ok () ↔ ty.FormsSupported := by
  induction ty with
  | base _ | enum _ | struct _ | typedef _ =>
    refine iff_of_true rfl fun element a hpart => ?_
    cases hpart
  | list e ih => exact ih.trans Ty.formsSupported_list.symm
  | map k v ihk ihv => rw [checkSets, Except.then_eq_ok, ihk, ihv, Ty.formsSupported_map]
  | set e a ih =>
    rw [checkSets, Ty.formsSupported_set, Annotations.FormSupported]
    cases hform : a.get? typeKey with
    | none => simpa using ih
    | some form =>
      dsimp only
      split_ifs with hslice
      · simpa [hslice] using ih
      · simp [hslice]

/-- A set with a supported form is a Go map exactly if its form is left open and its elements can be keys. -/
theorem Program.isKeyedSet?_eq_true_iff {p : Program} {element : Ty} {a : Annotations} (h : a.FormSupported) :
    p.isKeyedSet? element a = some true ↔ a.get? typeKey = none ∧ p.isHashable? element = some true := by
  unfold isKeyedSet?
  rcases h with h | h <;> simp [h]

/-! ### Declarations -/

namespace Env

variable {env : Env} {code : Go.Code}

theorem formsSupported_of_constantCode {c : Constant} (h : Answers (env.constantCode c) code) :
    c.type.FormsSupported := by
  obtain ⟨_, -, h⟩ := h.of_bind
  obtain ⟨⟨⟩, hcheck, -⟩ := h.of_bind
  exact checkSets_eq_ok_iff.mp hcheck.of_lift

theorem formsSupported_of_typedefCode {t : Typedef} (h : Answers (env.typedefCode t) code) :
    t.target.FormsSupported := by
  obtain ⟨⟨⟩, hcheck, -⟩ := h.of_bind
  exact checkSets_eq_ok_iff.mp hcheck.of_lift

/-- Each field is checked when its turn comes. -/
theorem formsSupported_of_membersFrom {r : Record} {fields : List Field} {claims : Claims} {x : List Member × Claims}
    (h : env.membersFrom r claims fields = .ok x) : ∀ field ∈ fields, field.type.FormsSupported := by
  induction fields generalizing claims x with
  | nil => exact fun field hfield => absurd hfield List.not_mem_nil
  | cons field fields ih =>
    rw [membersFrom] at h
    obtain ⟨⟨⟩, hcheck, h⟩ := Except.bind_eq_ok.mp h
    obtain ⟨_, -, h⟩ := Except.bind_eq_ok.mp h
    obtain ⟨_, -, h⟩ := Except.bind_eq_ok.mp h
    obtain ⟨_, -, h⟩ := Except.bind_eq_ok.mp h
    obtain ⟨y, hy, -⟩ := Except.bind_eq_ok.mp h
    exact List.forall_mem_cons.mpr ⟨checkSets_eq_ok_iff.mp hcheck, ih hy⟩

theorem formsSupported_of_layout {r : Record} {ms : List Member} (h : Answers (env.layout r) ms) :
    ∀ field ∈ r.fields, field.type.FormsSupported := by
  obtain ⟨laid, _, hlaid, -⟩ := members_of_layout h
  obtain ⟨x, hx, -⟩ := Except.bind_eq_ok.mp hlaid
  exact formsSupported_of_membersFrom hx

theorem formsSupported_of_functionCode {s : Service} {f : Function} {names : FunctionNames}
    (hnames : env.functionNames s f = .ok names) (h : Answers (env.functionCode names f) code) :
    (∀ field ∈ f.argumentFields, field.type.FormsSupported) ∧
      (f.oneway = false → ∀ field ∈ f.resultFields, field.type.FormsSupported) := by
  obtain ⟨⟨_, _, hargs, -⟩, hresults⟩ := functionCode_records h
  refine ⟨formsSupported_of_layout hargs, fun hanswers => ?_⟩
  have hresult := result_functionNames hnames
  rw [hanswers, Bool.not_false, Option.isSome_iff_exists] at hresult
  obtain ⟨ident, hident⟩ := hresult
  obtain ⟨_, _, hresult, -⟩ := hresults ident hident
  exact formsSupported_of_layout hresult

end Env

namespace Program

/-- A type that the declarations of a file bring: of a constant, the target of a typedef, of a field, of an argument,
or of what a function that answers returns or throws. -/
inductive DeclaresType (p : Program) (file : Ref .file) : Ty → Prop where
  | constant {r : Ref .constant} {c : Constant} : p.constant? r = some c → c.file = file → p.DeclaresType file c.type
  | target {r : Ref .typedef} {t : Typedef} : p.typedef? r = some t → t.file = file → p.DeclaresType file t.target
  | field {r : Ref .struct} {s : Struct} {f : Field} : p.struct? r = some s → s.file = file → f ∈ s.fields →
      p.DeclaresType file f.type
  | argument {r : Ref .service} {s : Service} {f : Function} {a : Field} : p.service? r = some s → s.file = file →
      f ∈ s.functions → a ∈ f.arguments → p.DeclaresType file a.type
  | returned {r : Ref .service} {s : Service} {f : Function} {reply : Reply} {ty : Ty} : p.service? r = some s →
      s.file = file → f ∈ s.functions → f.oneway = false → f.reply = some reply → reply.returns = some ty →
      p.DeclaresType file ty
  | thrown {r : Ref .service} {s : Service} {f : Function} {reply : Reply} {e : Field} : p.service? r = some s →
      s.file = file → f ∈ s.functions → f.oneway = false → f.reply = some reply → e ∈ reply.exceptions →
      p.DeclaresType file e.type

variable {p : Program} {file : Ref .file} {o : Options}

theorem DeclaresType.formsSupported {d : Draft} {ty : Ty} (h : p.DeclaresType file ty)
    (hd : p.draft file o = .ok d) : ty.FormsSupported := by
  obtain ⟨rfl, rfl, hcovers⟩ := draft_covers hd
  have hfunction {r : Ref .service} {s : Service} {f : Function} (hs : d.env.program.service? r = some s)
      (hfile : s.file = d.env.file) (hf : f ∈ s.functions) :
      (∀ field ∈ f.argumentFields, field.type.FormsSupported) ∧
        (f.oneway = false → ∀ field ∈ f.resultFields, field.type.FormsSupported) := by
    obtain ⟨names, part, hnames, hpart, -⟩ := function_part hd (List.mem_of_getElem? hs) hfile hf
    exact Env.formsSupported_of_functionCode hnames hpart
  cases h with
  | constant hc hfile =>
    obtain ⟨part, hpart, -⟩ := hcovers.constants _ _ hc hfile
    exact Env.formsSupported_of_constantCode hpart
  | target ht hfile =>
    obtain ⟨part, hpart, -⟩ := hcovers.typedefs _ _ ht hfile
    exact Env.formsSupported_of_typedefCode hpart
  | field hs hfile hf =>
    obtain ⟨part, hpart, -⟩ := hcovers.structs _ _ hs hfile
    obtain ⟨ms, hms, -⟩ := Env.structCode_record hpart
    exact Env.formsSupported_of_layout hms _ hf
  | @argument r s f a hs hfile hf ha =>
    obtain ⟨position, hposition⟩ := List.mem_iff_getElem?.mp ha
    refine (hfunction hs hfile hf).1 { a with id := argumentId position, required := true, default := none } ?_
    exact List.mem_map.mpr ⟨(a, position), List.mem_zipIdx_iff_getElem?.mpr hposition, rfl⟩
  | @returned r s f reply ty hs hfile hf hanswers hreply hreturns =>
    refine (hfunction hs hfile hf).2 hanswers ⟨0, successField, ty, false, none, .empty⟩ ?_
    simp [Function.resultFields, hreply, hreturns]
  | @thrown r s f reply e hs hfile hf hanswers hreply he =>
    refine (hfunction hs hfile hf).2 hanswers { e with default := none } ?_
    rw [Function.resultFields, hreply]
    exact List.mem_append_right _ (List.mem_map.mpr ⟨e, he, rfl⟩)

/-- Where there is code for a file, every set in a type that its declarations bring, at any depth, has no form or that of
a sequence. So it is a Go map exactly if it has none and its elements can be keys. -/
theorem set_forms_supported {source : Source} (h : p.generate file o = .ok source) {ty : Ty}
    (hty : p.DeclaresType file ty) {element : Ty} {a : Annotations} (hset : ty.HasPart (.set element a)) :
    (a.get? typeKey = none ∨ a.get? typeKey = some sliceForm) ∧
      (p.isKeyedSet? element a = some true ↔ a.get? typeKey = none ∧ p.isHashable? element = some true) := by
  obtain ⟨d, hd, -⟩ := generate_eq_ok.mp h
  have hsupported := hty.formsSupported hd element a hset
  exact ⟨hsupported, isKeyedSet?_eq_true_iff hsupported⟩

/-- A sequence of votes, as a set. -/
def voteSet : Ty := .set (.base .i32) (Annotations.empty.insert typeKey sliceForm)

/-- A service with a function that returns votes by voter, and one that does not answer. The answer that the second
would give has a set without a supported form. -/
def polls : Program :=
  { Program.empty with
    files := [⟨"a.thrift", "ex/a", "a"⟩]
    services := [⟨"Polls", ⟨0⟩, none,
      [⟨"votes", [], some ⟨some (.map (.base .string) (.list voteSet)), []⟩, false, .empty⟩,
       ⟨"close", [], some ⟨some (.set (.base .i32) (Annotations.empty.insert typeKey "array")), []⟩, true, .empty⟩],
      .empty⟩] }

theorem set_forms_supported_polls :
    (∃ source, polls.generate ⟨0⟩ { noZap := true } = .ok source) ∧
      polls.DeclaresType ⟨0⟩ (.map (.base .string) (.list voteSet)) ∧
      (.map (.base .string) (.list voteSet) : Ty).HasPart voteSet ∧
      polls.isKeyedSet? (.base .i32) (Annotations.empty.insert typeKey sliceForm) ≠ some true := by
  obtain ⟨source, hsource⟩ : ∃ source, polls.generate ⟨0⟩ { noZap := true } = .ok source :=
    exists_source (by decide +kernel)
  have hty : polls.DeclaresType ⟨0⟩ (.map (.base .string) (.list voteSet)) :=
    @DeclaresType.returned polls ⟨0⟩ ⟨0⟩ _ _ _ _ rfl rfl List.mem_cons_self rfl rfl rfl
  have hset : (.map (.base .string) (.list voteSet) : Ty).HasPart voteSet := .value (.element (.self _))
  refine ⟨⟨source, hsource⟩, hty, hset, fun hkeyed => ?_⟩
  have hopen := ((set_forms_supported hsource hty hset).2.mp hkeyed).1
  revert hopen
  decide

end Program

end GoSchema
