import GoSchema.Proofs.Answers
import GoSchema.Proofs.Rendering
import GoSchema.Proofs.RunHistory

/-!
# Helpers are built once

Behind the declarations of a file stand the helpers that its code asked for, from wherever it did: each symbol
that was asked for has one helper, which declares it, and there is no other. A helper is known from the moment it
is begun, before it is finished, so even a request from inside the helper itself finds it known. Hence what builds
the helper runs once for each symbol (`Program.helpers_built_once`).

## What is proved

* `DeclaresFirst` reads the first line of a helper's code. `Env.helperSource_declares`: for every role, what builds
  a helper under a name declares this name there, as a type or as a function.
* `DeclaresFirst.exists_render_eq`: the printed text begins with this line.
* `Program.helpers_built_once`: the file ends with the helpers that the run finished. Each symbol that was asked
  for was begun once, finished once and stands there once, and no other does.

Whether two types that share a symbol also share a Go type is another matter, and so is what the helpers do. Both
have modules of their own. That the symbols are free in the package is part of the history of a run.
-/

namespace GoSchema

open Go

/-! ### What a helper declares -/

/-- The line declares this symbol, as a type or as a function. -/
def DeclaresIn (symbol line : String) : Prop :=
  ("type " ++ symbol ++ " ").toList <+: line.toList ∨ ("func " ++ symbol ++ "(").toList <+: line.toList

/-- The first line of the code declares this symbol. -/
def DeclaresFirst (symbol : String) (code : Code) : Prop :=
  ∃ text, code.head? = some ⟨0, text⟩ ∧ DeclaresIn symbol text

theorem declaresFirst_type (symbol rest : String) (more : Code) :
    DeclaresFirst symbol (⟨0, "type " ++ symbol ++ " " ++ rest⟩ :: more) :=
  ⟨_, rfl, .inl (by simp)⟩

theorem declaresFirst_func {symbol signature : String} (h : (symbol ++ "(").toList <+: signature.toList)
    (body : Code) : DeclaresFirst symbol (func signature body) := by
  refine ⟨_, rfl, .inr ?_⟩
  obtain ⟨rest, hrest⟩ := h
  simp [← hrest]

/-- The text of the code begins with the line that declares the symbol. -/
theorem DeclaresFirst.exists_render_eq {symbol : String} {code : Code} (h : DeclaresFirst symbol code) :
    ∃ line rest, DeclaresIn symbol line ∧ render code = line ++ "\n" ++ rest := by
  obtain ⟨text, hhead, hdeclares⟩ := h
  obtain ⟨more, rfl⟩ := List.head?_eq_some_iff.mp hhead
  exact ⟨text, render more, hdeclares, by rw [render_cons, Line.indentation_top, String.empty_append]⟩

namespace Env

variable {env : Env}

theorem sequenceAdapter_declares (ty e : Ty) (keyed : Bool) (container : String) (element : Emit String)
    (name : String) :
    Gives (env.sequenceAdapter ty e keyed container element name) (DeclaresFirst name) :=
  .bind fun _ _ => .bind fun _ _ => .bind fun _ _ => .bind fun _ _ => .bind fun _ _ =>
    .pure (declaresFirst_type name _ _)

theorem valueListCode_declares (ty : Ty) (name : String) :
    Gives (env.valueListCode ty name) (DeclaresFirst name) := by
  cases ty with
  | list e => exact sequenceAdapter_declares _ _ _ _ _ _
  | set e a => exact .bind fun _ _ => sequenceAdapter_declares _ _ _ _ _ _
  | base _ | map _ _ | enum _ | struct _ | typedef _ => exact .throw

theorem mapItemListCode_declares (ty : Ty) (name : String) :
    Gives (env.mapItemListCode ty name) (DeclaresFirst name) := by
  cases ty with
  | map k v =>
    refine .bind fun _ _ => .bind fun _ _ => .bind fun _ _ => .bind fun _ _ => .bind fun _ _ => ?_
    refine .bind fun _ _ => .bind fun _ _ => .bind fun _ _ => .bind fun _ _ => ?_
    exact .pure (declaresFirst_type name _ _)
  | base _ | list _ | set _ _ | enum _ | struct _ | typedef _ => exact .throw

theorem sequenceReader_declares (ty e : Ty) (keyed : Bool) (container source : String)
    (element : Emit String) (name : String) :
    Gives (env.sequenceReader ty e keyed container source element name) (DeclaresFirst name) :=
  .bind fun _ _ => .bind fun _ _ => .bind fun _ _ => .bind fun _ _ => .pure (declaresFirst_func (by simp [toString]) _)

theorem containerReaderCode_declares (ty : Ty) (name : String) :
    Gives (env.containerReaderCode ty name) (DeclaresFirst name) := by
  cases ty with
  | list e => exact sequenceReader_declares _ _ _ _ _ _ _
  | set e a => exact .bind fun _ _ => sequenceReader_declares _ _ _ _ _ _ _
  | map k v =>
    refine .bind fun _ _ => .bind fun _ _ => .bind fun _ _ => .bind fun _ _ => .bind fun _ _ => ?_
    exact .bind fun _ _ => .pure (declaresFirst_func (by simp [toString]) _)
  | base _ | enum _ | struct _ | typedef _ => exact .throw

theorem namedReaderCode_declares (ty : Ty) (name : String) :
    Gives (env.namedReaderCode ty name) (DeclaresFirst name) :=
  .bind fun _ _ => .bind fun _ _ => .bind fun _ _ => .pure (declaresFirst_func (by simp [toString]) _)

theorem readerSource_declares (ty : Ty) (name : String) :
    Gives (env.readerSource ty name) (DeclaresFirst name) := by
  cases ty with
  | enum _ | struct _ | typedef _ => exact namedReaderCode_declares _ _
  | base _ | list _ | set _ _ | map _ _ => exact containerReaderCode_declares _ _

theorem declaresFirst_comparator (name type : String) (loop : Code) :
    DeclaresFirst name (comparatorCode name type loop) := declaresFirst_func (by simp [toString]) _

theorem containerComparator_declares (ty : Ty) (name : String) :
    Gives (env.containerComparator ty name) (DeclaresFirst name) := by
  cases ty with
  | list e => exact .bind fun _ _ => .bind fun _ _ => .pure (declaresFirst_comparator _ _ _)
  | set e a =>
    refine .bind fun _ _ => .bind fun keyed _ => ?_
    cases keyed with
    | true => exact .pure (declaresFirst_comparator _ _ _)
    | false => exact .bind fun _ _ => .pure (declaresFirst_comparator _ _ _)
  | map k v =>
    refine .bind fun _ _ => .bind fun _ _ => .bind fun keyed _ => ?_
    cases keyed with
    | true => exact .pure (declaresFirst_comparator _ _ _)
    | false => exact .bind fun _ _ => .pure (declaresFirst_comparator _ _ _)
  | base _ | enum _ | struct _ | typedef _ => exact .bind fun _ _ => .throw

theorem sequenceZapper_declares (type zapcore : String) (keyed : Except GenError Bool) (element : Emit LogValue)
    (name : String) : Gives (env.sequenceZapper type zapcore keyed element name) (DeclaresFirst name) :=
  .bind fun _ _ => .bind fun _ _ => .bind fun _ _ => .pure (declaresFirst_type name _ _)

theorem zapperCode_declares (ty : Ty) (name : String) : Gives (env.zapperCode ty name) (DeclaresFirst name) := by
  cases ty with
  | list e | set e a => exact .bind fun _ _ => .bind fun _ _ => sequenceZapper_declares _ _ _ _ _
  | map k v =>
    refine .bind fun _ _ => .bind fun _ _ => .bind fun shape _ => ?_
    cases shape with
    | object => exact .bind fun _ _ => .bind fun _ _ => .pure (declaresFirst_type name _ _)
    | array => exact .bind fun _ _ => .bind fun _ _ => .bind fun _ _ => .pure (declaresFirst_type name _ _)
  | base _ | enum _ | struct _ | typedef _ => exact .bind fun _ _ => .bind fun _ _ => .throw

theorem itemZapperSource_declares (ty : Ty) (name : String) :
    Gives (env.itemZapperSource ty name) (DeclaresFirst name) := by
  cases ty with
  | map k v =>
    refine .bind fun _ _ => .bind fun _ _ => .bind fun _ _ => .bind fun _ _ => .bind fun _ _ => ?_
    refine .bind fun _ _ => .bind fun _ _ => .pure ?_
    exact ⟨_, rfl, .inl (by simp [toString])⟩
  | base _ | list _ | set _ _ | enum _ | struct _ | typedef _ => exact .throw

/-- What builds a helper under a name declares this name. -/
theorem helperSource_declares (role : Role) (ty : Ty) (name : String) :
    Gives (env.helperSource role ty name) (DeclaresFirst name) := by
  cases role with
  | valueList => exact valueListCode_declares ty name
  | mapItemList => exact mapItemListCode_declares ty name
  | read => exact readerSource_declares ty name
  | equals => exact containerComparator_declares ty name
  | equalsPtr => exact .bind fun _ _ => .bind fun _ _ => .pure (declaresFirst_func (by simp [toString]) _)
  | zapper => exact zapperCode_declares ty name
  | itemZapper => exact itemZapperSource_declares ty name
  | ptr => exact .bind fun _ _ => .pure (declaresFirst_func (by simp [toString]) _)

/-- A helper that was built is finished and declares its symbol. -/
theorem Builds.declares {r r' : Run} {events : List Event} {q : Request} (h : env.Builds r events r' q) :
    ∃ code, ⟨q.symbol, code⟩ ∈ events.filterMap Event.finished? ∧ DeclaresFirst q.symbol code := by
  obtain ⟨code, hfinished, hsource⟩ := h.finished
  exact ⟨code, hfinished, helperSource_declares _ _ _ code hsource⟩

end Env

/-! ### The helpers of a file -/

/-- What stands before the code of the declarations. -/
def Draft.opening (d : Draft) : String :=
  d.header ++ if (importBlock d.imports).isEmpty then "" else importBlock d.imports ++ "\n"

theorem Draft.contents_eq (d : Draft) :
    d.contents = d.opening ++ render d.code ++ String.join (d.run.helpers.map fun h => render h.code) := by
  unfold contents
  dsimp only
  rw [body, render_append, render_flatMap, ← String.append_assoc]
  rfl

namespace Program

variable {p : Program} {file : Ref .file} {o : Options}

/-- What a generated file has behind its declarations are the helpers that the run finished. In the history of the
run, which has the requests that were made, each symbol that was asked for is begun once and finished once, and
no other is; between the two, what builds the helper runs and gives the code that is set down. The code declares
the symbol in its first line, and so does the text that stands in the file. -/
theorem helpers_built_once {source : Source} (h : p.generate file o = .ok source) :
    ∃ d names events, p.draft file o = .ok d ∧ d.source = source ∧
      source.contents = d.opening ++ render d.code ++ String.join (d.run.helpers.map fun h => render h.code) ∧
      d.env.Trace (Run.start names) events d.run ∧
      events.filterMap Event.request? = d.run.requests ∧ events.filterMap Event.finished? = d.run.helpers ∧
      (∀ symbol, (d.run.helpers.map Helper.symbol).count symbol =
        if symbol ∈ d.run.requests.map Request.symbol then 1 else 0) ∧
      (∀ symbol, (begunSymbols events).count symbol =
        if symbol ∈ d.run.requests.map Request.symbol then 1 else 0) ∧
      (∀ q ∈ events.filterMap Event.begun?, d.env.Builds (Run.start names) events d.run q) ∧
      ∀ h ∈ d.run.helpers, DeclaresFirst h.symbol h.code ∧
        ∃ line rest, DeclaresIn h.symbol line ∧ render h.code = line ++ "\n" ++ rest := by
  obtain ⟨d, hdraft, hsource⟩ := generate_eq_ok.mp h
  obtain ⟨self, names, -, -, -, hgrows⟩ := draft_eq_ok hdraft
  obtain ⟨events, htrace, hperm, hbuilds⟩ := hgrows.exists_trace
  have hrequests : d.run.requests = events.filterMap Event.request? := htrace.requests
  have hhelpers : d.run.helpers = events.filterMap Event.finished? := htrace.helpers
  obtain ⟨hnodup, -⟩ := htrace.begun_new
  have hmem (symbol : String) : symbol ∈ d.run.requests.map Request.symbol ↔ symbol ∈ begunSymbols events := by
    have hknown := @Env.Trace.known_iff _ _ _ _ symbol htrace
    simpa [Run.Known, Run.start] using hknown
  have hbegun (symbol : String) : (begunSymbols events).count symbol =
      if symbol ∈ d.run.requests.map Request.symbol then 1 else 0 := by
    simp only [hmem, hnodup.count]
  refine ⟨d, names, events, hdraft, hsource, ?_, htrace, hrequests.symm, hhelpers.symm, ?_, hbegun, hbuilds, ?_⟩
  · rw [← hsource]
    exact d.contents_eq
  · intro symbol
    rw [← hbegun, ← hperm.count_eq, hhelpers]
    rfl
  · intro helper hhelper
    rw [hhelpers] at hhelper
    have hsymbol := hperm.subset (List.mem_map_of_mem hhelper)
    obtain ⟨q, hq, heq⟩ := List.mem_map.mp hsymbol
    obtain ⟨code, hfinished, hdeclares⟩ := (hbuilds q hq).declares
    -- There is one helper with this symbol.
    have hsame := List.inj_on_of_nodup_map (hperm.nodup_iff.mpr hnodup) hfinished hhelper heq
    rw [← hsame]
    exact ⟨hdeclares, hdeclares.exists_render_eq⟩

/-- A struct whose fields hold lists of itself, one of them inside a map. -/
def forest : Program :=
  { Program.empty with
    files := [⟨"a.thrift", "ex/a", "a"⟩]
    structs := [⟨"Node", ⟨0⟩, .struct,
      [⟨1, "children", .list (.struct ⟨0⟩), false, none, .empty⟩,
       ⟨2, "index", .map (.base .string) (.list (.struct ⟨0⟩)), false, none, .empty⟩], false, .empty⟩] }

theorem helpers_built_once_forest :
    ∃ d, forest.draft ⟨0⟩ {} = .ok d ∧ forest.generate ⟨0⟩ {} = .ok d.source ∧
      d.run.helpers.length = 9 ∧ d.run.requests.length = 13 ∧
      ∀ symbol, (d.run.helpers.map Helper.symbol).count symbol =
        if symbol ∈ d.run.requests.map Request.symbol then 1 else 0 := by
  obtain ⟨d, hd, hhelpers, hrequests⟩ : ∃ d, forest.draft ⟨0⟩ {} = .ok d ∧
      d.run.helpers.length = 9 ∧ d.run.requests.length = 13 :=
    exists_draft (by decide +kernel)
  have hgenerate : forest.generate ⟨0⟩ {} = .ok d.source := generate_eq_ok.mpr ⟨d, hd, rfl⟩
  obtain ⟨d', _, _, hd', -, -, -, -, -, honce, -⟩ := helpers_built_once hgenerate
  obtain rfl : d = d' := Except.ok.inj (hd.symm.trans hd')
  exact ⟨d, hd, hgenerate, hhelpers, hrequests, honce⟩

end Program

end GoSchema
